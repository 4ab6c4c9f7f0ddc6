import Mathlib.Data.List.Nodup
import Mathlib.Logic.Function.Basic
import Mathlib.Tactic

/-!
# Flat memories and lists of stores

A memory maps an address to a value. A kernel launch is the list of stores
its threads perform; threads are unordered, so the useful lists are those
whose addresses are distinct, and for them the order is irrelevant.
-/

set_option autoImplicit false

namespace MiniLlm.FlatMemory

variable {α : Type*}

abbrev Memory (α : Type*) := ℕ → α

def storeAll : List (ℕ × α) → Memory α → Memory α
  | [], m => m
  | w::ws, m => storeAll ws (Function.update m w.1 w.2)

def addresses (ws : List (ℕ × α)) : List ℕ := ws.map Prod.fst

theorem store_all_outside (ws : List (ℕ × α)) (m : Memory α) (a : ℕ)
    (h : a ∉ addresses ws) : storeAll ws m a = m a := by
  induction ws generalizing m with
  | nil => rfl
  | cons w ws ih =>
    simp only [addresses, List.map_cons, List.mem_cons, not_or] at h
    rw [storeAll, ih _ h.2, Function.update_of_ne h.1]

theorem store_all_stored (ws : List (ℕ × α)) (m : Memory α) (a : ℕ) (v : α)
    (hd : (addresses ws).Nodup) (h : (a,v) ∈ ws) : storeAll ws m a = v := by
  induction ws generalizing m with
  | nil => simp at h
  | cons w ws ih =>
    obtain ⟨hw,hd⟩ := List.nodup_cons.mp hd
    rcases List.mem_cons.mp h with rfl | h
    · rw [storeAll, store_all_outside ws _ a hw, Function.update_self]
    · exact ih _ hd h

theorem store_all_agreed (ws : List (ℕ × α)) (m : Memory α) (a : ℕ) (v : α)
    (h : a ∈ addresses ws) (hv : ∀ w ∈ ws, w.1 = a → w.2 = v) : storeAll ws m a = v := by
  induction ws generalizing m with
  | nil => simp [addresses] at h
  | cons w ws ih =>
    rw [storeAll]
    by_cases hlater : a ∈ addresses ws
    · exact ih _ hlater fun u hu => hv u (by simp [hu])
    · have hw : w.1 = a := by
        rcases List.mem_cons.mp h with hw | hw
        · exact hw.symm
        · exact absurd hw hlater
      rw [store_all_outside ws _ a hlater, ← hw, Function.update_self]
      exact hv w (by simp) hw

def copy (src : Memory α) (source target n : ℕ) (m : Memory α) : Memory α :=
  fun a => if target ≤ a ∧ a < target+n then src (source+(a-target)) else m a

theorem copy_inside (src m : Memory α) (source target n i : ℕ) (hi : i < n) :
    copy src source target n m (target+i) = src (source+i) := by
  simp [copy, hi]

theorem copy_outside (src m : Memory α) (source target n a : ℕ)
    (h : a < target ∨ target+n ≤ a) : copy src source target n m a = m a := by
  simp only [copy]
  rw [if_neg (by omega)]

end MiniLlm.FlatMemory

import Mathlib.Data.List.Count

/-!
# Threads at a condition variable

Where each thread stands, and the counting that keeps a sleeper from being
forgotten. `work` is what a woken thread looks for, and `closed` is a second
reason to wake up. A sleeping thread is covered while the work is matched by
notifications still to be sent and by threads that are awake but have not
looked yet.
-/

set_option autoImplicit false

namespace MiniLlm.ConditionVariable

inductive WaitPlace where
  | outside
  /-- The lock is released and `notify_one` is still to be called. -/
  | notifyOne
  /-- The lock is released and `notify_all` is still to be called. -/
  | notifyAll
  /-- In `wait`, and no notification has reached the thread. -/
  | asleep
  /-- Notified, or awake for no reason, and the predicate is not yet checked again. -/
  | woken
  deriving DecidableEq, Repr

/-- The thread will wake another one, or look for work itself. -/
def WaitPlace.pledged : WaitPlace → Bool
  | .notifyOne | .woken => true
  | .outside | .notifyAll | .asleep => false

/-- What `notify_all` does to a thread. -/
def WaitPlace.wake : WaitPlace → WaitPlace
  | .asleep => .woken
  | p => p

def Covered (work : ℕ) (closed : Bool) (threads : List WaitPlace) : Prop :=
  .asleep ∈ threads →
    work ≤ threads.countP WaitPlace.pledged ∧ (closed = true → .notifyAll ∈ threads)

theorem pledged_count (threads : List WaitPlace) :
    threads.countP WaitPlace.pledged = threads.count .notifyOne+threads.count .woken := by
  induction threads with
  | nil => rfl
  | cons p threads ih =>
    cases p <;> simp [List.countP_cons, WaitPlace.pledged, ih] <;> omega

theorem wake_not_asleep (threads : List WaitPlace) : .asleep ∉ threads.map WaitPlace.wake := by
  intro hmem
  obtain ⟨p,-,hp⟩ := List.mem_map.mp hmem
  cases p <;> cases hp

section Moves

variable {threads : List WaitPlace} {i : ℕ} {a b : WaitPlace} {work left : ℕ} {closed : Bool}

theorem pledged_set (h : threads[i]? = some a) (b : WaitPlace) :
    (threads.set i b).countP WaitPlace.pledged+a.pledged.toNat =
      threads.countP WaitPlace.pledged+b.pledged.toNat := by
  obtain ⟨hi,rfl⟩ := List.getElem?_eq_some_iff.mp h
  have hset : (threads.set i b).countP WaitPlace.pledged =
      threads.countP WaitPlace.pledged-(threads[i]).pledged.toNat+b.pledged.toNat := by
    rw [List.countP_set hi]
    cases (threads[i]).pledged <;> cases b.pledged <;> rfl
  have hpos : (threads[i]).pledged.toNat ≤ threads.countP WaitPlace.pledged := by
    cases hp : (threads[i]).pledged with
    | false => exact Nat.zero_le _
    | true => exact List.countP_pos_iff.mpr ⟨_,List.getElem_mem hi,hp⟩
  omega

theorem mem_set_ne {c : WaitPlace} (h : threads[i]? = some a) (hac : a ≠ c) (hc : c ∈ threads)
    (b : WaitPlace) : c ∈ threads.set i b := by
  obtain ⟨k,hk⟩ := List.mem_iff_getElem?.mp hc
  have hik : i ≠ k := by
    rintro rfl
    exact hac (Option.some.inj (h.symm.trans hk))
  exact List.mem_iff_getElem?.mpr ⟨k,(List.getElem?_set_ne hik).trans hk⟩

theorem covered_awake (h : .asleep ∉ threads) (work : ℕ) (closed : Bool) :
    Covered work closed threads := fun hmem => absurd hmem h

theorem covered_idle (threads : List WaitPlace) : Covered 0 false threads :=
  fun _ => ⟨Nat.zero_le _,fun h => nomatch h⟩

/-- A thread moves, and does not fall asleep. The work it leaves behind is covered when what it
gives up was worth what it took. -/
theorem covered_set (h : threads[i]? = some a) (ha : a ≠ .notifyAll) (hb : b ≠ .asleep)
    (hwork : left = 0 ∨ left+a.pledged.toNat ≤ work+b.pledged.toNat)
    (hc : Covered work closed threads) : Covered left closed (threads.set i b) := by
  intro hmem
  have hold : .asleep ∈ threads := by
    rcases List.mem_or_eq_of_mem_set hmem with hold | heq
    · exact hold
    · exact absurd heq.symm hb
  obtain ⟨hle,hall⟩ := hc hold
  have hset := pledged_set h b
  exact ⟨by omega,fun hclosed => mem_set_ne h ha (hall hclosed) b⟩

theorem covered_notify {j : ℕ} (hi : threads[i]? = some .notifyOne)
    (hj : threads[j]? = some .asleep) (hc : Covered work closed threads) :
    Covered work closed ((threads.set i .outside).set j .woken) := by
  have hij : i ≠ j := by
    rintro rfl
    cases hi.symm.trans hj
  have hwoken : Covered (work+1) closed (threads.set j .woken) :=
    covered_set hj (by decide) (by decide) (.inr (Nat.le_refl _)) hc
  have hstill : (threads.set j .woken)[i]? = some .notifyOne :=
    (List.getElem?_set_ne hij.symm).trans hi
  rw [List.set_comm _ _ hij]
  exact covered_set hstill (by decide) (by decide) (.inr (Nat.le_refl _)) hwoken

theorem covered_close (h : threads[i]? = some .outside) (hc : Covered work closed threads) :
    Covered work true (threads.set i .notifyAll) := by
  intro hmem
  have hset : Covered work closed (threads.set i .notifyAll) :=
    covered_set h (by decide) (by decide) (.inr (Nat.le_refl _)) hc
  obtain ⟨hi,-⟩ := List.getElem?_eq_some_iff.mp h
  exact ⟨(hset hmem).1,fun _ => List.mem_set hi _⟩

/-- With nothing pledged and no `notify_all` to come, a sleeper has nothing to do. -/
theorem covered_rest (hc : Covered work closed threads) (hmem : .asleep ∈ threads)
    (hpledged : ∀ p ∈ threads, p.pledged = false) (hall : .notifyAll ∉ threads) :
    work = 0 ∧ closed = false := by
  obtain ⟨hle,hclosed⟩ := hc hmem
  have hzero : threads.countP WaitPlace.pledged = 0 :=
    List.countP_eq_zero.mpr fun p hp => by simp [hpledged p hp]
  exact ⟨by omega,Bool.eq_false_iff.mpr fun h => hall (hclosed h)⟩

end Moves

end MiniLlm.ConditionVariable

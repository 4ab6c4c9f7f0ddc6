import Mathlib.Data.List.Infix
import Mathlib.Tactic

/-!
# Sequences determined by their own past

A sequence each element of which is a function of the elements before it. Two
such sequences for one function can only differ in how far they have got.
-/

set_option autoImplicit false

namespace MiniLlm

variable {β : Type*}

/-- Each element is what `f` says after the ones before it. -/
def DeterminedBy (f : List β → β) (xs : List β) : Prop :=
  ∀ (i : ℕ) x, xs[i]? = some x → x = f (xs.take i)

variable {f : List β → β} {xs ys : List β}

theorem determined_nil : DeterminedBy f [] := fun _ _ h => by simp at h

theorem DeterminedBy.append (h : DeterminedBy f xs) : DeterminedBy f (xs++[f xs]) := by
  intro i x hx
  rcases Nat.lt_trichotomy i xs.length with hi | rfl | hi
  · rw [List.getElem?_append_left hi] at hx
    rw [List.take_append_of_le_length hi.le]
    exact h i x hx
  · rw [List.getElem?_concat_length] at hx
    rw [List.take_left]
    exact (Option.some.inj hx).symm
  · rw [List.getElem?_eq_none (by simpa using hi)] at hx
    cases hx

theorem DeterminedBy.take_agree (hx : DeterminedBy f xs) (hy : DeterminedBy f ys) (n : ℕ)
    (hxs : n ≤ xs.length) (hys : n ≤ ys.length) : xs.take n = ys.take n := by
  induction n with
  | zero => rfl
  | succ n ih =>
    have hbefore := ih (Nat.le_of_succ_le hxs) (Nat.le_of_succ_le hys)
    have hxn := hx n xs[n] (List.getElem?_eq_getElem hxs)
    have hyn := hy n ys[n] (List.getElem?_eq_getElem hys)
    rw [List.take_succ_eq_append_getElem hxs, List.take_succ_eq_append_getElem hys, hbefore, hxn,
      hyn, hbefore]

/-- Of two such sequences one is a prefix of the other. -/
theorem DeterminedBy.prefix_or (hx : DeterminedBy f xs) (hy : DeterminedBy f ys) :
    xs <+: ys ∨ ys <+: xs := by
  rcases Nat.le_total xs.length ys.length with hle | hle
  · left
    have hagree := hx.take_agree hy xs.length (Nat.le_refl _) hle
    rw [List.take_length] at hagree
    exact List.prefix_iff_eq_take.mpr hagree
  · right
    have hagree := hy.take_agree hx ys.length (Nat.le_refl _) hle
    rw [List.take_length] at hagree
    exact List.prefix_iff_eq_take.mpr hagree

theorem prefix_final {final : β → Prop} (h : xs <+: ys) (hx : ∃ x ∈ xs.getLast?, final x)
    (hy : ∀ y ∈ ys.dropLast, ¬ final y) : xs = ys := by
  obtain ⟨x,hlast,hfinal⟩ := hx
  apply h.eq_of_length_le
  by_contra hshort
  have hfront : xs <+: ys.dropLast := by
    rw [List.prefix_iff_eq_take.mp h, List.dropLast_eq_take]
    exact List.take_prefix_take_left (by omega)
  exact hy x (hfront.subset (List.mem_of_getLast? hlast)) hfinal

end MiniLlm

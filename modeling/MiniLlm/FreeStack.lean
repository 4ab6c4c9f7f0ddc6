import Mathlib.Data.List.Nodup
import Mathlib.Logic.Function.Basic
import Mathlib.Tactic

/-!
# A stack of free identifiers

Identifiers below `total` are handed out from the top of a stack. The
stack, a flag for each identifier and a counter say the same thing three
times; a value of the type carries the proof that they agree, so no
operation can return one on which they differ.
-/

set_option autoImplicit false

namespace MiniLlm

structure FreeStack where
  total : ℕ
  /-- The free identifiers, the next one to be handed out first. -/
  ids : List ℕ
  isFree : ℕ → Bool
  count : ℕ
  nodup : ids.Nodup
  flagged : ∀ i, isFree i = true ↔ i ∈ ids
  counted : count = ids.length
  bounded : ∀ i ∈ ids, i < total

namespace FreeStack

def full (total : ℕ) : FreeStack where
  total := total
  ids := (List.range total).reverse
  isFree := fun i => decide (i < total)
  count := total
  nodup := List.nodup_reverse.mpr List.nodup_range
  flagged := by simp
  counted := by simp
  bounded := by simp

theorem ext_ids (f g : FreeStack) (ht : f.total = g.total) (hi : f.ids = g.ids) : f = g := by
  obtain ⟨ft,fi,ff,fc,fn,fl,fk,fb⟩ := f
  obtain ⟨gt,gi,gf,gc,gn,gl,gk,gb⟩ := g
  simp only at ht hi
  subst ht hi
  have hflags : ff = gf := by
    funext i
    exact Bool.eq_iff_iff.mpr ((fl i).trans (gl i).symm)
  subst hflags
  simp only [fk, gk]

def pop (f : FreeStack) : Option (ℕ × FreeStack) :=
  match h : f.ids with
  | [] => none
  | i::rest => some (i, {
      total := f.total
      ids := rest
      isFree := Function.update f.isFree i false
      count := f.count-1
      nodup := (List.nodup_cons.mp (h ▸ f.nodup)).2
      flagged := by
        intro j
        have hi : i ∉ rest := (List.nodup_cons.mp (h ▸ f.nodup)).1
        by_cases hj : j = i
        · subst hj
          simp [hi]
        · simp [hj, f.flagged j, h]
      counted := by rw [f.counted, h]; rfl
      bounded := fun j hj => f.bounded j (by rw [h]; exact List.mem_cons_of_mem _ hj) })

def push (f : FreeStack) (i : ℕ) (hi : i < f.total) (hf : f.isFree i = false) : FreeStack where
  total := f.total
  ids := i::f.ids
  isFree := Function.update f.isFree i true
  count := f.count+1
  nodup := List.nodup_cons.mpr ⟨by rw [← f.flagged]; simp [hf],f.nodup⟩
  flagged := by
    intro j
    by_cases hj : j = i
    · simp [hj]
    · simp [hj, f.flagged j]
  counted := by rw [f.counted]; rfl
  bounded := by
    intro j hj
    rcases List.mem_cons.mp hj with rfl | hj
    · exact hi
    · exact f.bounded j hj

theorem not_free_iff (f : FreeStack) (i : ℕ) : f.isFree i = false ↔ i ∉ f.ids := by
  rw [← f.flagged, Bool.not_eq_true]

theorem ids_length_le (f : FreeStack) : f.ids.length ≤ f.total := by
  have hsub : f.ids ⊆ List.range f.total := fun i hi => List.mem_range.mpr (f.bounded i hi)
  have hlen := (f.nodup.subperm hsub).length_le
  rwa [List.length_range] at hlen

def drop (f : FreeStack) (n : ℕ) : FreeStack where
  total := f.total
  ids := f.ids.drop n
  isFree := fun i => decide (i ∈ f.ids.drop n)
  count := f.count-n
  nodup := f.nodup.sublist (List.drop_sublist n f.ids)
  flagged := by simp
  counted := by simp [f.counted]
  bounded := fun i hi => f.bounded i (List.mem_of_mem_drop hi)

@[simp] theorem drop_total (f : FreeStack) (n : ℕ) : (f.drop n).total = f.total := rfl
@[simp] theorem drop_ids (f : FreeStack) (n : ℕ) : (f.drop n).ids = f.ids.drop n := rfl
@[simp] theorem drop_count (f : FreeStack) (n : ℕ) : (f.drop n).count = f.count-n := rfl

theorem drop_zero (f : FreeStack) : f.drop 0 = f := ext_ids _ _ rfl (by simp)

theorem drop_drop (f : FreeStack) (m n : ℕ) : (f.drop m).drop n = f.drop (m+n) :=
  ext_ids _ _ rfl (by simp)

theorem pop_cons (f : FreeStack) (i : ℕ) (rest : List ℕ) (h : f.ids = i::rest) :
    f.pop = some (i,f.drop 1) := by
  unfold pop
  split
  · simp_all
  · rename_i j tail hj
    rw [h] at hj
    obtain ⟨rfl,rfl⟩ := List.cons.inj hj
    exact congrArg some (Prod.ext rfl (ext_ids _ _ rfl (by simp [h])))

@[simp] theorem push_total (f : FreeStack) (i : ℕ) (hi : i < f.total) (hf : f.isFree i = false) :
    (f.push i hi hf).total = f.total := rfl

@[simp] theorem push_ids (f : FreeStack) (i : ℕ) (hi : i < f.total) (hf : f.isFree i = false) :
    (f.push i hi hf).ids = i::f.ids := rfl

@[simp] theorem full_total (n : ℕ) : (full n).total = n := rfl
@[simp] theorem full_ids (n : ℕ) : (full n).ids = (List.range n).reverse := rfl

end FreeStack

end MiniLlm

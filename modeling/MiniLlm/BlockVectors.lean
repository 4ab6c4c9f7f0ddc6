import MiniLlm.FreeStack

/-!
# A pool's vectors

What the block manager keeps for a pool as it is in memory: the counter, the
vector of free ids, whose back is taken first, and the flags. An index
outside a vector and a failed assert have no result. Where the vectors
represent a `FreeStack` none of this happens, and they represent one again
afterwards.
-/

set_option autoImplicit false

namespace MiniLlm

structure BlockVectors where
  total : ℤ
  free : ℤ
  ids : List ℤ
  isFree : List Bool
  deriving DecidableEq, Repr

namespace BlockVectors

def new (total : ℕ) : BlockVectors where
  total := total
  free := total
  ids := (List.range total).map fun i : ℕ => (i : ℤ)
  isFree := List.replicate total true

/-- `is_free_[id]` -/
def flag (v : BlockVectors) (id : ℤ) : Option Bool :=
  if id < 0 then none else v.isFree[id.toNat]?

/-- `id` is popped from the back, with the asserts of `allocate_one`. -/
def take (v : BlockVectors) (id : ℤ) : Option BlockVectors :=
  if (0 ≤ id ∧ id < v.total) ∧ v.flag id = some true then
    some { v with
      ids := v.ids.dropLast
      isFree := v.isFree.set id.toNat false
      free := v.free-1 }
  else none

/-- `id` is pushed on the back. -/
def give (v : BlockVectors) (id : ℤ) : BlockVectors :=
  { v with ids := v.ids++[id], isFree := v.isFree.set id.toNat true, free := v.free+1 }

structure WellFormed (v : BlockVectors) : Prop where
  nodup : v.ids.Nodup
  flagged : ∀ id, id ∈ v.ids ↔ v.flag id = some true
  counted : v.free = v.ids.length

structure Represents (v : BlockVectors) (f : FreeStack) : Prop where
  total : v.total = f.total
  free : v.free = f.count
  ids : v.ids = (f.ids.map fun i : ℕ => (i : ℤ)).reverse
  isFree : v.isFree = (List.range f.total).map f.isFree

theorem new_represents (n : ℕ) : (new n).Represents (FreeStack.full n) := by
  refine ⟨rfl,rfl,?_,?_⟩
  · simp [new, List.map_reverse]
  · refine List.ext_getElem (by simp [new]) fun i hi _ => ?_
    simp only [new, List.length_replicate] at hi
    simp [new, FreeStack.full, hi]

theorem map_range_update {γ : Type*} (f : ℕ → γ) (i : ℕ) (a : γ) (n : ℕ) :
    (List.range n).map (Function.update f i a) = ((List.range n).map f).set i a := by
  refine List.ext_getElem (by simp) fun j hj _ => ?_
  by_cases hij : i = j
  · subst hij
    simp
  · simp [hij, Function.update_of_ne (Ne.symm hij)]

section Represented

variable {v : BlockVectors} {f : FreeStack}

theorem flag_represented (h : v.Represents f) {i : ℕ} (hi : i < f.total) :
    v.flag i = some (f.isFree i) := by
  rw [flag, if_neg (by omega), h.isFree]
  simp [hi]

theorem flag_outside (h : v.Represents f) {id : ℤ} (hid : id < 0 ∨ v.total ≤ id) :
    v.flag id = none := by
  have htotal := h.total
  unfold flag
  by_cases hneg : id < 0
  · rw [if_pos hneg]
  · rw [if_neg hneg, h.isFree]
    simp
    omega

theorem flag_cases (h : v.Represents f) (id : ℤ) :
    (id < 0 ∨ v.total ≤ id) ∨
      ∃ i : ℕ, id = i ∧ i < f.total ∧ v.flag i = some (f.isFree i) := by
  have htotal := h.total
  by_cases hid : id < 0 ∨ v.total ≤ id
  · exact .inl hid
  · obtain ⟨i,rfl⟩ := Int.eq_ofNat_of_zero_le (show 0 ≤ id by omega)
    have hi : i < f.total := by omega
    exact .inr ⟨i,rfl,hi,flag_represented h hi⟩

theorem represents_well_formed (h : v.Represents f) : v.WellFormed := by
  have hinj : Function.Injective fun i : ℕ => (i : ℤ) := fun i j hij => Int.ofNat_inj.mp hij
  refine ⟨?_,fun id => ?_,?_⟩
  · rw [h.ids]
    exact List.nodup_reverse.mpr (f.nodup.map hinj)
  · rw [h.ids, List.mem_reverse, List.mem_map]
    constructor
    · rintro ⟨i,hi,rfl⟩
      rw [flag_represented h (f.bounded i hi), (f.flagged i).mpr hi]
    · intro hflag
      rcases flag_cases h id with hid | ⟨i,rfl,-,hread⟩
      · rw [flag_outside h hid] at hflag
        cases hflag
      · rw [hread, Option.some.injEq] at hflag
        exact ⟨i,(f.flagged i).mp hflag,rfl⟩
  · rw [h.free, h.ids, f.counted]
    simp

theorem back_none (h : v.Represents f) (hf : f.ids = []) : v.ids.getLast? = none := by
  simp [h.ids, hf]

theorem back_some (h : v.Represents f) {i : ℕ} {rest : List ℕ} (hf : f.ids = i::rest) :
    v.ids.getLast? = some (i : ℤ) := by
  simp [h.ids, hf]

theorem take_represented (h : v.Represents f) {i : ℕ} {rest : List ℕ} (hf : f.ids = i::rest) :
    ∃ w, v.take i = some w ∧ w.Represents (f.drop 1) := by
  have hmem : i ∈ f.ids := by simp [hf]
  have htotal := h.total
  have hi := f.bounded i hmem
  have hflag : v.flag i = some true := by rw [flag_represented h hi, (f.flagged i).mpr hmem]
  refine ⟨_,if_pos ⟨⟨by omega,by omega⟩,hflag⟩,h.total,?_,?_,?_⟩
  · have hcount := f.counted
    rw [hf, List.length_cons] at hcount
    dsimp only
    rw [h.free, FreeStack.drop_count]
    omega
  · rw [h.ids, hf, FreeStack.drop_ids, hf]
    simp
  · have hflags : (f.drop 1).isFree = Function.update f.isFree i false := by
      have hnodup := f.nodup
      rw [hf] at hnodup
      have hrest := (List.nodup_cons.mp hnodup).1
      funext j
      by_cases hj : j = i
      · subst hj
        simp [FreeStack.drop, hf, hrest]
      · rw [Function.update_of_ne hj, Bool.eq_iff_iff, f.flagged]
        simp [FreeStack.drop, hf, hj]
    rw [h.isFree, hflags, Int.toNat_natCast, FreeStack.drop_total, map_range_update]

theorem give_represented (h : v.Represents f) {i : ℕ} (hi : i < f.total)
    (hf : f.isFree i = false) : (v.give i).Represents (f.push i hi hf) := by
  refine ⟨h.total,?_,?_,?_⟩
  · rw [give, h.free]
    exact (Int.natCast_succ _).symm
  · simp [give, h.ids]
  · rw [give, h.isFree]
    exact (map_range_update f.isFree i true f.total).symm

end Represented

end BlockVectors

end MiniLlm

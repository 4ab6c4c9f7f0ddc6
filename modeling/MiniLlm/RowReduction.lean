import MiniLlm.BlockSchedules
import MiniLlm.FlashAttention

/-!
# The schedules of a row's reduction

`reduce_dhead64_sum` as its 256 threads go through it. The first lanes of
both warps of a row load the two sums of the row and store the total over the
first one, in the same interval. The order of these accesses decides whether
the row's threads get their sum, and no other row has a part in it.
-/

set_option autoImplicit false

namespace MiniLlm.FlashAttention

open BarrierInterval BlockReduction

def InBlock (t : ℕ × ℕ) : Prop := t.1 < br ∧ t.2 < gpt2DHead

instance (t : ℕ × ℕ) : Decidable (InBlock t) :=
  inferInstanceAs (Decidable (t.1 < br ∧ t.2 < gpt2DHead))

/-- `if (lane == 0) warp_sums[r][warp_id] = sum;` -/
def storeSum (t : ℕ × ℕ) : List (Access (ℕ × ℕ)) :=
  if InBlock t ∧ t.2%warpSize = 0 then [.store (t.1,t.2/warpSize)] else []

/-- `total = warp_sums[r][0] + warp_sums[r][1]; warp_sums[r][0] = total;` -/
def addSums (t : ℕ × ℕ) : List (Access (ℕ × ℕ)) :=
  if InBlock t ∧ t.2%warpSize = 0 then [.load (t.1,0),.load (t.1,1),.store (t.1,0)] else []

/-- `return warp_sums[r][0];` -/
def readSum (t : ℕ × ℕ) : List (Access (ℕ × ℕ)) :=
  if InBlock t then [.load (t.1,0)] else []

/-- How the accesses of the block interleave between the barriers. -/
structure RowSchedule where
  stores : Interleaving storeSum
  adds : Interleaving addSums
  reads : Interleaving readSum

/-- `total` of a thread that has loaded both sums. -/
noncomputable def addLoaded : List ℝ → ℝ
  | [first,second] => first+second
  | _ => 0

section Runs

variable (sched : RowSchedule) (shared : ℕ × ℕ → ℝ) (partials : ℕ → ℕ → ℝ)

noncomputable def storedSums : State (ℕ × ℕ) (ℕ × ℕ) ℝ :=
  run (fun t _ => shuffled (·+·) (partials t.1) t.2) ⟨shared,fun _ => []⟩ sched.stores.events

noncomputable def addedSums : State (ℕ × ℕ) (ℕ × ℕ) ℝ :=
  run (fun _ loaded => addLoaded loaded) ⟨(storedSums sched shared partials).shared,fun _ => []⟩
    sched.adds.events

noncomputable def returnedSum (t : ℕ × ℕ) : List ℝ :=
  (run (fun _ _ => 0) ⟨(addedSums sched shared partials).shared,fun _ => []⟩
    sched.reads.events).loaded t

/-- Neither of the two first lanes of the row stores before the other one loads. -/
def RowTogether (r : ℕ) : Prop :=
  ¬Before ((r,0),.store (r,0)) ((r,warpSize),.load (r,0)) sched.adds.events ∧
    ¬Before ((r,warpSize),.store (r,0)) ((r,0),.load (r,0)) sched.adds.events

instance (r : ℕ) : Decidable (RowTogether sched r) :=
  inferInstanceAs (Decidable (_ ∧ _))

def RowExact (r : ℕ) : Prop := ∀ (shared : ℕ × ℕ → ℝ) (partials : ℕ → ℕ → ℝ), ∀ d < gpt2DHead,
  returnedSum sched shared partials (r,d) = [∑ u ∈ Finset.range gpt2DHead, partials r u]

end Runs

section Rows

variable {sched : RowSchedule} {shared : ℕ × ℕ → ℝ} {partials : ℕ → ℕ → ℝ} {r : ℕ}

theorem two_warps : gpt2DHead = 2*warpSize := rfl

variable (sched shared partials) in
theorem stored_sums (hr : r < br) {w : ℕ} (hw : w < 2) :
    (storedSums sched shared partials).shared (r,w) = warpValue (·+·) (partials r) w := by
  have hin : w*warpSize < gpt2DHead := by
    rw [two_warps]
    exact Nat.mul_lt_mul_of_pos_right hw (by decide)
  have hown : own (r,w*warpSize) sched.stores.events = [.store (r,w)] := by
    rw [sched.stores.own_eq, storeSum, if_pos ⟨⟨hr,hin⟩,Nat.mul_mod_left ..⟩,
      Nat.mul_div_cancel _ (by decide)]
  have hother : ∀ t ≠ (r,w*warpSize), .store (r,w) ∉ own t sched.stores.events := by
    intro t ht hmem
    rw [sched.stores.own_eq, storeSum] at hmem
    split at hmem
    · rename_i hlane
      obtain ⟨hrow,hwarp⟩ : r = t.1 ∧ w = t.2/warpSize := by simpa using hmem
      apply ht
      rw [hrow, hwarp, Nat.div_mul_cancel (Nat.dvd_of_mod_eq_zero hlane.2)]
    · cases hmem
  rw [storedSums, store_alone _ hown hother, shuffled, Nat.mul_div_cancel _ (by decide),
    Nat.mul_mod_left, warpValue]

variable (sched shared partials) in
theorem row_contest (hr : r < br) : Contest (fun _ loaded => addLoaded loaded) addLoaded
    ⟨(storedSums sched shared partials).shared,fun _ => []⟩ (r,0) (r,warpSize) (r,0) (r,1)
    sched.adds.events where
  distinct := by simp [warpSize]
  cells := by simp
  first := by
    rw [sched.adds.own_eq]
    exact if_pos ⟨⟨hr,show 0 < gpt2DHead by decide⟩,show 0%warpSize = 0 by decide⟩
  second := by
    rw [sched.adds.own_eq]
    exact if_pos ⟨⟨hr,show warpSize < gpt2DHead by decide⟩,show warpSize%warpSize = 0 by decide⟩
  others := by
    rintro ⟨row,d⟩ hmem
    rw [← mem_own, sched.adds.own_eq, addSums] at hmem
    split at hmem
    · rename_i hlane
      obtain ⟨⟨-,hd⟩,hmod⟩ := hlane
      have hrow : r = row := by simpa using hmem
      simp only [two_warps, warpSize] at hd hmod
      simp only [Prod.mk.injEq, hrow, true_and, warpSize]
      omega
    · cases hmem
  fixed := by
    rintro ⟨row,d⟩ hmem
    rw [← mem_own, sched.adds.own_eq, addSums] at hmem
    split at hmem
    · simp at hmem
    · cases hmem
  loaded := ⟨rfl,rfl⟩
  outs := ⟨rfl,rfl⟩

theorem added_sums (hr : r < br) : (addedSums sched shared partials).shared (r,0) =
    if RowTogether sched r then
      warpValue (·+·) (partials r) 0+warpValue (·+·) (partials r) 1
    else warpValue (·+·) (partials r) 0+warpValue (·+·) (partials r) 1+
      warpValue (·+·) (partials r) 1 := by
  have hcontest := row_contest sched shared partials hr
  have hfirst := stored_sums sched shared partials hr (show 0 < 2 by decide)
  have hsecond := stored_sums sched shared partials hr (show 1 < 2 by decide)
  by_cases h : RowTogether sched r
  · rw [if_pos h, addedSums, hcontest.together h.1 h.2, ← hfirst, ← hsecond]
    rfl
  · rw [if_neg h, addedSums, ← hfirst, ← hsecond]
    by_cases hb : Before ((r,warpSize),.store (r,0)) ((r,0),.load (r,0)) sched.adds.events
    · rw [hcontest.apart hb]
      rfl
    · have ha : Before ((r,0),.store (r,0)) ((r,warpSize),.load (r,0)) sched.adds.events := by
        by_contra ha
        exact h ⟨ha,hb⟩
      rw [hcontest.symm.apart ha]
      rfl

theorem returned_sum (hr : r < br) {d : ℕ} (hd : d < gpt2DHead) :
    returnedSum sched shared partials (r,d) =
      [(addedSums sched shared partials).shared (r,0)] := by
  have hown : own (r,d) sched.reads.events = [.load (r,0)] := by
    rw [sched.reads.own_eq]
    exact if_pos ⟨hr,hd⟩
  have hstores (t : ℕ × ℕ) : (t,Access.store (r,0)) ∉ sched.reads.events := by
    rw [← mem_own, sched.reads.own_eq, readSum]
    split <;> simp
  obtain ⟨u,v,hevents,-,-,hloaded⟩ := load_alone
    (s := ⟨(addedSums sched shared partials).shared,fun _ => []⟩) (fun _ _ => (0 : ℝ)) hown
    fun c => List.not_mem_nil
  rw [returnedSum, hloaded, shared_keeps _ fun t ht => hstores t (by simp [hevents, ht])]
  rfl

theorem row_sum (partials : ℕ → ℝ) : ∑ u ∈ Finset.range gpt2DHead, partials u =
    warpValue (·+·) partials 0+warpValue (·+·) partials 1 := by
  rw [two_warps, ← sum_warps, Finset.sum_range_succ, Finset.sum_range_one, warp_value_sum,
    warp_value_sum]

theorem row_exact_iff (hr : r < br) : RowExact sched r ↔ RowTogether sched r := by
  constructor
  · intro h
    by_contra hapart
    -- the second warp's half is one
    have hone := h (fun _ => 0) (fun _ d => if d = warpSize then 1 else 0) 0 (by decide)
    rw [returned_sum hr (by decide), added_sums hr, if_neg hapart, row_sum, List.singleton_inj,
      add_eq_left, warp_value_sum] at hone
    simp [warpSize] at hone
  · intro h shared partials d hd
    rw [returned_sum hr hd, added_sums hr, if_pos h, row_sum]

end Rows

/-- The reductions are exact in the schedules in which the loads are early, and in no others. -/
theorem reductions_exact_iff (sumWarps maxWarps : ℕ) (sumAgain maxAgain : Bool)
    (sums : BlockSchedule ((sumWarps+1)*warpSize) sumAgain)
    (maxima : BlockSchedule ((maxWarps+1)*warpSize) maxAgain) (rows : RowSchedule) :
    (ReturnsSum sums ∧ ReturnsMax maxima ∧ ∀ r < br, RowExact rows r) ↔
      PromptLoads sums ∧ PromptLoads maxima ∧ ∀ r < br, RowTogether rows r := by
  rw [returns_sum_iff, returns_max_iff]
  constructor
  · exact fun h => ⟨h.1,h.2.1,fun r hr => (row_exact_iff hr).mp (h.2.2 r hr)⟩
  · exact fun h => ⟨h.1,h.2.1,fun r hr => (row_exact_iff hr).mpr (h.2.2 r hr)⟩

section InTurn

def threadsInTurn : List (ℕ × ℕ) := List.range br ×ˢ List.range gpt2DHead

theorem in_block_iff (t : ℕ × ℕ) : t ∈ threadsInTurn ↔ InBlock t := by
  obtain ⟨r,d⟩ := t
  simp [threadsInTurn, InBlock]

def interleaveInTurn (progs : ℕ × ℕ → List (Access (ℕ × ℕ)))
    (h : ∀ t, ¬InBlock t → progs t = []) : Interleaving progs where
  events := inTurn threadsInTurn progs
  own_eq := own_in_turn _ _ (List.nodup_range.product List.nodup_range) fun t ht =>
    h t fun hin => ht ((in_block_iff t).mpr hin)

def rowsInTurn : RowSchedule where
  stores := interleaveInTurn storeSum fun t ht => by simp [storeSum, ht]
  adds := interleaveInTurn addSums fun t ht => by simp [addSums, ht]
  reads := interleaveInTurn readSum fun t ht => by simp [readSum, ht]

theorem in_turn_apart : ¬RowTogether rowsInTurn 0 := by decide +kernel

/-- The second warp's half of the row is counted twice: 2 for a sum of 1. -/
theorem in_turn_counts_twice :
    returnedSum rowsInTurn (fun _ => 0) (fun _ d => if d = warpSize then 1 else 0) (0,0) ≠
      [∑ u ∈ Finset.range gpt2DHead, if u = warpSize then (1 : ℝ) else 0] := by
  rw [returned_sum (by decide) (by decide), added_sums (by decide), if_neg in_turn_apart, row_sum,
    ne_eq, List.singleton_inj, add_eq_left, warp_value_sum]
  simp [warpSize]

theorem own_part (f : List (Access (ℕ × ℕ)) → List (Access (ℕ × ℕ))) (hf : f [] = [])
    (t : ℕ × ℕ) : own t (inTurn threadsInTurn fun t => f (addSums t)) = f (addSums t) := by
  refine own_in_turn _ (fun t => f (addSums t)) (List.nodup_range.product List.nodup_range)
    (fun t ht => ?_) t
  have hout : ¬InBlock t := fun h => ht ((in_block_iff t).mpr h)
  rw [addSums, if_neg fun h => hout h.1, hf]

def addsTogether : Interleaving addSums where
  events := inTurn threadsInTurn (fun t => (addSums t).take 2)++
    inTurn threadsInTurn (fun t => (addSums t).drop 2)
  own_eq := fun t => by
    rw [own_append, own_part (List.take 2) rfl, own_part (List.drop 2) rfl,
      List.take_append_drop]

def rowsTogether : RowSchedule := { rowsInTurn with adds := addsTogether }

theorem rows_together (r : ℕ) : RowTogether rowsTogether r := by
  have hlate (t u c : ℕ × ℕ) :
      ¬Before (t,.store c) (u,.load c) rowsTogether.adds.events := by
    apply not_before_append
    · rw [← mem_own, own_part (List.take 2) rfl, addSums]
      split <;> simp
    · rw [← mem_own, own_part (List.drop 2) rfl, addSums]
      split <;> simp
  exact ⟨hlate _ _ _,hlate _ _ _⟩

end InTurn

end MiniLlm.FlashAttention

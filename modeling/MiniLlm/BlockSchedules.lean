import MiniLlm.BarrierInterval
import MiniLlm.BlockReduction

/-!
# The schedules of a block-wide reduction

`block_reduce_sum` and `block_reduce_max` have two barriers, and every thread
loads the result after the second one. Where a barrier or the end of the
kernel follows, each schedule gives every thread the reduction. `layernorm`
calls `block_reduce_sum` twice in a row, and there the first store of the
second call may come before a load of the first result.
-/

set_option autoImplicit false

namespace MiniLlm.BlockReduction

open BarrierInterval

/-- `if (lane == 0) shared[warp_id] = val;` -/
def storeWarp (blockDim t : ℕ) : List (Access ℕ) :=
  if t < blockDim ∧ t%warpSize = 0 then [.store (t/warpSize)] else []

def combineWarps (blockDim t : ℕ) : List (Access ℕ) :=
  if t = 0 then (List.range (numWarps blockDim)).map .load++[.store 0] else []

/-- `return shared[0]`, and the store of a second call, where it follows without a barrier. -/
def readResult (blockDim : ℕ) (again : Bool) (t : ℕ) : List (Access ℕ) :=
  if t < blockDim then .load 0::(if again then storeWarp blockDim t else []) else []

/-- How the accesses of a call interleave between its barriers. -/
structure BlockSchedule (blockDim : ℕ) (again : Bool) where
  stores : Interleaving (storeWarp blockDim)
  combines : Interleaving (combineWarps blockDim)
  reads : Interleaving (readResult blockDim again)
  /-- The shuffles of the second call wait for all lanes of the warp. -/
  lockstep : ∀ t < blockDim,
    ¬Before (t/warpSize*warpSize,.store (t/warpSize)) (t,.load 0) reads.events

section Runs

variable {M : Type*} (op : M → M → M) (fold : List M → M) {blockDim : ℕ} {again : Bool}
  (sched : BlockSchedule blockDim again) (shared val next : ℕ → M)

/-- `val` of a thread after the shuffles. -/
def shuffled (t : ℕ) : M :=
  warpReduce op (fun lane => val (t/warpSize*warpSize+lane)) (t%warpSize)

def stored : State ℕ ℕ M :=
  run (fun t _ => shuffled op val t) ⟨shared,fun _ => []⟩ sched.stores.events

def combined : State ℕ ℕ M :=
  run (fun _ loaded => fold loaded) ⟨(stored op sched shared val).shared,fun _ => []⟩
    sched.combines.events

/-- What the threads load as the result; `next` is reduced by a second call. -/
def returned (t : ℕ) : List M :=
  (run (fun t _ => shuffled op next t) ⟨(combined op fold sched shared val).shared,fun _ => []⟩
    sched.reads.events).loaded t

end Runs

/-- `total`, from zero. -/
def sumLoaded {M : Type*} [Add M] [Zero M] (loaded : List M) : M := loaded.foldl (·+·) 0

/-- `max_val`, from `shared[0]`. -/
def maxLoaded {M : Type*} [Max M] [Zero M] : List M → M
  | [] => 0
  | first::rest => rest.foldl max first

section Loaded

variable {M : Type*} {op : M → M → M} {fold : List M → M} {warps : ℕ} {again : Bool}
  {sched : BlockSchedule (warps*warpSize) again} {shared val next : ℕ → M}

theorem num_warps (warps : ℕ) : numWarps (warps*warpSize) = warps := by
  unfold numWarps warpSize
  omega

theorem stored_shared {w : ℕ} (hw : w < warps) :
    (stored op sched shared val).shared w = warpValue op val w := by
  have hfirst : w*warpSize < warps*warpSize := Nat.mul_lt_mul_of_pos_right hw (by decide)
  have hown : own (w*warpSize) sched.stores.events = [.store w] := by
    rw [sched.stores.own_eq, storeWarp, if_pos ⟨hfirst,Nat.mul_mod_left ..⟩,
      Nat.mul_div_cancel _ (by decide)]
  have hother : ∀ t ≠ w*warpSize, .store w ∉ own t sched.stores.events := by
    intro t ht hmem
    rw [sched.stores.own_eq, storeWarp] at hmem
    split at hmem
    · rename_i hlane
      have hwarp : t/warpSize = w := by simpa using (List.mem_singleton.mp hmem).symm
      unfold warpSize at *
      omega
    · cases hmem
  rw [stored, store_alone _ hown hother, shuffled, Nat.mul_div_cancel _ (by decide),
    Nat.mul_mod_left, warpValue]

theorem combined_shared :
    (combined op fold sched shared val).shared 0 =
      fold ((List.range warps).map (warpValue op val)) := by
  have hown : own 0 sched.combines.events = (List.range warps).map .load++[.store 0] := by
    rw [sched.combines.own_eq, combineWarps, if_pos rfl, num_warps]
  have hother : ∀ t ≠ 0, own t sched.combines.events = [] := by
    intro t ht
    rw [sched.combines.own_eq, combineWarps, if_neg ht]
  rw [combined, gather_alone _ hown hother, List.nil_append]
  congr 1
  exact List.map_congr_left fun w hw => stored_shared (List.mem_range.mp hw)

theorem overwrites {t : ℕ} (h : (t,.store 0) ∈ sched.reads.events) : again = true ∧ t = 0 := by
  rw [← mem_own, sched.reads.own_eq, readResult] at h
  split at h
  · cases again with
    | false => simp at h
    | true =>
      simp only [if_true, storeWarp, List.mem_cons, reduceCtorEq, false_or] at h
      split at h
      · rename_i hlane
        have hwarp : t/warpSize = 0 := by simpa using (List.mem_singleton.mp h).symm
        refine ⟨rfl,?_⟩
        unfold warpSize at *
        omega
      · cases h
  · cases h

theorem returned_eq {t : ℕ} (ht : t < warps*warpSize) :
    returned op fold sched shared val next t =
      [if Before (0,.store 0) (t,.load 0) sched.reads.events then warpValue op next 0
        else fold ((List.range warps).map (warpValue op val))] := by
  have hown : own t sched.reads.events =
      .load 0::(if again then storeWarp (warps*warpSize) t else []) := by
    rw [sched.reads.own_eq, readResult, if_pos ht]
  have hrest : ∀ c, .load c ∉ (if again then storeWarp (warps*warpSize) t else []) := by
    intro c hmem
    unfold storeWarp at hmem
    split at hmem
    · split at hmem
      · simp at hmem
      · cases hmem
    · cases hmem
  obtain ⟨u,v,hevents,hu,hv,hloaded⟩ := load_alone
    (s := ⟨(combined op fold sched shared val).shared,fun _ => []⟩)
    (fun t _ => shuffled op next t) hown hrest
  rw [returned, hloaded, List.nil_append]
  congr 1
  have hafter : (t,Access.load 0) ∉ v := by
    rw [← mem_own, hv]
    exact hrest 0
  have hbefore := before_split (e := (0,.store 0)) (by simp) (own_nil hu (.load 0)) hafter
  rw [← hevents] at hbefore
  by_cases h : Before (0,.store 0) (t,.load 0) sched.reads.events
  · rw [if_pos h]
    have hmem := hbefore.mp h
    refine stores_write _ ⟨0,hmem⟩ fun p t' q hp => ?_
    obtain ⟨-,rfl⟩ := overwrites (show (t',.store 0) ∈ sched.reads.events by simp [hevents, hp])
    rfl
  · have hcombined : (combined op fold sched shared val).shared 0 =
        fold ((List.range warps).map (warpValue op val)) := combined_shared
    rw [if_neg h, ← hcombined]
    refine shared_keeps _ fun t' hmem => ?_
    obtain ⟨-,rfl⟩ := overwrites (show (t',.store 0) ∈ sched.reads.events by simp [hevents, hmem])
    exact h (hbefore.mpr hmem)

end Loaded

section Exact

variable {warps : ℕ} {again : Bool} (sched : BlockSchedule (warps*warpSize) again)

/-- `block_reduce_sum` gives every thread the sum, whatever the values and the memory are, and
whatever a second call reduces. -/
def ReturnsSum : Prop := ∀ (shared val next : ℕ → ℝ), ∀ t < warps*warpSize,
  returned (·+·) sumLoaded sched shared val next t = [∑ u ∈ Finset.range (warps*warpSize), val u]

def ReturnsMax : Prop := ∀ (shared val next : ℕ → ℝ), ∀ t < warps*warpSize,
  ∃ m, returned max maxLoaded sched shared val next t = [m] ∧
    IsGreatest {x | ∃ u < warps*warpSize, x = val u} m

/-- Where a second call follows, its first store comes after the loads of the result in the
other warps. -/
def PromptLoads : Prop := again = true → ∀ t, warpSize ≤ t → t < warps*warpSize →
  ¬Before (0,.store 0) (t,.load 0) sched.reads.events

variable {sched}

theorem first_warp_loads {t : ℕ} (ht : t < warps*warpSize) (hwarp : t < warpSize) :
    ¬Before (0,.store 0) (t,.load 0) sched.reads.events := by
  have hlock := sched.lockstep t ht
  rwa [Nat.div_eq_of_lt hwarp, Nat.zero_mul] at hlock

theorem prompt_loads (h : PromptLoads sched) {t : ℕ} (ht : t < warps*warpSize) :
    ¬Before (0,.store 0) (t,.load 0) sched.reads.events := by
  intro hbefore
  by_cases hwarp : t < warpSize
  · exact first_warp_loads ht hwarp hbefore
  · have hmem : (0,Access.store 0) ∈ sched.reads.events := hbefore.subset List.mem_cons_self
    exact h (overwrites hmem).1 t (Nat.le_of_not_lt hwarp) ht hbefore

theorem sum_loaded_warps (val : ℕ → ℝ) :
    sumLoaded ((List.range warps).map (warpValue (·+·) val)) =
      ∑ u ∈ Finset.range (warps*warpSize), val u := by
  rw [← block_reduce_sum_eq, blockReduceSum, num_warps, sumLoaded, List.foldl_map]

theorem max_loaded_warps (val : ℕ → ℝ) :
    maxLoaded ((List.range (warps+1)).map (warpValue max val)) =
      blockReduceMax ((warps+1)*warpSize) val := by
  rw [blockReduceMax, num_warps, List.range_succ_eq_map, List.map_cons, maxLoaded, List.map_map,
    List.foldl_map]
  rfl

theorem returns_sum_iff {sched : BlockSchedule ((warps+1)*warpSize) again} :
    ReturnsSum sched ↔ PromptLoads sched := by
  constructor
  · intro h _ t _ ht hbefore
    -- a second call with another sum
    have hzero := h (fun _ => 0) (fun _ => 0) (fun _ => 1) t ht
    rw [returned_eq ht, if_pos hbefore, warp_value_sum] at hzero
    simp [warpSize] at hzero
  · intro h shared val next t ht
    rw [returned_eq ht, if_neg (prompt_loads h ht), sum_loaded_warps]

theorem returns_max_iff {sched : BlockSchedule ((warps+1)*warpSize) again} :
    ReturnsMax sched ↔ PromptLoads sched := by
  constructor
  · intro h _ t _ ht hbefore
    obtain ⟨m,hm,⟨u,_,hzero⟩,_⟩ := h (fun _ => 0) (fun _ => 0) (fun _ => 1) t ht
    rw [returned_eq ht, if_pos hbefore, warp_value_eq, List.singleton_inj] at hm
    obtain ⟨i,_,hone⟩ := range_fold_max_mem (fun _ => (1 : ℝ)) 31
    exact one_ne_zero (hone.symm.trans (hm.trans hzero))
  · intro h shared val next t ht
    obtain ⟨hbound,u,hu,hattained⟩ := block_reduce_max_eq (warps+1) val (Nat.succ_pos _)
    refine ⟨_,by rw [returned_eq ht, if_neg (prompt_loads h ht), max_loaded_warps],
      ⟨u,hu,hattained⟩,?_⟩
    rintro x ⟨tid,htid,rfl⟩
    exact hbound tid htid

end Exact

section Bounds

variable {blockDim : ℕ} {again : Bool}

theorem store_warp_cell (h : blockDim ≤ 1024) (t : ℕ) :
    ∀ a ∈ storeWarp blockDim t, a.cell < 32 := by
  intro a ha
  unfold storeWarp at ha
  split at ha
  · rename_i hlane
    rw [List.mem_singleton.mp ha]
    simp only [Access.cell, warpSize]
    omega
  · cases ha

/-- `shared[32]` is large enough for blocks of 1024 threads. -/
theorem cells_in_shared (h : blockDim ≤ 1024) (sched : BlockSchedule blockDim again) :
    ∀ e ∈ sched.stores.events++sched.combines.events++sched.reads.events, e.2.cell < 32 := by
  rintro ⟨t,a⟩ he
  rw [List.mem_append, List.mem_append, ← mem_own, ← mem_own, ← mem_own, sched.stores.own_eq,
    sched.combines.own_eq, sched.reads.own_eq] at he
  rcases he with (hstore | hcombine) | hread
  · exact store_warp_cell h t a hstore
  · unfold combineWarps numWarps at hcombine
    by_cases ht : t = 0
    · rw [if_pos ht, List.mem_append, List.mem_map, List.mem_singleton] at hcombine
      rcases hcombine with ⟨w,hw,rfl⟩ | rfl
      · rw [List.mem_range] at hw
        simp only [Access.cell]
        omega
      · simp [Access.cell]
    · rw [if_neg ht] at hcombine
      cases hcombine
  · unfold readResult at hread
    by_cases ht : t < blockDim
    · rw [if_pos ht] at hread
      rcases List.mem_cons.mp hread with rfl | hread
      · simp [Access.cell]
      · cases again with
        | false => cases hread
        | true => exact store_warp_cell h t a hread
    · rw [if_neg ht] at hread
      cases hread

end Bounds

section Schedules

variable (blockDim : ℕ) (again : Bool)

def storesInTurn : Interleaving (storeWarp blockDim) where
  events := inTurn (List.range blockDim) (storeWarp blockDim)
  own_eq := own_in_turn _ _ List.nodup_range fun t ht => by
    rw [List.mem_range] at ht
    simp [storeWarp, ht]

def combinesInTurn : Interleaving (combineWarps blockDim) where
  events := inTurn [0] (combineWarps blockDim)
  own_eq := own_in_turn _ _ (List.nodup_singleton 0) fun t ht => by
    rw [List.mem_singleton] at ht
    simp [combineWarps, ht]

def loads (first last : ℕ) : List (ℕ × Access ℕ) :=
  inTurn ((List.range last).filter (first ≤ ·)) fun t =>
    if first ≤ t ∧ t < last then [.load 0] else []

def storesFrom (first : ℕ) : List (ℕ × Access ℕ) :=
  inTurn ((List.range blockDim).filter (first ≤ ·)) fun t =>
    if first ≤ t then storeWarp blockDim t else []

theorem own_loads (first last t : ℕ) :
    own t (loads first last) = if first ≤ t ∧ t < last then [.load 0] else [] := by
  refine own_in_turn _ _ (List.nodup_range.filter _) (fun t ht => if_neg fun h => ht ?_) t
  simpa [and_comm] using h

theorem own_stores_from (first t : ℕ) :
    own t (storesFrom blockDim first) = if first ≤ t then storeWarp blockDim t else [] := by
  refine own_in_turn _ _ (List.nodup_range.filter _) (fun t ht => ?_) t
  by_cases hfirst : first ≤ t
  · have hlast : ¬t < blockDim := fun h => ht (by simpa [hfirst] using h)
    simp [storeWarp, hlast]
  · exact if_neg hfirst

def readsFirst : Interleaving (readResult blockDim again) where
  events := loads 0 blockDim++(if again then storesFrom blockDim 0 else [])
  own_eq := fun t => by
    rw [own_append, own_loads, readResult]
    cases again with
    | false => by_cases ht : t < blockDim <;> simp [ht]
    | true => by_cases ht : t < blockDim <;> simp [ht, own_stores_from, storeWarp]

theorem reads_first_before (u t c : ℕ) :
    ¬Before (u,.store c) (t,.load 0) (readsFirst blockDim again).events := by
  apply not_before_append
  · rw [← mem_own, own_loads]
    split <;> simp
  · rw [← mem_own]
    cases again with
    | false => simp
    | true =>
      rw [if_pos rfl, own_stores_from, if_pos (Nat.zero_le t), storeWarp]
      split <;> simp

def loadsFirst : BlockSchedule blockDim again where
  stores := storesInTurn blockDim
  combines := combinesInTurn blockDim
  reads := readsFirst blockDim again
  lockstep := fun t _ => reads_first_before blockDim again _ t _

theorem loads_first_prompt (warps : ℕ) : PromptLoads (loadsFirst (warps*warpSize) again) :=
  fun _ t _ _ => reads_first_before _ again 0 t 0

variable {blockDim} (h : warpSize < blockDim)

def readsLate : Interleaving (readResult blockDim true) where
  events := loads 0 warpSize++(0,.store 0)::(loads warpSize blockDim++storesFrom blockDim warpSize)
  own_eq := fun t => by
    rw [own_append, own_cons, own_append, own_loads, own_loads, own_stores_from, readResult]
    by_cases ht : warpSize ≤ t
    · have hzero : 0 ≠ t := by unfold warpSize at ht; omega
      by_cases hlast : t < blockDim <;> simp [ht, hlast, hzero, Nat.not_lt.mpr ht, storeWarp]
    · have hlt : t < warpSize := Nat.lt_of_not_le ht
      have hin : t < blockDim := hlt.trans h
      have hwarp : t/warpSize = 0 ∧ t%warpSize = t := ⟨Nat.div_eq_of_lt hlt,Nat.mod_eq_of_lt hlt⟩
      by_cases hzero : 0 = t
      · subst hzero
        simp [ht, hlt, hin, storeWarp]
      · simp [ht, hlt, hin, hzero, storeWarp, hwarp, Ne.symm hzero]

def loadsLate : BlockSchedule blockDim true where
  stores := storesInTurn blockDim
  combines := combinesInTurn blockDim
  reads := readsLate h
  lockstep := fun t ht => by
    by_cases hwarp : warpSize ≤ t
    · have hevents : (readsLate h).events = (loads 0 warpSize++(0,.store 0)::
          loads warpSize blockDim)++storesFrom blockDim warpSize := by simp [readsLate]
      have hlane : t/warpSize*warpSize ≠ 0 := by unfold warpSize at *; omega
      rw [hevents]
      apply not_before_append
      · rw [← mem_own, own_append, own_cons, own_loads, own_loads, if_neg hlane.symm]
        split <;> split <;> simp
      · rw [← mem_own, own_stores_from, storeWarp]
        split
        · split <;> simp
        · simp
    · have hfirst : t/warpSize = 0 := Nat.div_eq_of_lt (Nat.lt_of_not_le hwarp)
      have hzero : ¬warpSize ≤ 0 := by decide
      rw [hfirst, Nat.zero_mul]
      apply not_before_append
      · rw [← mem_own, own_loads]
        split <;> simp
      · rw [← mem_own, own_cons, own_append, own_loads, own_stores_from]
        by_cases ht : 0 = t <;> simp [hwarp, ht]

end Schedules

/-- A second call in a block of more than one warp. -/
theorem second_call_overtakes (warps : ℕ) (h : warpSize < (warps+2)*warpSize) :
    ¬ReturnsSum (loadsLate h) := by
  rw [returns_sum_iff]
  intro hprompt
  apply hprompt rfl warpSize (le_refl _) h
  have hload : (warpSize,Access.load 0) ∈ loads warpSize ((warps+2)*warpSize) := by
    rw [← mem_own, own_loads, if_pos ⟨le_refl _,h⟩]
    exact List.mem_cons_self
  refine List.Sublist.trans ?_ (List.sublist_append_right _ _)
  exact (List.singleton_sublist.mpr (List.mem_append_left _ hload)).cons_cons _

end MiniLlm.BlockReduction

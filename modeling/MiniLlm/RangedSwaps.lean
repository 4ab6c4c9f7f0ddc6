import MiniLlm.SchedulerInvariant
import MiniLlm.SwapHistory

/-!
# Runs whose swap-outs take ranges

A swap-in whose CPU blocks are not one range stores past the end of its
vector. As long as every swap-out finds a range on top of the CPU stack no
store goes astray; once one has, the mark stays.
-/

set_option autoImplicit false

namespace MiniLlm

open RealKvAllocator Scheduler

variable {α A B : Type*}

section Steps

variable {mayOut : A → Request → Prop} {kv : KvAllocator A} {be : InferenceBackend B}
  {allowed : Request → Response → Prop} {admissible : (Request → Prop) → Request → Prop}
  {s t : Scheduler A B}

inductive AllocatorStep (mayOut : A → Request → Prop) (kv : KvAllocator A) (a : A) : A → Prop
  | same : AllocatorStep mayOut kv a a
  | allocatePrefill (r : Request) : AllocatorStep mayOut kv a (kv.allocatePrefill a r).alloc
  | allocateDecode (r : Request) : AllocatorStep mayOut kv a (kv.allocateDecode a r).alloc
  | freeRequest (r : Request) : AllocatorStep mayOut kv a (kv.freeRequest a r).1
  | swapIn (r : Request) : AllocatorStep mayOut kv a (kv.swapIn a r).alloc
  | swapOut (r : Request) (h : mayOut a r) : AllocatorStep mayOut kv a (kv.swapOut a r).alloc

theorem respond_allocator (mayOut : A → Request → Prop)
    (cache : Request → PagedKVCache → PagedKVCache) (ready : Place) (answer : Option Response)
    (req : Request) (s : Scheduler A B) : AllocatorStep mayOut kv s.kvAllocator
      (s.respond kv cache ready answer req).kvAllocator := by
  unfold respond
  dsimp only
  split
  · exact .freeRequest _
  · exact .same

theorem step_allocator (h : StepUnder mayOut kv be allowed admissible s t) :
    AllocatorStep mayOut kv s.kvAllocator t.kvAllocator := by
  have hpopped {q : Place} {req : Request} {t : Scheduler A B} {a : A}
      (hp : s.popFront q = some (req,t)) (h : AllocatorStep mayOut kv t.kvAllocator a) :
      AllocatorStep mayOut kv s.kvAllocator a := (pop_front_frame hp).1 ▸ h
  cases h with
  | submit | callDecode | callPrefill => exact .same
  | enqueue t req hp | retryDecode t req hp | flush t req hp | startPrefill t req hp =>
    exact hpopped hp .same
  | admitWaiting t req hp =>
    apply hpopped hp
    unfold admitWaitingTurn
    dsimp only
    split <;> exact .allocatePrefill req
  | retryPrefill t req hp =>
    apply hpopped hp
    unfold retryPrefillTurn
    dsimp only
    split <;> exact .allocatePrefill req
  | swapIn t req hp =>
    apply hpopped hp
    unfold swapInTurn
    dsimp only
    split <;> exact .swapIn req
  | admitDecode t req hp =>
    apply hpopped hp
    unfold admitDecodeTurn
    dsimp only
    split <;> exact .allocateDecode req
  | respondDecode t req answer hp => exact hpopped hp (respond_allocator mayOut _ _ answer req t)
  | respondPrefill t req answer hp => exact hpopped hp (respond_allocator mayOut _ _ answer req t)
  | victim before after req _ _ _ _ hout =>
    unfold swapOutVictim
    dsimp only
    split <;> exact .swapOut req hout
  | control _ h => exact h.kvAllocator ▸ .same

end Steps

section Marks

variable {a a' : RealKvAllocator α} {r : Request}

theorem allocate_mark (need : ℕ) :
    (a.allocateLayers r need).alloc.device = a.device ∧
      (a.allocateLayers r need).alloc.swappedRequests = a.swappedRequests := by
  rcases allocate_layers_cases a r need with ⟨_,h⟩ | ⟨bm,_,h⟩ <;> rw [h] <;> exact ⟨rfl,rfl⟩

theorem swap_out_mark : (a.swapOut r).alloc.device.faulted = a.device.faulted := by
  have hcase := swap_out_case a r
  generalize a.swapOut r = out at hcase
  cases hcase with
  | refused => rfl
  | undone d bm hd => exact hd.faulted
  | done => rfl

/-- A store that has gone astray is not forgotten. -/
theorem mark_stays {mayOut : RealKvAllocator α → Request → Prop}
    (h : AllocatorStep mayOut (realKvAllocator α) a a') (hm : a.device.faulted = true) :
    a'.device.faulted = true := by
  cases h with
  | same => exact hm
  | allocatePrefill r | allocateDecode r =>
    exact (congrArg Device.faulted (allocate_mark _).1).trans hm
  | freeRequest r => exact hm
  | swapIn r => exact swap_in_keeps_mark hm
  | swapOut r => exact swap_out_mark.trans hm

end Marks

/-- No store has gone astray, and every entry is one range of CPU blocks. -/
structure Ranged (a : RealKvAllocator α) : Prop where
  unmarked : a.device.faulted = false
  entries : ∀ id swapped, a.swappedRequests.lookup id = some swapped → Consecutive swapped.ids

section Ranges

variable {a a' : RealKvAllocator α} {r : Request}

theorem Ranged.same (h : Ranged a) (hm : a'.device.faulted = a.device.faulted)
    (he : a'.swappedRequests = a.swappedRequests) : Ranged a' :=
  ⟨hm.trans h.unmarked,fun id swapped hl => h.entries id swapped (he ▸ hl)⟩

theorem Ranged.swap_out (h : Ranged a) (htop : TopIsRange a r) : Ranged (a.swapOut r).alloc := by
  refine ⟨swap_out_mark.trans h.unmarked,fun id swapped hl => ?_⟩
  have hcase := swap_out_case a r
  generalize a.swapOut r = out at hcase hl
  cases hcase with
  | refused => exact h.entries id swapped hl
  | undone => exact h.entries id swapped hl
  | done _ hn =>
    by_cases hid : id = r.requestId
    · subst hid
      obtain rfl := Option.some.inj ((AList.lookup_insert _).symm.trans hl)
      rw [SwappedRequest.ids, entry_ids a r hn]
      exact htop hn
    · exact h.entries id swapped ((AList.lookup_insert_ne hid).symm.trans hl)

theorem Ranged.swap_in (h : Ranged a) (hnodup : (recordedIds a.swappedRequests).Nodup) :
    Ranged (a.swapIn r).alloc := by
  refine ⟨?_,fun id swapped hl => ?_⟩
  · rw [← Bool.not_eq_true]
    intro hmarked
    rcases swap_in_marked hmarked with hold | ⟨swapped,hl,hready,_⟩
    · exact absurd (h.unmarked.symm.trans hold) Bool.false_ne_true
    · have hids := (recorded_erase _ _ swapped hl).nodup_iff.mp hnodup
      rcases (swap_in_faulted_iff hl hready (List.nodup_append'.mp hids).1).mp hmarked with
        hold | hover
      · exact absurd (h.unmarked.symm.trans hold) Bool.false_ne_true
      · have hinside := consecutive_no_overrun hready.size (h.entries _ swapped hl)
        exact absurd (hinside.symm.trans hover) Bool.false_ne_true
  · have hcase := swap_in_case a r
    generalize a.swapIn r = out at hcase hl
    cases hcase with
    | refused => exact h.entries id swapped hl
    | undone => exact h.entries id swapped hl
    | done other bm =>
      have hid : id ≠ r.requestId := by
        rintro rfl
        exact absurd ((AList.lookup_erase _ _).symm.trans hl) (by simp)
      exact h.entries id swapped ((AList.lookup_erase_ne hid).symm.trans hl)

/-- One call keeps the ranges, when the swap-outs take ranges. -/
theorem allocator_step_ranged (hs : AllocatorStep TopIsRange (realKvAllocator α) a a')
    (h : Ranged a) (hnodup : (recordedIds a.swappedRequests).Nodup) : Ranged a' := by
  cases hs with
  | same => exact h
  | allocatePrefill r | allocateDecode r =>
    exact h.same (congrArg Device.faulted (allocate_mark _).1) (allocate_mark _).2
  | freeRequest r => exact h.same rfl rfl
  | swapIn r => exact h.swap_in hnodup
  | swapOut r htop => exact h.swap_out htop

end Ranges

section Runs

variable {mayOut : RealKvAllocator α → Request → Prop} {be : InferenceBackend B}
  {allowed : Request → Response → Prop} {admissible : (Request → Prop) → Request → Prop}
  {device : Device α} {b : B} {async : Bool} {start s t : Scheduler (RealKvAllocator α) B}

theorem VisitedUnder.visited {A : Type*} {mayOut : A → Request → Prop} {kv : KvAllocator A}
    {start s : Scheduler A B} (h : VisitedUnder mayOut kv be allowed admissible start s) :
    Visited kv be allowed admissible start s := by
  induction h with
  | refl => exact .refl
  | tail _ hstep ih =>
    exact ih.tail (step_under_widen hstep (fun _ _ _ => trivial) fun _ _ => id)

theorem started_ranged (device : Device α) : Ranged (RealKvAllocator.new device) := by
  refine ⟨?_,fun id swapped hl => ?_⟩
  · unfold RealKvAllocator.new initSwapInBuffers
    dsimp only
    split
    · rfl
    · split <;> rfl
  · rw [(new_allocator device).2] at hl
    cases hl

def VisitedRanged (be : InferenceBackend B) (device : Device α) (b : B) (async : Bool) :
    Scheduler (RealKvAllocator α) B → Prop :=
  VisitedUnder TopIsRange (realKvAllocator α) be Anything NewRequest (startedReal device b async)

def ReachedRanged (be : InferenceBackend B) (device : Device α) (b : B) (async : Bool) :
    Control → Scheduler (RealKvAllocator α) B → Prop :=
  ReachedWhere (SwapsOutOnly (realKvAllocator α) be TopIsRange) (realKvAllocator α) be NewRequest
    (startedReal device b async)

theorem reached_ranged {c : Control} (h : ReachedRanged be device b async c s) :
    s.Settled ∧ VisitedRanged be device b async s :=
  reached_visited_under (answers_anything be) (started_settled _ b async) (fun _ => id) h

/-- In a run whose swap-outs all take ranges no store ever goes astray. -/
theorem visited_ranged (h : VisitedRanged be device b async s) : Ranged s.kvAllocator := by
  induction h with
  | refl => exact started_ranged device
  | tail hbefore hstep ih =>
    have hcustody := visited_custody (VisitedUnder.visited hbefore)
    have hnodup := hcustody.cpu.nodup_iff.mpr List.nodup_range
    exact allocator_step_ranged (step_allocator hstep) ih (List.nodup_append'.mp hnodup).2.1

theorem steps_mark (h : Steps (realKvAllocator α) be allowed admissible s t)
    (hm : s.kvAllocator.device.faulted = true) : t.kvAllocator.device.faulted = true := by
  induction h with
  | refl => exact hm
  | tail _ hstep ih => exact mark_stays (step_allocator hstep) ih

end Runs

section Calls

variable {be : InferenceBackend B}

theorem swaps_out_only_busy {mayOut : A → Request → Prop} {kv : KvAllocator A}
    {s : Scheduler A B} (hsettled : s.Settled) (h : (s.runPhases kv be).1 = true) :
    s.SwapsOutOnly kv be mayOut := fun _ _ hcall =>
  absurd (h.symm.trans (swap_out_call_deferred hsettled hcall).1) (by decide)

/-- The upper end of a CPU stack from which nothing has been taken is one range. -/
theorem untouched_top {a : RealKvAllocator α} {total : ℕ}
    (h : a.blockManager.cpu.ids = (List.range total).reverse) (r : Request) : TopIsRange a r := by
  intro hn
  rw [h, List.length_reverse, List.length_range] at hn
  refine ⟨total-neededCpuBlocks r,?_⟩
  have htaken : a.cpuTaken r =
      (List.range' (total-neededCpuBlocks r) (neededCpuBlocks r)).reverse := by
    rw [cpuTaken, h, List.take_reverse, List.length_range, List.range_eq_range',
      List.drop_range', Nat.zero_add, Nat.mul_one, Nat.sub_sub_self hn]
  rw [htaken, List.length_reverse, List.length_range']
  exact List.reverse_perm _

theorem swaps_out_only_untouched {s : Scheduler (RealKvAllocator α) B} {total : ℕ}
    (hsettled : s.Settled)
    (h : (s.runPhases (realKvAllocator α) be).2.kvAllocator.blockManager.cpu.ids =
      (List.range total).reverse) : s.SwapsOutOnly (realKvAllocator α) be TopIsRange := by
  intro t victim hcall
  obtain ⟨_,htaken⟩ := swap_out_call_deferred hsettled hcall
  generalize (s.runPhases (realKvAllocator α) be).2 = u at h htaken
  obtain ⟨before,after,_,rfl⟩ := htaken
  exact untouched_top h victim

end Calls

section Overrun

/-- The three CUDA calls after the two of the constructor fail. -/
def balkyDevice : Device ℤ :=
  ⟨fun _ => 0,fun _ => 0,fun _ => 0,[],fun i => decide (i < 2 ∨ 5 ≤ i),0,false⟩

/-- Eight prompts of 341 blocks a layer, all of whole blocks. -/
def eightRequests : List Request :=
  [(1,480),(2,464),(3,480),(4,32),(5,1008),(6,1008),(7,992),(8,992)].map
    fun x => Request.new x.1 (List.replicate x.2 0) 8

/-- The eight prompts after `n` bodies: served in the first, the first three swapped out in
vain in the next three, the fourth swapped out in the fifth and back in in the sixth. -/
def eightRun : ℕ → Scheduler (RealKvAllocator ℤ) Unit
  | 0 => eightRequests.foldl submitRequest (startedReal balkyDevice () true)
  | n+1 => (eightRun n).workerLoopBody (realKvAllocator ℤ) mockBackend

set_option maxRecDepth 100000 in
theorem eight_runs : (∀ n < 6, (eightRun n).running = true ∧
    (eightRun (n+1)).noInternalWork = false) ∧
    (eightRun 6).kvAllocator.device.faulted = true := by
  decide +kernel

theorem eight_submitted_reached : Reached (realKvAllocator ℤ) mockBackend NewRequest
    (startedReal balkyDevice () true) .top (eightRun 0) := by
  apply submit_all_reached _ _ .start
  · intro r hr
    obtain ⟨_,_,rfl⟩ := List.mem_map.mp hr
    exact ⟨_,_,_,rfl⟩
  · exact fun _ _ _ hnew => hnew
  · decide +kernel
  · exact fun r _ q ⟨_,hq⟩ => absurd hq List.not_mem_nil

/-- The failed swap-outs turn the CPU stack over, so the fourth entry is no range. -/
theorem eight_overrun : Reached (realKvAllocator ℤ) mockBackend NewRequest
      (startedReal balkyDevice () true) .top (eightRun 6) ∧
    (eightRun 6).kvAllocator.device.faulted = true := by
  obtain ⟨hruns,hmark⟩ := eight_runs
  have hreached (n : ℕ) (hn : n ≤ 6) : Reached (realKvAllocator ℤ) mockBackend NewRequest
      (startedReal balkyDevice () true) .top (eightRun n) := by
    induction n with
    | zero => exact eight_submitted_reached
    | succ n ih =>
      obtain ⟨hrunning,hwork⟩ := hruns n hn
      exact .body (eightRun n) (ih (by omega)) hrunning trivial hwork
  exact ⟨hreached 6 le_rfl,hmark⟩

end Overrun

section OneSwap

/-- The same prompts with the short one first, and every CUDA call succeeds: the short one is
swapped out in the second body and back in in the third. -/
def calmRun : ℕ → Scheduler (RealKvAllocator ℤ) Unit
  | 0 => (eightRequests.rotate 3).foldl submitRequest (startedReal freshDevice () true)
  | n+1 => (calmRun n).workerLoopBody (realKvAllocator ℤ) mockBackend

set_option maxRecDepth 100000 in
theorem calm_runs : (∀ n < 3, (calmRun n).running = true ∧
      (calmRun (n+1)).noInternalWork = false) ∧
    ((calmRun 0).runPhases (realKvAllocator ℤ) mockBackend).1 = true ∧
    ((calmRun 1).runPhases (realKvAllocator ℤ) mockBackend).2.kvAllocator.blockManager.cpu.ids =
      (List.range defaultTotalCpuBlocks).reverse ∧
    ((calmRun 2).runPhases (realKvAllocator ℤ) mockBackend).1 = true ∧
    ((calmRun 2).queues .swapOut).map Request.requestId = [4] ∧
    ((calmRun 3).queues .swapOut).map Request.requestId = [] := by
  decide +kernel

/-- The run meets the condition, in its second body with a swap-out. -/
theorem calm_reached (n : ℕ) (hn : n ≤ 3) :
    ReachedRanged mockBackend freshDevice () true .top (calmRun n) := by
  obtain ⟨hruns,hfirst,hsecond,hthird,_⟩ := calm_runs
  induction n with
  | zero =>
    apply submit_all_reached _ _ .start
    · intro r hr
      obtain ⟨_,_,rfl⟩ := List.mem_map.mp (List.mem_rotate.mp hr)
      exact ⟨_,_,_,rfl⟩
    · exact fun _ _ _ hnew => hnew
    · decide +kernel
    · exact fun r _ q ⟨_,hq⟩ => absurd hq List.not_mem_nil
  | succ n ih =>
    have hbefore := ih (by omega)
    obtain ⟨hrunning,hwork⟩ := hruns n hn
    obtain ⟨hsettled,_⟩ := reached_ranged hbefore
    refine .body (calmRun n) hbefore hrunning ?_ hwork
    have hcases : n = 0 ∨ n = 1 ∨ n = 2 := by omega
    rcases hcases with rfl | rfl | rfl
    · exact swaps_out_only_busy hsettled hfirst
    · exact swaps_out_only_untouched hsettled hsecond
    · exact swaps_out_only_busy hsettled hthird

end OneSwap

end MiniLlm

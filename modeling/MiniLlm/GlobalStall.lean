import MiniLlm.SwapCycle

/-!
# The stall at a swap-out

The worker loop takes a victim only after a pass without progress. Every need
for blocks is a multiple of the number of layers, so a pass without progress
that leaves a deferred request behind leaves fewer free blocks than layers,
and with so few nothing that waits can be granted, whether the pass asked for
it or not.
-/

set_option autoImplicit false

namespace MiniLlm

open RealKvAllocator Scheduler

variable {α A B : Type*}

/-- Nothing that the scheduler could do for a request needs fewer blocks than are free. -/
structure GlobalStall (t : Scheduler (RealKvAllocator α) B) (victim : Request) : Prop where
  decode : t.queues .decode = []
  prefill : t.queues .prefill = []
  resident : ∀ p, ∀ r ∈ t.queues p, r.kvResidency = .gpu → p = .deferredDecode
  free : t.kvAllocator.blockManager.gpu.count < gpt2NLayers
  victim : (t.kvAllocator.allocateDecode victim).ok = false
  deferredDecode : ∀ r ∈ t.queues .deferredDecode, (t.kvAllocator.allocateDecode r).ok = false
  waitingPrefill : ∀ r ∈ t.queues .waitingPrefill, (t.kvAllocator.allocatePrefill r).ok = false
  deferredPrefill : ∀ r ∈ t.queues .deferredPrefill, (t.kvAllocator.allocatePrefill r).ok = false
  swapOut : ∀ r ∈ t.queues .swapOut, (t.kvAllocator.swapIn r).ok = false

/-- A request is deferred only while fewer blocks are free than there are layers. -/
def Stalled (t : Scheduler (RealKvAllocator α) B) : Prop :=
  t.queues .deferredDecode = [] ∨ t.kvAllocator.blockManager.gpu.ids.length < gpt2NLayers

section Quiet

variable {be : InferenceBackend B} {s t u : Scheduler (RealKvAllocator α) B} {r : Request}

theorem Stalled.same (h : Stalled s) (hq : t.queues .deferredDecode = s.queues .deferredDecode)
    (ha : t.kvAllocator.blockManager.gpu.ids.length =
      s.kvAllocator.blockManager.gpu.ids.length) : Stalled t := by
  unfold Stalled
  rw [hq, ha]
  exact h

theorem allocate_refused_room (a : RealKvAllocator α) (need : ℕ)
    (h : (a.allocateLayers r need).ok = false) :
    a.allocateLayers r need = ⟨false,a,r⟩ ∧ a.blockManager.gpu.ids.length < need*gpt2NLayers := by
  rcases allocate_layers_cases a r need with ⟨hroom,hout⟩ | ⟨_,_,hout⟩
  · exact ⟨hout,hroom⟩
  · rw [hout] at h
    cases h

theorem decode_refused_room (a : RealKvAllocator α) (h : (a.allocateDecode r).ok = false) :
    (a.allocateDecode r).alloc = a ∧ a.blockManager.gpu.ids.length < gpt2NLayers := by
  obtain ⟨hout,hroom⟩ := allocate_refused_room a (decodeNeed r.layer0.numTokens) h
  refine ⟨congrArg Outcome.alloc hout,hroom.trans_le ?_⟩
  have hone : decodeNeed r.layer0.numTokens ≤ 1 := by
    unfold decodeNeed
    split <;> decide
  exact (Nat.mul_le_mul_right _ hone).trans_eq (Nat.one_mul _)

theorem swap_in_refused_room (a : RealKvAllocator α) (h : (a.swapIn r).ok = false) :
    (a.swapIn r).alloc.blockManager.gpu.ids.length = a.blockManager.gpu.ids.length := by
  have hcase := swap_in_case a r
  generalize a.swapIn r = out at hcase h
  cases hcase with
  | refused => rfl
  | undone _ _ _ _ _ _ hg => exact hg.length_eq
  | done => cases h

theorem admit_decode_stalled (n : ℕ) (h : Stalled s)
    (hbatch : (s.admitDecodeLoop (realKvAllocator α) n).2.queues .decodeBatch = []) :
    Stalled (s.admitDecodeLoop (realKvAllocator α) n).2 := by
  suffices hloop : (s.admitDecodeLoop (realKvAllocator α) n).2.queues .decodeBatch ≠ [] ∨
      Stalled (s.admitDecodeLoop (realKvAllocator α) n).2 from hloop.resolve_left (by simp [hbatch])
  apply admit_decode_keeps fun t => t.queues .decodeBatch ≠ [] ∨ Stalled t
  · intro req t u ht hpop
    have hold := pop_front_other hpop .decodeBatch (by decide)
    unfold admitDecodeTurn
    dsimp only
    split
    · left
      rw [push_back_queues, if_pos rfl]
      exact List.append_ne_nil_of_right_ne_nil _ (List.cons_ne_nil _ _)
    · rename_i hrefused
      obtain ⟨hsame,hroom⟩ := decode_refused_room u.kvAllocator (Bool.not_eq_true _ ▸ hrefused)
      right
      right
      show ((u.kvAllocator.allocateDecode req).alloc).blockManager.gpu.ids.length < _
      rw [hsame]
      exact hroom
  · exact .inr h

theorem notify_stalled (h : Stalled s) : Stalled s.notify :=
  h.same (notify_queues s _) (by rw [(notify_same s).kvAllocator])

theorem run_decode_stalled (h : Stalled s)
    (hquiet : (s.runDecodeBatch (realKvAllocator α) be).1 = false) :
    Stalled (s.runDecodeBatch (realKvAllocator α) be).2 := by
  have hrounds := decode_rounds_quiet (realKvAllocator α) be Stalled
    (fun n t ht hbatch => admit_decode_stalled n ht hbatch) _ _ { s with hasResp := false } hquiet
    (h.same rfl rfl)
  have hflush (t : Scheduler (RealKvAllocator α) B) (ht : Stalled t) :
      Stalled t.flushNextDecode := by
    apply for_front_keeps Stalled
    · intro req u v hu hpop
      have hold := pop_front_other hpop .deferredDecode (by decide)
      refine hu.same ?_ ?_
      · rw [push_back_queues, if_neg (by decide), hold]
      · rw [push_back_allocator, (pop_front_frame hpop).1]
    · exact ht
  exact notify_stalled (hflush _ hrounds)

theorem retry_swap_in_stalled (h : Stalled s)
    (hquiet : (s.retrySwapInRequests (realKvAllocator α)).1 = false) :
    Stalled (s.retrySwapInRequests (realKvAllocator α)).2 := by
  apply for_front_quiet Stalled
  · intro req t u ht hpop hturn
    have hold := pop_front_other hpop .deferredDecode (by decide)
    have hsame := (pop_front_frame hpop).1
    unfold swapInTurn at hturn ⊢
    dsimp only at hturn ⊢
    split at hturn
    · exact absurd rfl hturn
    · rename_i hrefused
      rw [if_neg hrefused]
      refine ht.same ?_ ?_
      · rw [push_back_queues, if_neg (by decide), with_allocator_queues, hold]
      · rw [← hsame]
        exact swap_in_refused_room u.kvAllocator (Bool.not_eq_true _ ▸ hrefused)
  · exact hquiet
  · exact h

theorem prefill_refused_stalled {q : Place} (ht : Stalled s) (hpop : s.popFront q = some (r,t))
    (hq : q ≠ .deferredDecode) (state : Request → Request)
    (hrefused : ¬((realKvAllocator α).allocatePrefill t.kvAllocator r).ok = true) :
    Stalled ((t.withAllocator ((realKvAllocator α).allocatePrefill t.kvAllocator r).alloc).pushBack
      .deferredPrefill (state ((realKvAllocator α).allocatePrefill t.kvAllocator r).req)) := by
  have hsame := (pop_front_frame hpop).1
  refine ht.same ?_ ?_
  · rw [push_back_queues, if_neg (by decide), with_allocator_queues,
      pop_front_other hpop _ (Ne.symm hq)]
  · obtain ⟨hout,_⟩ := allocate_refused_room t.kvAllocator (prefillNeed r.promptsLen)
      (Bool.not_eq_true _ ▸ hrefused)
    show (t.kvAllocator.allocateLayers r
      (prefillNeed r.promptsLen)).alloc.blockManager.gpu.ids.length = _
    rw [hout, hsame]

theorem retry_prefill_stalled (h : Stalled s)
    (hquiet : (s.retryDeferredPrefill (realKvAllocator α)).1 = false) :
    Stalled (s.retryDeferredPrefill (realKvAllocator α)).2 := by
  apply for_front_quiet Stalled
  · intro req t u ht hpop hturn
    unfold retryPrefillTurn at hturn ⊢
    dsimp only at hturn ⊢
    split at hturn
    · exact absurd rfl hturn
    · rename_i hrefused
      rw [if_neg hrefused]
      exact prefill_refused_stalled ht hpop (by decide) id hrefused
  · exact hquiet
  · exact h

theorem admit_waiting_stalled (h : Stalled s)
    (hquiet : (s.admitWaitingPrefill (realKvAllocator α)).1 = false) :
    Stalled (s.admitWaitingPrefill (realKvAllocator α)).2 := by
  apply for_front_quiet Stalled
  · intro req t u ht hpop hturn
    unfold admitWaitingTurn at hturn ⊢
    dsimp only at hturn ⊢
    split at hturn
    · exact absurd rfl hturn
    · rename_i hrefused
      rw [if_neg hrefused]
      exact prefill_refused_stalled ht hpop (by decide) (·.withState .deferredPrefillKV) hrefused
  · exact hquiet
  · exact h

theorem run_prefill_stalled (h : Stalled s)
    (hquiet : (s.runPrefillBatch (realKvAllocator α) be).1 = false) :
    Stalled (s.runPrefillBatch (realKvAllocator α) be).2 := by
  unfold runPrefillBatch at hquiet ⊢
  dsimp only at hquiet ⊢
  rw [prefill_rounds_quiet _ _ _ _ hquiet]
  exact notify_stalled (h.same rfl rfl)

/-- A pass without progress ends stalled: it has put every deferred request back first. -/
theorem run_phases_stalled (hquiet : (s.runPhases (realKvAllocator α) be).1 = false) :
    Stalled (s.runPhases (realKvAllocator α) be).2 := by
  unfold runPhases at hquiet ⊢
  refine then_run_quiet (P := Stalled) ?_ (fun t ht => retry_swap_in_stalled ht) hquiet
  refine then_run_quiet (P := Stalled) ?_ fun t ht => run_prefill_stalled ht
  refine then_run_quiet (P := Stalled) ?_ fun t ht => admit_waiting_stalled ht
  refine then_run_quiet (P := Stalled) ?_ fun t ht => retry_prefill_stalled ht
  refine then_run_quiet (P := Stalled) ?_ fun t ht => retry_swap_in_stalled ht
  refine then_run_quiet (P := Stalled) ?_ fun t ht => run_decode_stalled ht
  exact fun _ => .inl (retry_deferred_decode_empties _)

end Quiet

section Calls

variable {be : InferenceBackend B} {s t u : Scheduler (RealKvAllocator α) B} {victim : Request}

theorem TakenFrom.held {q : Place} (h : TakenFrom (realKvAllocator α) q s t victim) (p : Place)
    {r : Request} (hr : r ∈ t.queues p) : r ∈ s.queues p := by
  obtain ⟨before,after,hv,rfl⟩ := h
  obtain ⟨hq,_,_⟩ := find_victim_some _ _ _ _ _ hv
  rw [set_queue_queues] at hr
  split at hr
  · rename_i hp
    rw [hp, hq]
    rcases List.mem_append.mp hr with hr | hr
    · exact List.mem_append_left _ hr
    · exact List.mem_append_right _ (List.mem_cons_of_mem _ hr)
  · exact hr

theorem resident_deferred (hsound : Sound s) (hsettled : s.Settled) (hd : s.queues .decode = [])
    {p : Place} {r : Request} (hr : r ∈ s.queues p) (hgpu : r.kvResidency = .gpu) :
    p = .deferredDecode := by
  have hplaced := hsound.placed hr
  have hpatient := (hsound.waiting hsettled hd).patient p r hr
  cases p with
  | deferredDecode => rfl
  | request | waitingPrefill | deferredPrefill =>
    rw [hplaced.2.1.residency] at hgpu
    cases hgpu
  | decode => exact absurd (hd ▸ hr) List.not_mem_nil
  | swapOut =>
    obtain ⟨_,_,_,hshape,_⟩ := hplaced
    rw [hshape.residency] at hgpu
    cases hgpu
  | finish =>
    rw [hplaced.1.residency] at hgpu
    cases hgpu
  | cancel => exact hplaced.elim
  | prefill | prefillBatch | decodeBatch | nextDecode => exact hpatient.elim

theorem stalled_global (hsound : Sound s) (hsettled : s.Settled) (hd : s.queues .decode = [])
    (hstalled : Stalled s) (h : TakenFrom (realKvAllocator α) .deferredDecode s t victim) :
    GlobalStall t victim := by
  have hheld := fun p r => h.held (r := r) p
  have hwaiting := hsound.waiting hsettled hd
  obtain ⟨before,after,hv,rfl⟩ := h
  obtain ⟨hq,_,_⟩ := find_victim_some _ _ _ _ _ hv
  have hvictim : victim ∈ s.queues .deferredDecode :=
    hq ▸ List.mem_append_right _ List.mem_cons_self
  have hroom := hstalled.resolve_left (List.ne_nil_of_mem hvictim)
  have hfew : Exhausted s.kvAllocator :=
    ⟨hroom,fun id swapped hl => (hsound.entries id swapped hl).1⟩
  have hprompt (r : Request) (hr : 0 < r.promptsLen) :
      (s.kvAllocator.allocatePrefill r).ok = false := congrArg Outcome.ok (hfew.prefill hr)
  have hdecode (r : Request) (hr : r ∈ s.queues .deferredDecode) :
      (s.kvAllocator.allocateDecode r).ok = false :=
    congrArg Outcome.ok (hfew.decode (hwaiting.patient _ r hr))
  refine ⟨?_,?_,?_,?_,hdecode victim hvictim,?_,?_,?_,?_⟩
  · exact List.eq_nil_iff_forall_not_mem.mpr fun r hr => by
      have hmem := hheld _ r hr
      rw [hd] at hmem
      exact List.not_mem_nil hmem
  · exact List.eq_nil_iff_forall_not_mem.mpr fun r hr => by
      have hmem := hheld _ r hr
      rw [hsettled.prefill] at hmem
      exact List.not_mem_nil hmem
  · exact fun p r hr hgpu => resident_deferred hsound hsettled hd (hheld p r hr) hgpu
  · exact (FreeStack.counted _).trans_lt hroom
  · exact fun r hr => hdecode r (hheld _ r hr)
  · exact fun r hr => hprompt r (hwaiting.patient _ r (hheld _ r hr))
  · exact fun r hr => hprompt r (hwaiting.patient _ r (hheld _ r hr))
  · exact fun r _ => congrArg Outcome.ok hfew.swapIn

/-- Whenever the worker loop swaps a request out, nothing that waits could be granted. -/
theorem swap_out_on_stall {device : Device α} (hcuda : ∀ i, device.cuda i = true) {b : B}
    {async : Bool} {s t : Scheduler (RealKvAllocator α) B} {victim : Request}
    (h : Reached (realKvAllocator α) be PromptedRequest (startedReal device b async) .top s)
    (hcall : SwapOutCall (realKvAllocator α) be s t victim) : GlobalStall t victim := by
  obtain ⟨hsettled,hsound,_⟩ := reached_body_sound hcuda h
  obtain ⟨hquiet,htaken⟩ := swap_out_call_deferred hsettled hcall
  exact stalled_global hsound (s.run_phases_settled (realKvAllocator α) be hsettled)
    (run_phases_quiet (realKvAllocator α) be s hsettled hquiet) (run_phases_stalled hquiet) htaken

theorem swaps_out_calls (hsettled : s.Settled) (h : s.SwapsOutVictim (realKvAllocator α) be) :
    ∃ t victim, SwapOutCall (realKvAllocator α) be s t victim := by
  obtain ⟨hquiet,hwork,hvictim⟩ := h
  have hd := run_phases_quiet (realKvAllocator α) be s hsettled hquiet
  rw [try_swap_out_first _ hd] at hvictim
  unfold tryFrom at hvictim
  split at hvictim
  · cases hvictim
  · rename_i before victim after hv
    exact ⟨_,victim,.deferred hquiet hwork ⟨before,after,hv,rfl⟩⟩

end Calls

/-- Six prompts fill the pool, and the pass after their prefill takes a victim. -/
theorem six_served_stall : ∃ t victim,
    SwapOutCall (realKvAllocator ℤ) mockBackend sixServed t victim ∧ GlobalStall t victim := by
  obtain ⟨hsettled,_⟩ := reached_visited (answers_anything mockBackend)
    (started_settled _ () true) six_served_reached
  obtain ⟨t,victim,hcall⟩ := swaps_out_calls hsettled six_served_victim.1
  exact ⟨t,victim,hcall,swap_out_on_stall (fun _ => rfl) six_served_reached hcall⟩

end MiniLlm

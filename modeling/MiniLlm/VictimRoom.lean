import MiniLlm.Starvation
import MiniLlm.QuietPhases

/-!
# Who gets the room a victim makes

The blocks of a victim are free until the next body of the worker loop looks
at the swapped-out requests, which it does before anything else. The body
answers somebody exactly when the swap-ins leave a block for each layer.
-/

set_option autoImplicit false

namespace MiniLlm

open RealKvAllocator Scheduler

variable {α A B : Type*}

section Responses

variable {kv : KvAllocator A} {be : InferenceBackend B} {allowed : Request → Response → Prop}
  {admissible : (Request → Prop) → Request → Prop} {s t : Scheduler A B}

theorem respond_grows (cache : Request → PagedKVCache → PagedKVCache) (ready : Place)
    (answer : Option Response) (r : Request) (s : Scheduler A B) :
    (s.respond kv cache ready answer r).responses =
      s.responses++[pushedResponse cache answer r] := by
  unfold respond
  dsimp only
  split <;> rfl

theorem serve_decode_responds (s : Scheduler A B) (h : s.queues .decodeBatch ≠ []) :
    s.responses.length < (s.serveDecode kv be).responses.length := by
  obtain ⟨r,rest,hq⟩ := List.exists_cons_of_ne_nil h
  have hbatch : (s.callDecode be).2.queues .decodeBatch = r::rest := hq
  unfold serveDecode
  rw [hq, List.length_cons, respondLoop, pop_front_cons _ .decodeBatch r rest hbatch]
  dsimp only
  apply respond_loop_keeps fun t => s.responses.length < t.responses.length
  · intro answer req t u ht hp
    rw [(pop_front_some hp).2] at *
    rw [respondDecode, respond_grows, List.length_append]
    exact Nat.lt_add_right _ ht
  · rw [respondDecode, respond_grows, List.length_append]
    exact Nat.lt_succ_self _

end Responses

section FirstServed

variable {be : InferenceBackend B} {s : Scheduler (RealKvAllocator α) B}

theorem admit_decode_first (remaining : ℕ) (hr : 0 < remaining) (hd : s.queues .decode ≠ [])
    (hb : s.queues .decodeBatch = [])
    (hroom : gpt2NLayers ≤ s.kvAllocator.blockManager.gpu.ids.length) :
    (s.admitDecodeLoop (realKvAllocator α) remaining).2.queues .decodeBatch ≠ [] := by
  obtain ⟨remaining,rfl⟩ := Nat.exists_eq_succ_of_ne_zero hr.ne'
  obtain ⟨r,rest,hq⟩ := List.exists_cons_of_ne_nil hd
  unfold admitDecodeLoop
  rw [hb, if_neg (by decide), pop_front_cons s .decode r rest hq]
  dsimp only
  apply admit_decode_keeps fun t => t.queues .decodeBatch ≠ []
  · intro req t u ht hp
    have hsame : u.queues .decodeBatch = t.queues .decodeBatch :=
      pop_front_other hp _ (by decide)
    unfold admitDecodeTurn
    dsimp only
    split
    · rw [push_back_queues, if_pos rfl]
      simp
    · rwa [push_back_queues, if_neg (by decide), with_allocator_queues, hsame]
  · have hok : ((realKvAllocator α).allocateDecode s.kvAllocator r).ok = true := by
      apply (allocate_ok_iff s.kvAllocator r _).mpr
      have hone : decodeNeed r.layer0.numTokens ≤ 1 := by
        unfold decodeNeed
        split <;> decide
      exact (Nat.mul_le_mul_right _ hone).trans (by rwa [Nat.one_mul])
    unfold admitDecodeTurn
    dsimp only
    rw [if_pos (by exact hok), push_back_queues, if_pos rfl]
    simp

theorem run_decode_responds (be : InferenceBackend B) (hd : s.queues .decode ≠ [])
    (hb : s.queues .decodeBatch = [])
    (hroom : gpt2NLayers ≤ s.kvAllocator.blockManager.gpu.ids.length) :
    s.responses.length < (s.runDecodeBatch (realKvAllocator α) be).2.responses.length := by
  have hsteps {t u : Scheduler (RealKvAllocator α) B}
      (h : Steps (realKvAllocator α) be Anything NewRequest t u) :
      s.responses.length < t.responses.length → s.responses.length < u.responses.length :=
    fun ht => ht.trans_le (steps_responses h).length_le
  have hloop (n : ℕ) (t : Scheduler (RealKvAllocator α) B) :
      Steps (realKvAllocator α) be Anything NewRequest t
        (t.admitDecodeLoop (realKvAllocator α) n).2 :=
    admit_decode_keeps (Steps _ be Anything NewRequest t) _
      (fun req u v hu hp => hu.tail (.admitDecode u v req hp)) n t .refl
  have hflush (t : Scheduler (RealKvAllocator α) B) :
      Steps (realKvAllocator α) be Anything NewRequest t t.flushNextDecode.notify :=
    control_steps (for_front_run _ _ .flush _ t) (notify_same _)
  have hlength := List.length_pos_of_ne_nil hd
  obtain ⟨turns,hturns⟩ := Nat.exists_eq_succ_of_ne_zero hlength.ne'
  have hfirst := admit_decode_first (s := { s with hasResp := false }) turns.succ
    (Nat.succ_pos turns) hd hb hroom
  unfold runDecodeBatch
  dsimp only
  apply hsteps (hflush _)
  rw [hturns, decodeRounds, if_neg (Nat.succ_ne_zero turns)]
  dsimp only
  rw [if_neg hfirst]
  apply decode_rounds_keeps _ be fun t => s.responses.length < t.responses.length
  · exact fun n t ht => hsteps (hloop n t) ht
  · exact fun t ht => hsteps (serve_decode_steps (answers_anything be) t) ht
  · have hbefore := (steps_responses (hloop turns.succ { s with hasResp := false })).length_le
    exact hbefore.trans_lt (serve_decode_responds _ hfirst)

end FirstServed

structure Prompted (p : Place) (r : Request) : Prop where
  prompt : 0 < r.promptsLen
  lower : r.promptsLen+answered p ≤ r.tokens.length

def PromptedRequest (holds : Request → Prop) (req : Request) : Prop :=
  NewRequest holds req ∧ req.tokens ≠ []

theorem submit_prompted {holds : Request → Prop} {req : Request} (h : PromptedRequest holds req) :
    Prompted .request req := by
  obtain ⟨⟨⟨reqId,t,maxTokens,rfl⟩,_⟩,hne⟩ := h
  exact ⟨List.length_pos_of_ne_nil hne,Nat.le_refl _⟩

theorem move_prompted {kv : KvAllocator A} {allowed : Request → Response → Prop} {a a' : A}
    {p q : Place} {r r' : Request} {resps : List Response} (h : p = .finish ∨ Prompted p r)
    (m : Move kv allowed a p r a' q r' resps) : q = .finish ∨ Prompted q r' := by
  rcases h with rfl | h
  · cases m with
    | prefillGranted _ _ hp => simp at hp
    | served _ _ _ _ _ hp => cases hp
    | closed _ _ _ _ _ hp => cases hp
  · rcases move_text m with hq | ⟨ht,hq⟩ | ⟨cache,answer,hp,_,_,_,rfl⟩
    · exact .inl hq
    · refine .inr ⟨ht.promptsLen ▸ h.prompt,?_⟩
      rw [ht.promptsLen, ht.tokens]
      exact (Nat.add_le_add_left hq _).trans h.lower
    · refine .inr ⟨h.prompt,?_⟩
      have hq : answered q = 1 := by cases hp <;> rfl
      rw [hq]
      show r.promptsLen+1 ≤ (r.tokens++[_]).length
      rw [List.length_append]
      exact Nat.add_le_add_right ((Nat.le_add_right _ _).trans h.lower) 1

structure Sound (s : Scheduler (RealKvAllocator α) B) : Prop where
  custody : Custody defaultTotalKvBlocks defaultTotalCpuBlocks s.board
  buffers : SwapInBuffers s.kvAllocator
  prompted : ∀ p, ∀ r ∈ s.queues p, p = .finish ∨ Prompted p r

theorem visited_sound {be : InferenceBackend B} {allowed : Request → Response → Prop}
    {device : Device α} (hcuda : ∀ i, device.cuda i = true) {b : B} {async : Bool}
    {s : Scheduler (RealKvAllocator α) B}
    (h : Visited (realKvAllocator α) be allowed PromptedRequest (startedReal device b async) s) :
    Sound s := by
  obtain ⟨hbuffers,hprompted⟩ := visited_each SwapInBuffers
    (fun p r => p = .finish ∨ Prompted p r) (fun _ _ hreq => .inr (submit_prompted hreq))
    (fun _ _ _ _ _ _ _ ha hp m => ⟨move_buffers ha m,move_prompted hp m⟩) h
    (new_buffers device hcuda)
  exact ⟨visited_custody (steps_widen h fun _ _ hreq => hreq.1),hbuffers,hprompted⟩

def EntriesFull (a : RealKvAllocator α) : Prop :=
  ∀ id swapped, a.swappedRequests.lookup id = some swapped →
    0 < expected swapped ∧ restoredNumTokens swapped%defaultKvBlockSize = 0

section Between

variable {be : InferenceBackend B} {s : Scheduler (RealKvAllocator α) B}

theorem Sound.placed (h : Sound s) {p : Place} {r : Request} (hr : r ∈ s.queues p) :
    Placed (s.kvAllocator.swappedRequests.lookup r.requestId) r p :=
  h.custody.placed (p,r) ((mem_held s p r).mpr hr)

theorem Sound.paused (h : Sound s) {r : Request} (hr : r ∈ s.queues .swapOut) :
    ∃ n swapped, 0 < n ∧ n%defaultKvBlockSize = 0 ∧
      s.kvAllocator.swappedRequests.lookup r.requestId = some swapped ∧ EntryFits swapped n := by
  obtain ⟨n,hn,htokens,_,swapped,hl,hfits⟩ := h.placed hr
  have hprompted := (h.prompted _ r hr).resolve_left (by decide)
  have hprompt := hprompted.prompt
  have hlower : r.promptsLen+1 ≤ r.tokens.length := hprompted.lower
  exact ⟨n,swapped,by omega,hn,hl,hfits⟩

theorem fits_asks {swapped : SwappedRequest} {n : ℕ} (h : EntryFits swapped n) (hn : 0 < n) :
    0 < expected swapped := by
  rw [expected, h.blocks]
  simp only [prefillNeed, defaultKvBlockSize, gpt2NLayers]
  omega

theorem Sound.entries (h : Sound s) : EntriesFull s.kvAllocator := by
  intro id swapped hl
  obtain ⟨⟨p,r⟩,hx,rfl⟩ := h.custody.entries id (by rw [board, hl]; exact Option.some_ne_none _)
  have hr : r ∈ s.queues p := (mem_held s p r).mp hx
  rcases placed_entry (h.placed hr) with hnone | rfl
  · rw [hl] at hnone
    cases hnone
  · obtain ⟨n,other,hpos,hn,hother,hfits⟩ := h.paused hr
    obtain rfl := Option.some.inj (hother.symm.trans hl)
    exact ⟨fits_asks hfits hpos,by rwa [hfits.tokens]⟩

theorem Sound.returning (h : Sound s) {r : Request} (hr : r ∈ s.queues .swapOut) :
    Returning s.kvAllocator r := by
  obtain ⟨n,swapped,hpos,_,hl,hfits⟩ := h.paused hr
  exact ⟨swapped,hl,fits_asks hfits hpos,hfits.size⟩

theorem Sound.waiting (h : Sound s) (hsettled : s.Settled) (hd : s.queues .decode = []) :
    Waiting s.responses BlockFull s := by
  refine ⟨rfl,fun p r hr => ?_⟩
  have hprompt (hp : p ≠ .finish) : 0 < r.promptsLen :=
    ((h.prompted p r hr).resolve_left hp).prompt
  cases p with
  | request | waitingPrefill | deferredPrefill => exact hprompt (by decide)
  | swapOut | finish | cancel => trivial
  | decode => exact absurd (hd ▸ hr) List.not_mem_nil
  | prefill => exact absurd (hsettled.prefill ▸ hr) List.not_mem_nil
  | decodeBatch => exact absurd (hsettled.decodeBatch ▸ hr) List.not_mem_nil
  | nextDecode => exact absurd (hsettled.nextDecode ▸ hr) List.not_mem_nil
  | prefillBatch => exact absurd (hsettled.prefillBatch ▸ hr) List.not_mem_nil
  | deferredDecode =>
    obtain ⟨n,hn,_,hshape,_⟩ := h.placed hr
    show r.layer0.numTokens%defaultKvBlockSize = 0
    rwa [hshape.layer0.2]

theorem swap_in_recorded (a : RealKvAllocator α) (r : Request) {id : UInt64}
    {swapped : SwappedRequest} (h : (a.swapIn r).alloc.swappedRequests.lookup id = some swapped) :
    a.swappedRequests.lookup id = some swapped := by
  have hcase := swap_in_case a r
  generalize a.swapIn r = out at hcase h
  cases hcase with
  | refused => exact h
  | undone => exact h
  | done =>
    change (a.swappedRequests.erase r.requestId).lookup id = some swapped at h
    by_cases hid : id = r.requestId
    · rw [hid, AList.lookup_erase] at h
      cases h
    · rwa [AList.lookup_erase_ne hid] at h

theorem swap_in_full (a : RealKvAllocator α) (r : Request) (ha : EntriesFull a)
    (h : (a.swapIn r).ok = true) : BlockFull (a.swapIn r).req := by
  have hcase := swap_in_case a r
  generalize a.swapIn r = out at hcase h
  cases hcase with
  | refused => cases h
  | undone => cases h
  | done swapped bm hl hready =>
    have hshape := restored_shape swapped.blocksPerLayer (restoredNumTokens swapped) r.layerKv
      a.blockManager.gpu.ids (by rw [r.layers]; exact hready.room)
    have hrestored := (hshape _ (Request.layer0_mem (r.restore swapped a.blockManager.gpu.ids))).2
    show (r.restore swapped a.blockManager.gpu.ids).layer0.numTokens%_ = 0
    rw [hrestored]
    exact (ha _ swapped hl).2

theorem retry_swap_in_waiting {responses : List Response} (h : Waiting responses BlockFull s)
    (he : EntriesFull s.kvAllocator) :
    Waiting responses BlockFull (s.retrySwapInRequests (realKvAllocator α)).2 ∧
      EntriesFull (s.retrySwapInRequests (realKvAllocator α)).2.kvAllocator := by
  apply for_front_keeps fun t => Waiting responses BlockFull t ∧ EntriesFull t.kvAllocator
  · rintro req t u ⟨ht,hentries⟩ hp
    have halloc := (pop_front_frame hp).1
    have hkept : EntriesFull (u.kvAllocator.swapIn req).alloc :=
      fun id swapped hl => hentries id swapped (halloc ▸ swap_in_recorded _ req hl)
    unfold swapInTurn
    dsimp only
    split
    · rename_i hok
      exact ⟨ht.push hp rfl rfl (swap_in_full _ req (halloc ▸ hentries) hok),hkept⟩
    · exact ⟨ht.push hp rfl rfl trivial,hkept⟩
  · exact ⟨h,he⟩

theorem retry_deferred_decode_frame (s : Scheduler (RealKvAllocator α) B) :
    decoders s.retryDeferredDecode = decoders s ∧
      s.retryDeferredDecode.kvAllocator = s.kvAllocator ∧
      s.retryDeferredDecode.responses = s.responses := by
  apply for_front_keeps fun t => decoders t = decoders s ∧ t.kvAllocator = s.kvAllocator ∧
    t.responses = s.responses
  · rintro req t u ⟨hcount,halloc,hresponses⟩ hp
    rw [decoders_pop hp] at hcount
    obtain ⟨hsame,hanswered,_⟩ := pop_front_frame hp
    exact ⟨(decoders_push _ _ _).trans hcount,hsame.trans halloc,hanswered.trans hresponses⟩
  · exact ⟨rfl,rfl,rfl⟩

theorem later_responds (hb : s.queues .decodeBatch = []) (hd : s.queues .deferredDecode ≠ [])
    (hroom : gpt2NLayers ≤ s.kvAllocator.blockManager.gpu.ids.length) (ok : Bool) :
    s.responses.length < (laterPhases be (ok,s)).2.responses.length := by
  let Grown (t : Scheduler (RealKvAllocator α) B) : Prop :=
    s.responses.length < t.responses.length
  have hsteps (t u : Scheduler (RealKvAllocator α) B) (ht : Grown t)
      (h : Steps (realKvAllocator α) be Anything NewRequest t u) : Grown u :=
    Nat.lt_of_lt_of_le ht (steps_responses h).length_le
  have hbe := answers_anything be
  obtain ⟨hcount,halloc,hresponses⟩ := retry_deferred_decode_frame s
  have hdecode : s.retryDeferredDecode.queues .decode ≠ [] := by
    have hempty := s.retry_deferred_decode_empties
    have hlength := List.length_pos_of_ne_nil hd
    rw [decoders, decoders, hempty, List.length_nil] at hcount
    apply List.ne_nil_of_length_pos
    omega
  have hbatch : s.retryDeferredDecode.queues .decodeBatch = [] :=
    (s.retry_deferred_decode_only _ (by simp)).trans hb
  have hserved : Grown (s.retryDeferredDecode.runDecodeBatch (realKvAllocator α) be).2 := by
    have hgrown := run_decode_responds be hdecode hbatch (halloc.symm ▸ hroom)
    rw [hresponses] at hgrown
    exact hgrown
  have hlater : Grown (laterPhases be (ok,s)).2 := by
    unfold laterPhases
    refine then_run_keeps (P := Grown) ?_ fun t ht => hsteps _ _ ht (retry_swap_in_steps t)
    refine then_run_keeps (P := Grown) ?_ fun t ht => hsteps _ _ ht ((step_turns hbe).run_prefill t)
    refine then_run_keeps (P := Grown) ?_ fun t ht => hsteps _ _ ht (admit_waiting_steps t)
    refine then_run_keeps (P := Grown) ?_
      fun t ht => hsteps _ _ ht (retry_deferred_prefill_steps t)
    refine then_run_keeps (P := Grown) ?_ fun t ht => hsteps _ _ ht (retry_swap_in_steps t)
    exact hserved
  exact hlater

theorem paused_phases (be : InferenceBackend B) (hpaused : s.admissionPaused = true) :
    ∃ ok, s.runPhases (realKvAllocator α) be =
      laterPhases be (ok,(s.retrySwapInRequests (realKvAllocator α)).2) := by
  have hdrain : s.drainUnlessPaused = s := by
    unfold drainUnlessPaused
    exact if_pos hpaused
  rw [phases_split, hdrain]
  exact ⟨_,rfl⟩

/-- Between two looks at the swapped-out requests the free blocks decide. -/
theorem later_responds_iff (be : InferenceBackend B) (hw : Waiting s.responses BlockFull s)
    (he : EntriesFull s.kvAllocator) (hd : s.queues .deferredDecode ≠ []) (ok : Bool) :
    s.responses.length < (laterPhases be (ok,s)).2.responses.length ↔
      gpt2NLayers ≤ s.kvAllocator.blockManager.gpu.ids.length := by
  constructor
  · intro hgrown
    by_contra hfew
    have hs : Starves s.kvAllocator BlockFull :=
      ⟨⟨Nat.lt_of_not_le hfew,fun id swapped hl => (he id swapped hl).1⟩,
        fun _ hr => hr,fun _ _ hr => hr⟩
    have hstarved : Starved s.kvAllocator s.responses BlockFull (decoders s) s := ⟨hw,rfl,rfl⟩
    obtain ⟨_,hlater⟩ := later_starved be hs (ok,s) hstarved
    generalize laterPhases be (ok,s) = out at hgrown hlater
    rw [hlater.responses] at hgrown
    exact Nat.lt_irrefl _ hgrown
  · intro hroom
    exact later_responds (hw.empty fun r hr => hr) hd hroom ok

theorem paused_body_responds_iff (h : Sound s) (hsettled : s.Settled)
    (hd : s.queues .decode = []) (hpaused : s.admissionPaused = true)
    (hother : s.queues .deferredDecode ≠ []) :
    s.responses.length < (s.workerLoopBody (realKvAllocator α) be).responses.length ↔
      gpt2NLayers ≤ s.leftAfterSwapIns := by
  have hleft := retry_swap_in_left s h.buffers (fun r hr => h.returning hr)
    (h.custody.queue_distinct .swapOut)
  have hdeferred : (s.retrySwapInRequests (realKvAllocator α)).2.queues .deferredDecode ≠ [] := by
    rwa [s.retry_swap_in_only (realKvAllocator α) .deferredDecode (by simp)]
  obtain ⟨hwaiting,hentries⟩ := retry_swap_in_waiting (h.waiting hsettled hd) h.entries
  have hresponses := hwaiting.responses
  obtain ⟨ok,hphases⟩ := paused_phases be hpaused
  have hiff := later_responds_iff be (by rwa [hresponses]) hentries hdeferred ok
  rwa [hresponses, hleft, ← hphases, ← body_responses] at hiff

end Between

end MiniLlm

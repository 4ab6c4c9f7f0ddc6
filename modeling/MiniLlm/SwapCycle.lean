import MiniLlm.VictimRoom
import MiniLlm.ExclusiveBlocks

/-!
# A victim that comes straight back

A body that takes a victim leaves admission paused and nobody ready to
decode, so what it freed is first offered to the swapped-out requests. When
the victim is the only one of them it takes all its blocks back, and the
others wait as before.
-/

set_option autoImplicit false

namespace MiniLlm

open RealKvAllocator Scheduler

variable {α A B : Type*}

namespace Scheduler

/-- The body makes no progress, has work left, and finds a victim. -/
def SwapsOutVictim (kv : KvAllocator A) (be : InferenceBackend B) (s : Scheduler A B) : Prop :=
  (s.runPhases kv be).1 = false ∧ (s.runPhases kv be).2.noInternalWork = false ∧
    ((s.runPhases kv be).2.trySwapOutVictim kv).1 = true

end Scheduler

section Victims

variable {kv : KvAllocator A} {be : InferenceBackend B} {s : Scheduler A B}

theorem try_from_taken (q : Place) (h : (s.tryFrom kv q).1 = true) :
    (s.tryFrom kv q).2.admissionPaused = true ∧ (s.tryFrom kv q).2.queues .swapOut ≠ [] := by
  unfold tryFrom at h ⊢
  split at h
  · cases h
  · unfold swapOutVictim at h ⊢
    dsimp only at h ⊢
    split at h
    · rw [if_pos ‹_›]
      refine ⟨rfl,?_⟩
      show (pushBack _ .swapOut _).queues .swapOut ≠ []
      rw [push_back_queues, if_pos rfl]
      exact List.append_ne_nil_of_right_ne_nil _ (List.cons_ne_nil _ _)
    · cases h

structure VictimTaken (s t : Scheduler A B) : Prop where
  state : t = s
  paused : s.admissionPaused = true
  decode : s.queues .decode = []

theorem victim_body (hsettled : s.Settled) (h : s.SwapsOutVictim kv be) :
    VictimTaken ((s.runPhases kv be).2.tryFrom kv .deferredDecode).2
      (s.workerLoopBody kv be) := by
  obtain ⟨hquiet,hwork,hvictim⟩ := h
  have hd := run_phases_quiet kv be s hsettled hquiet
  have hfirst := try_swap_out_first kv hd
  obtain ⟨hpaused,hout⟩ := try_from_taken .deferredDecode (hfirst ▸ hvictim)
  refine ⟨?_,hpaused,(try_from_only kv _ .deferredDecode .decode (by simp)).trans hd⟩
  unfold workerLoopBody
  dsimp only
  rw [hquiet, hwork, if_pos (by decide), hfirst, resumeAdmission, if_neg]
  rw [Bool.and_eq_true, not_and]
  intro _ hnone
  unfold noInternalWork at hnone
  simp [hout] at hnone

end Victims

theorem victim_body_responds_iff {be : InferenceBackend B}
    {s : Scheduler (RealKvAllocator α) B} (hsettled : s.Settled)
    (hsound : Sound (s.workerLoopBody (realKvAllocator α) be))
    (hvictim : s.SwapsOutVictim (realKvAllocator α) be)
    (hother : (s.workerLoopBody (realKvAllocator α) be).queues .deferredDecode ≠ []) :
    (s.workerLoopBody (realKvAllocator α) be).responses.length <
        ((s.workerLoopBody (realKvAllocator α) be).workerLoopBody
          (realKvAllocator α) be).responses.length ↔
      gpt2NLayers ≤ (s.workerLoopBody (realKvAllocator α) be).leftAfterSwapIns := by
  have hnext := body_settled (realKvAllocator α) be s hsettled
  have htaken := victim_body hsettled hvictim
  rw [htaken.state] at hnext hsound hother ⊢
  exact paused_body_responds_iff hsound hnext htaken.decode htaken.paused hother

theorem reached_body_sound {be : InferenceBackend B} {device : Device α}
    (hcuda : ∀ i, device.cuda i = true) {b : B} {async : Bool}
    {s : Scheduler (RealKvAllocator α) B}
    (h : Reached (realKvAllocator α) be PromptedRequest (startedReal device b async) .top s) :
    s.Settled ∧ Sound (s.runPhases (realKvAllocator α) be).2 ∧
      Sound (s.workerLoopBody (realKvAllocator α) be) := by
  have hbe := answers_anything be
  obtain ⟨hsettled,hvisited⟩ := reached_visited hbe (started_settled _ b async) h
  exact ⟨hsettled,visited_sound hcuda (hvisited.trans (run_phases_steps hbe s)),
    visited_sound hcuda (hvisited.trans (body_steps hbe s hsettled))⟩

section Cycle

variable {t : Scheduler (RealKvAllocator α) B} {r : Request} {rest : List Request} {n : ℕ}

def NoneSwapped (a : RealKvAllocator α) : Prop := ∀ id, a.swappedRequests.lookup id = none

theorem Sound.owned {p : Place} (h : Sound t) (hr : r ∈ t.queues p) : Owned t.kvAllocator r := by
  obtain ⟨others,hothers⟩ := Multiset.exists_cons_of_mem ((mem_held t p r).mpr hr)
  exact h.custody.owned hothers

theorem Sound.swap_out_ok (h : Sound t) (hnone : NoneSwapped t.kvAllocator)
    {state : RequestState} (hshape : Shaped r .gpu state (prefillNeed n) n) (hn : 0 < n)
    (hsmall : n ≤ maxSeq) : (t.kvAllocator.swapOut r).ok = true := by
  have hcpu : t.kvAllocator.blockManager.cpu.ids.length = defaultTotalCpuBlocks := by
    have hall : t.kvAllocator.blockManager.cpu.ids.Perm (List.range defaultTotalCpuBlocks) := by
      have hledger := h.custody.cpu
      rwa [board, recorded_none _ hnone, List.append_nil] at hledger
    rw [hall.length_eq, List.length_range]
  apply (swap_out_ok_iff t.kvAllocator r).mpr
  refine ⟨?_,?_,fun kv hkv => ?_,h.buffers.succeeds _⟩
  · rw [hshape.layer0.1, prefillNeed]
    simp only [defaultKvBlockSize]
    omega
  · rw [hcpu, neededCpuBlocks, hshape.layer0.1, prefillNeed]
    simp only [defaultTotalCpuBlocks, defaultKvBlockSize, gpt2NLayers, maxSeq] at hsmall ⊢
    omega
  · rw [hshape.tables kv hkv, hshape.layer0.1]

theorem swap_out_freed {a : RealKvAllocator α} (h : Owned a r)
    (hnew : a.swappedRequests.lookup r.requestId = none) {state : RequestState}
    (hshape : Shaped r .gpu state (prefillNeed n) n) (hok : (a.swapOut r).ok = true) :
    (a.swapOut r).alloc.blockManager.gpu.ids.length =
        a.blockManager.gpu.ids.length+prefillNeed n*gpt2NLayers ∧
      swapInBlocks (a.swapOut r).alloc (a.swapOut r).req = prefillNeed n*gpt2NLayers := by
  have hdone := swap_out_of_ok a r hok
  constructor
  · have hlength := (swap_out_exchange a r h hnew).gpu.length_eq
    have hreset : (a.swapOut r).req.blocks = [] := by
      rw [hdone]
      exact reset_blocks r
    rwa [hreset, List.append_nil, List.length_append,
      blocks_length r (prefillNeed n) hshape.tables] at hlength
  · have hl : (a.swapOut r).alloc.swappedRequests.lookup (a.swapOut r).req.requestId =
        some (a.entryOf r) := by
      rw [hdone]
      exact AList.lookup_insert _
    unfold swapInBlocks
    rw [hl]
    show (a.entryOf r).blocksPerLayer*gpt2NLayers = _
    rw [entryOf, hshape.layer0.1]

theorem Sound.swap_out_empty (h : Sound t) (hnone : NoneSwapped t.kvAllocator) :
    t.queues .swapOut = [] := by
  apply List.eq_nil_iff_forall_not_mem.mpr
  intro q hmem
  obtain ⟨_,swapped,_,_,hl,_⟩ := h.paused hmem
  rw [hnone] at hl
  cases hl

theorem find_victim_first {kv : KvAllocator A} {a : A} (hgpu : r.kvResidency = .gpu)
    (hswapped : kv.isSwapped a r = false) :
    findVictim kv a (r::rest) = some ([],r,rest) := by
  rw [findVictim, if_neg]
  rw [not_or, not_not, Bool.not_eq_true]
  exact ⟨hgpu,hswapped⟩

structure LoneVictim (s t : Scheduler (RealKvAllocator α) B) (rest : List Request) : Prop where
  found : (s.tryFrom (realKvAllocator α) .deferredDecode).1 = true
  state : t = (s.tryFrom (realKvAllocator α) .deferredDecode).2
  others : t.queues .deferredDecode = rest
  left : t.leftAfterSwapIns = s.kvAllocator.blockManager.gpu.ids.length

theorem lone_victim (h : Sound t) (hnone : NoneSwapped t.kvAllocator)
    (hq : t.queues .deferredDecode = r::rest) (hsmall : r.tokens.length ≤ maxSeq+1) :
    LoneVictim t (t.tryFrom (realKvAllocator α) .deferredDecode).2 rest := by
  have hr : r ∈ t.queues .deferredDecode := hq ▸ List.mem_cons_self
  obtain ⟨n,_,htokens,hshape,hentry⟩ := h.placed hr
  have hprompted := (h.prompted _ r hr).resolve_left (by decide)
  have hn : 0 < n := by
    have hprompt := hprompted.prompt
    have hlower : r.promptsLen+1 ≤ r.tokens.length := hprompted.lower
    omega
  have hok := h.swap_out_ok hnone hshape hn (by omega)
  have hswapped := h.swap_out_empty hnone
  have hvictim : findVictim (realKvAllocator α) t.kvAllocator (r::rest) = some ([],r,rest) := by
    apply find_victim_first hshape.residency
    show (t.kvAllocator.swappedRequests.lookup r.requestId).isSome = false
    rw [hentry]
    rfl
  have hfreed := swap_out_freed (h.owned hr) hentry hshape hok
  let u := (t.setQueue .deferredDecode rest).withAllocator (t.kvAllocator.swapOut r).alloc
  let q := (t.kvAllocator.swapOut r).req.withState .swappedOut
  have htried : t.tryFrom (realKvAllocator α) .deferredDecode =
      (true,{ u.pushBack .swapOut q with admissionPaused := true }) := by
    unfold tryFrom
    rw [hq, hvictim]
    exact if_pos hok
  have hcapacity : prefillNeed n*gpt2NLayers ≤ maxTotalBlocks := by
    rw [prefillNeed, maxTotalBlocks]
    simp only [defaultKvBlockSize, gpt2NLayers, maxSeq] at hsmall ⊢
    omega
  rw [htried]
  refine ⟨by rw [htried],by rw [htried],?_,?_⟩
  · show (u.pushBack .swapOut q).queues .deferredDecode = rest
    rw [push_back_queues, if_neg (by decide), with_allocator_queues, set_queue_queues, if_pos rfl]
  · rw [leftAfterSwapIns, FreeStack.counted]
    show firstFit (t.kvAllocator.swapOut r).alloc.blockManager.gpu.ids.length
      (((u.pushBack .swapOut q).queues .swapOut).map (swapInBlocks u.kvAllocator)) = _
    rw [push_back_queues, if_pos rfl, with_allocator_queues, set_queue_queues,
      if_neg (by decide), hswapped]
    show firstFit _ [swapInBlocks (t.kvAllocator.swapOut r).alloc (t.kvAllocator.swapOut r).req] = _
    rw [hfreed.1, hfreed.2, firstFit, if_pos ⟨Nat.le_add_left _ _,hcapacity⟩, firstFit,
      Nat.add_sub_cancel]

/-- The request is due for a new block, and `swap_in` could restore it. -/
def FullRow (r : Request) : Prop := BlockFull r ∧ r.tokens.length ≤ maxSeq+1

theorem starved_victim {be : InferenceBackend B} {a : RealKvAllocator α}
    {responses : List Response} {s : Scheduler (RealKvAllocator α) B} (hsettled : s.Settled)
    (hsound : Sound (s.runPhases (realKvAllocator α) be).2) (hnone : NoneSwapped a)
    (hroom : a.blockManager.gpu.ids.length < gpt2NLayers)
    (h : Starved a responses FullRow n s) (hn : 1 < n) :
    s.SwapsOutVictim (realKvAllocator α) be ∧
      (s.workerLoopBody (realKvAllocator α) be).queues .deferredDecode ≠ [] ∧
      (s.workerLoopBody (realKvAllocator α) be).leftAfterSwapIns < gpt2NLayers := by
  have hs : Starves a FullRow :=
    ⟨⟨hroom,fun id swapped hl => by rw [hnone] at hl; cases hl⟩,fun _ hr => hr.1,
      fun _ _ hr => hr⟩
  obtain ⟨hquiet,hstarved⟩ := phases_starved be hs h
  have hd := run_phases_quiet (realKvAllocator α) be s hsettled hquiet
  obtain ⟨⟨_,hpatient⟩,halloc,hcount⟩ := hstarved
  rw [decoders, hd, List.length_nil, Nat.zero_add] at hcount
  have hsome : (s.runPhases (realKvAllocator α) be).2.queues .deferredDecode ≠ [] := by
    apply List.ne_nil_of_length_pos
    omega
  obtain ⟨r,rest,hq⟩ := List.exists_cons_of_ne_nil hsome
  have hrow : FullRow r := hpatient .deferredDecode r (hq ▸ List.mem_cons_self)
  have hlone := lone_victim hsound (by rwa [halloc]) hq hrow.2
  have hvictim : s.SwapsOutVictim (realKvAllocator α) be := by
    refine ⟨hquiet,?_,?_⟩
    · unfold noInternalWork
      simp [hq]
    · rw [try_swap_out_first _ hd]
      exact hlone.found
  have hbody := (victim_body hsettled hvictim).state
  refine ⟨hvictim,?_,?_⟩
  · rw [hbody, hlone.others]
    rw [hq, List.length_cons] at hcount
    apply List.ne_nil_of_length_pos
    omega
  · rw [hbody, hlone.left, halloc]
    exact hroom

end Cycle

section SixPrompts

def sixRequests : List Request :=
  [(1,1024),(2,1024),(3,1024),(4,1024),(5,1024),(6,336)].map
    fun x => Request.new x.1 (List.replicate x.2 0) 8

def sixSubmitted : Scheduler (RealKvAllocator ℤ) Unit :=
  sixRequests.foldl submitRequest (startedReal freshDevice () true)

def sixServed : Scheduler (RealKvAllocator ℤ) Unit :=
  sixSubmitted.workerLoopBody (realKvAllocator ℤ) mockBackend

theorem six_submitted_reached : Reached (realKvAllocator ℤ) mockBackend PromptedRequest
    (startedReal freshDevice () true) .top sixSubmitted := by
  apply submit_all_reached _ _ .start
  · intro r hr
    obtain ⟨_,_,rfl⟩ := List.mem_map.mp hr
    exact ⟨_,_,_,rfl⟩
  · intro holds r hr hnew
    refine ⟨hnew,?_⟩
    obtain ⟨⟨id,n⟩,hx,rfl⟩ := List.mem_map.mp hr
    show List.replicate n (0 : ℤ) ≠ []
    have hn : 0 < n := by
      revert hx
      simp only [List.mem_cons, Prod.mk.injEq, List.not_mem_nil, or_false]
      omega
    rw [Ne, List.replicate_eq_nil_iff]
    exact hn.ne'
  · decide +kernel
  · exact fun r _ q ⟨_,hq⟩ => absurd hq List.not_mem_nil

set_option maxRecDepth 100000 in
theorem six_served_sizes :
    sixServed.noInternalWork = false ∧
    sixServed.kvAllocator.blockManager.gpu.count = 4 ∧
    sixServed.kvAllocator.swappedRequests.entries = [] ∧
    (sixServed.queues .decode).map (fun r => (r.layer0.numTokens,r.tokens.length)) =
      [(1024,1025),(1024,1025),(1024,1025),(1024,1025),(1024,1025),(336,337)] ∧
    ([.request,.waitingPrefill,.prefill,.finish,.deferredPrefill,.deferredDecode,.cancel,.swapOut,
      .decodeBatch,.nextDecode,.prefillBatch].map sixServed.queues).flatten = [] := by
  decide +kernel

theorem six_served_starved : Starved sixServed.kvAllocator sixServed.responses FullRow 6
    sixServed := by
  obtain ⟨_,_,_,hdecode,hempty⟩ := six_served_sizes
  have hnil (p : Place) (hp : p ≠ .decode) : sixServed.queues p = [] := by
    have hall := List.flatten_eq_nil_iff.mp hempty
    apply hall
    cases p <;> simp at hp ⊢
  refine ⟨⟨rfl,fun p r hr => ?_⟩,rfl,?_⟩
  · by_cases hp : p = .decode
    · subst hp
      have hsizes := List.mem_map_of_mem (f := fun r => (r.layer0.numTokens,r.tokens.length)) hr
      rw [hdecode] at hsizes
      show FullRow r
      unfold FullRow BlockFull
      simp only [List.mem_cons, Prod.mk.injEq, List.not_mem_nil, or_false] at hsizes
      simp only [defaultKvBlockSize, maxSeq]
      omega
    · rw [hnil p hp] at hr
      cases hr
  · have hlength := congrArg List.length hdecode
    rw [List.length_map] at hlength
    rw [decoders, hlength, hnil .deferredDecode (by decide)]
    rfl

theorem six_served_reached : Reached (realKvAllocator ℤ) mockBackend PromptedRequest
    (startedReal freshDevice () true) .top sixServed :=
  .body sixSubmitted six_submitted_reached rfl trivial six_served_sizes.1

/-- The body swaps a victim out, five others wait, and the swap-ins leave four blocks. -/
theorem six_served_victim : sixServed.SwapsOutVictim (realKvAllocator ℤ) mockBackend ∧
    (sixServed.workerLoopBody (realKvAllocator ℤ) mockBackend).queues .deferredDecode ≠ [] ∧
    (sixServed.workerLoopBody (realKvAllocator ℤ) mockBackend).leftAfterSwapIns <
      gpt2NLayers := by
  obtain ⟨_,hcount,hentries,_⟩ := six_served_sizes
  obtain ⟨hsettled,hsound,_⟩ := reached_body_sound (fun _ => rfl) six_served_reached
  refine starved_victim hsettled hsound (fun id => ?_) ?_ six_served_starved (by decide)
  · rw [AList.lookup_eq_none, AList.mem_keys, AList.keys, hentries]
    exact List.not_mem_nil
  · rw [← FreeStack.counted, hcount]
    decide

/-- The body after a swap-out answers somebody if and only if a block for each layer is left
when the swapped-out requests have had theirs. -/
theorem victim_makes_room_iff (be : InferenceBackend B) (device : Device α)
    (hcuda : ∀ i, device.cuda i = true) (b : B) (async : Bool)
    (s : Scheduler (RealKvAllocator α) B)
    (h : Reached (realKvAllocator α) be PromptedRequest (startedReal device b async) .top s)
    (hvictim : s.SwapsOutVictim (realKvAllocator α) be)
    (hother : (s.workerLoopBody (realKvAllocator α) be).queues .deferredDecode ≠ []) :
    (s.workerLoopBody (realKvAllocator α) be).responses.length <
        ((s.workerLoopBody (realKvAllocator α) be).workerLoopBody
          (realKvAllocator α) be).responses.length ↔
      gpt2NLayers ≤ (s.workerLoopBody (realKvAllocator α) be).leftAfterSwapIns := by
  obtain ⟨hsettled,_,hsound⟩ := reached_body_sound hcuda h
  exact victim_body_responds_iff hsettled hsound hvictim hother

theorem six_served_responds_iff :
    (sixServed.workerLoopBody (realKvAllocator ℤ) mockBackend).responses.length <
        ((sixServed.workerLoopBody (realKvAllocator ℤ) mockBackend).workerLoopBody
          (realKvAllocator ℤ) mockBackend).responses.length ↔
      gpt2NLayers ≤
        (sixServed.workerLoopBody (realKvAllocator ℤ) mockBackend).leftAfterSwapIns :=
  victim_makes_room_iff mockBackend freshDevice (fun _ => rfl) () true sixServed
    six_served_reached six_served_victim.1 six_served_victim.2.1

theorem victim_makes_no_room : ¬ ∀ s, Reached (realKvAllocator ℤ) mockBackend PromptedRequest
    (startedReal freshDevice () true) .top s →
    s.SwapsOutVictim (realKvAllocator ℤ) mockBackend →
    (s.workerLoopBody (realKvAllocator ℤ) mockBackend).queues .deferredDecode ≠ [] →
    (s.workerLoopBody (realKvAllocator ℤ) mockBackend).responses.length <
      ((s.workerLoopBody (realKvAllocator ℤ) mockBackend).workerLoopBody
        (realKvAllocator ℤ) mockBackend).responses.length := by
  intro h
  obtain ⟨hvictim,hother,hfew⟩ := six_served_victim
  obtain ⟨hsettled,_,hsound⟩ := reached_body_sound (fun _ => rfl) six_served_reached
  have hgrown := h sixServed six_served_reached hvictim hother
  have hroom := (victim_body_responds_iff hsettled hsound hvictim hother).mp hgrown
  exact absurd hroom (Nat.not_le_of_lt hfew)

end SixPrompts

end MiniLlm

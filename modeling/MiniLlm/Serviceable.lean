import MiniLlm.SchedulerInvariant
import MiniLlm.TokenBudget

/-!
# Deferral is temporary

Three capacities have to cover what a request can ask for: the GPU pool for
its prompt and for its growth during decode, and the staging buffers for its
swap-in. They do when the prompt fits the pool and the request is not longer
than `MAX_SEQ` whenever it fills a block.
-/

set_option autoImplicit false

namespace MiniLlm

open RealKvAllocator Scheduler

variable {α B : Type*}

namespace Scheduler

def others {A : Type*} (s : Scheduler A B) (r : Request) : List Request :=
  (Place.all.flatMap s.queues).filter fun o => decide (o.requestId ≠ r.requestId)

def alone (s : Scheduler (RealKvAllocator α) B) (r : Request) : RealKvAllocator α :=
  (s.others r).foldl (fun a o => (a.freeRequest o).1) s.kvAllocator

/-- The call each deferred request waits for is granted once it has the GPU for itself. -/
structure AllServiceable (s : Scheduler (RealKvAllocator α) B) : Prop where
  prefill : ∀ r ∈ s.queues .deferredPrefill, ((s.alone r).allocatePrefill r).ok = true
  decode : ∀ r ∈ s.queues .deferredDecode, ((s.alone r).allocateDecode r).ok = true
  swapIn : ∀ r ∈ s.queues .swapOut, ((s.alone r).swapIn r).ok = true

end Scheduler

/-- A prompt that fits the pool, and that no longer than `MAX_SEQ` when one of its first seven
decodes needs a block. -/
def PromptServiceable (promptsLen : ℕ) : Prop :=
  prefillNeed promptsLen*gpt2NLayers ≤ defaultTotalKvBlocks ∧
    ∀ n, n%defaultKvBlockSize = 0 → promptsLen ≤ n → n < promptsLen+7 → n ≤ maxSeq

section Freeing

theorem free_all_blocks (a : RealKvAllocator α) (reqs : List Request) :
    reqs.foldl (fun a o => (a.freeRequest o).1) a =
      { a with blockManager := a.blockManager.free (reqs.flatMap Request.blocks) } := by
  induction reqs generalizing a with
  | nil => rfl
  | cons r reqs ih =>
    rw [List.foldl_cons, ih, free_request_fst, List.flatMap_cons, BlockManager.free_append]

theorem others_perm (reqs : List Request) (r : Request) (hr : r ∈ reqs)
    (hn : (reqs.map Request.requestId).Nodup) :
    reqs.Perm (r::reqs.filter fun o => decide (o.requestId ≠ r.requestId)) := by
  obtain ⟨before,after,rfl⟩ := List.append_of_mem hr
  rw [List.map_append, List.map_cons] at hn
  obtain ⟨hfresh,_⟩ := List.nodup_cons.mp (List.nodup_middle.mp hn)
  rw [List.mem_append, not_or] at hfresh
  have hkeep (xs : List Request) (hx : r.requestId ∉ xs.map Request.requestId) :
      xs.filter (fun o => decide (o.requestId ≠ r.requestId)) = xs := by
    apply List.filter_eq_self.mpr
    intro o ho
    apply decide_eq_true
    intro hid
    exact hx (List.mem_map.mpr ⟨o,ho,hid⟩)
  rw [List.filter_append, List.filter_cons_of_neg (by simp), hkeep before hfresh.1,
    hkeep after hfresh.2]
  exact List.perm_middle

theorem held_requests (s : Scheduler (RealKvAllocator α) B) :
    s.held.map Prod.snd = (Place.all.flatMap s.queues : List Request) := by
  rw [Scheduler.held, Multiset.map_coe, List.map_flatMap]
  refine congrArg _ (List.flatMap_congr fun p _ => ?_)
  rw [List.map_map]
  exact List.map_id _

variable {totalBlocks totalCpuBlocks : ℕ} {s : Scheduler (RealKvAllocator α) B} {p : Place}
  {r : Request}

theorem Custody.all_distinct (h : Custody totalBlocks totalCpuBlocks s.board) :
    ((Place.all.flatMap s.queues).map Request.requestId).Nodup := by
  have hids := h.distinct
  rwa [← Function.comp_def Request.requestId, ← Multiset.map_map, board, held_requests,
    Multiset.map_coe, Multiset.coe_nodup] at hids

theorem Custody.queue_distinct (h : Custody totalBlocks totalCpuBlocks s.board) (p : Place) :
    ((s.queues p).map Request.requestId).Nodup := by
  have hids := h.all_distinct
  rw [List.map_flatMap] at hids
  exact (List.nodup_flatMap.mp hids).1 p p.mem_all

theorem alone_room (h : Custody totalBlocks totalCpuBlocks s.board) (hr : r ∈ s.queues p) :
    (s.alone r).blockManager.gpu.ids.length+r.blocks.length = totalBlocks := by
  have hperm := others_perm _ r (List.mem_flatMap.mpr ⟨p,p.mem_all,hr⟩) h.all_distinct
  have hledger : (s.kvAllocator.blockManager.gpu.ids++
      (r.blocks++(s.others r).flatMap Request.blocks)).Perm (List.range totalBlocks) := by
    have hgpu : (s.kvAllocator.blockManager.gpu.ids : Multiset ℕ)+
        (s.held.map Prod.snd).bind (fun q => (q.blocks : Multiset ℕ)) =
        Multiset.range totalBlocks := by
      rw [Multiset.bind_map]
      exact h.gpu
    rw [held_requests, Multiset.coe_eq_coe.mpr hperm, Multiset.coe_bind] at hgpu
    exact Multiset.coe_eq_coe.mp hgpu
  have hnodup := hledger.nodup_iff.mpr List.nodup_range
  obtain ⟨_,hrest,hapart⟩ := List.nodup_append'.mp hnodup
  have hreturn : BlockManager.Returnable s.kvAllocator.blockManager.gpu
      ((s.others r).flatMap Request.blocks) := by
    refine ⟨(List.nodup_append'.mp hrest).2.1,?_,?_⟩
    · intro i hi
      have hm := hledger.mem_iff.mp (List.mem_append_right _ (List.mem_append_right _ hi))
      exact h.gpuTotal.symm ▸ List.mem_range.mp hm
    · intro i hi hm
      exact hapart hm (List.mem_append_right _ hi)
  have hlength := hledger.length_eq
  simp only [List.length_append, List.length_range] at hlength
  rw [alone, free_all_blocks]
  show (s.kvAllocator.blockManager.free _).gpu.ids.length+_ = _
  rw [(BlockManager.free_returnable _ _ hreturn).1.ids, List.length_append, List.length_reverse]
  omega

end Freeing

/-- The staging buffers of `init_swap_in_buffers` are there, and no CUDA call fails. -/
structure SwapInBuffers (a : RealKvAllocator α) : Prop where
  cuda : ∀ i, a.device.cuda i = true
  staging : a.dSwapInStaging = true
  dst : a.dSwapInDstBlockIds = true
  capacity : a.swapInCapacityBlocks = maxTotalBlocks

section Buffers

variable {a a' : RealKvAllocator α} {p q : Place} {r r' : Request} {resps : List Response}
  {allowed : Request → Response → Prop}

theorem SwapInBuffers.device {d : Device α} (h : SwapInBuffers a) (hd : d.cuda = a.device.cuda) :
    SwapInBuffers { a with device := d } :=
  ⟨fun i => (congrFun hd i).trans (h.cuda i),h.staging,h.dst,h.capacity⟩

theorem SwapInBuffers.succeeds (h : SwapInBuffers a) (n : ℕ) : a.device.Succeeds n :=
  fun _ _ => h.cuda _

theorem allocate_buffers (h : SwapInBuffers a) (need : ℕ) :
    SwapInBuffers (a.allocateLayers r need).alloc := by
  rcases allocate_layers_cases a r need with ⟨_,ho⟩ | ⟨bm,_,ho⟩ <;> rw [ho]
  · exact h
  · exact ⟨h.cuda,h.staging,h.dst,h.capacity⟩

theorem swap_out_buffers (h : SwapInBuffers a) : SwapInBuffers (a.swapOut r).alloc := by
  have hcase := swap_out_case a r
  generalize a.swapOut r = out at hcase
  cases hcase with
  | refused => exact h
  | undone d bm hd =>
    have hsame := h.device hd.cuda
    exact ⟨hsame.cuda,h.staging,h.dst,h.capacity⟩
  | done => exact ⟨h.cuda,h.staging,h.dst,h.capacity⟩

theorem swap_in_buffers (h : SwapInBuffers a) : SwapInBuffers (a.swapIn r).alloc := by
  have hcase := swap_in_case a r
  generalize a.swapIn r = out at hcase
  cases hcase with
  | refused => exact h
  | undone _ d bm _ _ hd =>
    have hsame := h.device hd.cuda
    exact ⟨hsame.cuda,h.staging,h.dst,h.capacity⟩
  | done => exact ⟨h.cuda,h.staging,h.dst,h.capacity⟩

theorem move_buffers (h : SwapInBuffers a)
    (m : Move (realKvAllocator α) allowed a p r a' q r' resps) : SwapInBuffers a' := by
  cases m with
  | enqueued | decodeRetried | prefillStarted | flushed | served => exact h
  | prefillGranted | prefillRefused | prefillRefusedAgain => exact allocate_buffers h _
  | decodeGranted | decodeRefused => exact allocate_buffers h _
  | swappedIn | swapInRefused => exact swap_in_buffers h
  | victimOut | victimKept => exact swap_out_buffers h
  | closed => exact ⟨h.cuda,h.staging,h.dst,h.capacity⟩

theorem new_buffers (device : Device α) (h : ∀ i, device.cuda i = true) :
    SwapInBuffers (RealKvAllocator.new device) := by
  have hstart : ({ device with faulted := false } : Device α).outcome = true := h _
  have hnext : ({ device with faulted := false } : Device α).called.outcome = true := h _
  unfold RealKvAllocator.new initSwapInBuffers
  simp only [hstart, hnext, Bool.true_eq_false, if_false]
  exact ⟨h,rfl,rfl,rfl⟩

end Buffers

/-- A request of the server whose demand the capacities cover. -/
structure Covered (p : Place) (r : Request) : Prop where
  budget : Budget p r
  prompt : 0 < r.promptsLen
  serviceable : PromptServiceable r.promptsLen

section Calls

variable {a : RealKvAllocator α} {r : Request} {entry : Option SwappedRequest}

theorem allocate_ok_iff (a : RealKvAllocator α) (r : Request) (need : ℕ) :
    (a.allocateLayers r need).ok = true ↔ need*gpt2NLayers ≤ a.blockManager.gpu.ids.length := by
  rcases allocate_layers_cases a r need with ⟨hfew,ho⟩ | ⟨bm,hd,ho⟩ <;> rw [ho]
  · exact ⟨nofun,fun h => absurd h (Nat.not_le.mpr hfew)⟩
  · exact ⟨fun _ => hd.enough,fun _ => rfl⟩

theorem placed_prefill (hp : Placed entry r .deferredPrefill) (hc : Covered .deferredPrefill r)
    (hroom : a.blockManager.gpu.ids.length+r.blocks.length = defaultTotalKvBlocks) :
    (a.allocatePrefill r).ok = true := by
  rw [hp.2.1.blocks_empty, List.length_nil, Nat.add_zero] at hroom
  apply (allocate_ok_iff a r _).mpr
  rw [hroom]
  exact hc.serviceable.1

theorem Covered.full {p : Place} {n : ℕ} (hc : Covered p r) (hp : answered p = 1)
    (hn : n%defaultKvBlockSize = 0) (ht : r.tokens.length = n+1) : 0 < n ∧ n ≤ maxSeq := by
  have hlower := hc.budget.lower
  have hupper := hc.budget.upper
  have hprompt := hc.prompt
  rw [hp, ht] at hlower
  rw [ht] at hupper
  exact ⟨by omega,hc.serviceable.2 n hn (by omega) (by omega)⟩

theorem placed_decode (hp : Placed entry r .deferredDecode) (hc : Covered .deferredDecode r)
    (hroom : a.blockManager.gpu.ids.length+r.blocks.length = defaultTotalKvBlocks) :
    (a.allocateDecode r).ok = true := by
  obtain ⟨n,hn,htokens,hshape,_⟩ := hp
  obtain ⟨_,hfull⟩ := hc.full rfl hn htokens
  rw [blocks_length r (prefillNeed n) hshape.tables] at hroom
  apply (allocate_ok_iff a r _).mpr
  rw [hshape.layer0.2]
  simp only [decodeNeed, hn, if_true, prefillNeed, defaultKvBlockSize, gpt2NLayers,
    defaultTotalKvBlocks, maxSeq] at *
  omega

theorem placed_swap_in
    (hp : Placed (a.swappedRequests.lookup r.requestId) r .swapOut) (hc : Covered .swapOut r)
    (hbuffers : SwapInBuffers a)
    (hroom : a.blockManager.gpu.ids.length+r.blocks.length = defaultTotalKvBlocks) :
    (a.swapIn r).ok = true := by
  obtain ⟨n,hn,htokens,hshape,swapped,hentry,hfits⟩ := hp
  obtain ⟨hpos,hfull⟩ := hc.full rfl hn htokens
  rw [hshape.blocks_empty, List.length_nil, Nat.add_zero] at hroom
  have hexpected : 0 < expected swapped ∧ expected swapped ≤ maxTotalBlocks := by
    rw [expected, hfits.blocks]
    simp only [prefillNeed, maxTotalBlocks, defaultKvBlockSize, gpt2NLayers, maxSeq] at *
    omega
  refine (swap_in_ok_iff a r).mpr ⟨swapped,hentry,?_,hbuffers.succeeds 4⟩
  refine ⟨hexpected.1,hfits.size,?_,hbuffers.staging,hbuffers.dst,?_⟩
  · rw [hroom]
    exact hexpected.2.trans (by decide)
  · rw [hbuffers.capacity]
    exact hexpected.2

end Calls

section Runs

variable {C : Type*} {be : InferenceBackend B} {allowed : Request → Response → Prop}

def PromptCovered (holds : Request → Prop) (req : Request) : Prop :=
  NewRequest holds req ∧ Covered .request req

theorem move_covered {A : Type*} {kv : KvAllocator A} {a a' : A} {p q : Place} {r r' : Request}
    {resps : List Response} (h : p = .finish ∨ Covered p r)
    (m : Move kv allowed a p r a' q r' resps) : q = .finish ∨ Covered q r' := by
  rcases h with rfl | h
  · cases m with
    | prefillGranted _ _ hp => simp at hp
    | served _ _ _ _ _ hp => cases hp
    | closed _ _ _ _ _ hp => cases hp
  · rcases move_text m with hq | ⟨ht,hq⟩ | ⟨cache,answer,hp,_,hf,_,rfl⟩
    · exact .inl hq
    · exact .inr ⟨h.budget.text ht hq,ht.promptsLen ▸ h.prompt,ht.promptsLen ▸ h.serviceable⟩
    · exact .inr ⟨h.budget.served hp hf,h.prompt,h.serviceable⟩

theorem visited_serviceable {device : Device α} (hcuda : ∀ i, device.cuda i = true) {b : B}
    {async : Bool} {s : Scheduler (RealKvAllocator α) B}
    (h : Visited (realKvAllocator α) be allowed PromptCovered (startedReal device b async) s) :
    AllServiceable s := by
  have hcustody : Custody defaultTotalKvBlocks defaultTotalCpuBlocks s.board :=
    visited_custody (steps_widen h fun _ _ hreq => hreq.1)
  obtain ⟨hbuffers,hplaces⟩ := visited_each SwapInBuffers (fun p r => p = .finish ∨ Covered p r)
    (fun _ _ hreq => .inr hreq.2)
    (fun _ _ _ _ _ _ _ ha hp m => ⟨move_buffers ha m,move_covered hp m⟩) h
    (new_buffers device hcuda)
  have hplaced (p : Place) (r : Request) (hr : r ∈ s.queues p) :
      Placed (s.kvAllocator.swappedRequests.lookup r.requestId) r p :=
    hcustody.placed (p,r) ((mem_held s p r).mpr hr)
  refine ⟨fun r hr => ?_,fun r hr => ?_,fun r hr => ?_⟩
  · exact placed_prefill (hplaced _ r hr) ((hplaces _ r hr).resolve_left (by decide))
      (alone_room hcustody hr)
  · exact placed_decode (hplaced _ r hr) ((hplaces _ r hr).resolve_left (by decide))
      (alone_room hcustody hr)
  · have hroom := alone_room hcustody hr
    rw [alone, free_all_blocks] at hroom ⊢
    exact placed_swap_in (hplaced _ r hr) ((hplaces _ r hr).resolve_left (by decide))
      ⟨hbuffers.cuda,hbuffers.staging,hbuffers.dst,hbuffers.capacity⟩ hroom

def ServerContext.nextId {A : Type*} (s : ServerContext C A B) : UInt64 :=
  (ServerContext.asInt s.nextRequestId).toInt64.toUInt64

def LineServiceable {A : Type*} (s : ServerContext C A B) (line : List UInt8) : Prop :=
  parseRequest line = [] ∨ (PromptServiceable (parseRequest line).length ∧
    ∀ r, s.scheduler.Holds r → r.requestId ≠ s.nextId)

variable [DecidableEq C]

/-- In every run whose lines are serviceable, no request is deferred for ever. -/
theorem all_serviceable (be : InferenceBackend B) (device : Device α)
    (hcuda : ∀ i, device.cuda i = true) (b : B) (async : Bool)
    (s : ServerContext C (RealKvAllocator α) B)
    (h : ServerContext.Reached (realKvAllocator α) be Anything LineServiceable
      (listeningReal C device b async) s) :
    AllServiceable s.scheduler := by
  have hsteps : True ∧ Steps (realKvAllocator α) be Anything PromptCovered
      (startedReal device b async) s.scheduler := by
    refine ServerContext.reached_steps (fun _ => True) (fun _ _ _ _ => trivial) ?_
      (fun _ _ _ _ => trivial) trivial h
    intro s client line _ hline
    refine ⟨trivial,ServerContext.on_line_steps client line s fun hne => ?_⟩
    obtain ⟨hserviceable,hfresh⟩ := hline.resolve_left hne
    exact ⟨⟨⟨_,_,_,rfl⟩,hfresh⟩,new_budget _ _,List.length_pos_of_ne_nil hne,hserviceable⟩
  exact visited_serviceable hcuda hsteps.2

end Runs

section LongLines

def admitted {A : Type*} (kv : KvAllocator A) (s : Scheduler A B) : Scheduler A B :=
  (s.drainNewRequests.admitWaitingPrefill kv).2

theorem admitted_steps {A : Type*} {kv : KvAllocator A} {be : InferenceBackend B}
    {allowed : Request → Response → Prop} {admissible : (Request → Prop) → Request → Prop}
    (s : Scheduler A B) : Steps kv be allowed admissible s (admitted kv s) :=
  (for_front_run _ _ .enqueue _ s).trans (admit_waiting_steps _)

theorem first_deferred {A : Type*} (kv : KvAllocator A) (a : A) (b : B) (async : Bool)
    (r : Request) (h : kv.allocatePrefill a r = ⟨false,a,r⟩) :
    (admitted kv ((started a b async).submitRequest r)).queues .deferredPrefill =
      [r.withState .deferredPrefillKV] ∧
    (admitted kv ((started a b async).submitRequest r)).kvAllocator = a := by
  simp [admitted, drainNewRequests, admitWaitingPrefill, forFront, popFront, submitRequest,
    pushBack, setQueue, started, enqueueWaiting, admitWaitingTurn, withAllocator, h]

theorem second_deferred {A : Type*} (kv : KvAllocator A) (a a' : A) (b : B) (async : Bool)
    (r q r' : Request) (h : kv.allocatePrefill a r = ⟨true,a',q⟩)
    (h' : kv.allocatePrefill a' r' = ⟨false,a',r'⟩) :
    (admitted kv (((started a b async).submitRequest r).submitRequest r')).queues
      .deferredPrefill = [r'.withState .deferredPrefillKV] := by
  simp [admitted, drainNewRequests, admitWaitingPrefill, forFront, popFront, submitRequest,
    pushBack, setQueue, started, enqueueWaiting, admitWaitingTurn, withAllocator, h, h']

def zeroRequest (reqId : Int32) (n : ℕ) : Request :=
  Request.new reqId (List.replicate n 0) ServerContext.defaultMaxNewTokens

theorem zeros_read {C A : Type*} [DecidableEq C] (s : ServerContext C A B) (client : C) (n : ℕ)
    (hn : 0 < n) (h : s.readBuffer client = []) :
    (s.onRead client (zeros n++[newline])).scheduler =
      s.scheduler.submitRequest (zeroRequest (ServerContext.asInt s.nextRequestId) n) ∧
    (s.onRead client (zeros n++[newline])).nextRequestId = s.nextRequestId+1 ∧
    (s.onRead client (zeros n++[newline])).readBuffer client = [] := by
  have hne : parseRequest (zeros n) ≠ [] := by
    rw [parse_zeros]
    exact List.ne_nil_of_length_pos (by rwa [List.length_replicate])
  rw [ServerContext.on_read_line s client _ h (zeros_line n), ServerContext.on_line_buffer,
    ServerContext.set_buffer_get]
  unfold ServerContext.onLine
  rw [if_neg hne, parse_zeros]
  exact ⟨rfl,rfl,rfl⟩

theorem fresh_total : (RealKvAllocator.new freshDevice).blockManager.gpu.total =
    defaultTotalKvBlocks := by
  rw [(new_allocator freshDevice).1]
  rfl

def oneLong (n : ℕ) : ServerContext Unit (RealKvAllocator ℤ) Unit :=
  oneClient.onRead () (zeros n++[newline])

def twoLong (n : ℕ) : ServerContext Unit (RealKvAllocator ℤ) Unit :=
  (oneLong n).onRead () (zeros n++[newline])

theorem one_long_read (n : ℕ) (hn : 0 < n) : (oneLong n).scheduler =
    (startedReal freshDevice () true).submitRequest (zeroRequest 1 n) ∧
    (oneLong n).nextRequestId = 2 ∧ (oneLong n).readBuffer () = [] :=
  zeros_read oneClient () n hn rfl

theorem two_long_read (n : ℕ) (hn : 0 < n) : (twoLong n).scheduler =
    ((startedReal freshDevice () true).submitRequest (zeroRequest 1 n)).submitRequest
      (zeroRequest 2 n) := by
  obtain ⟨hfirst,hid,hbuffer⟩ := one_long_read n hn
  have hsecond := (zeros_read (oneLong n) () n hn hbuffer).1
  rw [hfirst, hid] at hsecond
  exact hsecond

theorem two_long_reached (n : ℕ) (hn : 0 < n) (hs : PromptServiceable n) :
    ServerContext.Reached (realKvAllocator ℤ) mockBackend Anything LineServiceable
      oneClient { twoLong n with
        scheduler := admitted (realKvAllocator ℤ) (twoLong n).scheduler } := by
  obtain ⟨hfirst,hid,hbuffer⟩ := one_long_read n hn
  have hprompt : PromptServiceable (parseRequest (zeros n)).length := by
    rwa [parse_zeros, List.length_replicate]
  have hread : oneClient.ReadMeets LineServiceable () (zeros n++[newline]) := by
    apply ServerContext.read_meets_line _ _ _ _ rfl (zeros_line n)
    exact .inr ⟨hprompt,fun r ⟨_,hr⟩ => absurd hr List.not_mem_nil⟩
  have hread' : (oneLong n).ReadMeets LineServiceable () (zeros n++[newline]) := by
    apply ServerContext.read_meets_line _ _ _ _ hbuffer (zeros_line n)
    refine .inr ⟨hprompt,?_⟩
    rintro r ⟨p,hr⟩
    have hheld : r = zeroRequest 1 n := by
      change r ∈ (oneLong n).scheduler.queues p at hr
      rw [hfirst, submitRequest, push_back_queues] at hr
      split at hr
      · exact List.mem_singleton.mp hr
      · exact absurd hr List.not_mem_nil
    rw [hheld, ServerContext.nextId]
    change _ ≠ (ServerContext.asInt (oneLong n).nextRequestId).toInt64.toUInt64
    rw [hid]
    exact show (1 : Int32).toInt64.toUInt64 ≠ (ServerContext.asInt 2).toInt64.toUInt64 by decide
  exact ((ServerContext.Reached.start.read oneClient () _ hread).read _ () _ hread').works
    (admitted_steps _)

theorem two_long_deferred (n : ℕ) (hn : 0 < n)
    (hone : prefillNeed n*gpt2NLayers ≤ defaultTotalKvBlocks)
    (htwo : defaultTotalKvBlocks < 2*(prefillNeed n*gpt2NLayers)) :
    (admitted (realKvAllocator ℤ) (twoLong n).scheduler).queues .deferredPrefill =
      [(zeroRequest 2 n).withState .deferredPrefillKV] := by
  have hlength (reqId : Int32) : (zeroRequest reqId n).promptsLen = n := List.length_replicate
  have hfresh : (RealKvAllocator.new freshDevice).blockManager.gpu.ids.length =
      defaultTotalKvBlocks := by
    rw [(new_allocator freshDevice).1]
    simp [BlockManager.new]
  rw [two_long_read n hn]
  rcases allocate_layers_cases (RealKvAllocator.new freshDevice) (zeroRequest 1 n)
    (prefillNeed (zeroRequest 1 n).promptsLen) with ⟨hfew,_⟩ | ⟨bm,hd,hgranted⟩
  · rw [hlength] at hfew
    omega
  · have hleft : bm.gpu.ids.length = defaultTotalKvBlocks-prefillNeed n*gpt2NLayers := by
      rw [hd.gpu, FreeStack.drop_ids, List.length_drop, hfresh, hlength]
    have hrefused (a : RealKvAllocator ℤ) (ha : a.blockManager = bm) :
        a.allocatePrefill (zeroRequest 2 n) = ⟨false,a,zeroRequest 2 n⟩ := by
      rcases allocate_layers_cases a (zeroRequest 2 n)
        (prefillNeed (zeroRequest 2 n).promptsLen) with ⟨_,ho⟩ | ⟨_,hd',_⟩
      · exact ho
      · have henough := hd'.enough
        rw [ha, hleft, hlength] at henough
        omega
    exact second_deferred (realKvAllocator ℤ) _ _ () true _ _ _ hgranted (hrefused _ rfl)

theorem two_lines_serviceable :
    ((admitted (realKvAllocator ℤ) (twoLong 3985).scheduler).queues .deferredPrefill).length = 1 ∧
      AllServiceable (admitted (realKvAllocator ℤ) (twoLong 3985).scheduler) := by
  have hprompt : PromptServiceable 3985 := by
    refine ⟨by decide,fun n hn hlow hhigh => ?_⟩
    simp only [defaultKvBlockSize] at hn
    omega
  refine ⟨?_,?_⟩
  · rw [two_long_deferred 3985 (by decide) hprompt.1 (by decide)]
    rfl
  · have hreached := two_long_reached 3985 (by decide) hprompt
    have hall := all_serviceable mockBackend freshDevice (fun _ => rfl) () true _ hreached
    dsimp only at hall
    exact hall

/-- A prompt that does not fit the pool is deferred for ever. -/
theorem long_line_stuck (n : ℕ) (h : NeverAdmitted n) :
    ServerContext.Reached (realKvAllocator ℤ) mockBackend Anything (fun _ _ => True) oneClient
      { oneLong n with scheduler := admitted (realKvAllocator ℤ) (oneLong n).scheduler } ∧
    ¬ AllServiceable (admitted (realKvAllocator ℤ) (oneLong n).scheduler) := by
  have hn : 0 < n := by
    apply Nat.pos_of_ne_zero
    rintro rfl
    exact absurd h (by unfold NeverAdmitted; decide)
  have hread : oneClient.ReadMeets (fun _ _ => True) () (zeros n++[newline]) :=
    ServerContext.read_meets_line _ _ _ _ rfl (zeros_line n) trivial
  refine ⟨(ServerContext.Reached.start.read oneClient () _ hread).works (admitted_steps _),?_⟩
  intro hall
  have hlength : (zeroRequest 1 n).promptsLen = n := List.length_replicate
  have hrefused := never_admitted_refused (RealKvAllocator.new freshDevice) (zeroRequest 1 n)
    fresh_total (hlength.symm ▸ h)
  obtain ⟨hdeferred,halloc⟩ := first_deferred (realKvAllocator ℤ) _ () true _ hrefused
  rw [(one_long_read n hn).1, startedReal] at hall
  have hok := hall.prefill _ (hdeferred ▸ List.mem_singleton_self _)
  rw [alone, free_all_blocks, halloc] at hok
  rw [never_admitted_refused _ _ ((BlockManager.free_total _ _).trans fresh_total)
    (hlength.symm ▸ h)] at hok
  cases hok

theorem long_line_unserviceable : ¬ ∀ s, ServerContext.Reached (realKvAllocator ℤ) mockBackend
    Anything (fun _ _ => True) oneClient s → AllServiceable s.scheduler := by
  intro h
  have hlong : NeverAdmitted 5457 := by
    unfold NeverAdmitted
    decide
  obtain ⟨hreached,hstuck⟩ := long_line_stuck 5457 hlong
  have hall := h _ hreached
  dsimp only at hall
  exact hstuck hall

end LongLines

end MiniLlm

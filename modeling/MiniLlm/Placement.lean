import MiniLlm.Ownership
import MiniLlm.SchedulerBoard

/-!
# What a request looks like in each place

With the real allocator the place of a request fixes its state, its
residency, the length of its tables and the number of its cached tokens.
Cached tokens and tables are told for all layers at once, so the allocator's
look at layer 0 speaks for all of them.
-/

set_option autoImplicit false

namespace MiniLlm

open RealKvAllocator Scheduler

variable {α : Type*}

structure Shaped (r : Request) (residency : KvCacheResidency) (state : RequestState)
    (blocks tokens : ℕ) : Prop where
  residency : r.kvResidency = residency
  state : r.state = state
  tables : ∀ kv ∈ r.layerKv, kv.numBlocks = blocks
  cached : ∀ kv ∈ r.layerKv, kv.numTokens = tokens

/-- The entry of a request that had `n` cached tokens and no spare block. -/
structure EntryFits (swapped : SwappedRequest) (n : ℕ) : Prop where
  blocks : swapped.blocksPerLayer = prefillNeed n
  size : swapped.cpuBlocks.length = expected swapped
  tokens : restoredNumTokens swapped = n

def Decoding (entry : Option SwappedRequest) (r : Request) (state : RequestState)
    (blocks : ℕ → ℕ) (n : ℕ) : Prop :=
  r.tokens.length = n+1 ∧ Shaped r .gpu state (blocks n) n ∧ entry = none

def Placed (entry : Option SwappedRequest) (r : Request) : Place → Prop
  | .request | .waitingPrefill =>
    r.tokens.length = r.promptsLen ∧ Shaped r .none .waitingPrefill 0 0 ∧ entry = none
  | .deferredPrefill =>
    r.tokens.length = r.promptsLen ∧ Shaped r .none .deferredPrefillKV 0 0 ∧ entry = none
  | .prefill | .prefillBatch =>
    r.tokens.length = r.promptsLen ∧
      Shaped r .gpu .prefillRunning (prefillNeed r.promptsLen) 0 ∧ entry = none
  | .decode | .nextDecode => ∃ n, Decoding entry r .decodeReady prefillNeed n
  | .deferredDecode =>
    ∃ n, n%defaultKvBlockSize = 0 ∧ Decoding entry r .deferredDecodeKV prefillNeed n
  | .decodeBatch => ∃ n, Decoding entry r .decodeRunning (·/defaultKvBlockSize+1) n
  | .swapOut => ∃ n, n%defaultKvBlockSize = 0 ∧ r.tokens.length = n+1 ∧
      Shaped r .cpu .swappedOut 0 0 ∧ ∃ swapped, entry = some swapped ∧ EntryFits swapped n
  | .finish => Shaped r .none .finished 0 0 ∧ entry = none
  | .cancel => False

theorem placed_entry {entry : Option SwappedRequest} {r : Request} {p : Place}
    (h : Placed entry r p) : entry = none ∨ p = .swapOut := by
  cases p with
  | request | waitingPrefill | deferredPrefill | prefill | prefillBatch => exact .inl h.2.2
  | decode | nextDecode | decodeBatch =>
    obtain ⟨_,_,_,hentry⟩ := h
    exact .inl hentry
  | deferredDecode =>
    obtain ⟨_,_,_,_,hentry⟩ := h
    exact .inl hentry
  | finish => exact .inl h.2
  | cancel => exact h.elim
  | swapOut => exact .inr rfl

section Shapes

variable {r : Request} {residency : KvCacheResidency} {state : RequestState} {blocks tokens : ℕ}

theorem Shaped.withState (h : Shaped r residency state blocks tokens) (next : RequestState) :
    Shaped (r.withState next) residency next blocks tokens := ⟨h.residency,rfl,h.tables,h.cached⟩

theorem Shaped.layer0 (h : Shaped r residency state blocks tokens) :
    r.layer0.numBlocks = blocks ∧ r.layer0.numTokens = tokens :=
  ⟨h.tables _ r.layer0_mem,h.cached _ r.layer0_mem⟩

theorem Shaped.blocks_empty (h : Shaped r residency state 0 tokens) : r.blocks = [] :=
  List.flatMap_eq_nil_iff.mpr fun kv hkv => List.eq_nil_of_length_eq_zero (h.tables kv hkv)

theorem extended_shape (need : ℕ) (kvs : List PagedKVCache) (ids : List ℕ)
    (h : need*kvs.length ≤ ids.length) : ∀ kv ∈ extended need kvs ids, ∃ old ∈ kvs,
      kv.numBlocks = old.numBlocks+need ∧ kv.numTokens = old.numTokens := by
  induction kvs generalizing ids with
  | nil => simp [extended]
  | cons first kvs ih =>
    simp only [List.length_cons, Nat.mul_add, Nat.mul_one] at h
    intro kv hkv
    rcases List.mem_cons.mp hkv with rfl | hkv
    · refine ⟨first,by simp,?_,rfl⟩
      simp only [PagedKVCache.numBlocks, List.length_append, List.length_take]
      omega
    · obtain ⟨old,hold,hsame⟩ := ih (ids.drop need) (by rw [List.length_drop]; omega) kv hkv
      exact ⟨old,List.mem_cons_of_mem _ hold,hsame⟩

theorem Shaped.grant (h : Shaped r residency state blocks tokens) (need : ℕ) (ids : List ℕ)
    (hn : need*gpt2NLayers ≤ ids.length) :
    Shaped (r.grant need ids) .gpu state (blocks+need) tokens := by
  have hshape := extended_shape need r.layerKv ids (by rw [r.layers]; exact hn)
  refine ⟨rfl,h.state,?_,?_⟩
  · intro kv hkv
    obtain ⟨old,hold,hb,_⟩ := hshape kv hkv
    rw [hb, h.tables old hold]
  · intro kv hkv
    obtain ⟨old,hold,_,ht⟩ := hshape kv hkv
    rw [ht, h.cached old hold]

theorem Shaped.mapCaches (h : Shaped r residency state blocks tokens)
    (f : PagedKVCache → PagedKVCache) (b t : ℕ)
    (hb : ∀ kv ∈ r.layerKv, (f kv).numBlocks = b) (ht : ∀ kv ∈ r.layerKv, (f kv).numTokens = t) :
    Shaped (r.mapCaches f) residency state b t := by
  refine ⟨h.residency,h.state,?_,?_⟩
  · intro kv hkv
    obtain ⟨old,hold,rfl⟩ := List.mem_map.mp hkv
    exact hb old hold
  · intro kv hkv
    obtain ⟨old,hold,rfl⟩ := List.mem_map.mp hkv
    exact ht old hold

theorem Shaped.reset (h : Shaped r residency state blocks tokens) :
    Shaped (r.mapCaches PagedKVCache.reset) residency state 0 0 :=
  h.mapCaches _ 0 0 (fun _ _ => rfl) (fun _ _ => rfl)

theorem Shaped.free (h : Shaped r residency state blocks tokens) (a : RealKvAllocator α) :
    Shaped (a.freeRequest r).2 .none state 0 0 := ⟨rfl,h.state,h.reset.tables,h.reset.cached⟩

theorem restored_shape (bpl tokens : ℕ) (kvs : List PagedKVCache) (ids : List ℕ)
    (h : bpl*kvs.length ≤ ids.length) : ∀ kv ∈ restoredCaches bpl tokens kvs ids,
      kv.numBlocks = bpl ∧ kv.numTokens = tokens := by
  induction kvs generalizing ids with
  | nil => simp [restoredCaches]
  | cons first kvs ih =>
    simp only [List.length_cons, Nat.mul_add, Nat.mul_one] at h
    intro kv hkv
    rcases List.mem_cons.mp hkv with rfl | hkv
    · refine ⟨?_,rfl⟩
      simp only [PagedKVCache.numBlocks, List.length_take]
      omega
    · exact ih (ids.drop bpl) (by rw [List.length_drop]; omega) kv hkv

end Shapes

theorem taken_length (a : RealKvAllocator α) (r : Request)
    (hn : neededCpuBlocks r ≤ a.blockManager.cpu.ids.length) :
    (a.cpuTaken r).length = r.layer0.numBlocks*gpt2NLayers := by
  rw [cpuTaken, List.length_take, Nat.min_eq_left hn, neededCpuBlocks]

theorem entry_tokens (a : RealKvAllocator α) (r : Request)
    (hn : neededCpuBlocks r ≤ a.blockManager.cpu.ids.length) :
    restoredNumTokens (a.entryOf r) =
      min r.layer0.numTokens (r.layer0.numBlocks*defaultKvBlockSize) := by
  have htaken := taken_length a r hn
  obtain ⟨kv,kvs,hkvs⟩ := List.exists_cons_of_length_eq_add_one r.layers
  have hfirst : r.layer0 = kv := by simp [Request.layer0, hkvs]
  have hlen : (saved kv.numTokens 0 ((a.cpuTaken r).take r.layer0.numBlocks)).length =
      r.layer0.numBlocks := by
    rw [saved_length, List.length_take, htaken]
    simp only [gpt2NLayers]
    omega
  have hfront : ((a.entryOf r).cpuBlocks.take (a.entryOf r).blocksPerLayer) =
      saved kv.numTokens 0 ((a.cpuTaken r).take r.layer0.numBlocks) := by
    change (savedLayers r.layer0.numBlocks r.layerKv (a.cpuTaken r)).take r.layer0.numBlocks = _
    rw [hkvs, savedLayers, List.take_append_of_le_length (by rw [hlen]),
      List.take_of_length_le (by rw [hlen])]
  rw [restoredNumTokens, hfront, saved_tokens]
  rw [saved_length] at hlen
  rw [hlen, Nat.zero_mul, Nat.sub_zero, hfirst]

theorem entry_fits (a : RealKvAllocator α) (r : Request) {residency : KvCacheResidency}
    {state : RequestState} {n : ℕ} (h : Shaped r residency state (prefillNeed n) n)
    (hn : neededCpuBlocks r ≤ a.blockManager.cpu.ids.length) : EntryFits (a.entryOf r) n := by
  have htaken := taken_length a r hn
  refine ⟨h.layer0.1,?_,?_⟩
  · rw [entryOf, saved_layers_length _ _ _ (by rw [htaken, r.layers]), htaken]
    rfl
  · rw [entry_tokens a r hn, h.layer0.1, h.layer0.2, prefillNeed]
    simp only [defaultKvBlockSize]
    omega

theorem allocate_granted (a : RealKvAllocator α) (r : Request) (need : ℕ)
    (h : (a.allocateLayers r need).ok = true) :
    need*gpt2NLayers ≤ a.blockManager.gpu.ids.length ∧
      (a.allocateLayers r need).req = r.grant need a.blockManager.gpu.ids ∧
      (a.allocateLayers r need).alloc.swappedRequests = a.swappedRequests := by
  rcases allocate_layers_cases a r need with ⟨_,ho⟩ | ⟨bm,hd,ho⟩
  · rw [ho] at h
    cases h
  · rw [ho]
    exact ⟨hd.enough,rfl,rfl⟩

theorem allocate_refused (a : RealKvAllocator α) (r : Request) (need : ℕ)
    (h : (a.allocateLayers r need).ok = false) :
    a.blockManager.gpu.ids.length < need*gpt2NLayers ∧
      a.allocateLayers r need = ⟨false,a,r⟩ := by
  rcases allocate_layers_cases a r need with ho | ⟨bm,_,ho⟩
  · exact ho
  · rw [ho] at h
    cases h

theorem need_decode (n : ℕ) : prefillNeed n+decodeNeed n = n/defaultKvBlockSize+1 := by
  simp only [prefillNeed, decodeNeed, defaultKvBlockSize]
  split <;> omega

theorem need_next (n : ℕ) : prefillNeed (n+1) = n/defaultKvBlockSize+1 := by
  simp only [prefillNeed, defaultKvBlockSize]
  omega

section Moves

variable {a a' : RealKvAllocator α} {p q : Place} {r r' : Request} {resps : List Response}
  {allowed : Request → Response → Prop}

theorem served_shape {residency : KvCacheResidency} {state : RequestState} {blocks tokens : ℕ}
    (h : Shaped r residency state blocks tokens) (answer : Option Response)
    (cache : Request → PagedKVCache → PagedKVCache) (n : ℕ)
    (hb : ∀ kv, (cache r kv).numBlocks = kv.numBlocks)
    (hn : ∀ kv ∈ r.layerKv, (cache r kv).numTokens = n) :
    Shaped (servedRequest cache answer r) residency state blocks n := by
  have hmap := h.mapCaches (cache r) blocks n
    (fun kv hkv => (hb kv).trans (h.tables kv hkv)) hn
  exact ⟨hmap.residency,hmap.state,hmap.tables,hmap.cached⟩

theorem serving_shape {ready : Place} {cache : Request → PagedKVCache → PagedKVCache}
    (hp : Serving p cache ready) {entry : Option SwappedRequest} (h : Placed entry r p)
    (answer : Option Response) : ∃ n state, (servedRequest cache answer r).tokens.length = n+1 ∧
      Shaped (servedRequest cache answer r) .gpu state (prefillNeed n) n ∧ entry = none := by
  cases hp with
  | decode =>
    obtain ⟨n,htokens,hshape,hentry⟩ := h
    refine ⟨n+1,.decodeRunning,?_,?_,hentry⟩
    · simp [servedRequest, Request.pushToken, Request.mapCaches, Request.withCaches, htokens]
    · rw [need_next]
      refine served_shape hshape answer _ (n+1) (fun _ => rfl) fun kv hkv => ?_
      rw [PagedKVCache.increment_tokens_tokens, hshape.cached kv hkv]
  | prefill =>
    obtain ⟨htokens,hshape,hentry⟩ := h
    refine ⟨r.promptsLen,.prefillRunning,?_,?_,hentry⟩
    · simp [servedRequest, Request.pushToken, Request.mapCaches, Request.withCaches, htokens]
    · exact served_shape hshape answer _ _ (fun _ => rfl) fun _ _ => rfl

theorem served_blocks {ready : Place} {cache : Request → PagedKVCache → PagedKVCache}
    (hp : Serving p cache ready) (answer : Option Response) :
    (servedRequest cache answer r).blocks = r.blocks := by
  cases hp with
  | decode => exact map_caches_blocks r _ fun _ => rfl
  | prefill => exact map_caches_blocks r _ fun _ => rfl

theorem prefill_granted_placed (hp : p = .waitingPrefill ∨ p = .deferredPrefill)
    (h : Placed (a.swappedRequests.lookup r.requestId) r p)
    (hok : (a.allocateLayers r (prefillNeed r.promptsLen)).ok = true) :
    Placed ((a.allocateLayers r (prefillNeed r.promptsLen)).alloc.swappedRequests.lookup
        r.requestId)
      ((a.allocateLayers r (prefillNeed r.promptsLen)).req.withState .prefillRunning)
      .prefill := by
  have hplaced : r.tokens.length = r.promptsLen ∧ (∃ state, Shaped r .none state 0 0) ∧
      a.swappedRequests.lookup r.requestId = none := by
    rcases hp with rfl | rfl
    · exact ⟨h.1,⟨_,h.2.1⟩,h.2.2⟩
    · exact ⟨h.1,⟨_,h.2.1⟩,h.2.2⟩
  obtain ⟨htokens,⟨state,hshape⟩,hentry⟩ := hplaced
  obtain ⟨hn,hreq,hsame⟩ := allocate_granted a r _ hok
  rw [hreq, hsame]
  have hgrant := (hshape.grant _ _ hn).withState .prefillRunning
  rw [Nat.zero_add] at hgrant
  exact ⟨htokens,hgrant,hentry⟩

theorem decode_granted_placed (h : Placed (a.swappedRequests.lookup r.requestId) r .decode)
    (hok : (a.allocateLayers r (decodeNeed r.layer0.numTokens)).ok = true) :
    Placed ((a.allocateLayers r (decodeNeed r.layer0.numTokens)).alloc.swappedRequests.lookup
        r.requestId)
      ((a.allocateLayers r (decodeNeed r.layer0.numTokens)).req.withState .decodeRunning)
      .decodeBatch := by
  obtain ⟨n,htokens,hshape,hentry⟩ := h
  obtain ⟨hn,hreq,hsame⟩ := allocate_granted a r _ hok
  rw [hreq, hsame]
  have hgrant := (hshape.grant _ _ hn).withState .decodeRunning
  rw [hshape.layer0.2, need_decode] at hgrant
  exact ⟨n,htokens,hshape.layer0.2.symm ▸ hgrant,hentry⟩

theorem decode_refused_placed (h : Placed (a.swappedRequests.lookup r.requestId) r .decode)
    (hok : (a.allocateLayers r (decodeNeed r.layer0.numTokens)).ok = false) :
    Placed ((a.allocateLayers r (decodeNeed r.layer0.numTokens)).alloc.swappedRequests.lookup
        r.requestId)
      ((a.allocateLayers r (decodeNeed r.layer0.numTokens)).req.withState .deferredDecodeKV)
      .deferredDecode := by
  obtain ⟨n,htokens,hshape,hentry⟩ := h
  obtain ⟨hfew,hout⟩ := allocate_refused a r _ hok
  rw [hout]
  rw [hshape.layer0.2, decodeNeed] at hfew
  refine ⟨n,?_,htokens,hshape.withState _,hentry⟩
  by_contra hne
  rw [if_neg hne] at hfew
  omega

theorem swapped_in_placed (h : Placed (a.swappedRequests.lookup r.requestId) r .swapOut)
    (hok : (a.swapIn r).ok = true) :
    Placed ((a.swapIn r).alloc.swappedRequests.lookup r.requestId)
      ((a.swapIn r).req.withState .decodeReady) .decode := by
  obtain ⟨n,_,htokens,hshape,swapped,hentry,hfits⟩ := h
  obtain ⟨hready,bm,_,hout⟩ := swap_in_of_ok a r swapped hentry hok
  rw [hout]
  have hback := restored_shape swapped.blocksPerLayer (restoredNumTokens swapped) r.layerKv
    a.blockManager.gpu.ids (by rw [r.layers]; exact hready.room)
  rw [hfits.blocks, hfits.tokens] at hback
  refine ⟨n,htokens,⟨rfl,rfl,fun kv hkv => (hback kv ?_).1,fun kv hkv => (hback kv ?_).2⟩,
    AList.lookup_erase _ _⟩
  all_goals
    rw [← hfits.tokens]
    conv in prefillNeed (restoredNumTokens swapped) => rw [hfits.tokens, ← hfits.blocks]
    exact hkv

theorem swap_in_refused_placed (h : Placed (a.swappedRequests.lookup r.requestId) r .swapOut)
    (hok : (a.swapIn r).ok = false) :
    Placed ((a.swapIn r).alloc.swappedRequests.lookup r.requestId)
      ((a.swapIn r).req.withState .swappedOut) .swapOut := by
  obtain ⟨n,hn,htokens,hshape,swapped,hentry,hfits⟩ := h
  have hcase := swap_in_case a r
  generalize a.swapIn r = out at hcase hok
  cases hcase with
  | refused => exact ⟨n,hn,htokens,hshape.withState _,swapped,hentry,hfits⟩
  | undone => exact ⟨n,hn,htokens,hshape.reset.withState _,swapped,hentry,hfits⟩
  | done => cases hok

theorem victim_out_placed
    (h : Placed (a.swappedRequests.lookup r.requestId) r .deferredDecode)
    (hok : (a.swapOut r).ok = true) :
    Placed ((a.swapOut r).alloc.swappedRequests.lookup r.requestId)
      ((a.swapOut r).req.withState .swappedOut) .swapOut := by
  obtain ⟨n,hn,htokens,hshape,hentry⟩ := h
  obtain ⟨_,hcpu,_⟩ := (swap_out_ok_iff a r).mp hok
  rw [swap_out_of_ok a r hok]
  exact ⟨n,hn,htokens,⟨rfl,rfl,hshape.reset.tables,hshape.reset.cached⟩,a.entryOf r,
    AList.lookup_insert _,entry_fits a r hshape hcpu⟩

theorem victim_kept_placed
    (h : Placed (a.swappedRequests.lookup r.requestId) r .deferredDecode)
    (hok : (a.swapOut r).ok = false) :
    Placed ((a.swapOut r).alloc.swappedRequests.lookup r.requestId)
      ((a.swapOut r).req.withState r.state) .deferredDecode := by
  obtain ⟨n,hn,htokens,hshape,hentry⟩ := h
  have hcase := swap_out_case a r
  generalize a.swapOut r = out at hcase hok
  cases hcase with
  | refused => exact ⟨n,hn,htokens,hshape.state ▸ hshape.withState _,hentry⟩
  | undone => exact ⟨n,hn,htokens,hshape.state ▸ hshape.withState _,hentry⟩
  | done => cases hok

/-- Placement survives every move. -/
theorem move_placed (h : Placed (a.swappedRequests.lookup r.requestId) r p)
    (m : Move (realKvAllocator α) allowed a p r a' q r' resps) :
    Placed (a'.swappedRequests.lookup r.requestId) r' q := by
  cases m with
  | enqueued => exact h
  | prefillGranted _ _ hp hok => exact prefill_granted_placed hp h hok
  | prefillRefused _ hok =>
    obtain ⟨htokens,hshape,hentry⟩ := h
    obtain ⟨_,hout⟩ := allocate_refused a r _ hok
    change Placed ((a.allocateLayers r (prefillNeed r.promptsLen)).alloc.swappedRequests.lookup _)
      ((a.allocateLayers r (prefillNeed r.promptsLen)).req.withState _) _
    rw [hout]
    exact ⟨htokens,hshape.withState _,hentry⟩
  | prefillRefusedAgain _ hok =>
    obtain ⟨_,hout⟩ := allocate_refused a r _ hok
    change Placed ((a.allocateLayers r (prefillNeed r.promptsLen)).alloc.swappedRequests.lookup _)
      (a.allocateLayers r (prefillNeed r.promptsLen)).req _
    rw [hout]
    exact h
  | decodeRetried =>
    obtain ⟨n,_,htokens,hshape,hentry⟩ := h
    exact ⟨n,htokens,hshape.withState _,hentry⟩
  | swappedIn _ hok => exact swapped_in_placed h hok
  | swapInRefused _ hok => exact swap_in_refused_placed h hok
  | decodeGranted _ hok => exact decode_granted_placed h hok
  | decodeRefused _ hok => exact decode_refused_placed h hok
  | prefillStarted =>
    obtain ⟨htokens,hshape,hentry⟩ := h
    exact ⟨htokens,hshape.withState _,hentry⟩
  | flushed => exact h
  | served _ _ cache _ answer hp _ _ =>
    obtain ⟨n,state,htokens,hshape,hentry⟩ := serving_shape hp h answer
    cases hp with
    | decode => exact ⟨n,htokens,hshape.withState _,hentry⟩
    | prefill => exact ⟨n,htokens,hshape.withState _,hentry⟩
  | closed _ _ cache _ answer hp _ _ =>
    obtain ⟨n,state,_,hshape,hentry⟩ := serving_shape hp h answer
    exact ⟨(hshape.free a).withState _,hentry⟩
  | victimOut _ hr hs hok => exact victim_out_placed h hok
  | victimKept _ hr hs hok => exact victim_kept_placed h hok

end Moves

end MiniLlm

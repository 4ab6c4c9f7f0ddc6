import MiniLlm.PagedReads

/-!
# The paged cache over whole runs

No call of a run loses a cached position, so at every decode step attention
finds, through the flattened block table, exactly the vectors that were
appended for each position, in the part of the pool they belong to.
-/

set_option autoImplicit false

namespace MiniLlm

open FlatMemory RealKvAllocator PagedRun

variable {ι α : Type*} [DecidableEq ι]

section Exchanges

variable {a b : RealKvAllocator α} {request : ι → Request} {i : ι} {q : Request}

omit [DecidableEq ι] in
theorem Exchange.owned {r : Request} (h : Exchange a r b q) (ho : Owned a r) : Owned b q := by
  have hentries (c : ℕ) (hc : c ∈ recordedIds b.swappedRequests) :
      c < a.blockManager.cpu.total := by
    rcases List.mem_append.mp (h.cpu.mem_iff.mp (List.mem_append_right _ hc)) with hc | hc
    · exact a.blockManager.cpu.bounded c hc
    · exact ho.cpuBound c hc
  refine ⟨h.gpu.nodup_iff.mpr ho.gpu,?_,h.cpu.nodup_iff.mpr ho.cpu,?_⟩
  · intro p hp
    rw [h.gpuTotal]
    rcases List.mem_append.mp (h.gpu.mem_iff.mp (List.mem_append_right _ hp)) with hp | hp
    · exact a.blockManager.gpu.bounded p hp
    · exact ho.gpuBound p hp
  · rw [h.cpuTotal]
    exact hentries

theorem Exchange.apart (h : Exchange a (request i) b q) (ha : Apart a request) :
    Apart b (Function.update request i q) := by
  have hown := h.owned (ha.owned i)
  have hpart (p : ℕ) (hp : p ∈ b.blockManager.gpu.ids++q.blocks) (j : ι) (hj : j ≠ i) :
      p ∉ (request j).blocks := by
    rcases List.mem_append.mp (h.gpu.mem_iff.mp hp) with hm | hm
    · exact (List.nodup_append'.mp (ha.owned j).gpu).2.2 hm
    · exact ha.apart i j hj.symm hm
  constructor
  · intro j
    by_cases hj : j = i
    · subst hj
      rwa [Function.update_self]
    · rw [Function.update_of_ne hj]
      refine ⟨?_,?_,hown.cpu,hown.cpuBound⟩
      · apply List.nodup_append'.mpr
        refine ⟨b.blockManager.gpu.nodup,(List.nodup_append'.mp (ha.owned j).gpu).2.1,?_⟩
        exact fun p hp => hpart p (List.mem_append_left _ hp) j hj
      · rw [h.gpuTotal]
        exact (ha.owned j).gpuBound
  · intro j k hjk p hp hp'
    by_cases hj : j = i
    · subst hj
      rw [Function.update_self] at hp
      rw [Function.update_of_ne hjk.symm] at hp'
      exact hpart p (List.mem_append_right _ hp) k hjk.symm hp'
    · rw [Function.update_of_ne hj] at hp
      by_cases hk : k = i
      · subst hk
        rw [Function.update_self] at hp'
        exact hpart p (List.mem_append_right _ hp') j hj hp
      · rw [Function.update_of_ne hk] at hp'
        exact ha.apart j k hjk hp hp'

end Exchanges

section Calls

variable {w v : PagedRun ι α} {i : ι}

def CacheGrows (r q : Request) : Prop :=
  ∀ layer t, t < (q.cache layer).numTokens → t < (r.cache layer).numTokens ∧
    ∀ slot, tokenSlot (r.cache layer) t = some slot → tokenSlot (q.cache layer) t = some slot

theorem answer_sound (h : PagedSound w) (a : RealKvAllocator α) (q : Request)
    (hex : Exchange w.alloc (w.request i) a q) (hdevice : a.device = w.alloc.device)
    (hgrows : CacheGrows (w.request i) q) : PagedSound (w.answer i a q) where
  total := hex.gpuTotal.trans h.total
  apart := hex.apart h.apart
  kept := by
    intro j layer t ht
    have hpool : (w.answer i a q).pool = w.pool := congrArg Device.pool hdevice
    have hslot (slot : ℕ × ℕ) (hs : keySlot w.request (j,layer,t) = some slot) :
        keySlot (w.answer i a q).request (j,layer,t) = some slot := by
      by_cases hj : j = i
      · subst hj
        have ht' : t < (q.cache layer).numTokens := by simpa [answer] using ht
        simpa [keySlot, answer] using (hgrows layer t ht').2 slot hs
      · simpa [keySlot, answer, hj] using hs
    have ht' : t < ((w.request j).cache layer).numTokens := by
      by_cases hj : j = i
      · subst hj
        exact (hgrows layer t (by simpa [answer] using ht)).1
      · simpa [answer, hj] using ht
    obtain ⟨slot,kv,hs,hlog,hkeys,hvalues⟩ := h.kept j layer t ht'
    exact ⟨slot,kv,hslot slot hs,hlog,hpool ▸ hkeys,hpool ▸ hvalues⟩

theorem extended_get (need : ℕ) (kvs : List PagedKVCache) (ids : List ℕ) (l : ℕ)
    (kv : PagedKVCache) (hl : kvs[l]? = some kv) : ∃ extra, (extended need kvs ids)[l]? =
      some { kv with blockTable := kv.blockTable++extra } := by
  induction kvs generalizing ids l with
  | nil => simp at hl
  | cons first kvs ih =>
    cases l with
    | zero =>
      obtain rfl := Option.some.inj hl
      exact ⟨ids.take need,rfl⟩
    | succ l => exact ih (ids.drop need) l hl

theorem grant_grows (r : Request) (need : ℕ) (ids : List ℕ) : CacheGrows r (r.grant need ids) := by
  intro layer t ht
  obtain ⟨extra,hextra⟩ := extended_get need r.layerKv ids layer.val _ (r.cache_get layer)
  have hcache : (r.grant need ids).cache layer =
      { r.cache layer with blockTable := (r.cache layer).blockTable++extra } :=
    Option.some.inj (((r.grant need ids).cache_get layer).symm.trans hextra)
  rw [hcache] at ht ⊢
  refine ⟨ht,fun slot hs => ?_⟩
  obtain ⟨p,hp,rfl⟩ := Option.map_eq_some_iff.mp hs
  have hlt := (List.getElem?_eq_some_iff.mp hp).1
  apply Option.map_eq_some_iff.mpr
  exact ⟨p,(List.getElem?_append_left hlt).trans hp,rfl⟩

theorem allocate_sound (h : PagedSound w) (need : ℕ) :
    PagedSound (w.answer i (w.alloc.allocateLayers (w.request i) need).alloc
      (w.alloc.allocateLayers (w.request i) need).req) := by
  have hex := allocate_exchange w.alloc (w.request i) need
  rcases allocate_layers_cases w.alloc (w.request i) need with ⟨_,ho⟩ | ⟨bm,_,ho⟩
  · rw [ho] at hex ⊢
    exact answer_sound h _ _ hex rfl fun layer t ht => ⟨ht,fun _ hs => hs⟩
  · rw [ho] at hex ⊢
    exact answer_sound h _ _ hex rfl (grant_grows _ _ _)

theorem free_sound (h : PagedSound w) :
    PagedSound (w.answer i (w.alloc.freeRequest (w.request i)).1
      (w.alloc.freeRequest (w.request i)).2) := by
  have hex := free_exchange w.alloc (w.request i) (h.apart.owned i)
  apply answer_sound h _ _ hex rfl
  intro layer t ht
  have hreset : ((w.alloc.freeRequest (w.request i)).2.cache layer).numTokens = 0 :=
    congrArg PagedKVCache.numTokens
      (Request.map_caches_cache (w.request i) PagedKVCache.reset layer)
  rw [hreset] at ht
  exact absurd ht (Nat.not_lt_zero t)

/-- After a batch the counts are advanced; what is newly counted must have been stored. -/
theorem map_batch_sound (h : PagedSound w) (hsame : SameTables w v)
    (hkept : ∀ key, Kept w key → Kept v key) (batch : List ι)
    (cache : Request → PagedKVCache → PagedKVCache)
    (htable : ∀ r kv, (cache r kv).blockTable = kv.blockTable)
    (hstored : ∀ j ∈ batch, ∀ layer t,
      t < (cache (v.request j) ((v.request j).cache layer)).numTokens → Kept v (j,layer,t)) :
    PagedSound (v.mapBatch batch cache) := by
  have hv := h.toTablesSound.same hsame
  have hblocks (j : ι) : ((v.mapBatch batch cache).request j).blocks = (v.request j).blocks := by
    unfold mapBatch
    dsimp only
    split
    · exact map_caches_blocks _ _ (htable _)
    · rfl
  have hslot (key : TokenKey ι) :
      keySlot (v.mapBatch batch cache).request key = keySlot v.request key := by
    unfold keySlot mapBatch
    dsimp only
    split
    · rw [Request.map_caches_cache, tokenSlot, tokenSlot, PagedKVCache.physicalBlockId, htable]
      rfl
    · rfl
  have hall (key : TokenKey ι) (hk : Kept v key) : Kept (v.mapBatch batch cache) key := by
    obtain ⟨slot,kv,hs,hlog,hkeys,hvalues⟩ := hk
    exact ⟨slot,kv,(hslot key).trans hs,hlog,hkeys,hvalues⟩
  refine ⟨⟨hv.total,⟨fun j => (hv.apart.owned j).request (hblocks j),?_⟩⟩,?_⟩
  · intro j k hjk
    rw [hblocks, hblocks]
    exact hv.apart.apart j k hjk
  · intro j layer t ht
    apply hall
    by_cases hj : j ∈ batch
    · apply hstored j hj
      simpa [mapBatch, hj, Request.map_caches_cache] using ht
    · apply hkept
      apply h.kept
      rw [← hsame.request]
      simpa [mapBatch, hj] using ht

theorem prefill_sound (h : PagedSound w) (batch : List ι) (hb : batch.Nodup)
    (qkv : Fin gpt2NLayers → Memory α) (hv : w.prefill batch qkv = some v) : PagedSound v := by
  obtain ⟨u,hu,rfl⟩ := Option.map_eq_some_iff.mp hv
  obtain ⟨hsame,hkept,hstored⟩ := prefill_layers h.toTablesSound hb _ hu
  apply map_batch_sound h hsame hkept
  · exact fun _ _ => rfl
  · intro j hj layer t ht
    rw [PagedKVCache.set_num_tokens_tokens, hsame.request] at ht
    apply hstored layer (List.mem_finRange layer) (j,t)
    exact List.mem_flatMap.mpr ⟨j,hj,List.mem_map_of_mem (List.mem_range.mpr ht)⟩

/-- In a decode step everything up to the new position is kept. -/
theorem decode_kept (h : PagedSound w) {batch : List ι} (hb : batch.Nodup)
    {qkv : Fin gpt2NLayers → Memory α} {layers : List (Fin gpt2NLayers)}
    (hu : runLayers (decodeLayer batch qkv) layers w = some v) (j : ι) (hj : j ∈ batch)
    (layer : Fin gpt2NLayers) (hl : layer ∈ layers) (t : ℕ)
    (ht : t ≤ ((w.request j).cache layer).numTokens) : Kept v (j,layer,t) := by
  obtain ⟨_,hkept,hstored⟩ := decode_layers h.toTablesSound hb _ hu
  by_cases hlast : t = ((w.request j).cache layer).numTokens
  · subst hlast
    exact hstored layer hl _ (List.mem_map_of_mem hj)
  · exact hkept _ (h.kept j layer t (by omega))

theorem decode_sound (h : PagedSound w) (batch : List ι) (hb : batch.Nodup)
    (qkv : Fin gpt2NLayers → Memory α) (hv : w.decode batch qkv = some v) : PagedSound v := by
  obtain ⟨u,hu,rfl⟩ := Option.map_eq_some_iff.mp hv
  obtain ⟨hsame,hkept,_⟩ := decode_layers h.toTablesSound hb _ hu
  apply map_batch_sound h hsame hkept
  · exact fun _ _ => rfl
  · intro j hj layer t ht
    rw [PagedKVCache.increment_tokens_tokens, hsame.request] at ht
    exact decode_kept h hb hu j hj layer (List.mem_finRange layer) t (by omega)

theorem call_paged_sound (h : PagedSound w) (c : CacheCall ι α) (hd : Distinct c)
    (hv : w.call c = some v) : PagedSound v := by
  cases c with
  | allocatePrefill i =>
    obtain rfl := Option.some.inj hv
    exact allocate_sound h _
  | allocateDecode i =>
    obtain rfl := Option.some.inj hv
    exact allocate_sound h _
  | freeRequest i =>
    obtain rfl := Option.some.inj hv
    exact free_sound h
  | prefill batch qkv => exact prefill_sound h batch hd qkv hv
  | decode batch qkv => exact decode_sound h batch hd qkv hv

omit [DecidableEq ι] in
theorem fresh_paged_sound (h : w.Fresh) : PagedSound w := by
  have hblocks (j : ι) : (w.request j).blocks = [] :=
    List.flatMap_eq_nil_iff.mpr fun kv hkv => (constructed_caches (h.constructed j) kv hkv).1
  refine ⟨⟨?_,⟨fun j => ⟨?_,?_,?_,?_⟩,?_⟩⟩,?_⟩
  · rw [h.blockManager]
    rfl
  · rw [hblocks, List.append_nil]
    exact w.alloc.blockManager.gpu.nodup
  · rw [hblocks]
    simp
  · rw [h.swappedRequests]
    exact (List.append_nil _).symm ▸ w.alloc.blockManager.cpu.nodup
  · rw [h.swappedRequests]
    simp [recordedIds]
  · intro j k _
    rw [hblocks]
    simp
  · intro j layer t ht
    rw [(constructed_caches (h.constructed j) _ ((w.request j).cache_mem layer)).2] at ht
    exact absurd ht (Nat.not_lt_zero t)

/-- Along every run all cached positions are kept. -/
theorem reached_paged_sound (h : PagedRun.Reached w) : PagedSound w := by
  induction h with
  | start w h => exact fresh_paged_sound h
  | next w v c _ hd hv ih => exact call_paged_sound ih c hd hv

end Calls

/-- What attention reads for position `t` through a block table is what was last appended for
it; nobody else has written there since, and the addresses lie in their part of the pool. -/
def ReadsBack (v : PagedRun ι α) (key : TokenKey ι) (table : ℕ → Option ℕ) : Prop :=
  ∃ p kv, table (key.2.2/defaultKvBlockSize) = some p ∧ v.appended key = some kv ∧
    ∀ h < gpt2NHeads, ∀ d < gpt2DHead,
      let k := attentionK p (key.2.2%defaultKvBlockSize) h d
      let value := attentionV p (key.2.2%defaultKvBlockSize) h d
      v.pool k = kv.1 (h*gpt2DHead+d) ∧ v.pool value = kv.2 (h*gpt2DHead+d) ∧
      v.writer k = some key ∧ v.writer value = some key ∧
      k < vPool ∧ vPool ≤ value ∧ value < defaultTotalKvBlocks*blockSlotSize

omit [DecidableEq ι] in
theorem kept_reads_back {v : PagedRun ι α} (h : TablesSound v) {key : TokenKey ι}
    (hk : Kept v key) (table : ℕ → Option ℕ)
    (htable : ∀ b p, ((v.request key.1).cache key.2.1).blockTable[b]? = some p →
      table b = some p) : ReadsBack v key table := by
  obtain ⟨slot,kv,hs,hlog,hkeys,hvalues⟩ := hk
  have hin := key_slot_in_pool (h.apart.tables h.total) hs
  obtain ⟨hb,ho⟩ := token_slot_some hs
  refine ⟨slot.1,kv,htable _ _ hb,hlog,fun i hi d hd => ?_⟩
  have hc := component_lt i d hi hd
  rw [attention_k_row, attention_v_row, ← ho]
  exact ⟨(hkeys _ hc).1,(hvalues _ hc).1,(hkeys _ hc).2,(hvalues _ hc).2,
    key_below_values hin hc,Nat.le_add_right _ _,value_below_end hin hc⟩

/-- At every decode step of every run attention reads, for each request of the batch and each
layer, exactly the vectors appended for the positions up to the new one. -/
theorem paged_reads (w : PagedRun ι α) (h : PagedRun.Reached w) (batch : List ι)
    (hb : batch.Nodup) (qkv : Fin gpt2NLayers → Memory α) (layer : Fin gpt2NLayers)
    (v : PagedRun ι α) (hv : w.atAttention batch qkv layer = some v) (j : ℕ) (i : ι)
    (hj : batch[j]? = some i) :
    ∃ off, (blockOffsets layer (batch.map v.request))[j]? = some off ∧
      (attendedTokens layer (batch.map v.request))[j]? =
        some (((v.request i).cache layer).numTokens+1) ∧
      ∀ t ≤ ((v.request i).cache layer).numTokens, ReadsBack v (i,layer,t)
        (fun b => (flatBlockTable layer (batch.map v.request))[off+b]?) := by
  have hsound := reached_paged_sound h
  obtain ⟨hsame,_,_⟩ := decode_layers hsound.toTablesSound hb _ hv
  have hreq : (batch.map v.request)[j]? = some (v.request i) := by
    rw [List.getElem?_map, hj]
    rfl
  obtain ⟨off,hoff,htable⟩ := flat_table_get layer (batch.map v.request) j _ hreq
  refine ⟨off,hoff,?_,fun t ht => ?_⟩
  · rw [attendedTokens, layerCaches, List.map_map, List.getElem?_map, hreq]
    rfl
  · have hl : layer ∈ (List.finRange gpt2NLayers).take (layer+1) := by
      apply List.mem_take_iff_getElem.mpr
      refine ⟨layer.val,?_,?_⟩
      · simp
      · simp
    rw [hsame.request] at ht
    have hkept := decode_kept hsound hb hv i (List.mem_of_getElem? hj) layer hl t ht
    exact kept_reads_back (hsound.toTablesSound.same hsame) hkept _ htable

/-- Two requests with 15 and 16 prompt tokens on a fresh pool. -/
def twoFresh : PagedRun (Fin 2) ℤ where
  alloc := RealKvAllocator.new freshDevice
  request := fun i => Request.new (Int32.ofNat i) (List.replicate (15+i) 5) 8
  appended := fun _ => none
  writer := fun _ => none

def twoQkv (layer : Fin gpt2NLayers) : Memory ℤ := fun i => i+layer

def twoCalls : List (CacheCall (Fin 2) ℤ) :=
  let i : Fin 2 := ⟨0,Nat.zero_lt_two⟩
  let j : Fin 2 := ⟨1,Nat.one_lt_two⟩
  [.allocatePrefill i,.allocatePrefill j,.prefill [i,j] twoQkv,.allocateDecode j,
    .allocateDecode i,.decode [j,i] twoQkv,.freeRequest j,.allocatePrefill j,.prefill [j] twoQkv,
    .allocateDecode i,.allocateDecode j]

theorem two_requests_read : ∃ w v off, twoFresh.calls twoCalls = some w ∧
    w.atAttention [1,0] twoQkv 11 = some v ∧ ((v.request 0).cache 11).numTokens = 16 ∧
    ∀ t ≤ 16, ReadsBack v (0,11,t)
      (fun b => (flatBlockTable 11 ([1,0].map v.request))[off+b]?) := by
  have hsome : ((twoFresh.calls twoCalls).bind fun w =>
      (w.atAttention [1,0] twoQkv 11).map fun v => ((v.request 0).cache 11).numTokens) =
        some 16 := by
    decide +kernel
  obtain ⟨w,hw,hrest⟩ := Option.bind_eq_some_iff.mp hsome
  obtain ⟨v,hv,hn⟩ := Option.map_eq_some_iff.mp hrest
  have hfresh : twoFresh.Fresh :=
    ⟨rfl,rfl,fun i => ⟨_,_,_,rfl⟩,rfl,rfl⟩
  have hreached :=
    calls_reached twoFresh w twoCalls (.start _ hfresh) (by simp [twoCalls, Distinct]) hw
  obtain ⟨off,_,_,hreads⟩ := paged_reads w hreached [1,0] (by decide) twoQkv 11 v hv 1 0 rfl
  rw [hn] at hreads
  exact ⟨w,v,off,hw,hv,hn,hreads⟩

end MiniLlm

import MiniLlm.PassReference

/-!
# A decode step computes one more row

Over caches that hold the rows of a sequence but the last, a decode step adds
the last one and answers with the next token of the reference.
-/

set_option autoImplicit false

namespace MiniLlm

open FlatMemory RowBuffers Gpt2Weights PagedAttention

variable {ι : Type*}

section Attention

theorem position_unique {r : Request} {layer : Fin gpt2NLayers} (hblocks : r.blocks.Nodup)
    {t t' : ℕ} {slot slot' : ℕ × ℕ} (hs : tokenSlot (r.cache layer) t = some slot)
    (hs' : tokenSlot (r.cache layer) t' = some slot') (hblock : slot.1 = slot'.1)
    (hoffset : t%defaultKvBlockSize = t'%defaultKvBlockSize) : t = t' := by
  obtain ⟨hb,_⟩ := token_slot_some hs
  obtain ⟨hb',_⟩ := token_slot_some hs'
  have hdiv := (blocks_unshared hblocks (r.cache_get layer) (r.cache_get layer) hb
    (hblock ▸ hb')).2
  rw [← Nat.div_add_mod t defaultKvBlockSize, ← Nat.div_add_mod t' defaultKvBlockSize, hdiv,
    hoffset]

variable {reqs : List Request} (layer : Fin gpt2NLayers) {j m : ℕ} {r : Request}
  (hj : reqs[j]? = some r) (blockTable offsets numTokens : Memory ℕ)

include hj

theorem cached_sequence {qkv pool : Memory ℝ} {row : ℕ → QkvRow}
    (hrow : rowAt (3*gpt2DModel) qkv j = row m)
    (hcached : CachesRows pool (r.cache layer) row (m+1))
    (hn : (r.cache layer).numTokens = m) (hblocks : r.blocks.Nodup) :
    SameSequence (flattened row) qkv pool (copyIn (flatBlockTable layer reqs) blockTable)
      (copyIn (MiniLlm.blockOffsets layer reqs) offsets)
      (copyIn (attendedTokens layer reqs) numTokens) j m := by
  have hslot (t : ℕ) (ht : t ≤ m) := hcached t (Nat.lt_succ_of_le ht)
  have hcomponent (t : ℕ) (c : ℕ) (hc : c < 3*gpt2DModel) :
      row t ⟨c,hc⟩ = flattened row (t*(3*gpt2DModel)+c) :=
    (congrFun (flattened_row row t) ⟨c,hc⟩).symm
  refine ⟨?_,?_,?_,?_,?_⟩
  · rw [← hn]
    exact pointers_tokens layer blockTable offsets numTokens 0 hj
  · intro t ht t' ht' hblock hoffset
    obtain ⟨slot,hs,_⟩ := hslot t ht
    obtain ⟨slot',hs',_⟩ := hslot t' ht'
    have hfound := pointers_block layer blockTable offsets numTokens 0 hj hs
    have hfound' := pointers_block layer blockTable offsets numTokens 0 hj hs'
    exact position_unique hblocks hs hs' (hfound.symm.trans (hblock.trans hfound')) hoffset
  · intro h hh d hd
    have hc := component_lt h d hh hd
    have hcell := congrFun hrow ⟨h*gpt2DHead+d,by omega⟩
    rw [rowAt, hcomponent] at hcell
    rw [FlashAttention.queryAt, Nat.mul_assoc, Nat.mul_assoc m, Nat.add_assoc, Nat.add_assoc]
    exact hcell
  · intro t ht h hh d hd
    obtain ⟨slot,hs,hheld⟩ := hslot t ht
    have hc := component_lt h d hh hd
    have hkey := (pointers_slot layer blockTable offsets numTokens h hj hs d).1
    rw [key_pointer_add] at hkey
    refine (congrArg pool hkey).trans ((hheld _ hc).1.trans ?_)
    rw [hcomponent, FlashAttention.keyAt, Nat.mul_assoc t, Nat.add_assoc, Nat.add_assoc]
  · intro t ht h hh d hd
    obtain ⟨slot,hs,hheld⟩ := hslot t ht
    have hc := component_lt h d hh hd
    have hvalue := (pointers_slot layer blockTable offsets numTokens h hj hs d).2
    rw [value_pointer_add] at hvalue
    refine (congrArg pool hvalue).trans ((hheld _ hc).2.trans ?_)
    rw [hcomponent, FlashAttention.valueAt, Nat.mul_assoc t, Nat.add_assoc, Nat.add_assoc]

/-- Decode attention is the guarded attention of the last row. -/
theorem decode_attention_reference {qkv pool : Memory ℝ} {row : ℕ → QkvRow}
    (hrow : rowAt (3*gpt2DModel) qkv j = row m)
    (hcached : CachesRows pool (r.cache layer) row (m+1))
    (hn : (r.cache layer).numTokens = m) (hblocks : r.blocks.Nodup) (out shared : Memory ℝ) :
    rowAt gpt2DModel (pagedDecodeAttention qkv pool
        (copyIn (flatBlockTable layer reqs) blockTable)
        (copyIn (MiniLlm.blockOffsets layer reqs) offsets)
        (copyIn (attendedTokens layer reqs) numTokens) out reqs.length shared) j =
      guardedAttention row m := by
  ext c
  obtain ⟨hh,hd,_⟩ := head_component c
  have hsequence := cached_sequence layer hj blockTable offsets numTokens hrow hcached hn hblocks
  rw [paged_row _ _ _ _ _ _ _ (List.getElem?_eq_some_iff.mp hj).1,
    stored_exact hsequence hh shared hd, guardedAttention, guardFactor, mul_div_assoc]

end Attention

structure MidSequence (r : Request) : Prop where
  generated : r.promptsLen < r.tokens.length
  cached : ∀ layer, (r.cache layer).numTokens+1 = r.tokens.length

section Decode

variable {request : ι → Request} {batch : List ι} (h : DecodeBatch request batch)
  (hmid : ∀ i ∈ batch, MidSequence (request i)) (W : Gpt2Weights) (f : RowAttention)

structure DecodesTo (request : ι → Request) (batch : List ι) (l : ℕ) (b : Buffers) : Prop where
  x : ∀ (j : ℕ) i, batch[j]? = some i → rowAt gpt2DModel b.x j =
    W.rowsBefore f (request i).promptsLen (request i).tokens l ((request i).tokens.length-1)
  cached : ∀ i ∈ batch, ∀ layer : Fin gpt2NLayers,
    CachesRows b.pool ((request i).cache layer)
      (W.qkvRows f (request i).promptsLen (request i).tokens layer)
      (((request i).cache layer).numTokens+if layer < l then 1 else 0)

theorem batch_position {request : ι → Request} {batch : List ι} {j : ℕ} {i : ι}
    (hj : batch[j]? = some i) : j < (batch.map request).length := by
  rw [List.length_map]
  exact (List.getElem?_eq_some_iff.mp hj).1

include h

theorem decode_starts {b : Buffers} (hcached : ∀ i ∈ batch, ∀ layer,
      CachesRows b.pool ((request i).cache layer)
        (W.qkvRows f (request i).promptsLen (request i).tokens layer)
        ((request i).cache layer).numTokens) :
    DecodesTo W f request batch 0
      { b with
        x := embeddingLookup W (decodeTokens (batch.map request))
          (decodePositions (batch.map request)) b.x } := by
  refine ⟨fun j i hj => ?_,fun i hi layer => hcached i hi layer⟩
  have hne := h.tokens i (List.mem_of_getElem? hj)
  have hpos := List.length_pos_of_ne_nil hne
  have htoken := decode_tokens_get h hj
  have hlast : (request i).tokens[(request i).tokens.length-1]? =
      some ((request i).tokens.getLast hne) := by
    rw [← List.getLast?_eq_getElem?, List.getLast?_eq_some_getLast hne]
  rw [List.getLast?_eq_some_getLast hne] at htoken
  have hposition : decodePosition (request i) = (((request i).tokens.length-1 : ℕ) : ℤ) := by
    rw [decodePosition]
    omega
  show rowAt gpt2DModel (embeddingLookup W _ _ b.x) _ = _
  rw [embedding_row_get W _ _ _ htoken (decode_positions_get hj), hposition, rowsBefore]
  show _ = embeddingRow W _ _
  rw [hlast, Option.getD_some]

include hmid

theorem decode_layer_appends {layer : Fin gpt2NLayers} {slots : List (ℕ × ℕ)}
    (hslots : decodeTables layer (batch.map request) = some slots) {b : Buffers}
    (hb : DecodesTo W f request batch layer b) :
    let projected := projectAppend W layer (batch.map request).length slots b
    (∀ (j : ℕ) i, batch[j]? = some i → rowAt (3*gpt2DModel) projected.qkv j =
      W.qkvRows f (request i).promptsLen (request i).tokens layer
        ((request i).cache layer).numTokens) ∧
    ∀ i ∈ batch, ∀ l : Fin gpt2NLayers, CachesRows projected.pool ((request i).cache l)
      (W.qkvRows f (request i).promptsLen (request i).tokens l)
      (((request i).cache l).numTokens+if l < (layer:ℕ)+1 then 1 else 0) := by
  intro projected
  have hat := decode_tables_slots hslots
  have hqkv (j : ℕ) (i : ι) (hj : batch[j]? = some i) : rowAt (3*gpt2DModel) projected.qkv j =
      W.qkvRows f (request i).promptsLen (request i).tokens layer
        ((request i).cache layer).numTokens := by
    have hm := (hmid i (List.mem_of_getElem? hj)).cached layer
    rw [project_append_row layer (batch_position hj) b W slots, hb.x j i hj, ← hm,
      Nat.add_sub_cancel]
    rfl
  refine ⟨hqkv,fun i hi l t ht => ?_⟩
  obtain ⟨j,hj⟩ := List.mem_iff_getElem?.mp hi
  by_cases hnext : l = layer ∧ t = ((request i).cache l).numTokens
  · -- the position the launch is for
    obtain ⟨rfl,rfl⟩ := hnext
    obtain ⟨slot,hslot,hheld⟩ := append_holds h.apart hat projected.qkv b.pool
      (next_rows_nodup h.distinct) (next_rows_get hj l)
    rw [hqkv j i hj] at hheld
    exact ⟨slot,hslot,hheld⟩
  · obtain ⟨slot,hslot,hheld⟩ := hb.cached i hi l t (earlier_position ht hnext)
    exact ⟨slot,hslot,hheld.same (append_spares h.apart hat projected.qkv b.pool (i,l,t)
      (next_rows_other hnext) hslot)⟩

/-- A layer of a decode step computes the row the reference has, and caches it. -/
theorem decode_layer_reference (shared : Memory ℝ) (layer : Fin gpt2NLayers) {b : Buffers}
    (hb : DecodesTo W f request batch layer b) :
    ∃ c, W.decodeLayer shared (batch.map request) layer b = some c ∧
      DecodesTo W f request batch (layer+1) c := by
  obtain ⟨slots,hslots⟩ := decode_tables_exist h layer
  obtain ⟨hqkv,hcached⟩ := decode_layer_appends h hmid W f hslots hb
  let reqs := batch.map request
  let attended := decodeAttend shared reqs layer (projectAppend W layer reqs.length slots b)
  refine ⟨feedForward W layer reqs.length attended,
    by rw [Gpt2Weights.decodeLayer, hslots]; rfl,?_,hcached⟩
  intro j i hj
  have hi := List.mem_of_getElem? hj
  obtain ⟨hgenerated,hcounts⟩ := hmid i hi
  have hm := hcounts layer
  have hrows := hcached i hi layer
  rw [if_pos (Nat.lt_succ_self _)] at hrows
  have hattn : rowAt gpt2DModel attended.attnOut j = guardedAttention
      (W.qkvRows f (request i).promptsLen (request i).tokens layer)
      ((request i).cache layer).numTokens :=
    decode_attention_reference layer (request_get hj) _ _ _ (hqkv j i hj) hrows rfl
      (h.apart.nodup i) _ _
  have hx : rowAt gpt2DModel attended.x j = _ := hb.x j i hj
  have hlate : ¬((request i).cache layer).numTokens < (request i).promptsLen := by omega
  show rowAt gpt2DModel (feedForward W layer _ attended).x _ = _
  rw [feed_forward_row layer (batch_position hj) attended W, rows_before_succ, hattn, hx, ← hm,
    Nat.add_sub_cancel]
  simp only [CausalLayer.outputs, referenceLayer, attentionAt, dif_neg hlate]
  rfl

omit h hmid in
theorem decode_layer_spares (hapart : TablesApart request) (shared : Memory ℝ)
    (layer : Fin gpt2NLayers) {b c : Buffers} {i : ι} (hi : i ∉ batch)
    (hc : W.decodeLayer shared (batch.map request) layer b = some c) :
    SparesRequest b.pool c.pool (request i) := by
  obtain ⟨slots,hslots,rfl⟩ := Option.map_eq_some_iff.mp hc
  intro l t slot hs
  refine append_spares hapart (decode_tables_slots hslots) _ b.pool (i,l,t) (fun r hr he => hi ?_)
    hs
  obtain ⟨k,hk,rfl⟩ := List.mem_map.mp hr
  obtain rfl : i = k := congrArg Prod.fst he
  exact hk

/-- A decode step over caches that hold the rows so far. -/
theorem decode_reference (shared : Memory ℝ) {b : Buffers} (hcached : ∀ i ∈ batch, ∀ layer,
      CachesRows b.pool ((request i).cache layer)
        (W.qkvRows f (request i).promptsLen (request i).tokens layer)
        ((request i).cache layer).numTokens) :
    ∃ resps c, W.decode shared (batch.map request) b = some (resps,c) ∧
      PassResult W f request batch (fun i => (request i).tokens.length) b resps c := by
  by_cases hempty : batch = []
  · subst hempty
    exact ⟨[],b,rfl,⟨rfl,fun i hi => absurd hi List.not_mem_nil,
      fun i _ => SparesRequest.refl b.pool _⟩⟩
  obtain ⟨c,hc,hlast⟩ := over_layers_keep
    (fun layer _ hb => decode_layer_reference h hmid W f shared layer hb)
    (decode_starts h W f hcached)
  have hnonempty : ¬(batch.map request).isEmpty = true := by simpa using hempty
  refine ⟨(answerRows W (batch.map request) c.x c).1,(answerRows W (batch.map request) c.x c).2,
    by rw [Gpt2Weights.decode, if_neg hnonempty, Gpt2Weights.decodeLayers, hc]; rfl,?_,?_,?_⟩
  · apply answer_rows_reference
    intro j r hr
    rw [List.getElem?_map] at hr
    obtain ⟨i,hj,rfl⟩ := Option.map_eq_some_iff.mp hr
    exact hlast.x j i hj
  · intro i hi layer
    have hrows := hlast.cached i hi layer
    rwa [if_pos layer.isLt, (hmid i hi).cached layer] at hrows
  · intro i hi
    have hspared := over_layers_trans (fun p q => SparesRequest p.pool q.pool (request i))
      (fun p => SparesRequest.refl p.pool _) (fun _ _ _ => SparesRequest.trans)
      (fun layer _ _ => decode_layer_spares W h.apart shared layer hi) _ hc
    exact hspared

end Decode

section Batches

variable {reqs others : List Request}

theorem map_placed_append (reqs others : List Request) :
    (List.range reqs.length).map (placed (reqs++others)) = reqs := by
  refine Eq.trans (List.map_congr_left fun j hj => ?_) (map_placed reqs)
  rw [placed, placed, List.getElem?_append_left (List.mem_range.mp hj)]

structure ReferencePass (W : Gpt2Weights) (f : RowAttention) (reqs others : List Request)
    (b : Buffers) (resps : List Response) (c : Buffers) : Prop where
  answers : resps = reqs.map (referenceAnswer W f)
  caches : ∀ r ∈ reqs, ∀ layer, CachesRows c.pool (r.cache layer)
    (W.qkvRows f r.promptsLen r.tokens layer) r.tokens.length
  others : ∀ r ∈ others, SparesRequest b.pool c.pool r

theorem PassResult.pass {W : Gpt2Weights} {f : RowAttention} {b c : Buffers}
    {resps : List Response} {cached : ℕ → ℕ} (h : PassResult W f (placed (reqs++others))
      (List.range reqs.length) cached b resps c)
    (hcached : ∀ (j : ℕ) r, reqs[j]? = some r → cached j = r.tokens.length) :
    ReferencePass W f reqs others b resps c := by
  have hbefore {j : ℕ} (hj : j < reqs.length) : (reqs++others)[j]? = some reqs[j] := by
    rw [List.getElem?_append_left hj, List.getElem?_eq_getElem hj]
  refine ⟨?_,?_,?_⟩
  · rw [h.answers, map_placed_append]
  · intro r hr layer
    obtain ⟨j,hj,rfl⟩ := List.mem_iff_getElem.mp hr
    have hrows := h.caches j (List.mem_range.mpr hj) layer
    rwa [placed_get (hbefore hj), hcached j _ (List.getElem?_eq_getElem hj)] at hrows
  · intro r hr
    obtain ⟨k,hk,rfl⟩ := List.mem_iff_getElem.mp hr
    have hplaced : placed (reqs++others) (reqs.length+k) = others[k] := by
      apply placed_get
      rw [List.getElem?_append_right (Nat.le_add_right _ _), Nat.add_sub_cancel_left,
        List.getElem?_eq_getElem hk]
    have hspared := h.others (reqs.length+k) (by simp)
    rwa [hplaced] at hspared

theorem placed_batch {j : ℕ} (hj : j ∈ List.range reqs.length) :
    placed (reqs++others) j ∈ reqs := by
  have hlt := List.mem_range.mp hj
  rw [placed, List.getElem?_append_left hlt, List.getElem?_eq_getElem hlt]
  exact List.getElem_mem hlt

variable (W : Gpt2Weights) {f : RowAttention}

theorem prefill_pass {attend : PrefillAttention} (hattend : AttendsRows attend f)
    (h : BlocksApart (reqs++others))
    (hready : ∀ r ∈ reqs, PromptReady r ∧ r.tokens.length = r.promptsLen) (b : Buffers) :
    ∃ resps c, W.prefill attend reqs b = some (resps,c) ∧
      ReferencePass W f reqs others b resps c := by
  have hbatch : PrefillBatch (placed (reqs++others)) (List.range reqs.length) :=
    ⟨h.tables,List.nodup_range,fun _ hj => (hready _ (placed_batch hj)).1.prompt,
      fun _ hj => (hready _ (placed_batch hj)).1.room⟩
  obtain ⟨resps,c,hrun,hresult⟩ := prefill_reference hbatch W f hattend
    (fun _ hj => ⟨(hready _ (placed_batch hj)).1.nonempty,(hready _ (placed_batch hj)).2⟩) b
  rw [map_placed_append] at hrun
  refine ⟨resps,c,hrun,hresult.pass fun j r hj => ?_⟩
  have hlt := (List.getElem?_eq_some_iff.mp hj).1
  rw [placed_get ((List.getElem?_append_left hlt).trans hj)]
  exact (hready r (List.mem_of_getElem? hj)).2.symm

theorem decode_pass (h : BlocksApart (reqs++others))
    (hready : ∀ r ∈ reqs, TokenReady r ∧ MidSequence r) (shared : Memory ℝ) (b : Buffers)
    (hcached : ∀ r ∈ reqs, ∀ layer, CachesRows b.pool (r.cache layer)
      (W.qkvRows f r.promptsLen r.tokens layer) (r.cache layer).numTokens) :
    ∃ resps c, W.decode shared reqs b = some (resps,c) ∧
      ReferencePass W f reqs others b resps c := by
  have hbatch : DecodeBatch (placed (reqs++others)) (List.range reqs.length) :=
    ⟨h.tables,List.nodup_range,fun _ hj => (hready _ (placed_batch hj)).1.tokens,
      fun _ hj => (hready _ (placed_batch hj)).1.room⟩
  obtain ⟨resps,c,hrun,hresult⟩ := decode_reference hbatch
    (fun _ hj => (hready _ (placed_batch hj)).2) W f shared
    (fun _ hj => hcached _ (placed_batch hj))
  rw [map_placed_append] at hrun
  refine ⟨resps,c,hrun,hresult.pass fun j r hj => ?_⟩
  have hlt := (List.getElem?_eq_some_iff.mp hj).1
  rw [placed_get ((List.getElem?_append_left hlt).trans hj)]

/-- Both passes, for every batch next to any other requests. -/
theorem passes_compute_reference {attend : PrefillAttention} (hattend : AttendsRows attend f)
    (h : BlocksApart (reqs++others)) :
    ((∀ r ∈ reqs, PromptReady r ∧ r.tokens.length = r.promptsLen) → ∀ b, ∃ resps c,
      W.prefill attend reqs b = some (resps,c) ∧ ReferencePass W f reqs others b resps c) ∧
    ((∀ r ∈ reqs, TokenReady r ∧ MidSequence r) → ∀ shared b,
      (∀ r ∈ reqs, ∀ layer, CachesRows b.pool (r.cache layer)
        (W.qkvRows f r.promptsLen r.tokens layer) (r.cache layer).numTokens) →
      ∃ resps c, W.decode shared reqs b = some (resps,c) ∧
        ReferencePass W f reqs others b resps c) :=
  ⟨prefill_pass W hattend h,decode_pass W h⟩

def thirdToken (reqId : Int32) (firstBlock : ℕ) : Request :=
  (twoCached reqId firstBlock).pushToken 3

/-- Two requests are prefilled and decoded together, next to one that waits. -/
theorem next_to_waiting : ∃ resps c resps' c',
    copyWeights.prefill FlashAttention.promptLaunch [twoTokens 1 0,twoTokens 2 12] zeroBuffers =
      some (resps,c) ∧
    ReferencePass copyWeights FlashAttention.launchedRows [twoTokens 1 0,twoTokens 2 12]
      [twoTokens 3 24] zeroBuffers resps c ∧
    copyWeights.decode (fun _ => 0) [thirdToken 1 0,thirdToken 2 12] c = some (resps',c') ∧
    ReferencePass copyWeights FlashAttention.launchedRows [thirdToken 1 0,thirdToken 2 12]
      [twoTokens 3 24] c resps' c' := by
  have hprompts : BlocksApart ([twoTokens 1 0,twoTokens 2 12]++[twoTokens 3 24]) := by
    constructor <;> decide
  have htokens : BlocksApart ([thirdToken 1 0,thirdToken 2 12]++[twoTokens 3 24]) := by
    constructor <;> decide
  have hprompt : ∀ r ∈ [twoTokens 1 0,twoTokens 2 12],
      PromptReady r ∧ r.tokens.length = r.promptsLen := by
    intro r hr
    rcases List.mem_cons.mp hr with rfl | hr
    · exact ⟨⟨by decide,by decide,by decide⟩,by decide⟩
    · obtain rfl := List.mem_singleton.mp hr
      exact ⟨⟨by decide,by decide,by decide⟩,by decide⟩
  have htoken : ∀ r ∈ [thirdToken 1 0,thirdToken 2 12], TokenReady r ∧ MidSequence r := by
    intro r hr
    rcases List.mem_cons.mp hr with rfl | hr
    · exact ⟨⟨by decide,by decide⟩,⟨by decide,by decide⟩⟩
    · obtain rfl := List.mem_singleton.mp hr
      exact ⟨⟨by decide,by decide⟩,⟨by decide,by decide⟩⟩
  obtain ⟨resps,c,hrun,hpass⟩ := (passes_compute_reference copyWeights
    FlashAttention.prompt_launch_rows hprompts).1 hprompt zeroBuffers
  -- the decode step reads the caches that the prefill has left
  have hcached (reqId : Int32) (firstBlock : ℕ)
      (hr : twoTokens reqId firstBlock ∈ [twoTokens 1 0,twoTokens 2 12])
      (layer : Fin gpt2NLayers) : CachesRows c.pool ((thirdToken reqId firstBlock).cache layer)
        (copyWeights.qkvRows FlashAttention.launchedRows 2 [1,2,3] layer) 2 := by
    intro t ht
    have hcache : (thirdToken reqId firstBlock).cache layer =
        ((twoTokens reqId firstBlock).cache layer).setNumTokens 2 :=
      (twoTokens reqId firstBlock).map_caches_cache (·.setNumTokens 2) layer
    have hrows := copyWeights.qkv_rows_append FlashAttention.launchedRows 2 [3] layer
      (show 2 ≤ ([1,2] : List ℤ).length from le_rfl) ht
    obtain ⟨slot,hslot,hheld⟩ := hpass.caches _ hr layer t ht
    rw [hcache, show [(1 : ℤ),2,3] = [1,2]++[3] from rfl, hrows]
    exact ⟨slot,hslot,hheld⟩
  obtain ⟨resps',c',hrun',hpass'⟩ := (passes_compute_reference copyWeights
    FlashAttention.prompt_launch_rows htokens).2 htoken (fun _ => 0) c (by
      intro r hr layer
      have hlayers : ∀ layer, ((thirdToken 1 0).cache layer).numTokens = 2 ∧
        ((thirdToken 2 12).cache layer).numTokens = 2 := by decide
      rcases List.mem_cons.mp hr with rfl | hr
      · rw [(hlayers layer).1]
        exact hcached 1 0 (by simp) layer
      · obtain rfl := List.mem_singleton.mp hr
        rw [(hlayers layer).2]
        exact hcached 2 12 (by simp) layer)
  exact ⟨resps,c,resps',c',hrun,hpass,hrun',hpass'⟩

end Batches

end MiniLlm

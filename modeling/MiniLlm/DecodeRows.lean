import MiniLlm.ForwardRows

/-!
# Two decode steps side by side

A request that is decoded in two batches, over caches that hold the same for
it: the kernel finds its block table at its offset, so attention reads the
same in both, in every layer.
-/

set_option autoImplicit false

namespace MiniLlm

open FlatMemory RowBuffers Gpt2Weights

variable {ι ι' : Type*}

structure DecodeBatch (request : ι → Request) (batch : List ι) : Prop where
  apart : TablesApart request
  distinct : batch.Nodup
  tokens : ∀ i ∈ batch, (request i).tokens ≠ []
  room : ∀ i ∈ batch, ∀ layer, ((request i).cache layer).numTokens+1 ≤
    ((request i).cache layer).numBlocks*defaultKvBlockSize

theorem filter_map_get {β γ : Type*} (f : β → Option γ) (xs : List β)
    (h : ∀ x ∈ xs, (f x).isSome) {j : ℕ} {x : β} (hj : xs[j]? = some x) :
    (xs.filterMap f)[j]? = f x := by
  induction xs generalizing j with
  | nil => simp at hj
  | cons first xs ih =>
    obtain ⟨y,hy⟩ := Option.isSome_iff_exists.mp (h first List.mem_cons_self)
    rw [List.filterMap_cons_some hy]
    cases j with
    | zero =>
      obtain rfl := Option.some.inj hj
      exact hy.symm
    | succ j => exact ih (fun z hz => h z (List.mem_cons_of_mem first hz)) hj

section Rows

variable {request : ι → Request} {batch : List ι} {j : ℕ} {i : ι}

theorem request_get (hj : batch[j]? = some i) : (batch.map request)[j]? = some (request i) := by
  rw [List.getElem?_map, hj]
  rfl

theorem next_rows_get (hj : batch[j]? = some i) (layer : Fin gpt2NLayers) :
    (nextRows request batch layer)[j]? = some (i,((request i).cache layer).numTokens) := by
  rw [nextRows, List.getElem?_map, hj]
  rfl

theorem decode_positions_get (hj : batch[j]? = some i) :
    (decodePositions (batch.map request))[j]? = some (decodePosition (request i)) := by
  rw [decodePositions, List.getElem?_map, request_get hj]
  rfl

theorem next_rows_other {layer l : Fin gpt2NLayers} {t : ℕ}
    (hnext : ¬(l = layer ∧ t = ((request i).cache l).numTokens)) (r : ι × ℕ)
    (hr : r ∈ nextRows request batch layer) : ((i,l,t) : TokenKey ι) ≠ (r.1,layer,r.2) := by
  intro he
  obtain ⟨k,_,rfl⟩ := List.mem_map.mp hr
  obtain ⟨rfl,rfl,rfl⟩ : i = k ∧ l = layer ∧ t = ((request k).cache layer).numTokens := by
    simpa using he
  exact hnext ⟨rfl,rfl⟩

variable (h : DecodeBatch request batch)

include h

theorem decode_tokens_get (hj : batch[j]? = some i) :
    (decodeTokens (batch.map request))[j]? = (request i).tokens.getLast? := by
  apply filter_map_get _ _ _ (request_get hj)
  intro r hr
  obtain ⟨k,hk,rfl⟩ := List.mem_map.mp hr
  exact List.getLast?_isSome.mpr (h.tokens k hk)

theorem decode_tables_exist (layer : Fin gpt2NLayers) :
    ∃ slots, decodeTables layer (batch.map request) = some slots := by
  apply map_is_some
  intro r hr
  obtain ⟨k,hk,rfl⟩ := List.mem_map.mp hr
  exact token_slot_exists (h.room k hk layer) (Nat.lt_succ_self _)

end Rows

section Pointers

variable (reqs : List Request) (layer : Fin gpt2NLayers) (blockTable offsets numTokens : Memory ℕ)
  (j head : ℕ)

def pointersOf : PagedAttention.Pointers :=
  PagedAttention.blockPointers (copyIn (flatBlockTable layer reqs) blockTable)
    (copyIn (blockOffsets layer reqs) offsets)
    (copyIn (attendedTokens layer reqs) numTokens) j head

variable {reqs j}

theorem pointers_table {off k p : ℕ} (hoff : (blockOffsets layer reqs)[j]? = some off)
    (hp : (flatBlockTable layer reqs)[off+k]? = some p) :
    (pointersOf reqs layer blockTable offsets numTokens j head).table k = p := by
  have hoffset : copyIn (blockOffsets layer reqs) offsets j = off := by
    rw [copyIn, hoff]
    rfl
  show copyIn _ _ (copyIn _ _ j+_) = _
  rw [hoffset, copyIn, hp]
  rfl

variable {r : Request} (hj : reqs[j]? = some r)

include hj

theorem pointers_tokens :
    (pointersOf reqs layer blockTable offsets numTokens j head).numTokens =
      (r.cache layer).numTokens+1 := by
  have hget : (attendedTokens layer reqs)[j]? =
      some ((r.cache layer).numTokens+1) := by
    rw [attendedTokens, layerCaches, List.map_map, List.getElem?_map, hj]
    rfl
  show copyIn _ _ j = _
  rw [copyIn, hget]
  rfl

theorem pointers_block {t : ℕ} {slot : ℕ × ℕ} (hs : tokenSlot (r.cache layer) t = some slot) :
    (pointersOf reqs layer blockTable offsets numTokens j head).table (t/defaultKvBlockSize) =
      slot.1 := by
  obtain ⟨off,hoff,htable⟩ := flat_table_get layer reqs j _ hj
  exact pointers_table layer blockTable offsets numTokens head hoff
    (htable _ _ (token_slot_some hs).1)

theorem pointers_slot {t : ℕ} {slot : ℕ × ℕ}
    (hs : tokenSlot (r.cache layer) t = some slot) (d : ℕ) :
    PagedAttention.keyPointer
        (pointersOf reqs layer blockTable offsets numTokens j head) head t+d =
      dstBase slot+(head*gpt2DHead+d) ∧
      PagedAttention.valuePointer
        (pointersOf reqs layer blockTable offsets numTokens j head) head t+d =
      vPool+(dstBase slot+(head*gpt2DHead+d)) := by
  rw [PagedAttention.key_pointer_add, PagedAttention.value_pointer_add,
    pointers_block layer blockTable offsets numTokens head hj hs, ← (token_slot_some hs).2,
    attention_k_row, attention_v_row]
  exact ⟨rfl,rfl⟩

end Pointers

theorem earlier_position {l layer : Fin gpt2NLayers} {n t : ℕ}
    (ht : t < n+if (l:ℕ) < layer+1 then 1 else 0) (hnext : ¬(l = layer ∧ t = n)) :
    t < n+if (l:ℕ) < layer then 1 else 0 := by
  by_cases hlayer : l = layer
  · have hlast : t ≠ n := fun he => hnext ⟨hlayer,he⟩
    rw [hlayer, if_pos (Nat.lt_succ_self _)] at ht
    omega
  · have hiff : (l:ℕ) < layer+1 ↔ (l:ℕ) < layer := by
      have hne : (l:ℕ) ≠ layer := fun he => hlayer (Fin.ext he)
      omega
    simpa only [hiff] using ht

section Run

variable {request : ι → Request} {request' : ι' → Request} {batch : List ι} {batch' : List ι'}
  (h : DecodeBatch request batch) (h' : DecodeBatch request' batch')
  {j j' : ℕ} {i : ι} {i' : ι'} (hj : batch[j]? = some i) (hj' : batch'[j']? = some i')
  (hsame : request' i' = request i)

theorem paged_row (qkv pool : Memory ℝ) (blockTable offsets numTokens : Memory ℕ)
    (out shared : Memory ℝ) {rows j : ℕ} (hj : j < rows) (c : Fin gpt2DModel) :
    rowAt gpt2DModel (PagedAttention.pagedDecodeAttention qkv pool blockTable offsets numTokens out
      rows shared) j c =
        PagedAttention.stored qkv pool blockTable offsets numTokens shared j (c/gpt2DHead)
          (c%gpt2DHead) := by
  obtain ⟨hh,hd,hc⟩ := head_component c
  rw [← PagedAttention.written_value qkv pool blockTable offsets numTokens rows shared out hj hh hd,
    Nat.add_assoc, hc, rowAt]

include hj hj' hsame

theorem decode_cells_same (layer : Fin gpt2NLayers) {pool pool' : Memory ℝ}
    (blockTable offsets numTokens blockTable' offsets' numTokens' : Memory ℕ) {t : ℕ}
    (hcached : SamePosition pool pool' ((request i).cache layer) ((request i).cache layer) t t)
    {hid d : ℕ} (hc : hid*gpt2DHead+d < gpt2DModel) :
    let req := pointersOf (batch.map request) layer blockTable offsets numTokens j hid
    let req' := pointersOf (batch'.map request') layer blockTable' offsets' numTokens' j' hid
    pool (PagedAttention.keyPointer req hid t+d) =
        pool' (PagedAttention.keyPointer req' hid t+d) ∧
      pool (PagedAttention.valuePointer req hid t+d) =
        pool' (PagedAttention.valuePointer req' hid t+d) := by
  intro req req'
  obtain ⟨slot,slot',hs,hs',hcells⟩ := hcached
  obtain ⟨hkey,hvalue⟩ := pointers_slot layer blockTable offsets numTokens hid
    (request_get hj) hs d
  obtain ⟨hkey',hvalue'⟩ := pointers_slot layer blockTable' offsets' numTokens' hid
    (request_get hj') (hsame ▸ hs') d
  obtain ⟨hkeys,hvalues⟩ := hcells _ hc
  constructor
  · rw [hkey, hkey']
    exact hkeys
  · rw [hvalue, hvalue']
    exact hvalues

theorem decode_attention_same (layer : Fin gpt2NLayers) {qkv qkv' pool pool' : Memory ℝ}
    (blockTable offsets numTokens blockTable' offsets' numTokens' : Memory ℕ)
    (out out' shared shared' : Memory ℝ)
    (hrow : rowAt (3*gpt2DModel) qkv j = rowAt (3*gpt2DModel) qkv' j')
    (hcached : SameCached pool pool' ((request i).cache layer) ((request i).cache layer)
      (((request i).cache layer).numTokens+1)) :
    rowAt gpt2DModel (PagedAttention.pagedDecodeAttention qkv pool
        (copyIn (flatBlockTable layer (batch.map request)) blockTable)
        (copyIn (blockOffsets layer (batch.map request)) offsets)
        (copyIn (attendedTokens layer (batch.map request)) numTokens) out
        (batch.map request).length shared) j =
      rowAt gpt2DModel (PagedAttention.pagedDecodeAttention qkv' pool'
        (copyIn (flatBlockTable layer (batch'.map request')) blockTable')
        (copyIn (blockOffsets layer (batch'.map request')) offsets')
        (copyIn (attendedTokens layer (batch'.map request')) numTokens') out'
        (batch'.map request').length shared') j' := by
  ext c
  obtain ⟨hh,hd,_⟩ := head_component c
  have hreq : (batch.map request)[j]? = some (request i) := request_get hj
  have hreq' : (batch'.map request')[j']? = some (request' i') := request_get hj'
  have hlt := (List.getElem?_eq_some_iff.mp hreq).1
  have hlt' := (List.getElem?_eq_some_iff.mp hreq').1
  have htokens := pointers_tokens layer blockTable offsets numTokens (c/gpt2DHead) hreq
  have htokens' := pointers_tokens layer blockTable' offsets' numTokens' (c/gpt2DHead) hreq'
  rw [hsame] at htokens'
  have hcells (t : ℕ) (ht : t < ((request i).cache layer).numTokens+1) (d : ℕ)
      (hd : d < gpt2DHead) := decode_cells_same hj hj' hsame layer blockTable offsets numTokens
    blockTable' offsets' numTokens' (hcached t ht) (component_lt _ _ hh hd)
  rw [paged_row _ _ _ _ _ _ _ hlt, paged_row _ _ _ _ _ _ _ hlt']
  apply PagedAttention.component_congr shared' (htokens.trans htokens'.symm) _ _ _ hd
  · intro d hd
    have hcol : c/gpt2DHead*gpt2DHead+d < 3*gpt2DModel := by
      have := component_lt _ _ hh hd
      omega
    have hquery := congrFun hrow ⟨_,hcol⟩
    simp only [rowAt] at hquery
    simp only [pointersOf, PagedAttention.blockPointers]
    rw [Nat.mul_assoc, Nat.mul_assoc, Nat.add_assoc, Nat.add_assoc]
    exact hquery
  · exact fun t ht d hd => (hcells t (htokens ▸ ht) d hd).1
  · exact fun t ht d hd => (hcells t (htokens ▸ ht) d hd).2

structure SameStep (r : Request) (j j' l : ℕ) (b b' : Buffers) : Prop where
  x : SameRows gpt2DModel 1 b.x j b'.x j'
  cached : ∀ layer, SameCached b.pool b'.pool (r.cache layer) (r.cache layer)
    ((r.cache layer).numTokens+if layer < l then 1 else 0)

include h h'

theorem append_next_same {layer : Fin gpt2NLayers} {slots slots' : List (ℕ × ℕ)}
    {qkv qkv' p q : Memory ℝ}
    (hslots : decodeTables layer (batch.map request) = some slots)
    (hslots' : decodeTables layer (batch'.map request') = some slots')
    (hrow : rowAt (3*gpt2DModel) qkv j = rowAt (3*gpt2DModel) qkv' j')
    (hcached : ∀ l, SameCached p q ((request i).cache l) ((request i).cache l)
      (((request i).cache l).numTokens+if (l:ℕ) < layer then 1 else 0)) (l : Fin gpt2NLayers) :
    SameCached (launchAppend slots qkv p) (launchAppend slots' qkv' q) ((request i).cache l)
      ((request i).cache l) (((request i).cache l).numTokens+if (l:ℕ) < layer+1 then 1 else 0) := by
  have hat := decode_tables_slots hslots
  have hat' := decode_tables_slots hslots'
  intro t ht
  by_cases hnext : l = layer ∧ t = ((request i).cache l).numTokens
  · -- the position the launch is for
    obtain ⟨rfl,rfl⟩ := hnext
    have hstored := append_same h.apart h'.apart hat hat' qkv qkv' p q
      (next_rows_nodup h.distinct) (next_rows_nodup h'.distinct) (next_rows_get hj l)
      (next_rows_get hj' l) hrow
    rwa [hsame] at hstored
  · have hold := earlier_position ht hnext
    have hspared := append_spares_same h.apart h'.apart hat hat' qkv qkv' p q
      (i,l,t) (i',l,t) (next_rows_other hnext)
      (next_rows_other (hsame.symm ▸ hnext)) (by rw [hsame]; exact hcached l t hold)
    rwa [hsame] at hspared

theorem decode_layer_same (W : Gpt2Weights) (shared shared' : Memory ℝ)
    (layer : Fin gpt2NLayers) {b b' : Buffers} (hstep : SameStep (request i) j j' layer b b') :
    ∃ c c', W.decodeLayer shared (batch.map request) layer b = some c ∧
      W.decodeLayer shared' (batch'.map request') layer b' = some c' ∧
      SameStep (request i) j j' (layer+1) c c' := by
  obtain ⟨slots,hslots⟩ := decode_tables_exist h layer
  obtain ⟨slots',hslots'⟩ := decode_tables_exist h' layer
  have hreq : (batch.map request)[j]? = some (request i) := request_get hj
  have hreq' : (batch'.map request')[j']? = some (request' i') := request_get hj'
  have hr : j+1 ≤ (batch.map request).length := (List.getElem?_eq_some_iff.mp hreq).1
  have hr' : j'+1 ≤ (batch'.map request').length := (List.getElem?_eq_some_iff.mp hreq').1
  have halike := (row_weights_alike W 1 j j' True).layer layer
  have hqkv := project_append_same halike slots slots' hstep.x hr hr'
  have hrow := hqkv 0 one_pos
  have hcached := append_next_same h h' hj hj' hsame hslots hslots' hrow hstep.cached
  have hattn : SameRows gpt2DModel 1
      (decodeAttend shared (batch.map request) layer
        (projectAppend W layer (batch.map request).length slots b)).attnOut j
      (decodeAttend shared' (batch'.map request') layer
        (projectAppend W layer (batch'.map request').length slots' b')).attnOut j' := by
    intro t ht
    obtain rfl := Nat.lt_one_iff.mp ht
    apply decode_attention_same hj hj' hsame layer _ _ _ _ _ _ _ _ _ _ hrow
    have hdone := hcached layer
    rwa [if_pos (Nat.lt_succ_self _)] at hdone
  refine ⟨_,_,by rw [decodeLayer, hslots]; rfl,by rw [decodeLayer, hslots']; rfl,?_,hcached⟩
  refine feed_forward_same halike (fun _ => trivial) ?_ hattn hr hr'
  exact hstep.x

/-- Two decode steps of a request, over caches that hold the same for it. -/
theorem decode_layers_same (W : Gpt2Weights) (shared shared' : Memory ℝ) (b b' : Buffers)
    (hcached : ∀ layer, SameCached b.pool b'.pool ((request i).cache layer)
      ((request i).cache layer) ((request i).cache layer).numTokens) :
    ∃ c c', W.decodeLayers shared (batch.map request) b = some c ∧
      W.decodeLayers shared' (batch'.map request') b' = some c' ∧
      SameRows gpt2DModel 1 c.x j c'.x j' ∧
      ∀ layer, SameCached c.pool c'.pool ((request i).cache layer) ((request i).cache layer)
        (((request i).cache layer).numTokens+1) := by
  let x := embeddingLookup W (decodeTokens (batch.map request))
    (decodePositions (batch.map request)) b.x
  let x' := embeddingLookup W (decodeTokens (batch'.map request'))
    (decodePositions (batch'.map request')) b'.x
  have hstart : SameStep (request i) j j' 0 { b with x := x } { b' with x := x' } := by
    refine ⟨fun t ht => ?_,hcached⟩
    obtain rfl := Nat.lt_one_iff.mp ht
    have hlast := h.tokens i (List.mem_of_getElem? hj)
    have htoken := decode_tokens_get h hj
    have htoken' := decode_tokens_get h' hj'
    have hposition' : (decodePositions (batch'.map request'))[j']? =
        some (decodePosition (request' i')) := decode_positions_get hj'
    rw [hsame] at htoken' hposition'
    rw [List.getLast?_eq_some_getLast hlast] at htoken htoken'
    show rowAt _ x j = rowAt _ x' j'
    rw [embedding_row_get W _ _ _ htoken (decode_positions_get hj),
      embedding_row_get W _ _ _ htoken' hposition']
  obtain ⟨c,c',hc,hc',hlast⟩ := over_layers_same (R := SameStep (request i) j j')
    (fun layer _ _ hstep => decode_layer_same h h' hj hj' hsame W shared shared' layer hstep)
    hstart
  refine ⟨c,c',hc,hc',hlast.x,fun layer => ?_⟩
  have hcell := hlast.cached layer
  rwa [if_pos layer.isLt] at hcell

end Run

end MiniLlm

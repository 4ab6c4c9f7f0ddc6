import MiniLlm.Batching
import MiniLlm.LoadedWeights
import MiniLlm.ReferenceModel

/-!
# The forward passes compute the model without a cache

What a prefill and a decode step leave in the pool and answer, request by
request: the K and V of the rows the reference has, and its next token. The
slots of all other requests stay as they are.
-/

set_option autoImplicit false

namespace MiniLlm

open FlatMemory RowBuffers Gpt2Weights PagedAttention

variable {ι : Type*}

def HoldsRow (pool : Memory ℝ) (slot : ℕ × ℕ) (row : QkvRow) : Prop :=
  ∀ c (hc : c < gpt2DModel), pool (dstBase slot+c) = row ⟨gpt2DModel+c,by omega⟩ ∧
    pool (vPool+(dstBase slot+c)) = row ⟨2*gpt2DModel+c,by omega⟩

def CachesRows (pool : Memory ℝ) (kv : PagedKVCache) (row : ℕ → QkvRow) (n : ℕ) : Prop :=
  ∀ t < n, ∃ slot, tokenSlot kv t = some slot ∧ HoldsRow pool slot (row t)

def SparesRequest (p q : Memory ℝ) (r : Request) : Prop :=
  ∀ layer t slot, tokenSlot (r.cache layer) t = some slot → SameSlot p q slot slot

section Slots

theorem HoldsRow.same {p q : Memory ℝ} {slot : ℕ × ℕ} {row : QkvRow} (h : HoldsRow p slot row)
    (hs : SameSlot p q slot slot) : HoldsRow q slot row := by
  intro c hc
  obtain ⟨hkey,hvalue⟩ := hs c hc
  rw [← hkey, ← hvalue]
  exact h c hc

theorem SparesRequest.refl (p : Memory ℝ) (r : Request) : SparesRequest p p r :=
  fun _ _ _ _ _ _ => ⟨rfl,rfl⟩

theorem SparesRequest.trans {p q m : Memory ℝ} {r : Request} (h : SparesRequest p q r)
    (k : SparesRequest q m r) : SparesRequest p m r := by
  intro layer t slot hs c hc
  exact ⟨(h layer t slot hs c hc).1.trans (k layer t slot hs c hc).1,
    (h layer t slot hs c hc).2.trans (k layer t slot hs c hc).2⟩

theorem SparesRequest.caches {p q : Memory ℝ} {r : Request} (h : SparesRequest p q r)
    {layer : Fin gpt2NLayers} {row : ℕ → QkvRow} {n : ℕ}
    (hc : CachesRows p (r.cache layer) row n) : CachesRows q (r.cache layer) row n := by
  intro t ht
  obtain ⟨slot,hslot,hrow⟩ := hc t ht
  exact ⟨slot,hslot,hrow.same (h layer t slot hslot)⟩

variable {request : ι → Request} {layer : Fin gpt2NLayers} {rows : List (ι × ℕ)}
  {slots : List (ℕ × ℕ)} (hapart : TablesApart request)
  (hslots : SlotsAt request layer rows slots) (qkv p : Memory ℝ)

include hapart hslots

theorem append_holds (hd : rows.Nodup) {k : ℕ} {r : ι × ℕ} (hk : rows[k]? = some r) :
    ∃ slot, tokenSlot ((request r.1).cache layer) r.2 = some slot ∧
      HoldsRow (launchAppend slots qkv p) slot (rowAt (3*gpt2DModel) qkv k) := by
  obtain ⟨slot,_,hkey⟩ := hslots.at hk
  refine ⟨slot,hkey,fun c hc => ?_⟩
  obtain ⟨hkeys,hvalues⟩ := append_row_stored hapart hslots qkv p hd hk hkey hc
  rw [hkeys, hvalues]
  constructor
  · rw [rowAt, keySource, Nat.mul_assoc, Nat.add_assoc]
  · rw [rowAt, valueSource, Nat.mul_assoc k, Nat.add_assoc]

theorem append_spares (key : TokenKey ι) (hother : ∀ r ∈ rows, key ≠ (r.1,layer,r.2))
    {slot : ℕ × ℕ} (hs : tokenSlot ((request key.1).cache key.2.1) key.2.2 = some slot) :
    SameSlot p (launchAppend slots qkv p) slot slot := by
  intro c hc
  obtain ⟨hkeys,hvalues⟩ := append_row_spared hapart hslots qkv p hother hs hc
  exact ⟨hkeys.symm,hvalues.symm⟩

end Slots

section Answers

variable (W : Gpt2Weights) (f : RowAttention)

noncomputable def referenceAnswer (r : Request) : Response :=
  let token := W.nextToken f r.promptsLen r.tokens
  Response.new r.requestId token (decide (token = gpt2EosTokenId))

theorem answer_rows_reference {reqs : List Request} {src : Memory ℝ} (b : Buffers)
    (hrows : ∀ (j : ℕ) r, reqs[j]? = some r → rowAt gpt2DModel src j =
      W.rowsBefore f r.promptsLen r.tokens gpt2NLayers (r.tokens.length-1)) :
    (answerRows W reqs src b).1 = reqs.map (referenceAnswer W f) := by
  let logits := launchRows reqs.length (fun row _ => W.launches.logits row)
    (launchIndexed reqs.length (fun t row _ => W.launches.lnF t row) src b.ln) b.logits
  have hlength : (answerRows W reqs src b).1.length = reqs.length := model_answers_length _ _ _
  apply List.ext_getElem? fun j => ?_
  rcases hj : reqs[j]? with _ | r
  · have hle := List.getElem?_eq_none_iff.mp hj
    rw [List.getElem?_eq_none (hlength ▸ hle), List.getElem?_map, hj]
    rfl
  · have hlt := (List.getElem?_eq_some_iff.mp hj).1
    have hlogits : rowAt gpt2VocabSize logits j = W.nextLogits f r.promptsLen r.tokens := by
      rw [nextLogits, ← hrows j r hj, launch_rows_get _ _ _ hlt, launch_indexed_get _ _ _ hlt]
      rfl
    have htoken : argmaxRow exactComparison (fun c => (logits (j*gpt2VocabSize+c) : WithBot ℝ))
        gpt2VocabSize = W.nextToken f r.promptsLen r.tokens := by
      rw [argmax_row_exact (by decide) fun c => logits (j*gpt2VocabSize+c), nextToken, ← hlogits]
      rfl
    rw [answerRows, model_answers_get _ _ hj, modelAnswer, htoken, List.getElem?_map, hj]
    rfl

end Answers

section Layers

theorem over_layers_trans {step : Fin gpt2NLayers → Buffers → Option Buffers}
    (R : Buffers → Buffers → Prop) (hrefl : ∀ b, R b b)
    (htrans : ∀ b c d, R b c → R c d → R b d)
    (hstep : ∀ layer b c, step layer b = some c → R b c) (layers : List (Fin gpt2NLayers))
    {b c : Buffers} (h : overLayers step layers b = some c) : R b c := by
  induction layers generalizing b with
  | nil =>
    obtain rfl := Option.some.inj h
    exact hrefl b
  | cons layer layers ih =>
    obtain ⟨d,hd,hrest⟩ := Option.bind_eq_some_iff.mp h
    exact htrans b d c (hstep layer b d hd) (ih hrest)

end Layers

section Prefill

variable {request : ι → Request} {batch : List ι} (h : PrefillBatch request batch)
  (W : Gpt2Weights) (f : RowAttention)

structure PrefillsTo (request : ι → Request) (batch : List ι) (l : ℕ) (b : Buffers) : Prop where
  x : ∀ (j : ℕ) i, batch[j]? = some i → ∀ t < (request i).promptsLen,
    rowAt gpt2DModel b.x (firstRow request batch j+t) =
      W.rowsBefore f (request i).promptsLen (request i).tokens l t
  cached : ∀ i ∈ batch, ∀ layer : Fin gpt2NLayers, layer < l →
    CachesRows b.pool ((request i).cache layer)
      (W.qkvRows f (request i).promptsLen (request i).tokens layer) (request i).promptsLen

include h

theorem prefill_starts (b : Buffers) : PrefillsTo W f request batch 0
    { b with
      x := embeddingLookup W (prefillTokens (batch.map request))
        (prefillPositions (batch.map request)) b.x } := by
  refine ⟨fun j i hj t ht => ?_,fun _ _ _ hl => absurd hl (Nat.not_lt_zero _)⟩
  have hin : t < (request i).tokens.length := ht.trans_le (h.prompt i (List.mem_of_getElem? hj))
  have htoken := prefill_tokens_get h hj ht
  rw [List.getElem?_eq_getElem hin] at htoken
  show rowAt gpt2DModel (embeddingLookup W _ _ b.x) _ = _
  rw [embedding_row_get W _ _ _ htoken (prefill_positions_get hj ht), rowsBefore]
  show _ = embeddingRow W _ _
  rw [List.getElem?_eq_getElem hin, Option.getD_some]

omit h in
theorem prefill_qkv_rows (layer : Fin gpt2NLayers) (slots : List (ℕ × ℕ)) {b : Buffers}
    (hb : PrefillsTo W f request batch layer b) {j : ℕ} {i : ι} (hj : batch[j]? = some i) {t : ℕ}
    (ht : t < (request i).promptsLen) :
    rowAt (3*gpt2DModel) (projectAppend W layer (total Request.promptsLen (batch.map request))
        slots b).qkv (firstRow request batch j+t) =
      W.qkvRows f (request i).promptsLen (request i).tokens layer t := by
  have hrow : firstRow request batch j+t < total Request.promptsLen (batch.map request) :=
    (Nat.add_lt_add_left ht _).trans_le (first_row_le hj)
  rw [project_append_row layer hrow b W slots, hb.x j i hj t ht]
  rfl

omit h in
theorem prefill_attended_rows {attend : PrefillAttention} (hattend : AttendsRows attend f)
    (layer : Fin gpt2NLayers) {qkv out : Memory ℝ} {j : ℕ} {i : ι} (hj : batch[j]? = some i)
    (hqkv : ∀ t < (request i).promptsLen,
      rowAt (3*gpt2DModel) qkv (firstRow request batch j+t) =
        W.qkvRows f (request i).promptsLen (request i).tokens layer t)
    {t : ℕ} (ht : t < (request i).promptsLen) :
    rowAt gpt2DModel (attendRequests (attend layer) qkv (batch.map request) 0 out)
        (firstRow request batch j+t) =
      f layer (request i).promptsLen
        (fun s => W.qkvRows f (request i).promptsLen (request i).tokens layer s) ⟨t,ht⟩ := by
  have hlaunch := attend_requests_get qkv hattend layer (batch.map request) 0 j
    (request_get hj) out ⟨t,ht⟩
  simp only [Nat.zero_add, first_row_map] at hlaunch
  refine hlaunch.trans (congrArg (f layer _ · ⟨t,ht⟩) ?_)
  funext s
  exact hqkv s s.isLt

/-- A layer of a prefill computes the rows the reference has, and caches them. -/
theorem block_prefill_reference {attend : PrefillAttention} (hattend : AttendsRows attend f)
    (layer : Fin gpt2NLayers) {b : Buffers} (hb : PrefillsTo W f request batch layer b) :
    ∃ c, blockPrefill W attend (batch.map request)
        (total Request.promptsLen (batch.map request)) layer b = some c ∧
      PrefillsTo W f request batch (layer+1) c := by
  obtain ⟨slots,hslots⟩ := make_tables_exist h layer
  have hat := make_tables_slots hslots
  have hnodup : (promptRows request batch).Nodup := prompt_rows_nodup h.distinct
  let reqs := batch.map request
  let projected := projectAppend W layer (total Request.promptsLen reqs) slots b
  have hqkv {j : ℕ} {i : ι} (hj : batch[j]? = some i) {t : ℕ} (ht : t < (request i).promptsLen) :=
    prefill_qkv_rows W f layer slots hb hj ht
  refine ⟨_,by rw [blockPrefill, hslots]; rfl,?_,?_⟩
  · intro j i hj t ht
    let attended : Buffers := { projected with
      attnOut := attendRequests (attend layer) projected.qkv reqs 0 projected.attnOut }
    have hrow : firstRow request batch j+t < total Request.promptsLen reqs :=
      (Nat.add_lt_add_left ht _).trans_le (first_row_le hj)
    have hattn : rowAt gpt2DModel attended.attnOut (firstRow request batch j+t) = _ :=
      prefill_attended_rows W f hattend layer hj (fun s hs => hqkv hj hs) ht
    have hx : rowAt gpt2DModel attended.x (firstRow request batch j+t) = _ := hb.x j i hj t ht
    show rowAt gpt2DModel (feedForward W layer _ attended).x _ = _
    rw [feed_forward_row layer hrow attended W, rows_before_succ, hattn, hx]
    simp only [CausalLayer.outputs, referenceLayer, attentionAt, dif_pos ht]
    rfl
  · intro i hi l hl t ht
    obtain ⟨j,hj⟩ := List.mem_iff_getElem?.mp hi
    by_cases hlayer : l = layer
    · subst hlayer
      obtain ⟨slot,hslot,hheld⟩ := append_holds h.apart hat projected.qkv b.pool hnodup
        (prompt_rows_get hj ht)
      rw [hqkv hj ht] at hheld
      exact ⟨slot,hslot,hheld⟩
    · have hdone : (l:ℕ) < layer :=
        lt_of_le_of_ne (Nat.le_of_lt_succ hl) fun he => hlayer (Fin.ext he)
      obtain ⟨slot,hslot,hheld⟩ := hb.cached i hi l hdone t ht
      refine ⟨slot,hslot,hheld.same (append_spares h.apart hat projected.qkv b.pool (i,l,t) ?_
        hslot)⟩
      exact fun r _ he => hlayer (congrArg (fun key : TokenKey ι => key.2.1) he)

omit h in
theorem block_prefill_spares (hapart : TablesApart request) {attend : PrefillAttention}
    (layer : Fin gpt2NLayers) {rows : ℕ} {b c : Buffers} {i : ι} (hi : i ∉ batch)
    (hc : blockPrefill W attend (batch.map request) rows layer b = some c) :
    SparesRequest b.pool c.pool (request i) := by
  obtain ⟨slots,hslots,rfl⟩ := Option.map_eq_some_iff.mp hc
  intro l t slot hs
  refine append_spares hapart (make_tables_slots hslots) _ b.pool (i,l,t) (fun r hr he => hi ?_) hs
  obtain ⟨k,hk,hr⟩ := List.mem_flatMap.mp hr
  obtain ⟨u,_,rfl⟩ := List.mem_map.mp hr
  obtain rfl : i = k := congrArg Prod.fst he
  exact hk

structure PassResult (request : ι → Request) (batch : List ι) (cached : ι → ℕ) (b : Buffers)
    (resps : List Response) (c : Buffers) : Prop where
  answers : resps = (batch.map request).map (referenceAnswer W f)
  caches : ∀ i ∈ batch, ∀ layer, CachesRows c.pool ((request i).cache layer)
    (W.qkvRows f (request i).promptsLen (request i).tokens layer) (cached i)
  others : ∀ i ∉ batch, SparesRequest b.pool c.pool (request i)

/-- A prefill of fresh requests. -/
theorem prefill_reference {attend : PrefillAttention} (hattend : AttendsRows attend f)
    (hfresh : ∀ i ∈ batch, 0 < (request i).promptsLen ∧
      (request i).tokens.length = (request i).promptsLen) (b : Buffers) :
    ∃ resps c, W.prefill attend (batch.map request) b = some (resps,c) ∧
      PassResult W f request batch (fun i => (request i).promptsLen) b resps c := by
  obtain ⟨c,hc,hlast⟩ := over_layers_keep
    (fun layer _ hb => block_prefill_reference h W f hattend layer hb) (prefill_starts h W f b)
  refine ⟨(W.answerLast (batch.map request) c).1,(W.answerLast (batch.map request) c).2,?_,?_,?_,
    ?_⟩
  · rw [Gpt2Weights.prefill, Gpt2Launches.prefill, Gpt2Launches.prefillLayers, hc]
    rfl
  · apply answer_rows_reference
    intro j r hr
    rw [List.getElem?_map] at hr
    obtain ⟨i,hj,rfl⟩ := Option.map_eq_some_iff.mp hr
    obtain ⟨hpos,hlength⟩ := hfresh i (List.mem_of_getElem? hj)
    have hget := gather_get c.x (batch.map request) (request_get hj) 0 0 c.xLast
    rw [Nat.zero_add, Nat.zero_add, first_row_map,
      hlast.x j i hj _ (Nat.sub_lt hpos one_pos)] at hget
    rw [hget, hlength]
  · exact fun i hi layer => hlast.cached i hi layer layer.isLt
  · intro i hi
    have hspared := over_layers_trans (fun p q => SparesRequest p.pool q.pool (request i))
      (fun p => SparesRequest.refl p.pool _) (fun _ _ _ => SparesRequest.trans)
      (fun layer _ _ => block_prefill_spares W h.apart layer hi) _ hc
    exact hspared

end Prefill

end MiniLlm

import MiniLlm.ForwardRows

/-!
# Two prefills side by side

The rows of a request start where those of the requests before it end, in
the ids, the positions, the slots and the buffers alike. Two prefills that
have some leading tokens of a request in common cache the same K and V for
them, if attention does not tell them apart.
-/

set_option autoImplicit false

namespace MiniLlm

open FlatMemory RowBuffers

variable {ι ι' : Type*}

structure PrefillBatch (request : ι → Request) (batch : List ι) : Prop where
  apart : TablesApart request
  distinct : batch.Nodup
  prompt : ∀ i ∈ batch, (request i).promptsLen ≤ (request i).tokens.length
  room : ∀ i ∈ batch, ∀ layer, (request i).promptsLen ≤
    ((request i).cache layer).numBlocks*defaultKvBlockSize

section Rows

variable {request : ι → Request} {batch : List ι}

def firstRow (request : ι → Request) (batch : List ι) (j : ℕ) : ℕ :=
  startOf (fun i => (request i).promptsLen) batch j

theorem first_row_map (j : ℕ) :
    startOf Request.promptsLen (batch.map request) j = firstRow request batch j := by
  rw [firstRow, startOf, startOf, ← List.map_take, List.map_map]
  rfl

theorem total_map : total Request.promptsLen (batch.map request) =
    total (fun i => (request i).promptsLen) batch := by
  rw [total, total, List.map_map]
  rfl

theorem first_row_le {j : ℕ} {i : ι} (hj : batch[j]? = some i) :
    firstRow request batch j+(request i).promptsLen ≤
      total Request.promptsLen (batch.map request) := by
  rw [total_map]
  exact start_add_le (fun i => (request i).promptsLen) batch hj

theorem prompt_rows_get {j t : ℕ} {i : ι} (hj : batch[j]? = some i)
    (ht : t < (request i).promptsLen) :
    (promptRows request batch)[firstRow request batch j+t]? = some (i,t) := by
  rw [promptRows, firstRow, flat_map_get _ _ _ (fun _ _ => by simp) hj ht]
  simp [ht]

theorem prefill_positions_get {j t : ℕ} {i : ι} (hj : batch[j]? = some i)
    (ht : t < (request i).promptsLen) :
    (prefillPositions (batch.map request))[firstRow request batch j+t]? = some (t:ℤ) := by
  rw [prefillPositions, List.flatMap_map, firstRow, flat_map_get _ _ _ (fun _ _ => by simp) hj ht]
  simp [ht]

variable (h : PrefillBatch request batch)

include h

theorem prefill_tokens_get {j t : ℕ} {i : ι} (hj : batch[j]? = some i)
    (ht : t < (request i).promptsLen) :
    (prefillTokens (batch.map request))[firstRow request batch j+t]? =
      (request i).tokens[t]? := by
  have hlen (i : ι) (hi : i ∈ batch) :
      ((request i).tokens.take (request i).promptsLen).length = (request i).promptsLen := by
    rw [List.length_take, Nat.min_eq_left (h.prompt i hi)]
  rw [prefillTokens, List.flatMap_map, firstRow, flat_map_get _ _ _ hlen hj ht,
    List.getElem?_take_of_lt ht]

theorem make_tables_exist (layer : Fin gpt2NLayers) :
    ∃ slots, makeTables layer (batch.map request) = some slots := by
  apply map_is_some
  intro row hrow
  rw [prompt_rows_caches] at hrow
  obtain ⟨r,hr,rfl⟩ := List.mem_map.mp hrow
  obtain ⟨i,hi,hr⟩ := List.mem_flatMap.mp hr
  obtain ⟨t,ht,rfl⟩ := List.mem_map.mp hr
  exact token_slot_exists (h.room i hi layer) (List.mem_range.mp ht)

end Rows

section Run

variable {request : ι → Request} {request' : ι' → Request} {batch : List ι} {batch' : List ι'}
  (h : PrefillBatch request batch) (h' : PrefillBatch request' batch')
  {j j' : ℕ} {i : ι} {i' : ι'} (hj : batch[j]? = some i) (hj' : batch'[j']? = some i') {n : ℕ}
  (hn : n ≤ (request i).promptsLen) (hn' : n ≤ (request' i').promptsLen)

def AttendsAlike (attend attend' : ℕ → Memory ℝ → Memory ℝ → Memory ℝ) (request : ι → Request)
    (request' : ι' → Request) (batch : List ι) (batch' : List ι') (j j' n : ℕ) : Prop :=
  ∀ qkv qkv' out out',
    SameRows (3*gpt2DModel) n qkv (firstRow request batch j) qkv' (firstRow request' batch' j') →
    SameRows gpt2DModel n
      (attendRequests attend qkv (batch.map request) 0 out) (firstRow request batch j)
      (attendRequests attend' qkv' (batch'.map request') 0 out') (firstRow request' batch' j')

/-- Before layer `l`: the rows are the same, and what is cached so far. After the last layer the
rows need not be. -/
structure SamePrefix (r r' : Request) (off off' n : ℕ) (last : Prop) (l : ℕ) (b b' : Buffers) :
    Prop where
  x : (gpt2NLayers ≤ l → last) → SameRows gpt2DModel n b.x off b'.x off'
  cached : ∀ layer : Fin gpt2NLayers, layer < l →
    SameCached b.pool b'.pool (r.cache layer) (r'.cache layer) n

include h h' hj hj' hn hn'

theorem block_prefill_same {W W' : Gpt2Launches} {attend attend' : PrefillAttention}
    {last : Prop} (hW : W.Alike W' n (firstRow request batch j) (firstRow request' batch' j') last)
    (layer : Fin gpt2NLayers) (hattend : ((layer:ℕ)+1 = gpt2NLayers → last) →
      AttendsAlike (attend layer) (attend' layer) request request' batch batch' j j' n)
    {b b' : Buffers} (hsame : SamePrefix (request i) (request' i') (firstRow request batch j)
      (firstRow request' batch' j') n last layer b b') :
    ∃ c c', blockPrefill W attend (batch.map request)
        (total Request.promptsLen (batch.map request)) layer b = some c ∧
      blockPrefill W' attend' (batch'.map request')
        (total Request.promptsLen (batch'.map request')) layer b' = some c' ∧
      SamePrefix (request i) (request' i') (firstRow request batch j)
        (firstRow request' batch' j') n last (layer+1) c c' := by
  obtain ⟨slots,hslots⟩ := make_tables_exist h layer
  obtain ⟨slots',hslots'⟩ := make_tables_exist h' layer
  have hat := make_tables_slots hslots
  have hat' := make_tables_slots hslots'
  have hr : firstRow request batch j+n ≤ total Request.promptsLen (batch.map request) :=
    (Nat.add_le_add_left hn _).trans (first_row_le hj)
  have hr' : firstRow request' batch' j'+n ≤ total Request.promptsLen (batch'.map request') :=
    (Nat.add_le_add_left hn' _).trans (first_row_le hj')
  have hx := hsame.x fun hle => absurd hle (Nat.not_le.mpr layer.isLt)
  have hqkv := project_append_same (hW.layer layer) slots slots' hx hr hr'
  refine ⟨_,_,by rw [blockPrefill, hslots]; rfl,by rw [blockPrefill, hslots']; rfl,?_,?_⟩
  · intro hlast
    have hafter : (layer:ℕ)+1 = gpt2NLayers → last := fun he => hlast he.ge
    exact feed_forward_same (hW.layer layer) hafter hx (hattend hafter _ _ _ _ hqkv) hr hr'
  · intro l hl t ht
    have hd : (promptRows request batch).Nodup := prompt_rows_nodup h.distinct
    have hd' : (promptRows request' batch').Nodup := prompt_rows_nodup h'.distinct
    by_cases hlayer : l = layer
    · subst hlayer
      exact append_same h.apart h'.apart hat hat' _ _ b.pool b'.pool hd hd'
        (prompt_rows_get hj (ht.trans_le hn)) (prompt_rows_get hj' (ht.trans_le hn'))
        (hqkv t ht)
    · have hdone : (l:ℕ) < layer :=
        lt_of_le_of_ne (Nat.le_of_lt_succ hl) fun he => hlayer (Fin.ext he)
      refine append_spares_same h.apart h'.apart hat hat' _ _ b.pool b'.pool
        (i,l,t) (i',l,t) ?_ ?_ (hsame.cached l hdone t ht)
      · exact fun r _ he => hlayer (congrArg (fun key : TokenKey ι => key.2.1) he)
      · exact fun r _ he => hlayer (congrArg (fun key : TokenKey ι' => key.2.1) he)

theorem prefill_layers_same {W W' : Gpt2Launches} {attend attend' : PrefillAttention}
    (last : Prop)
    (hW : W.Alike W' n (firstRow request batch j) (firstRow request' batch' j') last)
    (hattend : ∀ layer : Fin gpt2NLayers, ((layer:ℕ)+1 = gpt2NLayers → last) →
      AttendsAlike (attend layer) (attend' layer) request request' batch batch' j j' n)
    (htokens : ∀ t < n, (request i).tokens[t]? = (request' i').tokens[t]?) (b b' : Buffers) :
    ∃ c c', W.prefillLayers attend (batch.map request) b = some c ∧
      W'.prefillLayers attend' (batch'.map request') b' = some c' ∧
      (last → SameRows gpt2DModel n c.x (firstRow request batch j) c'.x
        (firstRow request' batch' j')) ∧
      ∀ layer, SameCached c.pool c'.pool ((request i).cache layer) ((request' i').cache layer)
        n := by
  let R := SamePrefix (request i) (request' i') (firstRow request batch j)
    (firstRow request' batch' j') n last
  let x := embeddingLookup W (prefillTokens (batch.map request))
    (prefillPositions (batch.map request)) b.x
  let x' := embeddingLookup W' (prefillTokens (batch'.map request'))
    (prefillPositions (batch'.map request')) b'.x
  have hstart : R 0 { b with x := x } { b' with x := x' } := by
    refine ⟨fun _ t ht => ?_,fun _ hl => absurd hl (Nat.not_lt_zero _)⟩
    have hin : t < (request i).tokens.length :=
      (ht.trans_le hn).trans_le (h.prompt i (List.mem_of_getElem? hj))
    have htoken := prefill_tokens_get h hj (ht.trans_le hn)
    have htoken' := prefill_tokens_get h' hj' (ht.trans_le hn')
    rw [← htokens t ht, List.getElem?_eq_getElem hin] at htoken'
    rw [List.getElem?_eq_getElem hin] at htoken
    show rowAt _ x _ = rowAt _ x' _
    rw [embedding_row_get W _ _ _ htoken (prefill_positions_get hj (ht.trans_le hn)),
      embedding_row_get W' _ _ _ htoken' (prefill_positions_get hj' (ht.trans_le hn'))]
    unfold embeddingRow
    rw [hW.wte, hW.wpe]
  obtain ⟨c,c',hc,hc',hsame⟩ := over_layers_same (R := R)
    (fun layer _ _ hsame =>
      block_prefill_same h h' hj hj' hn hn' hW layer (hattend layer) hsame) hstart
  exact ⟨c,c',hc,hc',fun hlast => hsame.x fun _ => hlast,
    fun layer => hsame.cached layer layer.isLt⟩

end Run

end MiniLlm

import MiniLlm.CausalLayers
import MiniLlm.FlashRows
import MiniLlm.GreedySelection

/-!
# The model without a cache

What the weights say about a sequence of tokens: each row from the rows
before it, layer by layer, with no batch, no pool and no buffers. Rows of the
prompt are attended to as the prefill kernel does, later ones as the decode
kernel does, with its `1e-6`. The next token is the first with the largest
logit.
-/

set_option autoImplicit false

namespace MiniLlm

open FlatMemory RowBuffers CausalLayer PagedAttention

abbrev QkvRow := Row (3*gpt2DModel)

def flattened (row : ℕ → QkvRow) : Memory ℝ := fun a =>
  row (a/(3*gpt2DModel)) ⟨a%(3*gpt2DModel),Nat.mod_lt a (by decide)⟩

theorem flattened_row (row : ℕ → QkvRow) (t : ℕ) :
    rowAt (3*gpt2DModel) (flattened row) t = row t := by
  ext c
  rw [rowAt, flattened, row_cell_div c.isLt]
  exact congrArg (row t) (Fin.ext (row_cell_mod c.isLt))

theorem flattened_same {row row' : ℕ → QkvRow} {m : ℕ} (h : ∀ s < m, row s = row' s) :
    SameRows (3*gpt2DModel) m (flattened row) 0 (flattened row') 0 := by
  intro s hs
  rw [Nat.zero_add, flattened_row, flattened_row, h s hs]

noncomputable def guardFactor (sum : ℝ) : ℝ := sum/(sum+1e-6)

/-- Causal attention of all heads at a position, with what the decode kernel adds to the
divisor. -/
noncomputable def guardedAttention (row : ℕ → QkvRow) (t : ℕ) : Row gpt2DModel := fun c =>
  FlashAttention.causalAttention (flattened row) headScale (c/gpt2DHead) t (c%gpt2DHead)*
    guardFactor (relativeSum
      (FlashAttention.exactScore (flattened row) headScale (c/gpt2DHead) t) t)

/-- Attention at a position behind a prompt of `n` tokens. -/
noncomputable def attentionAt (f : RowAttention) (layer : Fin gpt2NLayers) (n : ℕ)
    (row : ℕ → QkvRow) (t : ℕ) : Row gpt2DModel :=
  if h : t < n then f layer n (fun s => row s) ⟨t,h⟩ else guardedAttention row t

section Congruence

variable {row row' : ℕ → QkvRow}

theorem relative_sum_congr {s s' : ℕ → ℝ} {m : ℕ} (h : ∀ k < m+1, s k = s' k) :
    relativeSum s m = relativeSum s' m := by
  have hrange (k : ℕ) (hk : k ∈ Finset.range (m+1)) : s k = s' k := h k (Finset.mem_range.mp hk)
  have hmax := Finset.sup'_congr Finset.nonempty_range_add_one rfl hrange
  rw [relativeSum, relativeSum, hmax]
  exact Finset.sum_congr rfl fun k hk => by rw [hrange k hk]

theorem exact_score_same {qkv qkv' : Memory ℝ} {m : ℕ}
    (hrows : SameRows (3*gpt2DModel) m qkv 0 qkv' 0) (scale : ℝ) {hid q k : ℕ}
    (hhid : hid < gpt2NHeads) (hq : q < m) (hk : k < m) :
    FlashAttention.exactScore qkv scale hid q k =
      FlashAttention.exactScore qkv' scale hid q k := by
  let order : LaneOrders := fun _ _ _ => promptLanes
  have htogether : (order hid q k).Together := by decide
  rw [← FlashAttention.kernel_score_together qkv _ _ _ _ htogether,
    ← FlashAttention.kernel_score_together qkv' _ _ _ _ htogether]
  exact FlashAttention.kernel_score_same hrows hhid hq hk Iff.rfl

theorem causal_attention_same {qkv qkv' : Memory ℝ} {m : ℕ}
    (hrows : SameRows (3*gpt2DModel) m qkv 0 qkv' 0) (scale : ℝ) {hid q d : ℕ}
    (hhid : hid < gpt2NHeads) (hq : q < m) (hd : d < gpt2DHead) :
    FlashAttention.causalAttention qkv scale hid q d =
      FlashAttention.causalAttention qkv' scale hid q d := by
  have hvisible (k : ℕ) (hk : k ∈ Finset.range (q+1)) : k < m :=
    (Nat.le_of_lt_succ (Finset.mem_range.mp hk)).trans_lt hq
  apply OnlineSoftmax.softmax_congr
  · exact fun k hk => exact_score_same hrows scale hhid hq (hvisible k hk)
  · exact fun k hk => FlashAttention.value_same hrows hhid (hvisible k hk) hd

theorem guarded_attention_congr {t : ℕ} (h : ∀ s < t+1, row s = row' s) :
    guardedAttention row t = guardedAttention row' t := by
  ext c
  obtain ⟨hhid,hd,_⟩ := head_component c
  have hrows := flattened_same h
  rw [guardedAttention, guardedAttention, causal_attention_same hrows _ hhid t.lt_succ_self hd]
  congr 2
  apply relative_sum_congr
  exact fun k hk => exact_score_same hrows _ hhid t.lt_succ_self hk

def promptReach (n t : ℕ) : ℕ := max n (t+1)

theorem prompt_reach (n : ℕ) : Reach (promptReach n) where
  self t := by
    unfold promptReach
    omega
  closed s t h := by
    unfold promptReach at *
    omega

theorem attention_at_congr (f : RowAttention) (layer : Fin gpt2NLayers) {n t : ℕ}
    (h : ∀ s < promptReach n t, row s = row' s) :
    attentionAt f layer n row t = attentionAt f layer n row' t := by
  unfold attentionAt
  split
  · congr 1
    funext s
    exact h s (s.isLt.trans_le (Nat.le_max_left _ _))
  · exact guarded_attention_congr fun s hs => h s (hs.trans_le (Nat.le_max_right _ _))

end Congruence

namespace Gpt2Weights

variable (W : Gpt2Weights) (f : RowAttention) (n : ℕ)

noncomputable def referenceLayer (layer : Fin gpt2NLayers) :
    CausalLayer (Row gpt2DModel) QkvRow where
  entry x := (W.layer layer).qkv ((W.layer layer).ln1 x)
  attend t row x :=
    let w := W.layer layer
    let x := residualAdd w.out (attentionAt f layer n row t) x
    residualAdd w.fc2 (w.fc1Gelu (w.ln2 x)) x

noncomputable def referenceLayers : List (CausalLayer (Row gpt2DModel) QkvRow) :=
  (List.finRange gpt2NLayers).map (referenceLayer W f n)

def inputRow (tokens : List ℤ) (t : ℕ) : Row gpt2DModel := embeddingRow W (tokens[t]?.getD 0) t

/-- The rows that enter layer `l`, or leave the last one. -/
noncomputable def rowsBefore (tokens : List ℤ) (l : ℕ) : ℕ → Row gpt2DModel :=
  through ((referenceLayers W f n).take l) (inputRow W tokens)

/-- What attention of a layer sees of each position. -/
noncomputable def qkvRows (tokens : List ℤ) (layer : Fin gpt2NLayers) : ℕ → QkvRow :=
  (referenceLayer W f n layer).entries (rowsBefore W f n tokens layer)

noncomputable def nextLogits (tokens : List ℤ) : Row gpt2VocabSize :=
  W.logits (W.lnF (rowsBefore W f n tokens gpt2NLayers (tokens.length-1)))

noncomputable def nextToken (tokens : List ℤ) : ℕ :=
  sInf {c | ∃ h : c < gpt2VocabSize, ∀ c', nextLogits W f n tokens c' ≤
    nextLogits W f n tokens ⟨c,h⟩}

noncomputable def greedyTokens (prompt : List ℤ) : ℕ → List ℤ
  | 0 => []
  | k+1 => greedyTokens prompt k++
      [(nextToken W f prompt.length (prompt++greedyTokens prompt k) : ℤ)]

theorem rows_before_succ (tokens : List ℤ) (layer : Fin gpt2NLayers) :
    rowsBefore W f n tokens (layer+1) =
      (referenceLayer W f n layer).outputs (rowsBefore W f n tokens layer) := by
  apply through_succ
  rw [referenceLayers, List.getElem?_map, List.getElem?_eq_getElem (by simp)]
  simp

theorem rows_before_append {tokens : List ℤ} (later : List ℤ) (l : ℕ) {t : ℕ}
    (hn : n ≤ tokens.length) (ht : t < tokens.length) :
    rowsBefore W f n (tokens++later) l t = rowsBefore W f n tokens l t := by
  have hreach := prompt_reach n
  apply through_congr hreach _ _ _ t (hreach.self t)
  · intro layer hlayer u e e' x hlooks
    obtain ⟨l,_,rfl⟩ := List.mem_map.mp (List.mem_of_mem_take hlayer)
    simp only [referenceLayer, attention_at_congr f l hlooks]
  · intro s hs
    have hin : s < tokens.length := by
      unfold promptReach at hs
      omega
    rw [inputRow, inputRow, List.getElem?_append_left hin]

theorem qkv_rows_append {tokens : List ℤ} (later : List ℤ) (layer : Fin gpt2NLayers) {t : ℕ}
    (hn : n ≤ tokens.length) (ht : t < tokens.length) :
    qkvRows W f n (tokens++later) layer t = qkvRows W f n tokens layer t :=
  congrArg _ (rows_before_append W f n later layer hn ht)

end Gpt2Weights

section Choice

theorem exact_comparison_linear : exactComparison = linearComparison (WithBot ℝ) := by
  unfold exactComparison linearComparison
  congr

theorem argmax_row_exact {cols : ℕ} (hcols : 0 < cols) (row : ℕ → ℝ) :
    argmaxRow exactComparison (fun c => (row c : WithBot ℝ)) cols =
      sInf {c | ∃ _ : c < cols, ∀ c' : Fin cols, row c' ≤ row c} := by
  have hfirst := argmax_row_first (fun c => (row c : WithBot ℝ)) hcols
  rw [← exact_comparison_linear] at hfirst
  have hsets : {c | c < cols ∧ ∀ c' < cols, (row c' : WithBot ℝ) ≤ row c} =
      {c | ∃ _ : c < cols, ∀ c' : Fin cols, row c' ≤ row c} := by
    ext c
    simp only [Set.mem_ofPred_eq, WithBot.coe_le_coe, exists_prop]
    exact and_congr_right fun _ => ⟨fun h c' => h c' c'.isLt,fun h c' hc' => h ⟨c',hc'⟩⟩
  rw [hsets] at hfirst
  exact hfirst.csInf_eq.symm

end Choice

end MiniLlm

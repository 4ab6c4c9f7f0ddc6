import MiniLlm.ForwardPass

/-!
# The loaded weights

What `load_weights` reads, and what layer norm, the linear layers and GELU
compute from a row with it, in exact arithmetic. Matrices are row-major, with
a row for each column of the input.
-/

set_option autoImplicit false

namespace MiniLlm

open FlatMemory RowBuffers

/-- A row of `layernorm`, with its default `eps`. -/
noncomputable def layernorm (gamma beta : Memory ℝ) (x : Row gpt2DModel) : Row gpt2DModel :=
  let mean := (∑ d, x d)/gpt2DModel
  let variance := (∑ d, (x d-mean)*(x d-mean))/gpt2DModel
  fun d => (x d-mean)*(Real.sqrt (variance+1e-5))⁻¹*gamma d+beta d

def gemm {w n : ℕ} (weight : Memory ℝ) (x : Row w) : Row n := fun j =>
  ∑ i, x i*rowAt n weight i j

/-- A row of `linear`. -/
def linear {w n : ℕ} (weight bias : Memory ℝ) (x : Row w) : Row n := fun j =>
  gemm weight x j+bias j

noncomputable def geluOne (v : ℝ) : ℝ :=
  0.5*v*(1+Real.tanh (0.7978845608*(v+0.044715*v*v*v)))

/-- A row of `linear_gelu`. -/
noncomputable def linearGelu {w n : ℕ} (weight bias : Memory ℝ) (x : Row w) : Row n := fun j =>
  geluOne (linear weight bias x j)

structure LoadedLayer where
  ln1W : Memory ℝ
  ln1B : Memory ℝ
  qkvW : Memory ℝ
  qkvB : Memory ℝ
  outW : Memory ℝ
  outB : Memory ℝ
  ln2W : Memory ℝ
  ln2B : Memory ℝ
  fc1W : Memory ℝ
  fc1B : Memory ℝ
  fc2W : Memory ℝ
  fc2B : Memory ℝ

/-- `GPT2Weights`. -/
structure LoadedWeights where
  wte : Memory ℝ
  wpe : Memory ℝ
  layer : Fin gpt2NLayers → LoadedLayer
  lnFW : Memory ℝ
  lnFB : Memory ℝ

/-- `transpose_wte_kernel`. -/
def transposeWte (wte : Memory ℝ) : Memory ℝ := fun a =>
  wte (a%gpt2VocabSize*gpt2DModel+a/gpt2VocabSize)

noncomputable def LoadedLayer.rows (w : LoadedLayer) : LayerRows where
  ln1 := layernorm w.ln1W w.ln1B
  qkv := linear w.qkvW w.qkvB
  out := linear w.outW w.outB
  ln2 := layernorm w.ln2W w.ln2B
  fc1Gelu := linearGelu w.fc1W w.fc1B
  fc2 := linear w.fc2W w.fc2B

noncomputable def LoadedWeights.rows (W : LoadedWeights) : Gpt2Weights where
  wte := W.wte
  wpe := W.wpe
  layer l := (W.layer l).rows
  lnF := layernorm W.lnFW W.lnFB
  logits := gemm (transposeWte W.wte)

section Rows

variable {w n : ℕ} (weight : Memory ℝ) (x : Row w) (j : Fin n)

theorem gemm_one (i : Fin w) (h : ∀ s : Fin w, s ≠ i → rowAt n weight s j = 0) :
    gemm weight x j = x i*rowAt n weight i j := by
  rw [gemm, Finset.sum_eq_single i]
  · intro s _ hs
    rw [h s hs, mul_zero]
  · exact fun hi => absurd (Finset.mem_univ i) hi

theorem gemm_two {i i' : Fin w} (hi : i ≠ i')
    (h : ∀ s : Fin w, s ≠ i → s ≠ i' → rowAt n weight s j = 0) :
    gemm weight x j = x i*rowAt n weight i j+x i'*rowAt n weight i' j := by
  rw [gemm, Fintype.sum_eq_add i i' hi]
  intro s hs
  rw [h s hs.1 hs.2, mul_zero]

theorem gemm_zero : gemm (fun _ => 0) x = (0 : Row n) := by
  ext j
  simp [gemm, rowAt]

theorem linear_zero : linear (fun _ => 0) (fun _ => 0) x = (0 : Row n) := by
  ext j
  rw [linear, gemm_zero, add_zero]

end Rows

noncomputable def LayerLaunches.after (w : LayerLaunches) (attn x : Row gpt2DModel) (t : ℕ) :
    Row gpt2DModel :=
  residualAdd w.fc2 (w.fc1Gelu (w.ln2 t (residualAdd w.out attn x))) (residualAdd w.out attn x)

section Layer

variable (layer : Fin gpt2NLayers) {rows t : ℕ} (ht : t < rows) (b : Buffers)

include ht

theorem launches_append_row (W : Gpt2Launches) (slots : List (ℕ × ℕ)) :
    rowAt (3*gpt2DModel) (projectAppend W layer rows slots b).qkv t =
      (W.layer layer).qkv ((W.layer layer).ln1 t (rowAt gpt2DModel b.x t)) := by
  rw [projectAppend, launch_rows_get _ _ _ ht, launch_indexed_get _ _ _ ht]

theorem launches_forward_row (W : Gpt2Launches) :
    rowAt gpt2DModel (feedForward W layer rows b).x t =
      (W.layer layer).after (rowAt gpt2DModel b.attnOut t) (rowAt gpt2DModel b.x t) t := by
  rw [feedForward, launch_rows_get _ _ _ ht, launch_rows_get _ _ _ ht,
    launch_indexed_get _ _ _ ht, launch_rows_get _ _ _ ht]
  rfl

variable (W : Gpt2Weights)

theorem project_append_row (slots : List (ℕ × ℕ)) :
    rowAt (3*gpt2DModel) (projectAppend W layer rows slots b).qkv t =
      (W.layer layer).qkv ((W.layer layer).ln1 (rowAt gpt2DModel b.x t)) :=
  launches_append_row layer ht b W slots

theorem feed_forward_row :
    rowAt gpt2DModel (feedForward W layer rows b).x t =
      let w := W.layer layer
      let x := residualAdd w.out (rowAt gpt2DModel b.attnOut t) (rowAt gpt2DModel b.x t)
      residualAdd w.fc2 (w.fc1Gelu (w.ln2 x)) x :=
  launches_forward_row layer ht b W

end Layer

end MiniLlm

import MiniLlm.DeviceKernels
import MiniLlm.TableBounds

/-!
# Kernels on the rows of a device buffer

The calls of the model to the linear layers, layer norm and the embedding,
with the pointers that they are given. A call that finds its rows in the
buffers stays within them and does to each row what the row function does.
-/

set_option autoImplicit false

namespace MiniLlm.Kernels

open FlatMemory RowBuffers KernelLaunch Streams Gemm

section Launches

variable (be : GemmBackend ℝ) {a b K N : ℕ}

/-- `linear` -/
noncomputable def runLinear (x : DevicePtr a) (xs : Memory ℝ) (weight : DevicePtr (K*N))
    (ws : Memory ℝ) (bias : DevicePtr N) (bs : Memory ℝ) (y : DevicePtr b) (M : ℕ)
    (ys : Memory ℝ) : Option (Memory ℝ) := do
  let A ← x.view (M*K) xs
  let C ← y.view (M*N) ys
  runAll (launchGemmBias be.sgemm geluOne be.shared be.useCublas M N K A (weight.whole ws)
    (some (bias.whole bs)) C .default) ys

/-- `linear_gelu` -/
noncomputable def runLinearGelu (x : DevicePtr a) (xs : Memory ℝ) (weight : DevicePtr (K*N))
    (ws : Memory ℝ) (bias : DevicePtr N) (bs : Memory ℝ) (y : DevicePtr b) (M : ℕ)
    (ys : Memory ℝ) : Option (Memory ℝ) := do
  let A ← x.view (M*K) xs
  let C ← y.view (M*N) ys
  runAll (launchGemmBiasGelu be.sgemm geluOne be.shared be.useCublas M N K A (weight.whole ws)
    (some (bias.whole bs)) C .default) ys

/-- `linear_residual_add` -/
noncomputable def runLinearResidualAdd (x : DevicePtr a) (xs : Memory ℝ)
    (weight : DevicePtr (K*N)) (ws : Memory ℝ) (bias : DevicePtr N) (bs : Memory ℝ)
    (y : DevicePtr b) (M : ℕ) (ys : Memory ℝ) : Option (Memory ℝ) := do
  let A ← x.view (M*K) xs
  let C ← y.view (M*N) ys
  runAll (launchGemmBiasResidual geluOne be.shared M N K A (weight.whole ws)
    (some (bias.whole bs)) C .default) ys

/-- `launch_gemm` for the logits -/
noncomputable def runGemm (x : DevicePtr a) (xs : Memory ℝ) (weight : DevicePtr (K*N))
    (ws : Memory ℝ) (y : DevicePtr b) (M : ℕ) (ys : Memory ℝ) : Option (Memory ℝ) := do
  let A ← x.view (M*K) xs
  let C ← y.view (M*N) ys
  runAll (launchGemm be.sgemm geluOne be.shared be.useCublas M N K 1 A (weight.whole ws) 0 C
    .default) ys

/-- `layernorm` -/
noncomputable def runLayernorm (scheds : ℕ → NormSchedule) (x : DevicePtr a) (xs : Memory ℝ)
    (gamma : DevicePtr gpt2DModel) (gs : Memory ℝ) (beta : DevicePtr gpt2DModel)
    (bs : Memory ℝ) (y : DevicePtr b) (M : ℕ) (ys : Memory ℝ) : Option (Memory ℝ) := do
  let x ← x.view (M*gpt2DModel) xs
  let y ← y.view (M*gpt2DModel) ys
  (launchLayernorm scheds x (gamma.whole gs) (beta.whole bs) y M).map (storeAll · ys)

/-- `embedding_lookup` -/
noncomputable def runEmbedding (ids positions : List ℤ)
    (wte : DevicePtr (gpt2VocabSize*gpt2DModel)) (tokens : Memory ℝ)
    (wpe : DevicePtr (maxSeq*gpt2DModel)) (pos : Memory ℝ) (x : DevicePtr a) (M : ℕ)
    (xs : Memory ℝ) : Option (Memory ℝ) := do
  let x ← x.view (M*gpt2DModel) xs
  (launchEmbedding ids positions (wte.whole tokens) (wpe.whole pos) x M).map (storeAll · xs)

variable {be} {x : DevicePtr a} {y : DevicePtr b} {weight : DevicePtr (K*N)}
  {bias : DevicePtr N} {xs ws bs ys : Memory ℝ} {M : ℕ}

theorem views_fit : Fits M N K ⟨x.address,M*K,xs⟩ (weight.whole ws) ⟨y.address,M*N,ys⟩ :=
  ⟨rfl,rfl,rfl⟩

theorem gemm_cell (m : ℕ) (n : Fin N) :
    ∑ k ∈ Finset.range K, xs (m*K+k)*ws (k*N+n) = gemm ws (rowAt K xs m) n := by
  rw [Finset.sum_range]
  rfl

variable (hx : M*K ≤ a) (hy : M*N ≤ b) (hint : IntSizes M N K)

include hx hy hint

theorem run_linear_rows (hN : 0 < N) (hK : 0 < K) :
    runLinear be x xs weight ws bias bs y M ys =
      some (launchRows M (fun (row : Row K) (_ : Row N) => linear ws bs row) xs ys) := by
  simp only [runLinear, view_some hx, view_some hy, Option.bind_eq_bind, Option.bind_some]
  rw [launch_gemm_bias_run be geluOne views_fit hint hN hK .default ys rfl]
  exact congrArg some (filled_rows _ xs fun m _ n => congrArg (·+bs n) (gemm_cell m n))

theorem run_linear_gelu_rows (hN : 0 < N) (hK : 0 < K) :
    runLinearGelu be x xs weight ws bias bs y M ys =
      some (launchRows M (fun (row : Row K) (_ : Row N) => linearGelu ws bs row) xs ys) := by
  simp only [runLinearGelu, view_some hx, view_some hy, Option.bind_eq_bind, Option.bind_some]
  rw [launch_gemm_bias_gelu_run be geluOne views_fit hint hN hK .default ys rfl
    (y.aligned16 (dvd_zero 4))]
  exact congrArg some (filled_rows _ xs fun m _ n =>
    congrArg (fun v => geluOne (v+bs n)) (gemm_cell m n))

theorem run_gemm_rows (hN : 0 < N) (hK : 0 < K) : runGemm be x xs weight ws y M ys =
    some (launchRows M (fun (row : Row K) (_ : Row N) => gemm ws row) xs ys) := by
  simp only [runGemm, view_some hx, view_some hy, Option.bind_eq_bind, Option.bind_some]
  rw [launch_gemm_run be geluOne views_fit hint hN hK .default ys]
  exact congrArg some (filled_rows _ xs fun m _ n => gemm_cell m n)

end Launches

section RowLaunches

variable {a b K : ℕ} {x : DevicePtr a} {y : DevicePtr b} {xs ws bs ys : Memory ℝ} {M : ℕ}

theorem run_residual_rows (be : GemmBackend ℝ) {weight : DevicePtr (K*gpt2DModel)}
    {bias : DevicePtr gpt2DModel} (hx : M*K ≤ a) (hy : M*gpt2DModel ≤ b)
    (hint : IntSizes M gpt2DModel K) :
    runLinearResidualAdd be x xs weight ws bias bs y M ys =
      some (launchRows M (residualAdd (linear ws bs : Row K → Row gpt2DModel)) xs ys) := by
  simp only [runLinearResidualAdd, view_some hx, view_some hy, Option.bind_eq_bind,
    Option.bind_some]
  rw [launch_gemm_bias_residual_run be geluOne views_fit hint .default ys
    (show (bias.whole bs).size = gpt2DModel from rfl)]
  refine congrArg some (filled_rows _ xs fun m _ n => ?_)
  have hcell : ∑ k ∈ Finset.range K, xs (m*K+k)*ws (k*gpt2DModel+n) =
      gemm ws (rowAt K xs m) n := gemm_cell m n
  have hsum : gemm ws (rowAt K xs m) n+ys (m*gpt2DModel+n)+bs n =
      ys (m*gpt2DModel+n)+(gemm ws (rowAt K xs m) n+bs n) := by
    ring
  exact (congrArg (·+ys (m*gpt2DModel+n)+bs n) hcell).trans hsum

theorem run_layernorm_rows (scheds : ℕ → NormSchedule) {gamma beta : DevicePtr gpt2DModel}
    (hx : M*gpt2DModel ≤ a) (hy : M*gpt2DModel ≤ b) :
    runLayernorm scheds x xs gamma ws beta bs y M ys =
      some (launchRows M (fun row _ => layernorm ws bs row) xs ys) := by
  obtain ⟨writes,hwrites,hrows⟩ : ∃ writes, launchLayernorm scheds
      ⟨x.address,M*gpt2DModel,xs⟩ (gamma.whole ws) (beta.whole bs) ⟨y.address,M*gpt2DModel,ys⟩ M =
      some writes ∧ storeAll writes ys = _ := launch_layernorm_fills scheds
  simp only [runLayernorm, view_some hx, view_some hy, Option.bind_eq_bind, Option.bind_some]
  rw [hwrites]
  exact congrArg some hrows

theorem run_embedding_rows (W : Gpt2Weights) {wte : DevicePtr (gpt2VocabSize*gpt2DModel)}
    {wpe : DevicePtr (maxSeq*gpt2DModel)} {ids positions : List ℤ}
    (hlen : ids.length = positions.length) (hids : ∀ token ∈ ids, InVocabulary token)
    (hpositions : ∀ pos ∈ positions, InSequence pos) (hx : ids.length*gpt2DModel ≤ a) :
    runEmbedding ids positions wte W.wte wpe W.wpe x ids.length xs =
      some (embeddingLookup W ids positions xs) := by
  obtain ⟨writes,hwrites,hfills⟩ : ∃ writes, launchEmbedding ids positions (wte.whole W.wte)
      (wpe.whole W.wpe) ⟨x.address,ids.length*gpt2DModel,xs⟩ ids.length = some writes ∧ _ :=
    launch_embedding_fills hlen hids hpositions
  simp only [runEmbedding, view_some hx, Option.bind_eq_bind, Option.bind_some]
  rw [hwrites, embedding_lookup_filled W hlen]
  exact congrArg some (fills_stored hfills xs)

end RowLaunches

end MiniLlm.Kernels

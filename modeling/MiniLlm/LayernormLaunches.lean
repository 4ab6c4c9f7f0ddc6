import MiniLlm.LayernormKernel

/-!
# The loaded weights in any schedule

What the kernels compute from the rows of their launches, with layer norm as
`layernorm_kernel` computes it however the threads of each block take turns.
Where none is late this is `LoadedWeights.rows`.
-/

set_option autoImplicit false

namespace MiniLlm

open FlatMemory BlockReduction LayernormKernel

/-- How the calls of `block_reduce_sum` go in the block of a row. -/
structure NormCalls where
  first : BlockSchedule (layernormWarps*warpSize) true
  second : BlockSchedule (layernormWarps*warpSize) false

noncomputable def NormCalls.row (c : NormCalls) (gamma beta : Memory ℝ) :
    Row gpt2DModel → Row gpt2DModel := layernormRow c.first c.second gamma beta

structure PassNorms where
  ln1 : Fin gpt2NLayers → ℕ → NormCalls
  ln2 : Fin gpt2NLayers → ℕ → NormCalls
  lnF : ℕ → NormCalls

noncomputable def LoadedLayer.launches (w : LoadedLayer) (ln1 ln2 : ℕ → NormCalls) :
    LayerLaunches where
  ln1 t := (ln1 t).row w.ln1W w.ln1B
  qkv := linear w.qkvW w.qkvB
  out := linear w.outW w.outB
  ln2 t := (ln2 t).row w.ln2W w.ln2B
  fc1Gelu := linearGelu w.fc1W w.fc1B
  fc2 := linear w.fc2W w.fc2B

noncomputable def LoadedWeights.launches (W : LoadedWeights) (norms : PassNorms) :
    Gpt2Launches where
  wte := W.wte
  wpe := W.wpe
  layer l := (W.layer l).launches (norms.ln1 l) (norms.ln2 l)
  lnF t := (norms.lnF t).row W.lnFW W.lnFB
  logits := gemm (transposeWte W.wte)

theorem prompt_row {c : NormCalls} (h : PromptLoads c.first) (gamma beta : Memory ℝ) :
    c.row gamma beta = layernorm gamma beta := by
  funext row d
  have hcells : (fun i : Fin gpt2DModel => cells row i) = row := funext (cells_row row)
  have hexact : Exact c.first c.second := exact_of_prompt h
  rw [NormCalls.row, layernormRow, hexact, hcells]

theorem launches_prompt (W : LoadedWeights) {norms : PassNorms}
    (hln1 : ∀ l t, PromptLoads (norms.ln1 l t).first)
    (hln2 : ∀ l t, PromptLoads (norms.ln2 l t).first)
    (hlnF : ∀ t, PromptLoads (norms.lnF t).first) : W.launches norms = W.rows.launches := by
  have hlayer (l : Fin gpt2NLayers) : (W.layer l).launches (norms.ln1 l) (norms.ln2 l) =
      (W.layer l).rows.launches := by
    unfold LoadedLayer.launches LayerRows.launches LoadedLayer.rows
    simp only [prompt_row (hln1 _ _), prompt_row (hln2 _ _)]
  unfold LoadedWeights.launches Gpt2Weights.launches LoadedWeights.rows
  simp only [hlayer, prompt_row (hlnF _)]

def NormAlike (c c' : NormCalls) : Prop :=
  ∀ tid < layernormWarps*warpSize, (Late c.first tid ↔ Late c'.first tid)

section Alike

variable {c c' : NormCalls} (h : NormAlike c c')

include h

theorem alike_returned (x : Memory ℝ) :
    (∀ tid < layernormWarps*warpSize,
      firstReturned c.first x tid = firstReturned c'.first x tid) ∧
      secondReturned c.first x = secondReturned c'.first x := by
  have hfirst (tid : ℕ) (htid : tid < layernormWarps*warpSize) :
      firstReturned c.first x tid = firstReturned c'.first x tid := by
    unfold firstReturned
    simp only [h tid htid]
  refine ⟨hfirst,Finset.sum_congr rfl fun t ht => ?_⟩
  rw [hfirst t (Finset.mem_range.mp ht)]

theorem alike_row : c.row = c'.row := by
  funext gamma beta row d
  obtain ⟨hfirst,hsecond⟩ := alike_returned h (cells row)
  rw [NormCalls.row, NormCalls.row, layernormRow, layernormRow, output, output, rowRun, rowRun]
  dsimp only
  rw [hfirst _ (thread_lt d), hsecond]

theorem alike_deviation (s : ℝ) : deviation c.first s = deviation c'.first s := by
  have hlate : lateSquares c.first s = lateSquares c'.first s := by
    refine Finset.sum_congr rfl fun t ht => ?_
    simp only [h t (Finset.mem_range.mp ht)]
  rw [deviation, deviation, hlate]

end Alike

noncomputable def promptCalls : NormCalls where
  first := loadsFirst (layernormWarps*warpSize) true
  second := loadsFirst (layernormWarps*warpSize) false

noncomputable def lateCalls : NormCalls where
  first := loadsLate (by decide)
  second := loadsFirst (layernormWarps*warpSize) false

end MiniLlm

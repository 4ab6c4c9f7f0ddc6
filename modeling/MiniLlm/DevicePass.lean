import MiniLlm.Batching
import MiniLlm.DeviceRows
import MiniLlm.StagingBuffers

/-!
# The passes as launches on device buffers

`GPT2Model::prefill` and `GPT2Model::decode` once more, with the pointers and
the sizes of its constructor and with the kernels of the linear layers, layer
norm and the embedding in the place of functions of a row. Every launch stays
within the matrices that it is given, these stay within the buffers, and the
passes are those over rows. The tables, the append and attention are as they
are there.
-/

set_option autoImplicit false

namespace MiniLlm.Kernels

open FlatMemory RowBuffers KernelLaunch

section Models

structure LayerPointers where
  ln1W : DevicePtr gpt2DModel
  ln1B : DevicePtr gpt2DModel
  qkvW : DevicePtr (gpt2DModel*(3*gpt2DModel))
  qkvB : DevicePtr (3*gpt2DModel)
  outW : DevicePtr (gpt2DModel*gpt2DModel)
  outB : DevicePtr gpt2DModel
  ln2W : DevicePtr gpt2DModel
  ln2B : DevicePtr gpt2DModel
  fc1W : DevicePtr (gpt2DModel*gpt2DFf)
  fc1B : DevicePtr gpt2DFf
  fc2W : DevicePtr (gpt2DFf*gpt2DModel)
  fc2B : DevicePtr gpt2DModel

/-- What `load_weights` and the constructor of `GPT2Model` allocate. -/
structure ModelPointers where
  wte : DevicePtr (gpt2VocabSize*gpt2DModel)
  wpe : DevicePtr (maxSeq*gpt2DModel)
  wteT : DevicePtr (gpt2DModel*gpt2VocabSize)
  layer : Fin gpt2NLayers → LayerPointers
  lnFW : DevicePtr gpt2DModel
  lnFB : DevicePtr gpt2DModel
  x : DevicePtr (stagingRows*gpt2DModel)
  ln : DevicePtr (stagingRows*gpt2DModel)
  qkv : DevicePtr (stagingRows*(3*gpt2DModel))
  attnOut : DevicePtr (stagingRows*gpt2DModel)
  ff : DevicePtr (stagingRows*gpt2DFf)
  xLast : DevicePtr (maxBatchNum*gpt2DModel)
  logits : DevicePtr (maxBatchNum*gpt2VocabSize)

/-- `make_wte_t_from_wte`, with what `wte_t` holds before. -/
def makeWteT (p : ModelPointers) (wte wteT : Memory ℝ) : Option (Memory ℝ) :=
  (launchTranspose (p.wte.whole wte) (p.wteT.whole wteT) gpt2VocabSize gpt2DModel).map
    (storeAll · wteT)

theorem make_wte_t_some (p : ModelPointers) (wte wteT : Memory ℝ) :
    makeWteT p wte wteT =
      some (filled gpt2DModel gpt2VocabSize (fun d v => wte (v*gpt2DModel+d)) wteT) := by
  obtain ⟨writes,hwrites,hfills⟩ : ∃ writes, launchTranspose (p.wte.whole wte)
      (p.wteT.whole wteT) gpt2VocabSize gpt2DModel = some writes ∧ _ :=
    launch_transpose_fills rfl rfl
  rw [makeWteT, hwrites]
  exact congrArg some (fills_stored hfills wteT)

structure DeviceModel where
  pointers : ModelPointers
  W : LoadedWeights
  wteT : Memory ℝ
  transposed : ∃ before, makeWteT pointers W.wte before = some wteT

/-- The end of `load_weights`. -/
def DeviceModel.load (p : ModelPointers) (W : LoadedWeights) (before : Memory ℝ) : DeviceModel where
  pointers := p
  W := W
  wteT := filled gpt2DModel gpt2VocabSize (fun d v => W.wte (v*gpt2DModel+d)) before
  transposed := ⟨before,make_wte_t_some p W.wte before⟩

theorem DeviceModel.logits_row (D : DeviceModel) (x : Row gpt2DModel) :
    (gemm D.wteT x : Row gpt2VocabSize) = gemm (transposeWte D.W.wte) x := by
  obtain ⟨before,hbefore⟩ := D.transposed
  rw [make_wte_t_some] at hbefore
  rw [← Option.some.inj hbefore]
  refine gemm_congr (fun i hi j hj => ?_) x
  rw [filled_cell hi hj, transposeWte, row_cell_div hj, row_cell_mod hj]

end Models

structure PrefillInside (reqs : List Request) : Prop where
  sized : BatchSized reqs
  held : PrefillHeld reqs
  within : PrefillWithin reqs

structure DecodeInside (reqs : List Request) : Prop where
  sized : BatchSized reqs
  within : DecodeWithin reqs
  ready : ∀ r ∈ reqs, TokenReady r

namespace DeviceModel

variable (D : DeviceModel) (be : GemmBackend ℝ) (scheds : ℕ → ℕ → NormSchedule)

noncomputable def projectAppend (layer : Fin gpt2NLayers) (rows : ℕ) (slots : List (ℕ × ℕ))
    (b : Buffers) : Option Buffers := do
  let p := D.pointers
  let l := p.layer layer
  let w := D.W.layer layer
  let ln ← runLayernorm (scheds (2*layer)) p.x b.x l.ln1W w.ln1W l.ln1B w.ln1B p.ln rows b.ln
  let qkv ← runLinear be p.ln ln l.qkvW w.qkvW l.qkvB w.qkvB p.qkv rows b.qkv
  some { b with ln := ln, qkv := qkv, pool := launchAppend slots qkv b.pool }

noncomputable def feedForward (layer : Fin gpt2NLayers) (rows : ℕ) (b : Buffers) :
    Option Buffers := do
  let p := D.pointers
  let l := p.layer layer
  let w := D.W.layer layer
  let x ← runLinearResidualAdd be p.attnOut b.attnOut l.outW w.outW l.outB w.outB p.x rows b.x
  let ln ← runLayernorm (scheds (2*layer+1)) p.x x l.ln2W w.ln2W l.ln2B w.ln2B p.ln rows b.ln
  let ff ← runLinearGelu be p.ln ln l.fc1W w.fc1W l.fc1B w.fc1B p.ff rows b.ff
  let x ← runLinearResidualAdd be p.ff ff l.fc2W w.fc2W l.fc2B w.fc2B p.x rows x
  some { b with x := x, ln := ln, ff := ff }

/-- `GPT2Model::block_prefill`. -/
noncomputable def blockPrefill (attend : PrefillAttention) (reqs : List Request) (seqLen : ℕ)
    (layer : Fin gpt2NLayers) (b : Buffers) : Option Buffers := do
  let slots ← makeTables layer reqs
  let b ← D.projectAppend be scheds layer seqLen slots b
  D.feedForward be scheds layer seqLen
    { b with attnOut := attendRequests (attend layer) b.qkv reqs 0 b.attnOut }

noncomputable def answerRows {n : ℕ} (reqs : List Request) (src : DevicePtr n)
    (srcs : Memory ℝ) (b : Buffers) : Option (List Response × Buffers) := do
  let p := D.pointers
  let ln ← runLayernorm (scheds (2*gpt2NLayers)) src srcs p.lnFW D.W.lnFW p.lnFB D.W.lnFB p.ln
    reqs.length b.ln
  let logits ← runGemm be p.ln ln p.wteT D.wteT p.logits reqs.length b.logits
  some (modelAnswers exactComparison (fun i c => (logits (i*gpt2VocabSize+c) : WithBot ℝ)) reqs,
    { b with ln := ln, logits := logits })

/-- `GPT2Model::prefill`. -/
noncomputable def prefill (attend : PrefillAttention) (reqs : List Request) (b : Buffers) :
    Option (List Response × Buffers) := do
  let p := D.pointers
  let seqLen := total Request.promptsLen reqs
  let x ← runEmbedding (prefillTokens reqs) (prefillPositions reqs) p.wte D.W.wte p.wpe D.W.wpe
    p.x seqLen b.x
  let b ← overLayers (D.blockPrefill be scheds attend reqs seqLen) (List.finRange gpt2NLayers)
    { b with x := x }
  let xLast := gatherLastTokens b.x reqs 0 0 b.xLast
  D.answerRows be scheds reqs p.xLast xLast { b with xLast := xLast }

/-- The body of the loop of `GPT2Model::decode` over the layers. -/
noncomputable def decodeLayer (shared : Memory ℝ) (reqs : List Request)
    (layer : Fin gpt2NLayers) (b : Buffers) : Option Buffers := do
  let slots ← decodeTables layer reqs
  let b ← D.projectAppend be scheds layer reqs.length slots b
  D.feedForward be scheds layer reqs.length (Gpt2Weights.decodeAttend shared reqs layer b)

/-- `GPT2Model::decode`. -/
noncomputable def decode (shared : Memory ℝ) (reqs : List Request) (b : Buffers) :
    Option (List Response × Buffers) :=
  if reqs.isEmpty then some ([],b) else do
  let p := D.pointers
  let x ← runEmbedding (decodeTokens reqs) (decodePositions reqs) p.wte D.W.wte p.wpe D.W.wpe
    p.x reqs.length b.x
  let b ← overLayers (D.decodeLayer be scheds shared reqs) (List.finRange gpt2NLayers)
    { b with x := x }
  D.answerRows be scheds reqs p.x b.x b

variable {D be scheds}

theorem int_sizes {M N K : ℕ} (hM : M ≤ stagingRows) (hN : N ≤ gpt2VocabSize)
    (hK : K ≤ gpt2DFf) : IntSizes M N K := by
  have hcells : M*N ≤ stagingRows*gpt2VocabSize := Nat.mul_le_mul hM hN
  have hinputs : M*K ≤ stagingRows*gpt2DFf := Nat.mul_le_mul hM hK
  constructor
  all_goals
    simp only [stagingRows, maxBatchNum, maxSeq, gpt2VocabSize, gpt2DFf, Gemm.bm,
      KernelLaunch.intMax, KernelLaunch.maxGridY] at *
    omega

section Rows

variable {rows : ℕ} (hrows : rows ≤ stagingRows)

include hrows

theorem project_append_rows (layer : Fin gpt2NLayers) (slots : List (ℕ × ℕ)) (b : Buffers) :
    D.projectAppend be scheds layer rows slots b =
      some (MiniLlm.projectAppend D.W.rows layer rows slots b) := by
  have hmodel := Nat.mul_le_mul_right gpt2DModel hrows
  have hqkv := Nat.mul_le_mul_right (3*gpt2DModel) hrows
  unfold projectAppend
  dsimp only
  rw [run_layernorm_rows _ hmodel hmodel]
  simp only [Option.bind_eq_bind, Option.bind_some]
  rw [run_linear_rows hmodel hqkv (int_sizes hrows (by decide) (by decide)) (by decide)
    (by decide)]
  rfl

theorem feed_forward_rows (layer : Fin gpt2NLayers) (b : Buffers) :
    D.feedForward be scheds layer rows b =
      some (MiniLlm.feedForward D.W.rows layer rows b) := by
  have hmodel := Nat.mul_le_mul_right gpt2DModel hrows
  have hff := Nat.mul_le_mul_right gpt2DFf hrows
  unfold feedForward
  dsimp only
  rw [run_residual_rows be hmodel hmodel (int_sizes hrows (by decide) (by decide))]
  simp only [Option.bind_eq_bind, Option.bind_some]
  rw [run_layernorm_rows _ hmodel hmodel]
  simp only [Option.bind_some]
  rw [run_linear_gelu_rows hmodel hff (int_sizes hrows (by decide) (by decide)) (by decide)
    (by decide)]
  simp only [Option.bind_some]
  rw [run_residual_rows be hff hmodel (int_sizes hrows (by decide) (by decide))]
  rfl

theorem block_prefill_rows (attend : PrefillAttention) (reqs : List Request)
    (layer : Fin gpt2NLayers) (b : Buffers) :
    D.blockPrefill be scheds attend reqs rows layer b =
      MiniLlm.blockPrefill D.W.rows attend reqs rows layer b := by
  unfold blockPrefill MiniLlm.blockPrefill
  cases makeTables layer reqs with
  | none => rfl
  | some slots =>
    simp only [Option.bind_eq_bind, Option.bind_some, project_append_rows hrows,
      feed_forward_rows hrows]
    rfl

end Rows

theorem answer_rows_rows {n : ℕ} {reqs : List Request} (hbatch : reqs.length ≤ maxBatchNum)
    {src : DevicePtr n} (hsrc : reqs.length*gpt2DModel ≤ n) (srcs : Memory ℝ) (b : Buffers) :
    D.answerRows be scheds reqs src srcs b =
      some (MiniLlm.answerRows D.W.rows reqs srcs b) := by
  have hrows : reqs.length ≤ stagingRows := hbatch.trans (Nat.le_mul_of_pos_right _ (by decide))
  have hmodel : reqs.length*gpt2DModel ≤ stagingRows*gpt2DModel := Nat.mul_le_mul_right _ hrows
  have hlogits := Nat.mul_le_mul_right gpt2VocabSize hbatch
  unfold answerRows
  dsimp only
  rw [run_layernorm_rows _ hsrc hmodel]
  simp only [Option.bind_eq_bind, Option.bind_some]
  rw [run_gemm_rows hmodel hlogits (int_sizes hrows (by decide) (by decide)) (by decide)
    (by decide)]
  simp only [Option.bind_some, D.logits_row, MiniLlm.answerRows, LoadedWeights.rows,
    Gpt2Weights.launches]
  rfl

theorem decode_layer_rows (shared : Memory ℝ) {reqs : List Request}
    (hbatch : reqs.length ≤ stagingRows) (layer : Fin gpt2NLayers) (b : Buffers) :
    D.decodeLayer be scheds shared reqs layer b =
      D.W.rows.decodeLayer shared reqs layer b := by
  unfold decodeLayer Gpt2Weights.decodeLayer
  cases decodeTables layer reqs with
  | none => rfl
  | some slots =>
    simp only [Option.bind_eq_bind, Option.bind_some, project_append_rows hbatch,
      feed_forward_rows hbatch]
    rfl

section Passes

variable {reqs : List Request} (b : Buffers)

theorem batch_rows (h : BatchSized reqs) : reqs.length ≤ stagingRows :=
  h.requests.trans (Nat.le_mul_of_pos_right _ (by decide))

theorem decode_tokens_length (h : ∀ r ∈ reqs, r.tokens ≠ []) :
    (decodeTokens reqs).length = reqs.length := by
  apply List.filterMap_length_eq_length.mpr
  intro r hr
  rw [List.getLast?_isSome]
  exact h r hr

/-- Every launch of a prefill stays within its buffers, and the pass is the one over rows. -/
theorem prefill_rows (attend : PrefillAttention) (h : PrefillInside reqs) :
    D.prefill be scheds attend reqs b = D.W.rows.prefill attend reqs b := by
  have hfits := prefill_fits h.held h.sized
  have hids : (prefillTokens reqs).length = total Request.promptsLen reqs :=
    prefill_tokens_length h.held
  have hrows : total Request.promptsLen reqs ≤ stagingRows := hfits.total
  have hembed : runEmbedding _ _ D.pointers.wte D.W.wte D.pointers.wpe D.W.wpe D.pointers.x _
      b.x = _ := run_embedding_rows D.W.rows (hids.trans (prefill_positions_length reqs).symm)
    h.within.tokens h.within.positions (Nat.mul_le_mul_right gpt2DModel (hids.trans_le hrows))
  rw [hids] at hembed
  have hlayers : D.blockPrefill be scheds attend reqs (total Request.promptsLen reqs) =
      MiniLlm.blockPrefill D.W.rows attend reqs (total Request.promptsLen reqs) := by
    funext layer b
    exact block_prefill_rows hrows attend reqs layer b
  have hlast : reqs.length*gpt2DModel ≤ maxBatchNum*gpt2DModel :=
    Nat.mul_le_mul_right gpt2DModel h.sized.requests
  unfold prefill Gpt2Weights.prefill Gpt2Launches.prefill Gpt2Launches.prefillLayers
  dsimp only
  rw [hembed, hlayers]
  simp only [Option.bind_eq_bind, Option.bind_some, answer_rows_rows h.sized.requests hlast]
  exact Option.map_eq_bind.symm

theorem decode_rows (shared : Memory ℝ) (h : DecodeInside reqs) :
    D.decode be scheds shared reqs b = D.W.rows.decode shared reqs b := by
  have hids := decode_tokens_length h.within.answered
  have hpositions : (decodePositions reqs).length = reqs.length := List.length_map _
  have hrows := Nat.mul_le_mul_right gpt2DModel (batch_rows h.sized)
  have hembed : runEmbedding _ _ D.pointers.wte D.W.wte D.pointers.wpe D.W.wpe D.pointers.x _
      b.x = _ := run_embedding_rows D.W.rows (hids.trans hpositions.symm) h.within.tokens
    h.within.positions (hids ▸ hrows)
  rw [hids] at hembed
  have hlayers : D.decodeLayer be scheds shared reqs = D.W.rows.decodeLayer shared reqs := by
    funext layer b
    exact decode_layer_rows shared (batch_rows h.sized) layer b
  unfold decode Gpt2Weights.decode Gpt2Weights.decodeLayers
  split
  · rfl
  dsimp only
  rw [hembed, hlayers]
  simp only [Option.bind_eq_bind, Option.bind_some, answer_rows_rows h.sized.requests hrows]
  exact Option.map_eq_bind.symm

theorem over_layers_some (step : Fin gpt2NLayers → Buffers → Option Buffers)
    (h : ∀ layer b, ∃ c, step layer b = some c) (layers : List (Fin gpt2NLayers)) :
    ∃ c, overLayers step layers b = some c := by
  induction layers generalizing b with
  | nil => exact ⟨b,rfl⟩
  | cons layer layers ih =>
    obtain ⟨c,hc⟩ := h layer b
    rw [overLayers, hc]
    exact ih c

theorem prefill_some (W : Gpt2Weights) (attend : PrefillAttention) (h : PrefillHeld reqs) :
    ∃ out, W.prefill attend reqs b = some out := by
  obtain ⟨c,hc⟩ := over_layers_some
    { b with x := embeddingLookup W (prefillTokens reqs) (prefillPositions reqs) b.x }
    (MiniLlm.blockPrefill W attend reqs (total Request.promptsLen reqs))
    (fun layer b => by
      obtain ⟨slots,hslots,_⟩ := make_tables_some h layer
      rw [MiniLlm.blockPrefill, hslots]
      exact ⟨_,rfl⟩) (List.finRange gpt2NLayers)
  exact ⟨_,by rw [Gpt2Weights.prefill, Gpt2Launches.prefill, Gpt2Launches.prefillLayers, hc]; rfl⟩

theorem decode_some (W : Gpt2Weights) (shared : Memory ℝ) (h : ∀ r ∈ reqs, TokenReady r) :
    ∃ out, W.decode shared reqs b = some out := by
  have hslots (layer : Fin gpt2NLayers) : ∃ slots, decodeTables layer reqs = some slots :=
    map_is_some _ _ fun r hr =>
      token_slot_exists ((h r hr).room layer) (Nat.lt_succ_self _)
  obtain ⟨c,hc⟩ := over_layers_some
    { b with x := embeddingLookup W (decodeTokens reqs) (decodePositions reqs) b.x }
    (W.decodeLayer shared reqs)
    (fun layer b => by
      obtain ⟨slots,hslots⟩ := hslots layer
      rw [Gpt2Weights.decodeLayer, hslots]
      exact ⟨_,rfl⟩) (List.finRange gpt2NLayers)
  unfold Gpt2Weights.decode
  split
  · exact ⟨_,rfl⟩
  · exact ⟨_,by rw [Gpt2Weights.decodeLayers, hc]; rfl⟩

theorem prefill_defined (attend : PrefillAttention) (h : PrefillInside reqs) :
    ∃ out, D.prefill be scheds attend reqs b = some out ∧
      D.W.rows.prefill attend reqs b = some out := by
  obtain ⟨out,hout⟩ := prefill_some b D.W.rows attend h.held
  exact ⟨out,(prefill_rows b attend h).trans hout,hout⟩

theorem decode_defined (shared : Memory ℝ) (h : DecodeInside reqs) :
    ∃ out, D.decode be scheds shared reqs b = some out ∧
      D.W.rows.decode shared reqs b = some out := by
  obtain ⟨out,hout⟩ := decode_some b D.W.rows shared h.ready
  exact ⟨out,(decode_rows b shared h).trans hout,hout⟩

/-- With either backend and any order of the threads the passes go through, and they are those over
rows. -/
theorem passes_within_buffers (attend : PrefillAttention) (shared : Memory ℝ)
    {prompts answered : List Request} (hprompts : PrefillInside prompts)
    (hanswered : DecodeInside answered) :
    (∃ out, D.prefill be scheds attend prompts b = some out ∧
      D.W.rows.prefill attend prompts b = some out) ∧
    ∃ out, D.decode be scheds shared answered b = some out ∧
      D.W.rows.decode shared answered b = some out :=
  ⟨prefill_defined b attend hprompts,decode_defined b shared hanswered⟩

end Passes

end DeviceModel

section Witness

def allocated (n i : ℕ) : DevicePtr n := ⟨i*2^28,Dvd.dvd.mul_left (by decide) i⟩

def freshLayer (first : ℕ) : LayerPointers :=
  ⟨allocated _ first,allocated _ (first+1),allocated _ (first+2),allocated _ (first+3),
    allocated _ (first+4),allocated _ (first+5),allocated _ (first+6),allocated _ (first+7),
    allocated _ (first+8),allocated _ (first+9),allocated _ (first+10),allocated _ (first+11)⟩

def freshPointers : ModelPointers :=
  ⟨allocated _ 0,allocated _ 1,allocated _ 2,fun l => freshLayer (3+12*l),allocated _ 147,
    allocated _ 148,allocated _ 149,allocated _ 150,allocated _ 151,allocated _ 152,
    allocated _ 153,allocated _ 154,allocated _ 155⟩

noncomputable def rampLoaded : LoadedWeights :=
  let ramp : Memory ℝ := fun i => i
  ⟨ramp,ramp,fun _ => ⟨ramp,ramp,ramp,ramp,ramp,ramp,ramp,ramp,ramp,ramp,ramp,ramp⟩,ramp,ramp⟩

noncomputable def cublasBackend : GemmBackend ℝ where
  useCublas := true
  sgemm := Gemm.referenceSgemm
  shared := ⟨fun _ => 0,fun _ => 0⟩
  product := Gemm.reference_sgemm_product
  inside := reference_stores_inside

theorem two_tokens_prompt : PrefillInside [twoTokens 1 0] := by
  have hone {q : Request} (hq : q ∈ [twoTokens 1 0]) : q = twoTokens 1 0 :=
    List.mem_singleton.mp hq
  refine ⟨⟨by decide,by decide⟩,⟨fun q hq => ?_,fun q hq => ?_,by decide⟩,by decide,
    by unfold InSequence; decide⟩
  all_goals
    obtain rfl := hone hq
    decide

theorem two_tokens_answered : DecodeInside [twoCached 1 0] := by
  have hone {q : Request} (hq : q ∈ [twoCached 1 0]) : q = twoCached 1 0 :=
    List.mem_singleton.mp hq
  refine ⟨⟨by decide,by decide⟩,⟨fun q hq => ?_,by decide,by unfold InSequence; decide,
    fun q hq => ?_⟩,fun q hq => ?_⟩
  all_goals obtain rfl := hone hq
  · decide
  · decide
  · exact ⟨by decide,by decide⟩

theorem two_tokens_pass :
    let D := DeviceModel.load freshPointers rampLoaded fun _ => 0
    let attend := FlashAttention.promptLaunch
    let scheds : ℕ → ℕ → NormSchedule := fun _ _ => loadsFirstSchedule
    (∃ out, D.prefill cublasBackend scheds attend [twoTokens 1 0] zeroBuffers = some out ∧
      D.W.rows.prefill attend [twoTokens 1 0] zeroBuffers = some out) ∧
    ∃ out, D.decode cublasBackend scheds (fun _ => 0) [twoCached 1 0] zeroBuffers = some out ∧
      D.W.rows.decode (fun _ => 0) [twoCached 1 0] zeroBuffers = some out :=
  DeviceModel.passes_within_buffers zeroBuffers _ _ two_tokens_prompt two_tokens_answered

end Witness

end MiniLlm.Kernels

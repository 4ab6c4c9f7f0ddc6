import MiniLlm.Gpt2Backend
import MiniLlm.PagedAttention
import MiniLlm.RowBuffers
import MiniLlm.RowSlots

/-!
# The forward passes of the model

`GPT2Model::prefill` and `GPT2Model::decode` over their device buffers, in
exact arithmetic. The linear layers and GELU are functions of a row; layer norm
may depend on the number of the row, as its blocks take turns in their own way.
Prefill attention is a launch that is given pointers into two buffers
and a number of rows; decode attention is the kernel itself. A failed
assertion of `physical_block_id` is the `none` case.
-/

set_option autoImplicit false

namespace MiniLlm

open FlatMemory RowBuffers

abbrev gpt2DFf : ℕ := 3072

abbrev Row (w : ℕ) := Fin w → ℝ

/-- What the kernels of a layer compute from a row, with their weights, where layer norm is a
function of the row. -/
structure LayerRows where
  ln1 : Row gpt2DModel → Row gpt2DModel
  qkv : Row gpt2DModel → Row (3*gpt2DModel)
  out : Row gpt2DModel → Row gpt2DModel
  ln2 : Row gpt2DModel → Row gpt2DModel
  fc1Gelu : Row gpt2DModel → Row gpt2DFf
  fc2 : Row gpt2DFf → Row gpt2DModel

structure Gpt2Weights where
  wte : Memory ℝ
  wpe : Memory ℝ
  layer : Fin gpt2NLayers → LayerRows
  lnF : Row gpt2DModel → Row gpt2DModel
  logits : Row gpt2DModel → Row gpt2VocabSize

structure LayerLaunches where
  ln1 : ℕ → Row gpt2DModel → Row gpt2DModel
  qkv : Row gpt2DModel → Row (3*gpt2DModel)
  out : Row gpt2DModel → Row gpt2DModel
  ln2 : ℕ → Row gpt2DModel → Row gpt2DModel
  fc1Gelu : Row gpt2DModel → Row gpt2DFf
  fc2 : Row gpt2DFf → Row gpt2DModel

structure Gpt2Launches where
  wte : Memory ℝ
  wpe : Memory ℝ
  layer : Fin gpt2NLayers → LayerLaunches
  lnF : ℕ → Row gpt2DModel → Row gpt2DModel
  logits : Row gpt2DModel → Row gpt2VocabSize

def LayerRows.launches (w : LayerRows) : LayerLaunches :=
  ⟨fun _ => w.ln1,w.qkv,w.out,fun _ => w.ln2,w.fc1Gelu,w.fc2⟩

@[coe] def Gpt2Weights.launches (W : Gpt2Weights) : Gpt2Launches :=
  ⟨W.wte,W.wpe,fun l => (W.layer l).launches,fun _ => W.lnF,W.logits⟩

instance : Coe Gpt2Weights Gpt2Launches := ⟨Gpt2Weights.launches⟩

structure Buffers where
  x : Memory ℝ
  ln : Memory ℝ
  qkv : Memory ℝ
  attnOut : Memory ℝ
  ff : Memory ℝ
  xLast : Memory ℝ
  logits : Memory ℝ
  pool : Memory ℝ
  blockTable : Memory ℕ
  blockOffsets : Memory ℕ
  numTokens : Memory ℕ

/-- A launch of `flashattention_prefill`: from its number of rows, what `buf_qkv` points to and
what `buf_O` points to, what `buf_O` points to afterwards. -/
abbrev PrefillAttention := Fin gpt2NLayers → ℕ → Memory ℝ → Memory ℝ → Memory ℝ

abbrev RowAttention :=
  Fin gpt2NLayers → (n : ℕ) → (Fin n → Row (3*gpt2DModel)) → Fin n → Row gpt2DModel

/-- The attention of a request is a function of its rows. -/
def AttendsRows (attend : PrefillAttention) (f : RowAttention) : Prop :=
  ∀ layer n qkv out (t : Fin n), rowAt gpt2DModel (attend layer n qkv out) t =
    f layer n (fun s => rowAt (3*gpt2DModel) qkv s) t

section Kernels

variable (W : Gpt2Launches)

def embeddingRow (token position : ℤ) : Row gpt2DModel := fun c =>
  W.wte (token*gpt2DModel+c).toNat+W.wpe (position*gpt2DModel+c).toNat

/-- `embedding_lookup`, for as many rows as there are ids and positions. -/
def embeddingLookup (ids positions : List ℤ) (x : Memory ℝ) : Memory ℝ := fun a =>
  match (ids.zip positions)[a/gpt2DModel]? with
  | some (token,position) =>
    embeddingRow W token position ⟨a%gpt2DModel,Nat.mod_lt a (by decide)⟩
  | none => x a

/-- What `linear_residual_add` does to a row. -/
def residualAdd {w : ℕ} (linear : Row w → Row gpt2DModel) (row : Row w) (x : Row gpt2DModel) :
    Row gpt2DModel := x+linear row

def feedForward (layer : Fin gpt2NLayers) (rows : ℕ) (b : Buffers) : Buffers :=
  let w := W.layer layer
  let x := launchRows rows (residualAdd w.out) b.attnOut b.x
  let ln := launchIndexed rows (fun t row _ => w.ln2 t row) x b.ln
  let ff := launchRows rows (fun row _ => w.fc1Gelu row) ln b.ff
  { b with
    x := launchRows rows (residualAdd w.fc2) ff x
    ln := ln
    ff := ff }

def projectAppend (layer : Fin gpt2NLayers) (rows : ℕ) (slots : List (ℕ × ℕ)) (b : Buffers) :
    Buffers :=
  let w := W.layer layer
  let ln := launchIndexed rows (fun t row _ => w.ln1 t row) b.x b.ln
  let qkv := launchRows rows (fun row _ => w.qkv row) ln b.qkv
  { b with
    ln := ln
    qkv := qkv
    pool := launchAppend slots qkv b.pool }

end Kernels

/-- The loop of `block_prefill` over the requests, from a number of rows on. -/
def attendRequests (attend : ℕ → Memory ℝ → Memory ℝ → Memory ℝ) (qkv : Memory ℝ) :
    List Request → ℕ → Memory ℝ → Memory ℝ
  | [], _, out => out
  | r::reqs, beforeTokens, out =>
    let part := attend r.promptsLen (advance qkv (beforeTokens*(3*gpt2DModel)))
      (advance out (beforeTokens*gpt2DModel))
    attendRequests attend qkv reqs (beforeTokens+r.promptsLen)
      (writeBack out (beforeTokens*gpt2DModel) part)

/-- `GPT2Model::block_prefill`. -/
def blockPrefill (W : Gpt2Launches) (attend : PrefillAttention) (reqs : List Request)
    (seqLen : ℕ) (layer : Fin gpt2NLayers) (b : Buffers) : Option Buffers :=
  (makeTables layer reqs).map fun slots =>
    let b := projectAppend W layer seqLen slots b
    let b := { b with attnOut := attendRequests (attend layer) b.qkv reqs 0 b.attnOut }
    feedForward W layer seqLen b

def overLayers (step : Fin gpt2NLayers → Buffers → Option Buffers) :
    List (Fin gpt2NLayers) → Buffers → Option Buffers
  | [], b => some b
  | layer::layers, b => (step layer b).bind (overLayers step layers)

/-- `gather_last_tokens`, from a request and a number of rows on. -/
def gatherLastTokens (x : Memory ℝ) : List Request → ℕ → ℕ → Memory ℝ → Memory ℝ
  | [], _, _, xLast => xLast
  | r::reqs, idx, offset, xLast =>
    let lastPromptIdx := r.promptsLen-1
    gatherLastTokens x reqs (idx+1) (offset+r.promptsLen)
      (copy x ((offset+lastPromptIdx)*gpt2DModel) (idx*gpt2DModel) gpt2DModel xLast)

noncomputable def exactComparison : FloatComparison (WithBot ℝ) where
  gt a b := decide (b < a)
  eq a b := decide (a = b)
  negInf := ⊥

noncomputable def answerRows (W : Gpt2Launches) (reqs : List Request) (src : Memory ℝ)
    (b : Buffers) : List Response × Buffers :=
  let ln := launchIndexed reqs.length (fun t row _ => W.lnF t row) src b.ln
  let logits := launchRows reqs.length (fun row _ => W.logits row) ln b.logits
  (modelAnswers exactComparison (fun i c => (logits (i*gpt2VocabSize+c) : WithBot ℝ)) reqs,
    { b with ln := ln, logits := logits })

namespace Gpt2Launches

variable (W : Gpt2Launches)

/-- `GPT2Model::prefill`, up to its last layer. -/
def prefillLayers (attend : PrefillAttention) (reqs : List Request) (b : Buffers) :
    Option Buffers :=
  let seqLen := total Request.promptsLen reqs
  overLayers (blockPrefill W attend reqs seqLen) (List.finRange gpt2NLayers)
    { b with x := embeddingLookup W (prefillTokens reqs) (prefillPositions reqs) b.x }

noncomputable def answerLast (reqs : List Request) (b : Buffers) : List Response × Buffers :=
  let xLast := gatherLastTokens b.x reqs 0 0 b.xLast
  answerRows W reqs xLast { b with xLast := xLast }

/-- `GPT2Model::prefill`. -/
noncomputable def prefill (attend : PrefillAttention) (reqs : List Request) (b : Buffers) :
    Option (List Response × Buffers) :=
  (prefillLayers W attend reqs b).map (answerLast W reqs)

end Gpt2Launches

namespace Gpt2Weights

variable (W : Gpt2Weights)

abbrev prefillLayers := Gpt2Launches.prefillLayers W

noncomputable abbrev answerLast := Gpt2Launches.answerLast W

noncomputable abbrev prefill := Gpt2Launches.prefill W

def copyIn (values : List ℕ) (m : Memory ℕ) : Memory ℕ := fun a => values[a]?.getD (m a)

noncomputable def decodeAttend (shared : Memory ℝ) (reqs : List Request)
    (layer : Fin gpt2NLayers) (b : Buffers) : Buffers :=
  let table := copyIn (flatBlockTable layer reqs) b.blockTable
  let offsets := copyIn (blockOffsets layer reqs) b.blockOffsets
  let tokens := copyIn (attendedTokens layer reqs) b.numTokens
  { b with
    blockTable := table
    blockOffsets := offsets
    numTokens := tokens
    attnOut := PagedAttention.pagedDecodeAttention b.qkv b.pool table offsets tokens b.attnOut
      reqs.length shared }

/-- The body of the loop of `GPT2Model::decode` over the layers. -/
noncomputable def decodeLayer (shared : Memory ℝ) (reqs : List Request)
    (layer : Fin gpt2NLayers) (b : Buffers) : Option Buffers :=
  (decodeTables layer reqs).map fun slots =>
    feedForward W layer reqs.length
      (decodeAttend shared reqs layer (projectAppend W layer reqs.length slots b))

/-- `GPT2Model::decode`, up to its last layer. -/
noncomputable def decodeLayers (shared : Memory ℝ) (reqs : List Request) (b : Buffers) :
    Option Buffers :=
  overLayers (decodeLayer W shared reqs) (List.finRange gpt2NLayers)
    { b with x := embeddingLookup W (decodeTokens reqs) (decodePositions reqs) b.x }

/-- `GPT2Model::decode`, with what shared memory holds. -/
noncomputable def decode (shared : Memory ℝ) (reqs : List Request) (b : Buffers) :
    Option (List Response × Buffers) :=
  if reqs.isEmpty then some ([],b)
  else (decodeLayers W shared reqs b).map fun b => answerRows W reqs b.x b

end Gpt2Weights

end MiniLlm

import MiniLlm.AppendKv
import MiniLlm.Gpt2Model
import MiniLlm.Ownership

/-!
# Appending to the paged cache

Any number of requests share the pool. A run is a sequence of allocator
calls, prefills and decode steps in any order; the values in `buf_qkv` are
free. Beside the pool the run keeps what was last appended for each position
of each request and layer, and for whom each address was last written.
-/

set_option autoImplicit false

namespace MiniLlm

open FlatMemory RealKvAllocator

variable {ι α : Type*}

abbrev TokenKey (ι : Type*) := ι × Fin gpt2NLayers × ℕ

structure PagedRun (ι α : Type*) where
  alloc : RealKvAllocator α
  request : ι → Request
  appended : TokenKey ι → Option ((ℕ → α) × (ℕ → α))
  writer : Memory (Option (TokenKey ι))

inductive CacheCall (ι α : Type*) where
  | allocatePrefill (i : ι)
  | allocateDecode (i : ι)
  | freeRequest (i : ι)
  /-- `GPT2Model::prefill`, and `set_num_tokens` for each request of the batch. -/
  | prefill (batch : List ι) (qkv : Fin gpt2NLayers → Memory α)
  /-- `GPT2Model::decode`, and `increment_tokens` for each request of the batch. -/
  | decode (batch : List ι) (qkv : Fin gpt2NLayers → Memory α)

/-- The K and the V vector in a row of `buf_qkv`. -/
def rowKv (qkv : Memory α) (row : ℕ) : (ℕ → α) × (ℕ → α) :=
  (fun c => qkv (keySource row c),fun c => qkv (valueSource row c))

/-- The rows of a prefill: all prompt positions, request after request. -/
def promptRows (request : ι → Request) (batch : List ι) : List (ι × ℕ) :=
  batch.flatMap fun i => (List.range (request i).promptsLen).map (Prod.mk i)

/-- The rows of a decode step: the position after the cached ones of each request. -/
def nextRows (request : ι → Request) (batch : List ι) (layer : Fin gpt2NLayers) :
    List (ι × ℕ) :=
  batch.map fun i => (i,((request i).cache layer).numTokens)

variable [DecidableEq ι]

def logRows (qkv : Memory α) (layer : Fin gpt2NLayers) : ℕ → List (ι × ℕ) →
    (TokenKey ι → Option ((ℕ → α) × (ℕ → α))) → TokenKey ι → Option ((ℕ → α) × (ℕ → α))
  | _, [], log => log
  | row, r::rest, log =>
    logRows qkv layer (row+1) rest (Function.update log (r.1,layer,r.2) (some (rowKv qkv row)))

namespace PagedRun

def pool (w : PagedRun ι α) : Memory α := w.alloc.device.pool

def rowKey (layer : Fin gpt2NLayers) (rows : List (ι × ℕ)) (source : ℕ) : Option (TokenKey ι) :=
  rows[source/(3*gpt2DModel)]?.map fun r => (r.1,layer,r.2)

def appendRows (w : PagedRun ι α) (layer : Fin gpt2NLayers) (rows : List (ι × ℕ))
    (qkv : Memory α) (slots : List (ℕ × ℕ)) : PagedRun ι α := { w with
  alloc := { w.alloc with
    device := { w.alloc.device with pool := launchAppend slots qkv w.alloc.device.pool } }
  appended := logRows qkv layer 0 rows w.appended
  writer := launchAppend slots (rowKey layer rows) w.writer }

def prefillLayer (batch : List ι) (qkv : Fin gpt2NLayers → Memory α) (layer : Fin gpt2NLayers)
    (w : PagedRun ι α) : Option (PagedRun ι α) :=
  (makeTables layer (batch.map w.request)).map
    (w.appendRows layer (promptRows w.request batch) (qkv layer))

def decodeLayer (batch : List ι) (qkv : Fin gpt2NLayers → Memory α) (layer : Fin gpt2NLayers)
    (w : PagedRun ι α) : Option (PagedRun ι α) :=
  (decodeTables layer (batch.map w.request)).map
    (w.appendRows layer (nextRows w.request batch layer) (qkv layer))

def runLayers (step : Fin gpt2NLayers → PagedRun ι α → Option (PagedRun ι α)) :
    List (Fin gpt2NLayers) → PagedRun ι α → Option (PagedRun ι α)
  | [], w => some w
  | layer::layers, w => (step layer w).bind (runLayers step layers)

def mapBatch (w : PagedRun ι α) (batch : List ι) (cache : Request → PagedKVCache → PagedKVCache) :
    PagedRun ι α :=
  { w with request := fun i => if i ∈ batch then (w.request i).mapCaches (cache (w.request i))
      else w.request i }

def prefill (w : PagedRun ι α) (batch : List ι) (qkv : Fin gpt2NLayers → Memory α) :
    Option (PagedRun ι α) :=
  (runLayers (prefillLayer batch qkv) (List.finRange gpt2NLayers) w).map
    (mapBatch · batch fun r kv => kv.setNumTokens r.promptsLen)

def decode (w : PagedRun ι α) (batch : List ι) (qkv : Fin gpt2NLayers → Memory α) :
    Option (PagedRun ι α) :=
  (runLayers (decodeLayer batch qkv) (List.finRange gpt2NLayers) w).map
    (mapBatch · batch fun _ kv => kv.incrementTokens 1)

def atAttention (w : PagedRun ι α) (batch : List ι) (qkv : Fin gpt2NLayers → Memory α)
    (layer : Fin gpt2NLayers) : Option (PagedRun ι α) :=
  runLayers (decodeLayer batch qkv) ((List.finRange gpt2NLayers).take (layer+1)) w

def answer (w : PagedRun ι α) (i : ι) (a : RealKvAllocator α) (req : Request) : PagedRun ι α :=
  { w with alloc := a, request := Function.update w.request i req }

/-- `none` when an assertion fails. -/
def call (w : PagedRun ι α) : CacheCall ι α → Option (PagedRun ι α)
  | .allocatePrefill i =>
    let out := w.alloc.allocatePrefill (w.request i)
    some (w.answer i out.alloc out.req)
  | .allocateDecode i =>
    let out := w.alloc.allocateDecode (w.request i)
    some (w.answer i out.alloc out.req)
  | .freeRequest i =>
    let out := w.alloc.freeRequest (w.request i)
    some (w.answer i out.1 out.2)
  | .prefill batch qkv => w.prefill batch qkv
  | .decode batch qkv => w.decode batch qkv

structure Fresh (w : PagedRun ι α) : Prop where
  blockManager : w.alloc.blockManager =
    BlockManager.new defaultTotalKvBlocks defaultTotalCpuBlocks
  swappedRequests : w.alloc.swappedRequests = ∅
  constructed : ∀ i, Constructed (w.request i)
  appended : w.appended = fun _ => none
  writer : w.writer = fun _ => none

def Distinct : CacheCall ι α → Prop
  | .prefill batch _ | .decode batch _ => batch.Nodup
  | _ => True

inductive Reached : PagedRun ι α → Prop
  | start (w : PagedRun ι α) (h : w.Fresh) : Reached w
  | next (w v : PagedRun ι α) (c : CacheCall ι α) (h : Reached w) (hd : Distinct c)
      (hv : w.call c = some v) : Reached v

def calls : PagedRun ι α → List (CacheCall ι α) → Option (PagedRun ι α)
  | w, [] => some w
  | w, c::cs => (w.call c).bind fun v => v.calls cs

theorem calls_reached (w v : PagedRun ι α) (cs : List (CacheCall ι α)) (h : Reached w)
    (hd : ∀ c ∈ cs, Distinct c) (hv : w.calls cs = some v) : Reached v := by
  induction cs generalizing w with
  | nil =>
    obtain rfl := Option.some.inj hv
    exact h
  | cons c cs ih =>
    obtain ⟨u,hu,hrest⟩ := Option.bind_eq_some_iff.mp hv
    exact ih u (.next w u c h (hd c (by simp)) hu) (fun c' hc' => hd c' (by simp [hc'])) hrest

end PagedRun

end MiniLlm

import Mathlib.Data.List.AList
import Mathlib.Tactic

/-!
# Requests, their cache metadata and responses

The records passed between the server, the scheduler, the allocator and the
backend. Tokens are C++ ints and request identifiers go through `int` and
`uint64_t` as in the constructors. A request carries the proof that it has
one cache for each layer, which its constructor establishes.

Vector lengths, prompt lengths, counts and indices are natural numbers, also
where the source has an `int`. They are those of the source while a prompt has
fewer than `2^31` tokens, a row of logits at most `INT_MAX-255` columns, over
which a thread of `argmax_rows_kernel` goes in steps of 256, and the grid of a
launch at most 65535 rows of blocks. The products and sums of sizes that the
GEMM launchers and `residual_add` form in `int` are tested where they stand.
-/

set_option autoImplicit false

namespace MiniLlm

abbrev gpt2NLayers : ℕ := 12
abbrev gpt2NHeads : ℕ := 12
abbrev gpt2DModel : ℕ := 768
abbrev gpt2DHead : ℕ := gpt2DModel/gpt2NHeads
abbrev gpt2VocabSize : ℕ := 50257
abbrev gpt2EosTokenId : ℕ := 50256
abbrev defaultKvBlockSize : ℕ := 16
abbrev defaultTotalKvBlocks : ℕ := 4096
abbrev defaultTotalCpuBlocks : ℕ := 4096
abbrev maxSeq : ℕ := 1024
abbrev maxBatchNum : ℕ := 16

structure PagedKVCache where
  requestId : Int32
  blockTable : List ℕ
  numTokens : ℕ
  deriving DecidableEq, Repr

namespace PagedKVCache

def new (reqId : Int32) : PagedKVCache := ⟨reqId,[],0⟩

def numBlocks (kv : PagedKVCache) : ℕ := kv.blockTable.length

/-- The assertion of the source is the `none` case. -/
def physicalBlockId (kv : PagedKVCache) (logicalBlockId : ℕ) : Option ℕ :=
  kv.blockTable[logicalBlockId]?

def appendBlock (kv : PagedKVCache) (physicalBlockId : ℕ) : PagedKVCache :=
  { kv with blockTable := kv.blockTable++[physicalBlockId] }

def setNumTokens (kv : PagedKVCache) (n : ℕ) : PagedKVCache := { kv with numTokens := n }

def incrementTokens (kv : PagedKVCache) (n : ℕ) : PagedKVCache :=
  { kv with numTokens := kv.numTokens+n }

def reset (kv : PagedKVCache) : PagedKVCache := { kv with blockTable := [], numTokens := 0 }

@[simp] theorem append_block_table (kv : PagedKVCache) (i : ℕ) :
    (kv.appendBlock i).blockTable = kv.blockTable++[i] := rfl
@[simp] theorem append_block_tokens (kv : PagedKVCache) (i : ℕ) :
    (kv.appendBlock i).numTokens = kv.numTokens := rfl
@[simp] theorem set_num_tokens_table (kv : PagedKVCache) (n : ℕ) :
    (kv.setNumTokens n).blockTable = kv.blockTable := rfl
@[simp] theorem set_num_tokens_tokens (kv : PagedKVCache) (n : ℕ) :
    (kv.setNumTokens n).numTokens = n := rfl
@[simp] theorem increment_tokens_table (kv : PagedKVCache) (n : ℕ) :
    (kv.incrementTokens n).blockTable = kv.blockTable := rfl
@[simp] theorem increment_tokens_tokens (kv : PagedKVCache) (n : ℕ) :
    (kv.incrementTokens n).numTokens = kv.numTokens+n := rfl
@[simp] theorem reset_table (kv : PagedKVCache) : kv.reset.blockTable = [] := rfl
@[simp] theorem reset_tokens (kv : PagedKVCache) : kv.reset.numTokens = 0 := rfl

end PagedKVCache

inductive RequestState where
  | waitingPrefill
  | deferredPrefillKV
  | prefillRunning
  | decodeReady
  | deferredDecodeKV
  | decodeRunning
  | swappedOut
  | finished
  | aborted
  deriving DecidableEq, Repr

inductive KvCacheResidency where
  | none
  | gpu
  | cpu
  | mixed
  deriving DecidableEq, Repr

structure Request where
  requestId : UInt64
  tokens : List ℤ
  promptsLen : ℕ
  layerKv : List PagedKVCache
  maxNewTokens : ℤ
  state : RequestState
  kvResidency : KvCacheResidency
  layers : layerKv.length = gpt2NLayers

namespace Request

/-- The constructor takes an `int` and stores it in a `uint64_t`. -/
def new (reqId : Int32) (t : List ℤ) (maxTokens : ℤ) : Request where
  requestId := reqId.toInt64.toUInt64
  tokens := t
  promptsLen := t.length
  layerKv := List.replicate gpt2NLayers (PagedKVCache.new reqId)
  maxNewTokens := maxTokens
  state := .waitingPrefill
  kvResidency := .none
  layers := List.length_replicate

def generatedTokens (r : Request) : ℤ := (r.tokens.length : ℤ)-(r.promptsLen : ℤ)

def isfinish (r : Request) : Bool := decide (r.maxNewTokens ≤ r.generatedTokens)

def withCaches (r : Request) (kvs : List PagedKVCache) (h : kvs.length = r.layerKv.length) :
    Request := { r with layerKv := kvs, layers := h.trans r.layers }

def mapCaches (r : Request) (f : PagedKVCache → PagedKVCache) : Request :=
  r.withCaches (r.layerKv.map f) (List.length_map f)

def withState (r : Request) (state : RequestState) : Request := { r with state := state }

def withResidency (r : Request) (residency : KvCacheResidency) : Request :=
  { r with kvResidency := residency }

def pushToken (r : Request) (token : ℤ) : Request := { r with tokens := r.tokens++[token] }

/-- `layer_kv[0]`. -/
def layer0 (r : Request) : PagedKVCache :=
  r.layerKv.head (List.ne_nil_of_length_eq_add_one r.layers)

/-- `layer_kv[layer]`. -/
def cache (r : Request) (layer : Fin gpt2NLayers) : PagedKVCache :=
  r.layerKv.get (layer.cast r.layers.symm)

def blocks (r : Request) : List ℕ := r.layerKv.flatMap PagedKVCache.blockTable

structure SameText (r q : Request) : Prop where
  requestId : q.requestId = r.requestId
  tokens : q.tokens = r.tokens
  promptsLen : q.promptsLen = r.promptsLen
  maxNewTokens : q.maxNewTokens = r.maxNewTokens

theorem SameText.refl (r : Request) : SameText r r := ⟨rfl,rfl,rfl,rfl⟩

theorem SameText.trans {r q p : Request} (h : SameText r q) (k : SameText q p) : SameText r p :=
  ⟨k.1.trans h.1,k.2.trans h.2,k.3.trans h.3,k.4.trans h.4⟩

theorem layer0_mem (r : Request) : r.layer0 ∈ r.layerKv := List.head_mem _

theorem cache_get (r : Request) (layer : Fin gpt2NLayers) :
    r.layerKv[layer.val]? = some (r.cache layer) := by
  apply List.getElem?_eq_getElem

theorem map_caches_cache (r : Request) (f : PagedKVCache → PagedKVCache)
    (layer : Fin gpt2NLayers) : (r.mapCaches f).cache layer = f (r.cache layer) := by
  simp [cache, mapCaches, withCaches]
  rfl

theorem cache_mem (r : Request) (layer : Fin gpt2NLayers) : r.cache layer ∈ r.layerKv :=
  List.mem_of_getElem? (r.cache_get layer)

end Request

def Constructed (r : Request) : Prop :=
  ∃ (reqId : Int32) (t : List ℤ) (maxTokens : ℤ), r = Request.new reqId t maxTokens

theorem constructed_caches {r : Request} (h : Constructed r) :
    ∀ kv ∈ r.layerKv, kv.blockTable = [] ∧ kv.numTokens = 0 := by
  obtain ⟨reqId,t,maxTokens,rfl⟩ := h
  intro kv hkv
  rw [List.eq_of_mem_replicate hkv]
  exact ⟨rfl,rfl⟩

structure Response where
  requestId : UInt64
  token : ℤ
  finished : Bool
  deriving DecidableEq, Repr

namespace Response

/-- The constructor takes an `int`; callers pass the `uint64_t` of a request. -/
def new (reqId : UInt64) (token : ℤ) (done : Bool) : Response :=
  ⟨reqId.toInt64.toInt32.toInt64.toUInt64,token,done⟩

end Response

/-- Identifiers that a request's constructor can produce. -/
def FromInt (id : UInt64) : Prop := ∃ reqId : Int32, id = reqId.toInt64.toUInt64

theorem response_id (id : UInt64) (token : ℤ) (done : Bool) (h : FromInt id) :
    (Response.new id token done).requestId = id := by
  obtain ⟨reqId,rfl⟩ := h
  simp [Response.new]

structure SwappedBlock where
  cpuBlockId : ℕ
  validTokens : ℕ
  deriving DecidableEq, Repr

structure SwappedRequest where
  cpuBlocks : List SwappedBlock
  blocksPerLayer : ℕ
  deriving DecidableEq, Repr

end MiniLlm

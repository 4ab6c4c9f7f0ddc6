import MiniLlm.Scheduler

/-!
# The mock backend and the mock allocator

The stand-ins the scheduler is run with when there is no GPU. The mock
allocator never refuses and numbers its blocks from zero on.
-/

set_option autoImplicit false

namespace MiniLlm

def mockPrefill (req : Request) : Response := Response.new req.requestId 1000 false

def mockDecode (req : Request) : Response :=
  if req.maxNewTokens-1 ≤ req.generatedTokens then
    Response.new req.requestId gpt2EosTokenId true
  else Response.new req.requestId (1000+req.generatedTokens) false

def mockBackend : InferenceBackend Unit where
  prefill := fun b reqs => (reqs.map mockPrefill,b)
  decode := fun b reqs => (reqs.map mockDecode,b)

/-- `n` calls of `append_block`, with the counter they leave. -/
def mockAppend : ℕ → PagedKVCache → ℕ → PagedKVCache × ℕ
  | 0, kv, next => (kv,next)
  | n+1, kv, next => mockAppend n (kv.appendBlock next) (next+1)

def mockLayers (n : ℕ) : List PagedKVCache → ℕ → List PagedKVCache × ℕ
  | [], next => ([],next)
  | kv::kvs, next =>
    let out := mockAppend n kv next
    let rest := mockLayers n kvs out.2
    (out.1::rest.1,rest.2)

theorem mock_layers_length (n : ℕ) (kvs : List PagedKVCache) (next : ℕ) :
    (mockLayers n kvs next).1.length = kvs.length := by
  induction kvs generalizing next with
  | nil => rfl
  | cons kv kvs ih => simp [mockLayers, ih]

def mockGrant (n next : ℕ) (req : Request) : Outcome ℕ :=
  let out := mockLayers n req.layerKv next
  ⟨true,out.2,(req.withCaches out.1 (mock_layers_length n _ next)).withResidency .gpu⟩

def mockKvAllocator : KvAllocator ℕ where
  allocatePrefill := fun next req =>
    mockGrant ((req.promptsLen+defaultKvBlockSize-1)/defaultKvBlockSize) next req
  allocateDecode := fun next req =>
    if req.layer0.numTokens%defaultKvBlockSize = 0 then mockGrant 1 next req else ⟨true,next,req⟩
  freeRequest := fun next req => (next,(req.mapCaches PagedKVCache.reset).withResidency .none)
  swapOut := fun next req => ⟨true,next,(req.withResidency .cpu).withState .swappedOut⟩
  swapIn := fun next req => ⟨true,next,(req.withResidency .gpu).withState .decodeReady⟩
  isSwapped := fun _ req => decide (req.kvResidency = .cpu)
  prefill_text := fun _ _ => ⟨rfl,rfl,rfl,rfl⟩
  decode_text := by
    intro next r
    split <;> exact ⟨rfl,rfl,rfl,rfl⟩
  free_text := fun _ _ => ⟨rfl,rfl,rfl,rfl⟩
  out_text := fun _ _ => ⟨rfl,rfl,rfl,rfl⟩
  in_text := fun _ _ => ⟨rfl,rfl,rfl,rfl⟩

end MiniLlm

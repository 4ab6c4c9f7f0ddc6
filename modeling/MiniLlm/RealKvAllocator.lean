import MiniLlm.BlockManager

/-!
# The KV allocator over the two pools

Both pools and the swap-in staging buffer are flat arrays of values. Every
CUDA call takes the next outcome of an arbitrary stream; a call that fails
copies nothing. A store outside the memory it is meant for is dropped here
and marked: from a marked state on nothing is known of the program.
-/

set_option autoImplicit false

namespace MiniLlm

open FlatMemory

variable {α : Type*}

/-- `Pool::block_slot_size`, in values. -/
def blockSlotSize : ℕ := defaultKvBlockSize*gpt2DModel*2

/-- `Pool::block_ptr`, as an offset from the start of the pool. -/
def blockPtr (blockId : ℕ) : ℕ := blockId*blockSlotSize

structure Device (α : Type*) where
  pool : Memory α
  cpuPool : Memory α
  staging : Memory α
  dstBlockIds : List ℤ
  cuda : ℕ → Bool
  calls : ℕ
  /-- Whether a store has gone past the end of a vector or out of the pool. -/
  faulted : Bool

namespace Device

def outcome (d : Device α) : Bool := d.cuda d.calls

def called (d : Device α) : Device α := { d with calls := d.calls+1 }

/-- `BlockManager::move_data`. -/
def moveData (d : Device α) (blockId cpuBlockId : ℕ) (isMoveGpuToCpu : Bool) : Bool × Device α :=
  if d.outcome then
    if isMoveGpuToCpu then
      (true,{ d.called with
        cpuPool := copy d.pool (blockPtr blockId) (blockPtr cpuBlockId) blockSlotSize d.cpuPool })
    else
      (true,{ d.called with
        pool := copy d.cpuPool (blockPtr cpuBlockId) (blockPtr blockId) blockSlotSize d.pool })
  else (false,d.called)

/-- The store of thread `tid`; with a negative block id it is out of the pool. -/
def scatterThread (staging : Memory α) (dstBlockIds : List ℤ) (blockElems tid : ℕ) :
    Option (ℕ × α) :=
  match dstBlockIds[tid/blockElems]? with
  | some (.ofNat id) => some (id*blockElems+tid%blockElems,staging tid)
  | _ => none

/-- `scatter_swap_in_staging_kernel`. -/
def scatter (d : Device α) (numBlocks blockElems : ℕ) : List (ℕ × α) :=
  (List.range (numBlocks*blockElems)).filterMap (scatterThread d.staging d.dstBlockIds blockElems)

def copyStaging (d : Device α) (cpuStart expectedBlocks : ℕ) : Device α :=
  { d.called with
    staging := copy d.cpuPool (blockPtr cpuStart) 0 (expectedBlocks*blockSlotSize) d.staging }

def copyDstBlockIds (d : Device α) (dst : List ℤ) : Device α := { d.called with dstBlockIds := dst }

def launchScatter (d : Device α) (expectedBlocks : ℕ) : Device α :=
  { d.called with
    pool := storeAll (d.scatter expectedBlocks blockSlotSize) d.pool
    faulted := d.faulted || d.dstBlockIds.any (· < 0) }

/-- After host code that may have stored past the end of a vector. -/
def mark (d : Device α) (overrun : Bool) : Device α := { d with faulted := d.faulted || overrun }

/-- The four CUDA calls of `swap_in`: two copies, the launch, the synchronisation. -/
def restore (d : Device α) (cpuStart expectedBlocks : ℕ) (dst : List ℤ) : Bool × Device α :=
  if d.outcome = false then (false,d.called) else
  let d := d.copyStaging cpuStart expectedBlocks
  if d.outcome = false then (false,d.called) else
  let d := d.copyDstBlockIds dst
  if d.outcome = false then (false,d.called) else
  let d := d.launchScatter expectedBlocks
  (d.outcome,d.called)

end Device

structure RealKvAllocator (α : Type*) where
  device : Device α
  blockManager : BlockManager
  swappedRequests : AList (fun _ : UInt64 => SwappedRequest)
  /-- Whether `d_swap_in_staging_` is not null. -/
  dSwapInStaging : Bool
  /-- Whether `d_swap_in_dst_block_ids_` is not null. -/
  dSwapInDstBlockIds : Bool
  swapInCapacityBlocks : ℕ

structure Outcome (A : Type*) where
  ok : Bool
  alloc : A
  req : Request

def appendBlocks : ℕ → PagedKVCache → BlockManager → Bool × PagedKVCache × BlockManager
  | 0, kv, bm => (true,kv,bm)
  | n+1, kv, bm =>
    match bm.allocateOne with
    | none => (false,kv,bm)
    | some (blockId,bm) => appendBlocks n (kv.appendBlock blockId) bm

def appendLayers (need : ℕ) : List PagedKVCache → BlockManager →
    Bool × List PagedKVCache × BlockManager
  | [], bm => (true,[],bm)
  | kv::kvs, bm =>
    match appendBlocks need kv bm with
    | (false,kv,bm) => (false,kv::kvs,bm)
    | (true,kv,bm) =>
      match appendLayers need kvs bm with
      | (ok,kvs,bm) => (ok,kv::kvs,bm)

theorem append_layers_length (need : ℕ) (kvs : List PagedKVCache) (bm : BlockManager) :
    (appendLayers need kvs bm).2.1.length = kvs.length := by
  induction kvs generalizing bm with
  | nil => rfl
  | cons kv kvs ih =>
    simp only [appendLayers]
    split <;> simp [ih]

/-- The copies of one layer of `swap_out`, from logical block `b` on. -/
def swapOutBlocks (numTokens : ℕ) : ℕ → List ℕ → List ℕ → List SwappedBlock → Device α →
    Except (Device α) (List ℕ × List SwappedBlock × Device α)
  | _, [], cpu, swapped, d => .ok (cpu,swapped,d)
  | _, _::_, [], _, d => .error d
  | b, gpuBlockId::rest, cpuBlockId::cpu, swapped, d =>
    match d.moveData gpuBlockId cpuBlockId true with
    | (false,d) => .error d
    | (true,d) => swapOutBlocks numTokens (b+1) rest cpu
        (swapped++[⟨cpuBlockId,min (numTokens-b*defaultKvBlockSize) defaultKvBlockSize⟩]) d

def swapOutLayers (blocksPerLayer : ℕ) : List PagedKVCache → List ℕ → List SwappedBlock →
    Device α → Except (Device α) (List SwappedBlock × Device α)
  | [], _, swapped, d => .ok (swapped,d)
  | kv::kvs, cpu, swapped, d =>
    if kv.numBlocks ≠ blocksPerLayer then .error d else
    match swapOutBlocks kv.numTokens 0 kv.blockTable cpu swapped d with
    | .error d => .error d
    | .ok (cpu,swapped,d) => swapOutLayers blocksPerLayer kvs cpu swapped d

/-- The local variables of `swap_in` that its loops write. -/
structure Restore where
  bm : BlockManager
  restoredGpuBlocks : List ℕ
  dstBlockByCpuOffset : List ℤ
  /-- Whether an offset was past the end of `dst_block_by_cpu_offset`. -/
  overrun : Bool

def restoreBlocks (cpuStart : ℕ) : List SwappedBlock → PagedKVCache → Restore →
    Except Restore (PagedKVCache × Restore)
  | [], kv, s => .ok (kv,s)
  | swapped::rest, kv, s =>
    match s.bm.allocateOne with
    | none => .error s
    | some (gpuBlockId,bm) => restoreBlocks cpuStart rest (kv.appendBlock gpuBlockId) {
        bm := bm.reserveTokens gpuBlockId swapped.validTokens
        restoredGpuBlocks := s.restoredGpuBlocks++[gpuBlockId]
        dstBlockByCpuOffset :=
          s.dstBlockByCpuOffset.set (swapped.cpuBlockId-cpuStart) gpuBlockId
        overrun := s.overrun ||
          decide (s.dstBlockByCpuOffset.length ≤ swapped.cpuBlockId-cpuStart) }

def restoreLayers (cpuStart blocksPerLayer restoredNumTokens : ℕ) : List PagedKVCache →
    List SwappedBlock → Restore → Except Restore (List PagedKVCache × Restore)
  | [], _, s => .ok ([],s)
  | kv::kvs, swapped, s =>
    match restoreBlocks cpuStart (swapped.take blocksPerLayer) kv.reset s with
    | .error s => .error s
    | .ok (kv,s) =>
      match restoreLayers cpuStart blocksPerLayer restoredNumTokens kvs
          (swapped.drop blocksPerLayer) s with
      | .error s => .error s
      | .ok (kvs,s) => .ok (kv.setNumTokens restoredNumTokens::kvs,s)

theorem restore_layers_length (cpuStart bpl tokens : ℕ) (kvs out : List PagedKVCache)
    (swapped : List SwappedBlock) (s t : Restore)
    (h : restoreLayers cpuStart bpl tokens kvs swapped s = .ok (out,t)) :
    out.length = kvs.length := by
  induction kvs generalizing swapped s out with
  | nil => simp_all [restoreLayers]
  | cons kv kvs ih =>
    simp only [restoreLayers] at h
    split at h
    · cases h
    · rename_i kv' s' hb
      split at h
      · cases h
      · rename_i kvs' s'' hl
        cases h
        simp [ih kvs' _ _ hl]

/-- `cpu_start`: the least id of the entry. -/
def cpuStart (swapped : List SwappedBlock) : ℕ :=
  (swapped.map SwappedBlock.cpuBlockId).foldl min ((swapped.map SwappedBlock.cpuBlockId).headD 0)

def restoredNumTokens (swapped : SwappedRequest) : ℕ :=
  ((swapped.cpuBlocks.take swapped.blocksPerLayer).map SwappedBlock.validTokens).sum

def freeLayers (bm : BlockManager) (kvs : List PagedKVCache) : BlockManager :=
  kvs.foldl (fun bm kv => bm.free kv.blockTable) bm

namespace RealKvAllocator

def allocateLayers (a : RealKvAllocator α) (r : Request) (need : ℕ) :
    Outcome (RealKvAllocator α) :=
  if a.blockManager.canAllocate (need*gpt2NLayers : ℕ) = false then ⟨false,a,r⟩ else
  let out := appendLayers need r.layerKv a.blockManager
  let req := r.withCaches out.2.1 (append_layers_length need r.layerKv a.blockManager)
  ⟨out.1,{ a with blockManager := out.2.2 },if out.1 then req.withResidency .gpu else req⟩

def prefillNeed (promptsLen : ℕ) : ℕ := (promptsLen+defaultKvBlockSize-1)/defaultKvBlockSize

def allocatePrefill (a : RealKvAllocator α) (r : Request) : Outcome (RealKvAllocator α) :=
  a.allocateLayers r (prefillNeed r.promptsLen)

def decodeNeed (cachedTokens : ℕ) : ℕ := if cachedTokens%defaultKvBlockSize = 0 then 1 else 0

def allocateDecode (a : RealKvAllocator α) (r : Request) : Outcome (RealKvAllocator α) :=
  a.allocateLayers r (decodeNeed r.layer0.numTokens)

def freeRequest (a : RealKvAllocator α) (r : Request) : RealKvAllocator α × Request :=
  ({ a with blockManager := freeLayers a.blockManager r.layerKv },
    (r.mapCaches PagedKVCache.reset).withResidency .none)

/-- The entry is recorded, the GPU side is freed, and only then is the request marked. -/
def swapOutDone (a : RealKvAllocator α) (r : Request) (swapped : SwappedRequest) :
    Outcome (RealKvAllocator α) :=
  let freed := freeRequest
    { a with swappedRequests := a.swappedRequests.insert r.requestId swapped } r
  ⟨true,freed.1,(freed.2.withResidency .cpu).withState .swappedOut⟩

def neededCpuBlocks (r : Request) : ℕ := r.layer0.numBlocks*gpt2NLayers

def swapOut (a : RealKvAllocator α) (r : Request) : Outcome (RealKvAllocator α) :=
  if neededCpuBlocks r = 0 ∨ a.blockManager.cpu.count < neededCpuBlocks r then ⟨false,a,r⟩ else
  let cpu := a.blockManager.allocateCpu (neededCpuBlocks r)
  let a := { a with blockManager := cpu.2 }
  if cpu.1.length ≠ neededCpuBlocks r then ⟨false,a,r⟩ else
  match swapOutLayers r.layer0.numBlocks r.layerKv cpu.1 [] a.device with
  | .error d => ⟨false,{ a with device := d, blockManager := a.blockManager.freeCpu cpu.1 },r⟩
  | .ok (swapped,d) => swapOutDone { a with device := d } r ⟨swapped,r.layer0.numBlocks⟩

/-- The tests of `swap_in` before it changes anything. -/
def swapInReady (a : RealKvAllocator α) (swapped : SwappedRequest) : Bool :=
  let expected := swapped.blocksPerLayer*gpt2NLayers
  decide (0 < expected ∧ swapped.cpuBlocks.length = expected) &&
  a.blockManager.canAllocate expected &&
  decide (a.dSwapInStaging = true ∧ a.dSwapInDstBlockIds = true ∧ 0 < a.swapInCapacityBlocks) &&
  decide (expected ≤ a.swapInCapacityBlocks)

/-- `rollback_gpu_allocations`. -/
def rollback (a : RealKvAllocator α) (r : Request) (s : Restore) : Outcome (RealKvAllocator α) :=
  ⟨false,{ a with blockManager := s.bm.free s.restoredGpuBlocks },r.mapCaches PagedKVCache.reset⟩

def swapInDone (a : RealKvAllocator α) (r : Request) (swapped : SwappedRequest) (s : Restore)
    (kvs : List PagedKVCache) (h : kvs.length = r.layerKv.length) :
    Outcome (RealKvAllocator α) :=
  ⟨true,{ a with
      blockManager := s.bm.freeCpu (swapped.cpuBlocks.map SwappedBlock.cpuBlockId)
      swappedRequests := a.swappedRequests.erase r.requestId },
    ((r.withCaches kvs h).withResidency .gpu).withState .decodeReady⟩

def swapIn (a : RealKvAllocator α) (r : Request) : Outcome (RealKvAllocator α) :=
  match a.swappedRequests.lookup r.requestId with
  | none => ⟨false,a,r⟩
  | some swapped =>
    if a.swapInReady swapped = false then ⟨false,a,r⟩ else
    let expected := swapped.blocksPerLayer*gpt2NLayers
    let start := cpuStart swapped.cpuBlocks
    match h : restoreLayers start swapped.blocksPerLayer (restoredNumTokens swapped) r.layerKv
        swapped.cpuBlocks ⟨a.blockManager,[],List.replicate expected (-1),false⟩ with
    | .error s => { a with device := a.device.mark s.overrun }.rollback r s
    | .ok (kvs,s) =>
      match (a.device.mark s.overrun).restore start expected s.dstBlockByCpuOffset with
      | (false,d) => { a with device := d }.rollback r s
      | (true,d) =>
        { a with device := d }.swapInDone r swapped s kvs
          (restore_layers_length _ _ _ _ _ _ _ _ h)

def isSwapped (a : RealKvAllocator α) (r : Request) : Bool :=
  (a.swappedRequests.lookup r.requestId).isSome

def maxTotalBlocks : ℕ :=
  (maxSeq+defaultKvBlockSize-1)/defaultKvBlockSize*gpt2NLayers

def initSwapInBuffers (a : RealKvAllocator α) : Bool × RealKvAllocator α :=
  let none (d : Device α) : RealKvAllocator α := { a with
    device := d, dSwapInStaging := false, dSwapInDstBlockIds := false, swapInCapacityBlocks := 0 }
  if a.device.outcome = false then (false,none a.device.called) else
  let d := a.device.called
  if d.outcome = false then (false,none d.called) else
  (true,{ a with
    device := d.called, dSwapInStaging := true, dSwapInDstBlockIds := true
    swapInCapacityBlocks := maxTotalBlocks })

/-- The allocator as constructed over freshly built pools, when nothing has gone astray yet. -/
def new (device : Device α) : RealKvAllocator α :=
  (initSwapInBuffers {
    device := { device with faulted := false }
    blockManager := BlockManager.new defaultTotalKvBlocks defaultTotalCpuBlocks
    swappedRequests := ∅
    dSwapInStaging := false
    dSwapInDstBlockIds := false
    swapInCapacityBlocks := 0 }).2

end RealKvAllocator

def freshDevice : Device ℤ := ⟨fun _ => 0,fun _ => 0,fun _ => 0,[],fun _ => true,0,false⟩

end MiniLlm

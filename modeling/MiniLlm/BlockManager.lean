import MiniLlm.FreeStack
import MiniLlm.FlatMemory
import MiniLlm.Request

/-!
# The block manager

`free_block_ids_`, `is_free_` and `free_blocks_` are one `FreeStack`, and so
are their CPU counterparts; the vectors are read from their back. A block id
that was handed out is a natural number, `-1` is `none`. The calls that
return an id to a pool take an arbitrary int and report what they refuse.
-/

set_option autoImplicit false

namespace MiniLlm

structure PhysicalBlock where
  filled : ℕ
  refcount : ℕ
  deriving DecidableEq, Repr

namespace PhysicalBlock

def reserveTokens (b : PhysicalBlock) (n : ℕ) : PhysicalBlock := { b with filled := b.filled+n }

def reset : PhysicalBlock := ⟨0,0⟩

end PhysicalBlock

/-- The lines the manager writes to `std::cerr`. -/
inductive Report where
  | invalidBlock (id : ℤ)
  | doubleFree (id : ℤ)
  | invalidCpuBlock (id : ℤ)
  | doubleFreeCpu (id : ℤ)
  deriving DecidableEq, Repr

structure BlockManager where
  gpu : FreeStack
  cpu : FreeStack
  blocks : ℕ → PhysicalBlock
  reports : List Report

namespace BlockManager

def new (totalBlocks totalCpuBlocks : ℕ) : BlockManager where
  gpu := FreeStack.full totalBlocks
  cpu := FreeStack.full totalCpuBlocks
  blocks := fun _ => ⟨0,0⟩
  reports := []

def canAllocate (bm : BlockManager) (n : ℤ) : Bool := decide (0 ≤ n ∧ n ≤ (bm.gpu.count : ℤ))

def allocateOne (bm : BlockManager) : Option (ℕ × BlockManager) :=
  match bm.gpu.pop with
  | none => none
  | some (id,gpu) => some (id,{ bm with
      gpu := gpu
      blocks := Function.update bm.blocks id PhysicalBlock.reset })

def freeOne (bm : BlockManager) (blockId : ℤ) : BlockManager :=
  if h : blockId < 0 ∨ (bm.gpu.total : ℤ) ≤ blockId then
    { bm with reports := bm.reports++[.invalidBlock blockId] }
  else if hf : bm.gpu.isFree blockId.toNat = true then
    { bm with reports := bm.reports++[.doubleFree blockId] }
  else { bm with
      gpu := bm.gpu.push blockId.toNat (by omega) (Bool.eq_false_iff.mpr hf)
      blocks := Function.update bm.blocks blockId.toNat PhysicalBlock.reset }

def free (bm : BlockManager) : List ℕ → BlockManager
  | [] => bm
  | blockId::rest => (bm.freeOne blockId).free rest

def allocateCpuOne (bm : BlockManager) : Option (ℕ × BlockManager) :=
  match bm.cpu.pop with
  | none => none
  | some (id,cpu) => some (id,{ bm with cpu := cpu })

def freeCpuOne (bm : BlockManager) (cpuBlockId : ℤ) : BlockManager :=
  if h : cpuBlockId < 0 ∨ (bm.cpu.total : ℤ) ≤ cpuBlockId then
    { bm with reports := bm.reports++[.invalidCpuBlock cpuBlockId] }
  else if hf : bm.cpu.isFree cpuBlockId.toNat = true then
    { bm with reports := bm.reports++[.doubleFreeCpu cpuBlockId] }
  else { bm with cpu := bm.cpu.push cpuBlockId.toNat (by omega) (Bool.eq_false_iff.mpr hf) }

def freeCpu (bm : BlockManager) : List ℕ → BlockManager
  | [] => bm
  | cpuBlockId::rest => (bm.freeCpuOne cpuBlockId).freeCpu rest

/-- The loop of `allocate_cpu`, with the ids taken so far. -/
def allocateCpuLoop : ℕ → List ℕ → BlockManager → List ℕ × BlockManager
  | 0, ids, bm => (ids,bm)
  | n+1, ids, bm =>
    match bm.allocateCpuOne with
    | none => ([],bm.freeCpu ids)
    | some (id,bm) => allocateCpuLoop n (ids++[id]) bm

def allocateCpu (bm : BlockManager) (n : ℤ) : List ℕ × BlockManager :=
  if n < 0 ∨ (bm.cpu.count : ℤ) < n then ([],bm) else allocateCpuLoop n.toNat [] bm

def reserveTokens (bm : BlockManager) (blockId n : ℕ) : BlockManager :=
  { bm with blocks := Function.update bm.blocks blockId ((bm.blocks blockId).reserveTokens n) }

@[simp] theorem reserve_tokens_gpu (bm : BlockManager) (i n : ℕ) :
    (bm.reserveTokens i n).gpu = bm.gpu := rfl
@[simp] theorem reserve_tokens_cpu (bm : BlockManager) (i n : ℕ) :
    (bm.reserveTokens i n).cpu = bm.cpu := rfl
@[simp] theorem reserve_tokens_reports (bm : BlockManager) (i n : ℕ) :
    (bm.reserveTokens i n).reports = bm.reports := rfl

theorem can_allocate_iff (bm : BlockManager) (n : ℕ) :
    bm.canAllocate n = true ↔ n ≤ bm.gpu.ids.length := by
  simp [canAllocate, bm.gpu.counted]

theorem allocate_one_some (bm : BlockManager) (i : ℕ) (rest : List ℕ) (h : bm.gpu.ids = i::rest) :
    bm.allocateOne = some (i,{ bm with
      gpu := bm.gpu.drop 1
      blocks := Function.update bm.blocks i PhysicalBlock.reset }) := by
  unfold allocateOne
  rw [FreeStack.pop_cons bm.gpu i rest h]

end BlockManager

end MiniLlm

import MiniLlm.ForwardPass
import MiniLlm.TiledGrid

/-!
# The GEMM kernels

`launch_custom_gemm` and the three kernels it chooses from, over a commutative
ring and with any function for GELU. A block first stages a tile of either
operand in shared memory, then each of its threads adds the products of the
tile to its own results, and after the last tile it stores them. Shared memory
may hold anything at first. Integers are natural numbers.
-/

set_option autoImplicit false

namespace MiniLlm.Gemm

open FlatMemory BlockReduction KernelLaunch

def bm : ℕ := 64
def bn : ℕ := 64
def bk : ℕ := 8
def tm : ℕ := 8
def tn : ℕ := 8

def saStride : ℕ := bm+4

def numThreads : ℕ := bm/tm*(bn/tn)

def decodeMTile : ℕ := 1
def decodeNTile : ℕ := 32
def decodeKTile : ℕ := 64

/-- The arguments of `launch_custom_gemm`; a null bias is `none`. -/
structure Args (R : Type*) where
  M : ℕ
  N : ℕ
  K : ℕ
  alpha : R
  A : Buffer R
  B : Buffer R
  beta : R
  bias : Option (Buffer R)
  C : Buffer R
  applyGelu : Bool

/-- `sA` and `sB` of a block. -/
structure Shared (R : Type*) where
  sA : Memory R
  sB : Memory R

section Loads

variable {R : Type*} [Zero R]

def loadIf (guard : Prop) [Decidable guard] (ptr : Buffer R) (i : ℕ) : Option R :=
  if guard then ptr.load i else some 0

def loadFloat4OrScalar (ptr : Buffer R) (row col ld rows cols : ℕ) : Option (Float4 R) :=
  if rows ≤ row then some ⟨0,0,0,0⟩ else
  let base := row*ld+col
  if col+3 < cols ∧ ptr.Aligned16 base then ptr.load4 base else do
    let x ← loadIf (col+0 < cols) ptr (base+0)
    let y ← loadIf (col+1 < cols) ptr (base+1)
    let z ← loadIf (col+2 < cols) ptr (base+2)
    let w ← loadIf (col+3 < cols) ptr (base+3)
    some ⟨x,y,z,w⟩

/-- The four stores of a part of a row of `A`, which is staged as a column. -/
def columnStores (rowA colA4 : ℕ) (tmp : Float4 R) : List (ℕ × R) :=
  [((colA4*4+0)*saStride+rowA,tmp.x),((colA4*4+1)*saStride+rowA,tmp.y),
    ((colA4*4+2)*saStride+rowA,tmp.z),((colA4*4+3)*saStride+rowA,tmp.w)]

/-- The `float4` store of a part of a row of `B`. -/
def rowStores (rowB colB4 : ℕ) (tmp : Float4 R) : List (ℕ × R) :=
  [(rowB*bn+colB4*4,tmp.x),(rowB*bn+colB4*4+1,tmp.y),(rowB*bn+colB4*4+2,tmp.z),
    (rowB*bn+colB4*4+3,tmp.w)]

end Loads

section Kernels

variable {R : Type*} [CommRing R] [DecidableEq R] (gelu : R → R) (a : Args R)

def maybeGelu (v : R) : R := if a.applyGelu then gelu v else v

/-- `bias ? bias[col] : 0.0f` -/
def loadBias (col : ℕ) : Option R :=
  match a.bias with
  | some bias => bias.load col
  | none => some 0

/-- A thread's part of the tile: its `dotIdx` goes over the tile and reads both stages. -/
def tileProducts (kTile : ℕ) (left right : ℕ → R) (acc : R) : R :=
  (List.range kTile).foldl (fun acc dotIdx => acc+left dotIdx*right dotIdx) acc

def storeElement (row col : ℕ) (acc : R) : Option (List (ℕ × R)) :=
  if row < a.M ∧ col < a.N then do
    let old ← if a.beta = 0 then some 0 else a.C.load (row*a.N+col)
    let b ← loadBias a col
    a.C.store (row*a.N+col) (maybeGelu gelu a (a.alpha*acc+a.beta*old+b))
  else some []

namespace General

/-- Shared memory, and `threadResults` of every thread. -/
structure State (R : Type*) extends Shared R where
  results : ℕ → ℕ → ℕ → R

/-- The `dotIdx` loop of all threads of the block. -/
def accumulate (s : State R) : State R where
  toShared := s.toShared
  results := fun tid i j =>
    tileProducts bk (fun dotIdx => s.sA (dotIdx*saStride+tid/(bn/tn)*tm+i))
      (fun dotIdx => s.sB (dotIdx*bn+tid % (bn/tn)*tn+j)) (s.results tid i j)

def turnA (cRow bkIdx i : ℕ) : Option (List (ℕ × R)) := do
  let rowA := i/(bk/4)
  let colA4 := i % (bk/4)
  let tmp ← loadFloat4OrScalar a.A (cRow*bm+rowA) (bkIdx+colA4*4) a.K a.M a.K
  some (columnStores rowA colA4 tmp)

def turnB (cCol bkIdx i : ℕ) : Option (List (ℕ × R)) := do
  let rowB := i/(bn/4)
  let colB4 := i % (bn/4)
  let tmp ← loadFloat4OrScalar a.B (bkIdx+rowB) (cCol*bn+colB4*4) a.N a.K a.N
  some (rowStores rowB colB4 tmp)

def tileTurn (cRow cCol : ℕ) (s : State R) (bkIdx : ℕ) : Option (State R) := do
  let sA ← stage (blockIndices numThreads (bm*bk/4)) (turnA a cRow bkIdx) s.sA
  let sB ← stage (blockIndices numThreads (bk*bn/4)) (turnB a cCol bkIdx) s.sB
  some (accumulate ⟨⟨sA,sB⟩,s.results⟩)

def block (shared : Shared R) (cRow cCol : ℕ) : Option (List (ℕ × R)) := do
  let s ← (strided bk a.K a.K 0).foldlM (tileTurn a cRow cCol) ⟨shared,fun _ _ _ => 0⟩
  gather (List.range numThreads) fun tid => gather (List.range tm) fun i =>
    gather (List.range tn) fun j =>
      storeElement gelu a (cRow*bm+tid/(bn/tn)*tm+i) (cCol*bn+tid % (bn/tn)*tn+j)
        (s.results tid i j)

end General

namespace Vectorized

/-- Besides, the pointers `A` and `B`, which advance with the tiles. -/
structure State (R : Type*) extends General.State R where
  aOffset : ℕ
  bOffset : ℕ

def turnA (aOffset i : ℕ) : Option (List (ℕ × R)) := do
  let rowA := i/(bk/4)
  let colA4 := i % (bk/4)
  let tmp ← a.A.load4 (aOffset+(rowA*a.K+colA4*4))
  some (columnStores rowA colA4 tmp)

def turnB (bOffset i : ℕ) : Option (List (ℕ × R)) := do
  let rowB := i/(bn/4)
  let colB4 := i % (bn/4)
  let tmp ← a.B.load4 (bOffset+(rowB*a.N+colB4*4))
  some (rowStores rowB colB4 tmp)

/-- The values of `pairIdx` in `turns` turns of all threads. -/
def pairIndices (turns : ℕ) : List ℕ :=
  (List.range numThreads).flatMap fun tid => (List.range turns).map fun i => tid+i*numThreads

def tileTurn (s : State R) (_bkIdx : ℕ) : Option (State R) := do
  let sA ← stage (pairIndices (bm*bk/(numThreads*4))) (turnA a s.aOffset) s.sA
  let sB ← stage (pairIndices (bk*bn/(numThreads*4))) (turnB a s.bOffset) s.sB
  some ⟨General.accumulate ⟨⟨sA,sB⟩,s.results⟩,s.aOffset+bk,s.bOffset+bk*a.N⟩

/-- `o0` to `o3`, or `o4` to `o7`, and their store; `c` is the index of `c0_ptr` or `c1_ptr`. -/
def storeFour (c col : ℕ) (result : ℕ → R) : Option (List (ℕ × R)) := do
  let b0 ← loadBias a (col+0)
  let b1 ← loadBias a (col+1)
  let b2 ← loadBias a (col+2)
  let b3 ← loadBias a (col+3)
  let out ← if a.beta = 0 then
      some (Float4.mk (a.alpha*result 0+b0) (a.alpha*result 1+b1) (a.alpha*result 2+b2)
        (a.alpha*result 3+b3))
    else do
      let ec ← a.C.load4 c
      some (Float4.mk (a.alpha*result 0+a.beta*ec.x+b0) (a.alpha*result 1+a.beta*ec.y+b1)
        (a.alpha*result 2+a.beta*ec.z+b2) (a.alpha*result 3+a.beta*ec.w+b3))
  a.C.store4 c ⟨maybeGelu gelu a out.x,maybeGelu gelu a out.y,maybeGelu gelu a out.z,
    maybeGelu gelu a out.w⟩

def block (shared : Shared R) (cRow cCol : ℕ) : Option (List (ℕ × R)) := do
  let s ← (strided bk a.K a.K 0).foldlM (tileTurn a)
    ⟨⟨shared,fun _ _ _ => 0⟩,cRow*bm*a.K,cCol*bn⟩
  gather (List.range numThreads) fun tid => gather (List.range tm) fun i => do
    let threadCol := tid % (bn/tn)
    let c := cRow*bm*a.N+cCol*bn+((tid/(bn/tn)*tm+i)*a.N+threadCol*tn)
    let left ← storeFour gelu a c (cCol*bn+threadCol*tn) (s.results tid i)
    let right ← storeFour gelu a (c+4) (cCol*bn+threadCol*tn+4) fun j => s.results tid i (4+j)
    some (left++right)

end Vectorized

namespace Decode

structure State (R : Type*) extends Shared R where
  acc : ℕ → R

/-- `sA` has one row, so its index is `k`. -/
def turnA (blockY k0 idx : ℕ) : Option (List (ℕ × R)) := do
  let r := idx/decodeKTile
  let k := idx%decodeKTile
  let v ← loadIf (blockY*decodeMTile+r < a.M ∧ k0+k < a.K) a.A
    ((blockY*decodeMTile+r)*a.K+(k0+k))
  some [(r*(decodeKTile+1)+k,v)]

def turnB (blockX k0 idx : ℕ) : Option (List (ℕ × R)) := do
  let k := idx/decodeNTile
  let n := idx%decodeNTile
  let v ← loadIf (k0+k < a.K ∧ blockX*decodeNTile+n < a.N) a.B
    ((k0+k)*a.N+(blockX*decodeNTile+n))
  some [(k*(decodeNTile+1)+n,v)]

def tileTurn (blockY blockX : ℕ) (s : State R) (k0 : ℕ) : Option (State R) := do
  let threads := decodeNTile*decodeMTile
  let sA ← stage (blockIndices threads (decodeMTile*decodeKTile)) (turnA a blockY k0) s.sA
  let sB ← stage (blockIndices threads (decodeKTile*decodeNTile)) (turnB a blockX k0) s.sB
  some ⟨⟨sA,sB⟩,fun tid => tileProducts decodeKTile
    (fun k => sA (tid/decodeNTile*(decodeKTile+1)+k))
    (fun k => sB (k*(decodeNTile+1)+tid%decodeNTile)) (s.acc tid)⟩

def block (shared : Shared R) (blockY blockX : ℕ) : Option (List (ℕ × R)) := do
  let s ← (strided decodeKTile a.K a.K 0).foldlM (tileTurn a blockY blockX) ⟨shared,fun _ => 0⟩
  gather (List.range (decodeNTile*decodeMTile)) fun tid =>
    storeElement gelu a (blockY*decodeMTile+tid/decodeNTile) (blockX*decodeNTile+tid%decodeNTile)
      (s.acc tid)

end Decode

def canUseDecodeGemm : Bool :=
  if a.M = 0 ∨ a.N = 0 ∨ a.K = 0 then false
  else if 4 ≤ a.M then false
  else
    (decide (a.K = gpt2DModel) && decide (a.N = 3*gpt2DModel)) ||
    (decide (a.K = gpt2DModel) && decide (a.N = gpt2DModel)) ||
    (decide (a.K = gpt2DModel) && decide (a.N = gpt2DFf)) ||
    (decide (a.K = gpt2DFf) && decide (a.N = gpt2DModel))

def canUseVectorizedBankGemm : Bool :=
  if a.M%bm ≠ 0 ∨ a.N%bn ≠ 0 ∨ a.K%bk ≠ 0 then false
  else if ¬a.A.Aligned16 0 ∨ ¬a.B.Aligned16 0 ∨ ¬a.C.Aligned16 0 then false
  else true

def launchCustomGemm (shared : Shared R) : Option (List (ℕ × R)) :=
  if canUseDecodeGemm a then
    launch ((a.M+decodeMTile-1)/decodeMTile) ((a.N+decodeNTile-1)/decodeNTile)
      (Decode.block gelu a shared)
  else if canUseVectorizedBankGemm a then
    launch ((a.M+bm-1)/bm) ((a.N+bn-1)/bn) (Vectorized.block gelu a shared)
  else launch ((a.M+bm-1)/bm) ((a.N+bn-1)/bn) (General.block gelu a shared)

end Kernels

end MiniLlm.Gemm

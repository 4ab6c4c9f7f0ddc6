import MiniLlm.BlockReduction
import MiniLlm.FlatMemory
import MiniLlm.OnlineSoftmax
import MiniLlm.Request

/-!
# The prefill attention kernel

`flashattention_prefill_kernel` in exact arithmetic. A block of 64 times 4
threads owns four query rows of one head and goes over the keys in tiles of
32, with the tile in shared memory. The barriers keep the threads together,
except for one spot: `reduce_dhead64_sum` lets the first lanes of both warps
of a row replace `warp_sums[r][0]`, and nothing orders their accesses.
-/

set_option autoImplicit false

namespace MiniLlm

open FlatMemory OnlineSoftmax BlockReduction

/-- What the first lane of one of the two warps does between the barriers of
`reduce_dhead64_sum`. -/
inductive LaneAccess where
  /-- `float total = warp_sums[r][0] + warp_sums[r][1]` -/
  | load (warp : Fin 2)
  /-- `warp_sums[r][0] = total` -/
  | store (warp : Fin 2)
  deriving DecidableEq, Repr

/-- An order of the four accesses in which each lane loads before it stores. -/
structure LaneOrder where
  accesses : List LaneAccess
  each : accesses.Perm [.load 0,.store 0,.load 1,.store 1]
  loadsFirst : ∀ warp, [LaneAccess.load warp,.store warp].Sublist accesses

namespace LaneOrder

/-- `warp_sums[r][0]` and the variable `total` of both lanes. -/
structure Cells where
  first : ℝ
  total : Fin 2 → ℝ

noncomputable def access (second : ℝ) (c : Cells) : LaneAccess → Cells
  | .load warp => { c with total := Function.update c.total warp (c.first+second) }
  | .store warp => { c with first := c.total warp }

/-- What is left in `warp_sums[r][0]`. -/
noncomputable def sum (o : LaneOrder) (first second : ℝ) : ℝ :=
  (o.accesses.foldl (access second) ⟨first,fun _ => 0⟩).first

def Together (o : LaneOrder) : Prop := ∀ a ∈ o.accesses.take 2, ∃ warp, a = .load warp

instance (o : LaneOrder) : Decidable o.Together :=
  inferInstanceAs (Decidable (∀ a ∈ o.accesses.take 2, ∃ warp, a = LaneAccess.load warp))

def bothFirst : List LaneAccess := [.load 0,.load 1,.store 0,.store 1]

def inTurn : List LaneAccess := [.load 0,.store 0,.load 1,.store 1]

def together : List (List LaneAccess) :=
  [[.load 0,.load 1,.store 0,.store 1],[.load 0,.load 1,.store 1,.store 0],
    [.load 1,.load 0,.store 0,.store 1],[.load 1,.load 0,.store 1,.store 0]]

def apart : List (List LaneAccess) :=
  [[.load 0,.store 0,.load 1,.store 1],[.load 1,.store 1,.load 0,.store 0]]

theorem order_cases (o : LaneOrder) : o.accesses ∈ together++apart := by
  have hall : ∀ accesses ∈ [LaneAccess.load 0,.store 0,.load 1,.store 1].permutations',
      (∀ warp, [LaneAccess.load warp,.store warp].Sublist accesses) →
      accesses ∈ together++apart := by decide
  exact hall _ (List.mem_permutations'.mpr o.each) o.loadsFirst

theorem sum_together (o : LaneOrder) (h : o.Together) (first second : ℝ) :
    o.sum first second = first+second := by
  unfold sum
  rcases List.mem_append.mp o.order_cases with hin | hin
  · simp only [together, List.mem_cons, List.not_mem_nil, or_false] at hin
    rcases hin with h' | h' | h' | h' <;> simp [h', access]
  · exfalso
    simp only [apart, List.mem_cons, List.not_mem_nil, or_false] at hin
    rcases hin with h' | h' <;> simp [Together, h'] at h

/-- Otherwise the second half is added twice. -/
theorem sum_apart (o : LaneOrder) (h : ¬o.Together) (first second : ℝ) :
    o.sum first second = first+second+second := by
  unfold sum
  rcases List.mem_append.mp o.order_cases with hin | hin
  · exfalso
    simp only [together, List.mem_cons, List.not_mem_nil, or_false] at hin
    rcases hin with h' | h' | h' | h' <;> simp [Together, h'] at h
  · simp only [apart, List.mem_cons, List.not_mem_nil, or_false] at hin
    rcases hin with h' | h' <;> simp [h', access]

end LaneOrder

abbrev LaneOrders := ℕ → ℕ → ℕ → LaneOrder

/-- `reduce_dhead64_sum` of the 64 partial products of a row. -/
noncomputable def reduceDhead64Sum (o : LaneOrder) (partials : ℕ → ℝ) : ℝ :=
  o.sum (warpValue (·+·) partials 0) (warpValue (·+·) partials 1)

namespace FlashAttention

def br : ℕ := 4

def bc : ℕ := 32

def blockThreads : ℕ := gpt2DHead*br

def dHeadVec4 : ℕ := gpt2DHead/4

def kvVecElems : ℕ := bc*dHeadVec4

section Addresses

variable (seqLen hid row d : ℕ)

/-- The index in `buf_qkv` of a component of a query, where there is such a row. -/
def queryAddress : Option ℕ :=
  if row < seqLen then some (row*3*gpt2DModel+hid*gpt2DHead+d) else none

def keyAddress : Option ℕ :=
  if row < seqLen then some (row*3*gpt2DModel+gpt2DModel+hid*gpt2DHead+d) else none

def valueAddress : Option ℕ :=
  if row < seqLen then some (row*3*gpt2DModel+2*gpt2DModel+hid*gpt2DHead+d) else none

end Addresses

noncomputable def load (buf : Memory ℝ) (address : Option ℕ) : ℝ := address.elim 0 buf

/-- The four components that turn `i` of the loop of a thread brings in: where they go, and where
they come from. -/
def vectorLoads (address : ℕ → ℕ → Option ℕ) (kStart i : ℕ) : List (ℕ × Option ℕ) :=
  (List.range 4).map fun j => (i/dHeadVec4*gpt2DHead+(i%dHeadVec4*4+j),
    address (kStart+i/dHeadVec4) (i%dHeadVec4*4+j))

def tileLoads (address : ℕ → ℕ → Option ℕ) (kStart : ℕ) : List (ℕ × Option ℕ) :=
  (List.range blockThreads).flatMap fun tid =>
    (strided blockThreads kvVecElems kvVecElems tid).flatMap (vectorLoads address kStart)

noncomputable def loadTile (qkv : Memory ℝ) (address : ℕ → ℕ → Option ℕ) (kStart : ℕ)
    (shared : Memory ℝ) : Memory ℝ :=
  storeAll ((tileLoads address kStart).map fun w => (w.1,load qkv w.2)) shared

def tileStarts (seqLen qTile : ℕ) : ℕ → ℕ → List ℕ
  | 0, _ => []
  | turns+1, kStart =>
    if kStart < seqLen then
      if min (qTile*br+br-1) (seqLen-1) < kStart then []
      else kStart::tileStarts seqLen qTile turns (kStart+bc)
    else []

/-- `k_shared` and `v_shared`, and `m`, `l` and `o` of thread `d` of row `r`. -/
structure BlockState where
  kShared : Memory ℝ
  vShared : Memory ℝ
  running : ℕ → ℕ → Running

section Kernel

variable (qkv : Memory ℝ) (seqLen : ℕ) (scale : ℝ) (order : LaneOrders) (hid qTile : ℕ)

noncomputable def qShared (r d : ℕ) : ℝ := load qkv (queryAddress seqLen hid (qTile*br+r) d)

def fullVisibleTile (kStart : ℕ) : Bool := decide (min (kStart+bc-1) (seqLen-1) ≤ qTile*br)

def causal (kStart r kk : ℕ) : Bool :=
  if fullVisibleTile seqLen qTile kStart then true else decide (kStart+kk ≤ qTile*br+r)

def active (kStart r kk : ℕ) : Bool :=
  decide (qTile*br+r < seqLen) && decide (kStart+kk < seqLen) && causal seqLen qTile kStart r kk

noncomputable def partialProduct (s : BlockState) (kStart r kk d : ℕ) : ℝ :=
  if active seqLen qTile kStart r kk then
    qShared qkv seqLen hid qTile r d*s.kShared (kk*gpt2DHead+d) else 0

noncomputable def score (s : BlockState) (kStart r kk : ℕ) : ℝ :=
  reduceDhead64Sum (order hid (qTile*br+r) (kStart+kk))
    (partialProduct qkv seqLen hid qTile s kStart r kk)*scale

/-- `m`, `l` and `o` of a thread after a turn of the loop over the keys of a tile. -/
noncomputable def keyRunning (kStart : ℕ) (s : BlockState) (kk r d : ℕ) : Running :=
  if active seqLen qTile kStart r kk then
    let newScore := score qkv seqLen scale order hid qTile s kStart r kk
    absorb newScore (s.vShared (kk*gpt2DHead+d)) (s.running r d)
  else s.running r d

noncomputable def keyTurn (kStart : ℕ) (s : BlockState) (kk : ℕ) : BlockState :=
  { s with running := keyRunning qkv seqLen scale order hid qTile kStart s kk }

noncomputable def tileTurn (s : BlockState) (kStart : ℕ) : BlockState :=
  let s := { s with
    kShared := loadTile qkv (keyAddress seqLen hid) kStart s.kShared
    vShared := loadTile qkv (valueAddress seqLen hid) kStart s.vShared }
  (List.range bc).foldl (keyTurn qkv seqLen scale order hid qTile kStart) s

noncomputable def blockRun (s : BlockState) : BlockState :=
  (tileStarts seqLen qTile seqLen 0).foldl (tileTurn qkv seqLen scale order hid qTile)
    { s with running := fun _ _ => start }

/-- The stores of a block to `buf_O`. -/
noncomputable def blockStores (s : BlockState) : List (ℕ × ℝ) :=
  (List.range br).flatMap fun r => (List.range gpt2DHead).flatMap fun d =>
    if qTile*br+r < seqLen then
      let a := (blockRun qkv seqLen scale order hid qTile s).running r d
      [((qTile*br+r)*gpt2DModel+hid*gpt2DHead+d,a.o/a.l)]
    else []

noncomputable def gridStores (s : BlockState) : List (ℕ × ℝ) :=
  (List.range gpt2NHeads).flatMap fun hid =>
    (List.range ((seqLen+br-1)/br)).flatMap fun qTile =>
      blockStores qkv seqLen scale order hid qTile s

/-- What the kernel reads of `buf_qkv`. -/
def gridReads : List ℕ :=
  (List.range gpt2NHeads).flatMap fun hid =>
    (List.range ((seqLen+br-1)/br)).flatMap fun qTile =>
      ((List.range br).flatMap fun r => (List.range gpt2DHead).flatMap fun d =>
        (queryAddress seqLen hid (qTile*br+r) d).toList)++
      (tileStarts seqLen qTile seqLen 0).flatMap fun kStart =>
        (tileLoads (keyAddress seqLen hid) kStart++
          tileLoads (valueAddress seqLen hid) kStart).flatMap fun w => w.2.toList

end Kernel

/-- `flashattention_prefill`, for any contents of shared memory. -/
noncomputable def flashattentionPrefill (qkv : Memory ℝ) (bufO : Memory ℝ) (seqLen : ℕ)
    (scale : ℝ) (order : LaneOrders) (shared : BlockState) : Memory ℝ :=
  if seqLen = 0 then bufO else storeAll (gridStores qkv seqLen scale order shared) bufO

end FlashAttention

end MiniLlm

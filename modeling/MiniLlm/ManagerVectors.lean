import MiniLlm.AllocatorCalls
import MiniLlm.BlockVectors

/-!
# The block manager on its vectors

The calls of `BlockManager` as they work on the vectors, with arbitrary ints
for counts and ids. They do what the calls on free stacks do, so every run of
calls has a result and leaves both pools well formed.
-/

set_option autoImplicit false

namespace MiniLlm

structure ManagerVectors where
  gpu : BlockVectors
  cpu : BlockVectors
  blocks : List PhysicalBlock
  reports : List Report
  deriving DecidableEq, Repr

namespace ManagerVectors

def new (totalBlocks totalCpuBlocks : ℕ) : ManagerVectors where
  gpu := .new totalBlocks
  cpu := .new totalCpuBlocks
  blocks := List.replicate totalBlocks ⟨0,0⟩
  reports := []

def canAllocate (m : ManagerVectors) (n : ℤ) : Bool := decide (0 ≤ n ∧ n ≤ m.gpu.free)

/-- `blocks_[block_id].reset()` -/
def resetBlock (m : ManagerVectors) (blockId : ℤ) : Option ManagerVectors :=
  if 0 ≤ blockId ∧ blockId < m.blocks.length then
    some { m with blocks := m.blocks.set blockId.toNat PhysicalBlock.reset }
  else none

def allocateOne (m : ManagerVectors) : Option (ℤ × ManagerVectors) :=
  match m.gpu.ids.getLast? with
  | none => some (-1,m)
  | some blockId => do
    let gpu ← m.gpu.take blockId
    let m ← resetBlock { m with gpu := gpu } blockId
    some (blockId,m)

/-- The loop of `allocate` with its assert, and the ids taken so far. -/
def allocateLoop : ℕ → List ℤ → ManagerVectors → Option (List ℤ × ManagerVectors)
  | 0, ret, m => some (ret,m)
  | n+1, ret, m =>
    match m.allocateOne with
    | none => none
    | some (blockId,m) => if 0 ≤ blockId then allocateLoop n (ret++[blockId]) m else none

def allocate (m : ManagerVectors) (n : ℤ) : Option (List ℤ × ManagerVectors) :=
  if m.canAllocate n then allocateLoop n.toNat [] m else some ([],m)

def freeOne (m : ManagerVectors) (blockId : ℤ) : Option ManagerVectors :=
  if blockId < 0 ∨ m.gpu.total ≤ blockId then
    some { m with reports := m.reports++[.invalidBlock blockId] }
  else
    match m.gpu.flag blockId with
    | none => none
    | some true => some { m with reports := m.reports++[.doubleFree blockId] }
    | some false => do
      let m ← m.resetBlock blockId
      some { m with gpu := m.gpu.give blockId }

def free (m : ManagerVectors) (blockIds : List ℤ) : Option ManagerVectors :=
  blockIds.foldlM freeOne m

def allocateCpuOne (m : ManagerVectors) : Option (ℤ × ManagerVectors) :=
  match m.cpu.ids.getLast? with
  | none => some (-1,m)
  | some id => do
    let cpu ← m.cpu.take id
    some (id,{ m with cpu := cpu })

def freeCpuOne (m : ManagerVectors) (cpuBlockId : ℤ) : Option ManagerVectors :=
  if cpuBlockId < 0 ∨ m.cpu.total ≤ cpuBlockId then
    some { m with reports := m.reports++[.invalidCpuBlock cpuBlockId] }
  else
    match m.cpu.flag cpuBlockId with
    | none => none
    | some true => some { m with reports := m.reports++[.doubleFreeCpu cpuBlockId] }
    | some false => some { m with cpu := m.cpu.give cpuBlockId }

def freeCpu (m : ManagerVectors) (cpuBlockIds : List ℤ) : Option ManagerVectors :=
  cpuBlockIds.foldlM freeCpuOne m

/-- The loop of `allocate_cpu`, which gives back what it took when the pool runs out. -/
def allocateCpuLoop : ℕ → List ℤ → ManagerVectors → Option (List ℤ × ManagerVectors)
  | 0, ids, m => some (ids,m)
  | n+1, ids, m =>
    match m.allocateCpuOne with
    | none => none
    | some (id,m) =>
      if id < 0 then (m.freeCpu ids).map fun m => ([],m) else allocateCpuLoop n (ids++[id]) m

def allocateCpu (m : ManagerVectors) (n : ℤ) : Option (List ℤ × ManagerVectors) :=
  if n < 0 ∨ m.cpu.free < n then some ([],m) else allocateCpuLoop n.toNat [] m

inductive Call where
  | allocateOne
  | allocate (n : ℤ)
  | freeOne (blockId : ℤ)
  | free (blockIds : List ℤ)
  | allocateCpuOne
  | allocateCpu (n : ℤ)
  | freeCpuOne (cpuBlockId : ℤ)
  | freeCpu (cpuBlockIds : List ℤ)
  deriving DecidableEq, Repr

/-- The manager after a call; there is none where an assert fails. -/
def call (m : ManagerVectors) : Call → Option ManagerVectors
  | .allocateOne => m.allocateOne.map Prod.snd
  | .allocate n => (m.allocate n).map Prod.snd
  | .freeOne blockId => m.freeOne blockId
  | .free blockIds => m.free blockIds
  | .allocateCpuOne => m.allocateCpuOne.map Prod.snd
  | .allocateCpu n => (m.allocateCpu n).map Prod.snd
  | .freeCpuOne cpuBlockId => m.freeCpuOne cpuBlockId
  | .freeCpu cpuBlockIds => m.freeCpu cpuBlockIds

def run (m : ManagerVectors) (calls : List Call) : Option ManagerVectors := calls.foldlM call m

structure Represents (m : ManagerVectors) (bm : BlockManager) : Prop where
  gpu : m.gpu.Represents bm.gpu
  cpu : m.cpu.Represents bm.cpu
  blocks : m.blocks = (List.range bm.gpu.total).map bm.blocks
  reports : m.reports = bm.reports

theorem new_represents (totalBlocks totalCpuBlocks : ℕ) :
    (new totalBlocks totalCpuBlocks).Represents (.new totalBlocks totalCpuBlocks) := by
  refine ⟨BlockVectors.new_represents _,BlockVectors.new_represents _,?_,rfl⟩
  refine List.ext_getElem (by simp [new, BlockManager.new]) fun i _ _ => ?_
  simp [new, BlockManager.new]

section Calls

variable {m : ManagerVectors} {bm : BlockManager}

theorem Represents.report (h : m.Represents bm) (report : Report) :
    Represents { m with reports := m.reports++[report] }
      { bm with reports := bm.reports++[report] } :=
  ⟨h.gpu,h.cpu,h.blocks,congrArg (·++[report]) h.reports⟩

theorem reset_block_some (hb : m.blocks = (List.range bm.gpu.total).map bm.blocks) {i : ℕ}
    (hi : i < bm.gpu.total) :
    m.resetBlock i = some { m with blocks := m.blocks.set i PhysicalBlock.reset } := by
  rw [resetBlock, if_pos (by simp [hb, hi]), Int.toNat_natCast]

theorem blocks_reset (hb : m.blocks = (List.range bm.gpu.total).map bm.blocks) (i : ℕ) :
    m.blocks.set i PhysicalBlock.reset =
      (List.range bm.gpu.total).map (Function.update bm.blocks i PhysicalBlock.reset) := by
  rw [hb, BlockVectors.map_range_update]

/-- `-1` stands for no id. -/
theorem allocate_one_represented (h : m.Represents bm) :
    (bm.gpu.ids = [] ∧ m.allocateOne = some (-1,m)) ∨
    ∃ (i : ℕ) (after : BlockManager) (n : ManagerVectors), bm.allocateOne = some (i,after) ∧
      m.allocateOne = some ((i : ℤ),n) ∧ n.Represents after ∧
      bm.gpu.ids.head? = some i ∧ after.gpu = bm.gpu.drop 1 ∧ after.cpu = bm.cpu := by
  unfold allocateOne
  cases hids : bm.gpu.ids with
  | nil =>
    rw [BlockVectors.back_none h.gpu hids]
    exact .inl ⟨rfl,rfl⟩
  | cons i rest =>
    have hi : i < bm.gpu.total := bm.gpu.bounded i (by simp [hids])
    obtain ⟨gpu,htake,hgpu⟩ := BlockVectors.take_represented h.gpu hids
    rw [BlockVectors.back_some h.gpu hids]
    have hreset := reset_block_some (m := { m with gpu := gpu }) h.blocks hi
    refine .inr ⟨i,_,{ m with gpu := gpu, blocks := m.blocks.set i PhysicalBlock.reset },
      bm.allocate_one_some i rest hids,?_,?_,rfl,rfl,rfl⟩
    · simp [htake, hreset]
    · exact ⟨hgpu,h.cpu,blocks_reset h.blocks i,h.reports⟩

theorem free_one_represented (h : m.Represents bm) (blockId : ℤ) :
    ∃ n, m.freeOne blockId = some n ∧ n.Represents (bm.freeOne blockId) := by
  have htotal := h.gpu.total
  unfold freeOne BlockManager.freeOne
  rcases BlockVectors.flag_cases h.gpu blockId with hid | ⟨i,rfl,hi,hflag⟩
  · rw [if_pos hid, dif_pos (by omega)]
    exact ⟨_,rfl,h.report _⟩
  · rw [if_neg (by omega), dif_neg (by omega), hflag]
    by_cases hfree : bm.gpu.isFree (i : ℤ).toNat = true
    · rw [dif_pos hfree, show bm.gpu.isFree i = true from hfree]
      exact ⟨_,rfl,h.report _⟩
    · have hout : bm.gpu.isFree i = false := Bool.eq_false_iff.mpr hfree
      rw [dif_neg hfree, hout]
      dsimp only
      rw [reset_block_some h.blocks hi]
      exact ⟨_,rfl,BlockVectors.give_represented h.gpu hi hout,h.cpu,blocks_reset h.blocks i,
        h.reports⟩

theorem each_represented {f : ManagerVectors → ℤ → Option ManagerVectors}
    {g : BlockManager → ℤ → BlockManager}
    (hone : ∀ m bm id, Represents m bm → ∃ n, f m id = some n ∧ n.Represents (g bm id))
    (h : m.Represents bm) (ids : List ℤ) :
    ∃ n, ids.foldlM f m = some n ∧ n.Represents (ids.foldl g bm) := by
  induction ids generalizing m bm with
  | nil => exact ⟨m,rfl,h⟩
  | cons id ids ih =>
    obtain ⟨next,hnext,hrep⟩ := hone m bm id h
    obtain ⟨n,hn,hlast⟩ := ih hrep
    exact ⟨n,by rw [List.foldlM_cons, hnext]; exact hn,hlast⟩

theorem free_represented (h : m.Represents bm) (blockIds : List ℤ) :
    ∃ n, m.free blockIds = some n ∧ n.Represents (blockIds.foldl BlockManager.freeOne bm) :=
  each_represented (fun _ _ id h => free_one_represented h id) h blockIds

theorem allocate_loop_represented (h : m.Represents bm) (k : ℕ) (ret : List ℤ)
    (hk : k ≤ bm.gpu.ids.length) :
    ∃ n after, allocateLoop k ret m = some (ret++(bm.gpu.ids.take k).map (↑),n) ∧
      n.Represents after := by
  induction k generalizing ret m bm with
  | zero => exact ⟨m,bm,by simp [allocateLoop],h⟩
  | succ k ih =>
    rcases allocate_one_represented h with ⟨hnil,-⟩ | ⟨i,next,p,-,hone,hrep,hhead,hgpu,-⟩
    · rw [hnil] at hk
      cases hk
    · obtain ⟨rest,hids⟩ : ∃ rest, bm.gpu.ids = i::rest := List.head?_eq_some_iff.mp hhead
      have hrest : next.gpu.ids = rest := by rw [hgpu, FreeStack.drop_ids, hids]; rfl
      rw [hids, List.length_cons] at hk
      obtain ⟨n,after,hloop,hafter⟩ := ih hrep (ret++[(i : ℤ)]) (by rw [hrest]; omega)
      refine ⟨n,after,?_,hafter⟩
      rw [allocateLoop, hone]
      dsimp only
      rw [if_pos (Int.natCast_nonneg i), hloop, hrest, hids]
      simp

structure Granted (v : BlockVectors) (n : ℤ) (ids : List ℤ) : Prop where
  length : (ids.length : ℤ) = n
  nodup : ids.Nodup
  free : ∀ id ∈ ids, v.flag id = some true

theorem take_granted {v : BlockVectors} {f : FreeStack} (h : v.Represents f) {k : ℕ}
    (hk : k ≤ f.ids.length) : Granted v k ((f.ids.take k).map (↑)) := by
  have hwell := BlockVectors.represents_well_formed h
  have hinj : Function.Injective fun i : ℕ => (i : ℤ) := fun i j hij => Int.ofNat_inj.mp hij
  refine ⟨?_,(f.nodup.sublist (List.take_sublist k f.ids)).map hinj,fun id hid => ?_⟩
  · rw [List.length_map, List.length_take, Nat.min_eq_left hk]
  · obtain ⟨i,hi,rfl⟩ := List.mem_map.mp hid
    rw [← hwell.flagged, h.ids, List.mem_reverse]
    exact List.mem_map_of_mem (List.mem_of_mem_take hi)

theorem allocate_represented (h : m.Represents bm) (n : ℤ) :
    ∃ ids p after, m.allocate n = some (ids,p) ∧ p.Represents after ∧
      (Granted m.gpu n ids ∨ ids = [] ∧ p = m) := by
  unfold allocate canAllocate
  by_cases hn : 0 ≤ n ∧ n ≤ m.gpu.free
  · obtain ⟨k,rfl⟩ := Int.eq_ofNat_of_zero_le hn.1
    have hk : k ≤ bm.gpu.ids.length := by
      have hfree := h.gpu.free
      rw [bm.gpu.counted] at hfree
      omega
    obtain ⟨p,after,hloop,hrep⟩ := allocate_loop_represented h k [] hk
    rw [if_pos (decide_eq_true hn)]
    exact ⟨_,p,after,hloop,hrep,.inl (take_granted h.gpu hk)⟩
  · rw [if_neg (by simpa using hn)]
    exact ⟨[],m,bm,rfl,h,.inr ⟨rfl,rfl⟩⟩

end Calls

section CpuCalls

variable {m : ManagerVectors} {bm : BlockManager}

theorem allocate_cpu_one_represented (h : m.Represents bm) :
    (bm.allocateCpuOne = none ∧ m.allocateCpuOne = some (-1,m)) ∨
    ∃ (i : ℕ) (after : BlockManager) (n : ManagerVectors), bm.allocateCpuOne = some (i,after) ∧
      m.allocateCpuOne = some ((i : ℤ),n) ∧ n.Represents after := by
  unfold allocateCpuOne BlockManager.allocateCpuOne
  cases hids : bm.cpu.ids with
  | nil =>
    have hpop : bm.cpu.pop = none := by
      unfold FreeStack.pop
      split
      · rfl
      · rename_i hcons
        rw [hids] at hcons
        cases hcons
    rw [BlockVectors.back_none h.cpu hids, hpop]
    exact .inl ⟨rfl,rfl⟩
  | cons i rest =>
    obtain ⟨cpu,htake,hcpu⟩ := BlockVectors.take_represented h.cpu hids
    rw [BlockVectors.back_some h.cpu hids, FreeStack.pop_cons bm.cpu i rest hids]
    refine .inr ⟨i,_,{ m with cpu := cpu },rfl,?_,h.gpu,hcpu,h.blocks,h.reports⟩
    simp [htake]

theorem free_cpu_one_represented (h : m.Represents bm) (cpuBlockId : ℤ) :
    ∃ n, m.freeCpuOne cpuBlockId = some n ∧ n.Represents (bm.freeCpuOne cpuBlockId) := by
  have htotal := h.cpu.total
  unfold freeCpuOne BlockManager.freeCpuOne
  rcases BlockVectors.flag_cases h.cpu cpuBlockId with hid | ⟨i,rfl,hi,hflag⟩
  · rw [if_pos hid, dif_pos (by omega)]
    exact ⟨_,rfl,h.report _⟩
  · rw [if_neg (by omega), dif_neg (by omega), hflag]
    by_cases hfree : bm.cpu.isFree (i : ℤ).toNat = true
    · rw [dif_pos hfree, show bm.cpu.isFree i = true from hfree]
      exact ⟨_,rfl,h.report _⟩
    · have hout : bm.cpu.isFree i = false := Bool.eq_false_iff.mpr hfree
      rw [dif_neg hfree, hout]
      exact ⟨_,rfl,h.gpu,BlockVectors.give_represented h.cpu hi hout,h.blocks,h.reports⟩

theorem free_cpu_represented (h : m.Represents bm) (cpuBlockIds : List ℤ) :
    ∃ n, m.freeCpu cpuBlockIds = some n ∧
      n.Represents (cpuBlockIds.foldl BlockManager.freeCpuOne bm) :=
  each_represented (fun _ _ id h => free_cpu_one_represented h id) h cpuBlockIds

theorem free_cpu_fold (bm : BlockManager) (ids : List ℕ) :
    (ids.map fun i : ℕ => (i : ℤ)).foldl BlockManager.freeCpuOne bm = bm.freeCpu ids := by
  induction ids generalizing bm with
  | nil => rfl
  | cons i ids ih => exact ih _

theorem allocate_cpu_loop_represented (h : m.Represents bm) (k : ℕ) (ids : List ℕ) :
    ∃ n, allocateCpuLoop k (ids.map (↑)) m =
        some ((BlockManager.allocateCpuLoop k ids bm).1.map (↑),n) ∧
      n.Represents (BlockManager.allocateCpuLoop k ids bm).2 := by
  induction k generalizing ids m bm with
  | zero => exact ⟨m,rfl,h⟩
  | succ k ih =>
    unfold allocateCpuLoop BlockManager.allocateCpuLoop
    rcases allocate_cpu_one_represented h with ⟨hnone,hone⟩ | ⟨i,next,p,hsome,hone,hrep⟩
    · obtain ⟨n,hfree,hrep⟩ := free_cpu_represented h (ids.map (↑))
      rw [hnone, hone]
      dsimp only
      rw [if_pos (by decide), hfree]
      exact ⟨n,rfl,free_cpu_fold bm ids ▸ hrep⟩
    · obtain ⟨n,hloop,hlast⟩ := ih hrep (ids++[i])
      rw [hsome, hone]
      dsimp only
      rw [if_neg (by omega)]
      rw [List.map_append, List.map_singleton] at hloop
      exact ⟨n,hloop,hlast⟩

theorem allocate_cpu_represented (h : m.Represents bm) (n : ℤ) :
    ∃ p, m.allocateCpu n = some ((bm.allocateCpu n).1.map (↑),p) ∧
      p.Represents (bm.allocateCpu n).2 ∧
      (Granted m.cpu n ((bm.allocateCpu n).1.map (↑)) ∨ (bm.allocateCpu n).1 = [] ∧ p = m) := by
  have hfree := h.cpu.free
  unfold allocateCpu
  by_cases hn : n < 0 ∨ m.cpu.free < n
  · have hsame : bm.allocateCpu n = ([],bm) := if_pos (by omega)
    rw [if_pos hn, hsame]
    exact ⟨m,rfl,h,.inr ⟨rfl,rfl⟩⟩
  · obtain ⟨k,rfl⟩ := Int.eq_ofNat_of_zero_le (show 0 ≤ n by omega)
    have hk : k ≤ bm.cpu.ids.length := by
      rw [bm.cpu.counted] at hfree
      omega
    have hloop : bm.allocateCpu k = BlockManager.allocateCpuLoop k [] bm := if_neg (by omega)
    obtain ⟨p,hp,hrep⟩ := allocate_cpu_loop_represented h k []
    rw [if_neg hn]
    refine ⟨p,hloop ▸ hp,hloop ▸ hrep,.inl ?_⟩
    rw [hloop, BlockManager.allocate_cpu_loop bm k [] hk, List.nil_append]
    exact take_granted h.cpu hk

end CpuCalls

section Runs

variable {m : ManagerVectors} {bm : BlockManager}

theorem call_represented (h : m.Represents bm) (c : Call) :
    ∃ n after, m.call c = some n ∧ n.Represents after := by
  cases c with
  | allocateOne =>
    rcases allocate_one_represented h with ⟨-,hone⟩ | ⟨i,after,n,-,hone,hrep,-⟩
    · exact ⟨m,bm,by rw [call, hone]; rfl,h⟩
    · exact ⟨n,after,by rw [call, hone]; rfl,hrep⟩
  | allocate n =>
    obtain ⟨ids,p,after,hall,hrep,-⟩ := allocate_represented h n
    exact ⟨p,after,by rw [call, hall]; rfl,hrep⟩
  | freeOne blockId =>
    obtain ⟨n,hn,hrep⟩ := free_one_represented h blockId
    exact ⟨n,_,hn,hrep⟩
  | free blockIds =>
    obtain ⟨n,hn,hrep⟩ := free_represented h blockIds
    exact ⟨n,_,hn,hrep⟩
  | allocateCpuOne =>
    rcases allocate_cpu_one_represented h with ⟨-,hone⟩ | ⟨i,after,n,-,hone,hrep⟩
    · exact ⟨m,bm,by rw [call, hone]; rfl,h⟩
    · exact ⟨n,after,by rw [call, hone]; rfl,hrep⟩
  | allocateCpu n =>
    obtain ⟨p,hall,hrep,-⟩ := allocate_cpu_represented h n
    exact ⟨p,_,by rw [call, hall]; rfl,hrep⟩
  | freeCpuOne cpuBlockId =>
    obtain ⟨n,hn,hrep⟩ := free_cpu_one_represented h cpuBlockId
    exact ⟨n,_,hn,hrep⟩
  | freeCpu cpuBlockIds =>
    obtain ⟨n,hn,hrep⟩ := free_cpu_represented h cpuBlockIds
    exact ⟨n,_,hn,hrep⟩

theorem run_represented (h : m.Represents bm) (calls : List Call) :
    ∃ n after, m.run calls = some n ∧ n.Represents after := by
  induction calls generalizing m bm with
  | nil => exact ⟨m,bm,rfl,h⟩
  | cons c calls ih =>
    obtain ⟨next,middle,hcall,hrep⟩ := call_represented h c
    obtain ⟨n,after,hrun,hlast⟩ := ih hrep
    exact ⟨n,after,by rw [run, List.foldlM_cons, hcall]; exact hrun,hlast⟩

/-- No assert fails in any run of calls, and the free lists are well formed after it. -/
theorem free_lists_well_formed (totalBlocks totalCpuBlocks : ℕ) (calls : List Call) :
    ∃ m, (new totalBlocks totalCpuBlocks).run calls = some m ∧
      m.gpu.WellFormed ∧ m.cpu.WellFormed ∧
      (∀ n, ∃ ids after, m.allocate n = some (ids,after) ∧
        (Granted m.gpu n ids ∨ ids = [] ∧ after = m)) ∧
      (∀ n, ∃ ids after, m.allocateCpu n = some (ids,after) ∧
        (Granted m.cpu n ids ∨ ids = [] ∧ after = m)) := by
  obtain ⟨m,bm,hrun,hrep⟩ := run_represented (new_represents totalBlocks totalCpuBlocks) calls
  refine ⟨m,hrun,BlockVectors.represents_well_formed hrep.gpu,
    BlockVectors.represents_well_formed hrep.cpu,fun n => ?_,fun n => ?_⟩
  · obtain ⟨ids,p,_,hall,_,hids⟩ := allocate_represented hrep n
    exact ⟨ids,p,hall,hids⟩
  · obtain ⟨p,hall,_,hids⟩ := allocate_cpu_represented hrep n
    exact ⟨_,p,hall,hids.imp_right fun hsame => ⟨by rw [hsame.1]; rfl,hsame.2⟩⟩

/-- An id twice in one vector, and one that is no block. -/
example : ((new 2 0).run [.allocate 2,.free [1,1,5]]).map (fun m => (m.gpu.ids,m.reports)) =
    some ([1],[.doubleFree 1,.invalidBlock 5]) := by decide

end Runs

end ManagerVectors

end MiniLlm

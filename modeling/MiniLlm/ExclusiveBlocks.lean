import MiniLlm.RangedSwaps

/-!
# Every block has one owner

Whatever the backend answers and whichever CUDA calls fail, the free stacks,
the tables of the requests and the entries of the swapped requests share the
ids of both pools out without overlap, as long as no swap-in stores past the
end of its vector; in runs whose swap-outs take ranges none does.
-/

set_option autoImplicit false

namespace MiniLlm

open RealKvAllocator Scheduler

variable {α B : Type*}

def Scheduler.requests {A : Type*} (s : Scheduler A B) : List Request := Place.all.flatMap s.queues

/-- The owners of the GPU blocks: the free stack and the tables of all requests. -/
def gpuOwners (s : Scheduler (RealKvAllocator α) B) : List ℕ :=
  s.kvAllocator.blockManager.gpu.ids++s.requests.flatMap Request.blocks

/-- The owners of the CPU blocks: the free stack and the swapped entries. -/
def cpuOwners (s : Scheduler (RealKvAllocator α) B) : List ℕ :=
  s.kvAllocator.blockManager.cpu.ids++recordedIds s.kvAllocator.swappedRequests

structure Uses {A : Type*} (s : Scheduler A B) (r : Request) (layer b physical : ℕ) : Prop where
  held : r ∈ s.requests
  uses : ∃ kv, r.layerKv[layer]? = some kv ∧ kv.physicalBlockId b = some physical

structure ExclusivelyOwned (s : Scheduler (RealKvAllocator α) B) : Prop where
  gpu : (gpuOwners s).Perm (List.range s.kvAllocator.blockManager.gpu.total)
  gpuFlags : ∀ i, s.kvAllocator.blockManager.gpu.isFree i = true ↔
    i ∈ s.kvAllocator.blockManager.gpu.ids
  gpuCount : s.kvAllocator.blockManager.gpu.count = s.kvAllocator.blockManager.gpu.ids.length
  cpu : (cpuOwners s).Perm (List.range s.kvAllocator.blockManager.cpu.total)
  cpuFlags : ∀ i, s.kvAllocator.blockManager.cpu.isFree i = true ↔
    i ∈ s.kvAllocator.blockManager.cpu.ids
  cpuCount : s.kvAllocator.blockManager.cpu.count = s.kvAllocator.blockManager.cpu.ids.length
  unshared : ∀ r r' layer layer' b b' physical, Uses s r layer b physical →
    Uses s r' layer' b' physical → r = r' ∧ layer = layer' ∧ b = b'
  reports : s.kvAllocator.blockManager.reports = []
  finished : (∀ p, p ≠ .finish → s.queues p = []) →
    s.kvAllocator.blockManager.gpu.count = s.kvAllocator.blockManager.gpu.total ∧
    s.kvAllocator.blockManager.cpu.count = s.kvAllocator.blockManager.cpu.total

theorem held_blocks {A : Type*} (s : Scheduler A B) :
    tables s.held = (s.requests.flatMap Request.blocks : List ℕ) := by
  unfold tables held requests
  rw [Multiset.coe_bind, List.flatMap_assoc, List.flatMap_assoc]
  exact congrArg _ (List.flatMap_congr fun p _ => List.flatMap_map _ _ _)

theorem recorded_none (m : AList (fun _ : UInt64 => SwappedRequest))
    (h : ∀ id, m.lookup id = none) : recordedIds m = [] := by
  have hentries : m.entries = [] := by
    refine List.eq_nil_iff_forall_not_mem.mpr fun e he => ?_
    exact AList.lookup_eq_none.mp (h e.1) (List.mem_map_of_mem he)
  rw [recordedIds, hentries]
  rfl

theorem tables_unshared {A : Type*} (s : Scheduler A B)
    (h : (s.requests.flatMap Request.blocks).Nodup) (r r' : Request)
    (layer layer' b b' physical : ℕ) (hu : Uses s r layer b physical)
    (hu' : Uses s r' layer' b' physical) : r = r' ∧ layer = layer' ∧ b = b' := by
  obtain ⟨hr,kv,hkv,hb⟩ := hu
  obtain ⟨hr',kv',hkv',hb'⟩ := hu'
  obtain ⟨i,hi⟩ := List.mem_iff_getElem?.mp hr
  obtain ⟨j,hj⟩ := List.mem_iff_getElem?.mp hr'
  obtain rfl := flat_map_index Request.blocks _ h i j r r' physical hi hj
    (table_mem hkv hb) (table_mem hkv' hb')
  obtain rfl := Option.some.inj (hi.symm.trans hj)
  exact ⟨rfl,blocks_unshared ((List.nodup_flatMap.mp h).1 r hr) hkv hkv' hb hb'⟩

section Ownership

variable {totalBlocks totalCpuBlocks : ℕ} {s : Scheduler (RealKvAllocator α) B}

theorem Custody.gpu_owners (h : Custody totalBlocks totalCpuBlocks s.board) :
    (gpuOwners s).Perm (List.range s.kvAllocator.blockManager.gpu.total) := by
  have hsum := h.gpu
  rw [show s.board.requests = s.held from rfl, held_blocks] at hsum
  rw [show s.kvAllocator.blockManager.gpu.total = totalBlocks from h.gpuTotal]
  exact Multiset.coe_eq_coe.mp hsum

theorem Custody.cpu_owners (h : Custody totalBlocks totalCpuBlocks s.board) :
    (cpuOwners s).Perm (List.range s.kvAllocator.blockManager.cpu.total) := by
  rw [show s.kvAllocator.blockManager.cpu.total = totalCpuBlocks from h.cpuTotal]
  exact h.cpu

/-- Finished requests own nothing. -/
theorem Custody.finished_free (h : Custody totalBlocks totalCpuBlocks s.board)
    (hall : ∀ p, p ≠ .finish → s.queues p = []) :
    s.requests.flatMap Request.blocks = [] ∧
      recordedIds s.kvAllocator.swappedRequests = [] := by
  have hfinish (p : Place) (r : Request) (hr : r ∈ s.queues p) :
      Placed (s.kvAllocator.swappedRequests.lookup r.requestId) r .finish := by
    have hp : p = .finish := by
      by_contra hne
      rw [hall p hne] at hr
      cases hr
    exact hp ▸ h.placed (p,r) ((mem_held s p r).mpr hr)
  refine ⟨List.flatMap_eq_nil_iff.mpr fun r hr => ?_,recorded_none _ fun id => ?_⟩
  · obtain ⟨p,_,hp⟩ := List.mem_flatMap.mp hr
    exact (hfinish p r hp).1.blocks_empty
  · by_contra hne
    obtain ⟨x,hx,rfl⟩ := h.entries id hne
    exact hne (hfinish x.1 x.2 ((mem_held s x.1 x.2).mp hx)).2

theorem Custody.exclusive (h : Custody totalBlocks totalCpuBlocks s.board) :
    ExclusivelyOwned s where
  gpu := h.gpu_owners
  gpuFlags := s.kvAllocator.blockManager.gpu.flagged
  gpuCount := s.kvAllocator.blockManager.gpu.counted
  cpu := h.cpu_owners
  cpuFlags := s.kvAllocator.blockManager.cpu.flagged
  cpuCount := s.kvAllocator.blockManager.cpu.counted
  unshared := tables_unshared s
    (List.nodup_append'.mp (h.gpu_owners.nodup_iff.mpr List.nodup_range)).2.1
  reports := h.reports
  finished := fun hall => by
    obtain ⟨htables,hentries⟩ := h.finished_free hall
    have hgpu := h.gpu_owners.length_eq
    have hcpu := h.cpu_owners.length_eq
    rw [gpuOwners, htables, List.append_nil, List.length_range] at hgpu
    rw [cpuOwners, hentries, List.append_nil, List.length_range] at hcpu
    exact ⟨(FreeStack.counted _).trans hgpu,(FreeStack.counted _).trans hcpu⟩

end Ownership

/-- In runs whose swap-outs all take ranges no store goes astray, and in every state visited, those
between two bodies among them, every block of both pools has one owner. -/
theorem exclusive_blocks (be : InferenceBackend B) (device : Device α) (b : B) (async : Bool) :
    (∀ c s, ReachedRanged be device b async c s → VisitedRanged be device b async s) ∧
    ∀ s, VisitedRanged be device b async s →
      s.kvAllocator.device.faulted = false ∧ ExclusivelyOwned s :=
  ⟨fun _ _ h => (reached_ranged h).2,
    fun _ h => ⟨(visited_ranged h).unmarked,(visited_custody h.visited).exclusive⟩⟩

/-- While a request is swapped out, and after it is back. -/
theorem calm_exclusive : ((calmRun 2).queues .swapOut).map Request.requestId = [4] ∧
    ExclusivelyOwned (calmRun 2) ∧ ExclusivelyOwned (calmRun 3) := by
  obtain ⟨hvisited,hsound⟩ := exclusive_blocks mockBackend freshDevice () true
  exact ⟨calm_runs.2.2.2.2.1,(hsound _ (hvisited _ _ (calm_reached 2 (by decide)))).2,
    (hsound _ (hvisited _ _ (calm_reached 3 le_rfl))).2⟩

/-- With failing CUDA calls a swap-in stores past its vector, and nothing is known after it. -/
theorem eight_not_exclusive : ¬ ∀ c s, Reached (realKvAllocator ℤ) mockBackend NewRequest
    (startedReal balkyDevice () true) c s →
      s.kvAllocator.device.faulted = false ∧ ExclusivelyOwned s := by
  intro h
  obtain ⟨hreached,hmark⟩ := eight_overrun
  exact absurd ((h _ _ hreached).1.symm.trans hmark) Bool.false_ne_true

end MiniLlm

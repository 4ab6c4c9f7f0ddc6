import MiniLlm.SwapOutCalls

/-!
# What a swap-in does

The restoring loops of `swap_in` in closed form. A swap-in that passes its
tests either restores the request or, after a failed CUDA call, gives every
block back; it cannot run out of blocks half way.
-/

set_option autoImplicit false

namespace MiniLlm

open FlatMemory

variable {α : Type*}

def setAll : List ℤ → List (ℕ × ℕ) → List ℤ
  | dst, [] => dst
  | dst, w::ws => setAll (dst.set w.1 (w.2 : ℤ)) ws

theorem set_all_append (dst : List ℤ) (ws vs : List (ℕ × ℕ)) :
    setAll dst (ws++vs) = setAll (setAll dst ws) vs := by
  induction ws generalizing dst with
  | nil => rfl
  | cons w ws ih => exact ih _

theorem set_all_length (dst : List ℤ) (ws : List (ℕ × ℕ)) :
    (setAll dst ws).length = dst.length := by
  induction ws generalizing dst with
  | nil => rfl
  | cons w ws ih => rw [setAll, ih, List.length_set]

def offsets (start : ℕ) (swapped : List SwappedBlock) : List ℕ :=
  swapped.map (fun s => s.cpuBlockId-start)

/-- Some offset is past the end of a vector of `n` entries. -/
def overruns (n start : ℕ) (swapped : List SwappedBlock) : Bool :=
  (offsets start swapped).any (n ≤ ·)

theorem offsets_length (start : ℕ) (swapped : List SwappedBlock) :
    (offsets start swapped).length = swapped.length := List.length_map _

theorem overruns_append (n start : ℕ) (xs ys : List SwappedBlock) :
    overruns n start (xs++ys) = (overruns n start xs || overruns n start ys) := by
  rw [overruns, offsets, List.map_append, List.any_append]
  rfl

theorem restore_blocks_grant (start : ℕ) (swapped : List SwappedBlock) (kv : PagedKVCache)
    (s : Restore) (h : swapped.length ≤ s.bm.gpu.ids.length) :
    ∃ bm, Drawn s.bm bm swapped.length ∧ restoreBlocks start swapped kv s = .ok (
      { kv with blockTable := kv.blockTable++s.bm.gpu.ids.take swapped.length },
      ⟨bm,s.restoredGpuBlocks++s.bm.gpu.ids.take swapped.length,
        setAll s.dstBlockByCpuOffset ((offsets start swapped).zip s.bm.gpu.ids),
        s.overrun || overruns s.dstBlockByCpuOffset.length start swapped⟩) := by
  induction swapped generalizing kv s with
  | nil =>
    exact ⟨s.bm,⟨Nat.zero_le _,(s.bm.gpu.drop_zero).symm,rfl,rfl⟩,by
      simp [restoreBlocks, offsets, overruns, setAll]⟩
  | cons b swapped ih =>
    cases hc : s.bm.gpu.ids with
    | nil => simp [hc] at h
    | cons i rest =>
      simp only [restoreBlocks, BlockManager.allocate_one_some s.bm i rest hc]
      obtain ⟨bm,hd,ho⟩ := ih (kv.appendBlock i) ⟨({ s.bm with
          gpu := s.bm.gpu.drop 1
          blocks := Function.update s.bm.blocks i PhysicalBlock.reset } :
            BlockManager).reserveTokens i b.validTokens,s.restoredGpuBlocks++[i],
          s.dstBlockByCpuOffset.set (b.cpuBlockId-start) i,
          s.overrun || decide (s.dstBlockByCpuOffset.length ≤ b.cpuBlockId-start)⟩
        (by simp [hc] at h ⊢; omega)
      have hg : s.bm.gpu.drop (1+swapped.length) = bm.gpu := by
        rw [hd.gpu, ← FreeStack.drop_drop]
        rfl
      refine ⟨bm,⟨h,by rw [List.length_cons, ← hg, Nat.add_comm],hd.cpu,hd.reports⟩,?_⟩
      rw [ho]
      simp [PagedKVCache.appendBlock, hc, offsets, overruns, setAll, Bool.or_assoc]

def restoredCaches (blocksPerLayer tokens : ℕ) : List PagedKVCache → List ℕ → List PagedKVCache
  | [], _ => []
  | kv::kvs, ids => ⟨kv.requestId,ids.take blocksPerLayer,tokens⟩::
      restoredCaches blocksPerLayer tokens kvs (ids.drop blocksPerLayer)

theorem restored_caches_length (bpl tokens : ℕ) (kvs : List PagedKVCache) (ids : List ℕ) :
    (restoredCaches bpl tokens kvs ids).length = kvs.length := by
  induction kvs generalizing ids with
  | nil => rfl
  | cons kv kvs ih => simp [restoredCaches, ih]

theorem restored_caches_blocks (bpl tokens : ℕ) (kvs : List PagedKVCache) (ids : List ℕ) :
    (restoredCaches bpl tokens kvs ids).flatMap PagedKVCache.blockTable =
      ids.take (bpl*kvs.length) := by
  induction kvs generalizing ids with
  | nil => simp [restoredCaches]
  | cons kv kvs ih =>
    rw [restoredCaches, List.flatMap_cons, ih, List.length_cons, Nat.mul_add, Nat.mul_one,
      Nat.add_comm, List.take_add]

theorem restore_layers_grant (start bpl tokens : ℕ) (kvs : List PagedKVCache)
    (swapped : List SwappedBlock) (s : Restore) (hs : swapped.length = bpl*kvs.length)
    (h : swapped.length ≤ s.bm.gpu.ids.length) :
    ∃ bm, Drawn s.bm bm swapped.length ∧ restoreLayers start bpl tokens kvs swapped s = .ok (
      restoredCaches bpl tokens kvs s.bm.gpu.ids,
      ⟨bm,s.restoredGpuBlocks++s.bm.gpu.ids.take swapped.length,
        setAll s.dstBlockByCpuOffset ((offsets start swapped).zip s.bm.gpu.ids),
        s.overrun || overruns s.dstBlockByCpuOffset.length start swapped⟩) := by
  induction kvs generalizing swapped s with
  | nil =>
    obtain rfl : swapped = [] := List.eq_nil_of_length_eq_zero (by simpa using hs)
    exact ⟨s.bm,⟨Nat.zero_le _,(s.bm.gpu.drop_zero).symm,rfl,rfl⟩,by
      simp [restoreLayers, restoredCaches, offsets, overruns, setAll]⟩
  | cons kv kvs ih =>
    simp only [List.length_cons, Nat.mul_add, Nat.mul_one] at hs
    have hone : (swapped.take bpl).length = bpl := by simp; omega
    obtain ⟨one,hd,ho⟩ := restore_blocks_grant start (swapped.take bpl) kv.reset s (by omega)
    rw [hone] at hd ho
    obtain ⟨bm,hd',hl⟩ := ih (swapped.drop bpl)
      ⟨one,s.restoredGpuBlocks++s.bm.gpu.ids.take bpl,
        setAll s.dstBlockByCpuOffset ((offsets start (swapped.take bpl)).zip s.bm.gpu.ids),
        s.overrun || overruns s.dstBlockByCpuOffset.length start (swapped.take bpl)⟩
      (by simp; omega) (by simp [hd.gpu]; omega)
    have hlen : bpl+(swapped.drop bpl).length = swapped.length := by simp; omega
    refine ⟨bm,⟨h,?_,hd'.cpu.trans hd.cpu,hd'.reports.trans hd.reports⟩,?_⟩
    · rw [hd'.gpu, ← hlen, ← FreeStack.drop_drop, hd.gpu]
    · have hzip : (offsets start (swapped.take bpl)).zip s.bm.gpu.ids++
          (offsets start (swapped.drop bpl)).zip (s.bm.gpu.ids.drop bpl) =
          (offsets start swapped).zip s.bm.gpu.ids := by
        have hoff : (offsets start (swapped.take bpl)).length = bpl := by
          rw [offsets_length, hone]
        rw [← zip_take_length (offsets start (swapped.take bpl)), hoff,
          ← List.zip_append (by rw [hoff]; simp; omega), List.take_append_drop, offsets, offsets,
          ← List.map_append, List.take_append_drop]
        rfl
      simp only [restoreLayers, ho, hl, hd.gpu, FreeStack.drop_ids]
      rw [← set_all_append, hzip, List.append_assoc, ← List.take_add, hlen, set_all_length,
        Bool.or_assoc, ← overruns_append, List.take_append_drop]
      rfl

namespace Device

def restoredBy (d : Device α) (start expected : ℕ) (dst : List ℤ) : Device α :=
  (((d.copyStaging start expected).copyDstBlockIds dst).launchScatter expected).called

/-- A restore that fails has copied nothing out of the CPU pool, and may have launched. -/
structure FailedRestore (d : Device α) (dst : List ℤ) (e : Device α) : Prop where
  cpuPool : e.cpuPool = d.cpuPool
  cuda : e.cuda = d.cuda
  kept : d.faulted = true → e.faulted = true
  caused : e.faulted = true → d.faulted = true ∨ dst.any (· < 0) = true

theorem restore_cases (d : Device α) (start expected : ℕ) (dst : List ℤ) :
    (∃ e, d.restore start expected dst = (false,e) ∧ d.FailedRestore dst e ∧ ¬ d.Succeeds 4) ∨
    (d.Succeeds 4 ∧ d.restore start expected dst = (true,d.restoredBy start expected dst)) := by
  have hfail (i : ℕ) (hi : i < 4) (hf : d.cuda (d.calls+i) = false) : ¬ d.Succeeds 4 :=
    fun h => by simp [h i hi] at hf
  have hsame {e : Device α} (hp : e.cpuPool = d.cpuPool) (hc : e.cuda = d.cuda)
      (hm : e.faulted = d.faulted) : d.FailedRestore dst e :=
    ⟨hp,hc,fun h => hm.trans h,fun h => .inl (hm.symm.trans h)⟩
  unfold restore
  by_cases h0 : d.outcome = false
  · exact Or.inl ⟨_,if_pos h0,hsame rfl rfl rfl,hfail 0 (by decide) h0⟩
  rw [if_neg h0]
  by_cases h1 : (d.copyStaging start expected).outcome = false
  · exact Or.inl ⟨_,if_pos h1,hsame rfl rfl rfl,hfail 1 (by decide) h1⟩
  dsimp only
  rw [if_neg h1]
  by_cases h2 : ((d.copyStaging start expected).copyDstBlockIds dst).outcome = false
  · exact Or.inl ⟨_,if_pos h2,hsame rfl rfl rfl,hfail 2 (by decide) h2⟩
  rw [if_neg h2]
  cases h3 : (((d.copyStaging start expected).copyDstBlockIds dst).launchScatter expected).outcome
  · exact Or.inl ⟨_,rfl,⟨rfl,rfl,fun h => Bool.or_eq_true_iff.mpr (.inl h),
      fun h => Bool.or_eq_true_iff.mp h⟩,hfail 3 (by decide) h3⟩
  · refine Or.inr ⟨?_,rfl⟩
    rw [Bool.not_eq_false] at h0 h1 h2
    intro i hi
    have hcases : i = 0 ∨ i = 1 ∨ i = 2 ∨ i = 3 := by omega
    rcases hcases with rfl | rfl | rfl | rfl
    · exact h0
    · exact h1
    · exact h2
    · exact h3

end Device

namespace RealKvAllocator

def expected (swapped : SwappedRequest) : ℕ := swapped.blocksPerLayer*gpt2NLayers

structure Ready (a : RealKvAllocator α) (swapped : SwappedRequest) : Prop where
  pos : 0 < expected swapped
  size : swapped.cpuBlocks.length = expected swapped
  room : expected swapped ≤ a.blockManager.gpu.ids.length
  staging : a.dSwapInStaging = true
  dst : a.dSwapInDstBlockIds = true
  capacity : expected swapped ≤ a.swapInCapacityBlocks

theorem swap_in_ready_iff (a : RealKvAllocator α) (swapped : SwappedRequest) :
    a.swapInReady swapped = true ↔ a.Ready swapped := by
  simp only [swapInReady, Bool.and_eq_true, decide_eq_true_eq, BlockManager.can_allocate_iff]
  constructor
  · rintro ⟨⟨⟨⟨hp,hs⟩,hr⟩,hst,hd,_⟩,hc⟩
    exact ⟨hp,hs,hr,hst,hd,hc⟩
  · rintro ⟨hp,hs,hr,hst,hd,hc⟩
    exact ⟨⟨⟨⟨hp,hs⟩,hr⟩,hst,hd,lt_of_lt_of_le hp hc⟩,hc⟩

/-- `dst_block_by_cpu_offset` when the copies start. -/
def dstBlocks (a : RealKvAllocator α) (swapped : SwappedRequest) : List ℤ :=
  setAll (List.replicate (expected swapped) (-1))
    ((offsets (cpuStart swapped.cpuBlocks) swapped.cpuBlocks).zip a.blockManager.gpu.ids)

/-- Restoring the entry stores past the end of `dst_block_by_cpu_offset`. -/
def overrun (swapped : SwappedRequest) : Bool :=
  overruns (expected swapped) (cpuStart swapped.cpuBlocks) swapped.cpuBlocks

/-- The ids `swap_in` takes from the GPU stack, in the order of the entry. -/
def restoredIds (a : RealKvAllocator α) (swapped : SwappedRequest) : List ℕ :=
  a.blockManager.gpu.ids.take (expected swapped)

theorem restore_ready {a : RealKvAllocator α} {swapped : SwappedRequest} (h : a.Ready swapped)
    (r : Request) : ∃ bm, Drawn a.blockManager bm (expected swapped) ∧
      restoreLayers (cpuStart swapped.cpuBlocks) swapped.blocksPerLayer
        (restoredNumTokens swapped) r.layerKv swapped.cpuBlocks
        ⟨a.blockManager,[],List.replicate (expected swapped) (-1),false⟩ = .ok (
          restoredCaches swapped.blocksPerLayer (restoredNumTokens swapped) r.layerKv
            a.blockManager.gpu.ids,
          ⟨bm,a.restoredIds swapped,a.dstBlocks swapped,overrun swapped⟩) := by
  obtain ⟨bm,hd,ho⟩ := restore_layers_grant (cpuStart swapped.cpuBlocks)
    swapped.blocksPerLayer (restoredNumTokens swapped) r.layerKv swapped.cpuBlocks
    ⟨a.blockManager,[],List.replicate (expected swapped) (-1),false⟩
    (by rw [r.layers]; exact h.size) (by rw [h.size]; exact h.room)
  rw [h.size] at hd ho
  refine ⟨bm,hd,ho.trans ?_⟩
  simp only [List.nil_append, List.length_replicate, Bool.false_or]
  rfl

end RealKvAllocator

def Request.restore (r : Request) (swapped : SwappedRequest) (ids : List ℕ) : Request :=
  ((r.withCaches (restoredCaches swapped.blocksPerLayer (restoredNumTokens swapped) r.layerKv ids)
    (restored_caches_length _ _ _ _)).withResidency .gpu).withState .decodeReady

open RealKvAllocator

def RealKvAllocator.swappedIn (a : RealKvAllocator α) (r : Request) (swapped : SwappedRequest)
    (bm : BlockManager) : Outcome (RealKvAllocator α) :=
  ⟨true,{ a with
      device := (a.device.mark (overrun swapped)).restoredBy (cpuStart swapped.cpuBlocks)
        (expected swapped) (a.dstBlocks swapped)
      blockManager := bm.freeCpu (swapped.cpuBlocks.map SwappedBlock.cpuBlockId)
      swappedRequests := a.swappedRequests.erase r.requestId },
    r.restore swapped a.blockManager.gpu.ids⟩

/-- Everything `swap_in` can do. -/
inductive SwapInCase (a : RealKvAllocator α) (r : Request) : Outcome (RealKvAllocator α) → Prop
  | refused (h : ∀ swapped, a.swappedRequests.lookup r.requestId = some swapped →
      ¬ a.Ready swapped) : SwapInCase a r ⟨false,a,r⟩
  | undone (swapped : SwappedRequest) (d : Device α) (bm : BlockManager)
      (hl : a.swappedRequests.lookup r.requestId = some swapped) (hready : a.Ready swapped)
      (hd : (a.device.mark (overrun swapped)).FailedRestore (a.dstBlocks swapped) d)
      (hg : bm.gpu.ids.Perm a.blockManager.gpu.ids)
      (ht : bm.gpu.total = a.blockManager.gpu.total)
      (hc : bm.cpu = a.blockManager.cpu) (hr : bm.reports = a.blockManager.reports)
      (h : ¬ a.device.Succeeds 4) :
      SwapInCase a r
        ⟨false,{ a with device := d, blockManager := bm },r.mapCaches PagedKVCache.reset⟩
  | done (swapped : SwappedRequest) (bm : BlockManager)
      (hl : a.swappedRequests.lookup r.requestId = some swapped) (hready : a.Ready swapped)
      (hk : a.device.Succeeds 4) (hd : Drawn a.blockManager bm (expected swapped)) :
      SwapInCase a r (a.swappedIn r swapped bm)

theorem drawn_returnable {bm out : BlockManager} {n : ℕ} (h : Drawn bm out n) :
    BlockManager.Returnable out.gpu (bm.gpu.ids.take n) := by
  rw [h.gpu]
  exact returnable_take bm.gpu n

theorem swap_in_case (a : RealKvAllocator α) (r : Request) : SwapInCase a r (a.swapIn r) := by
  unfold RealKvAllocator.swapIn
  cases hl : a.swappedRequests.lookup r.requestId with
  | none => exact SwapInCase.refused (by simp [hl])
  | some swapped =>
    dsimp only
    by_cases hready : a.swapInReady swapped = true
    · have hok := (a.swap_in_ready_iff swapped).mp hready
      rw [if_neg (by simp [hready])]
      obtain ⟨bm,hd,ho⟩ := restore_ready hok r
      split
      · rename_i s hs
        exact absurd (hs.symm.trans ho) (by simp)
      · rename_i kvs s hs
        obtain ⟨rfl,rfl⟩ : kvs = _ ∧ s = _ := by simpa using hs.symm.trans ho
        rcases Device.restore_cases (a.device.mark (overrun swapped))
          (cpuStart swapped.cpuBlocks) (expected swapped) (a.dstBlocks swapped) with
          ⟨d,he,hfailed,hk⟩ | ⟨hk,he⟩
        · obtain ⟨hf,hc,hreports⟩ := BlockManager.free_returnable bm _ (drawn_returnable hd)
          have hundo := freed_perm _ _ _ (hd.gpu ▸ hf)
          have htotal := hf.total
          rw [hd.gpu, FreeStack.drop_total] at htotal
          simp only [expected, dstBlocks, overrun] at he ⊢
          rw [he]
          exact SwapInCase.undone swapped d _ hl hok hfailed hundo htotal
            (hc.trans hd.cpu) (hreports.trans hd.reports) hk
        · simp only [expected, dstBlocks, overrun] at he ⊢
          rw [he]
          exact SwapInCase.done swapped bm hl hok hk hd
    · rw [Bool.not_eq_true] at hready
      rw [if_pos hready]
      refine SwapInCase.refused ?_
      intro other hother hok
      obtain rfl : swapped = other := Option.some.inj (hl.symm.trans hother)
      simp [(a.swap_in_ready_iff swapped).mpr hok] at hready

theorem swap_in_of_ok (a : RealKvAllocator α) (r : Request) (swapped : SwappedRequest)
    (hl : a.swappedRequests.lookup r.requestId = some swapped) (h : (a.swapIn r).ok = true) :
    a.Ready swapped ∧ ∃ bm, Drawn a.blockManager bm (expected swapped) ∧
      a.swapIn r = a.swappedIn r swapped bm := by
  have hc := swap_in_case a r
  generalize a.swapIn r = out at h hc
  cases hc with
  | refused => simp at h
  | undone => simp at h
  | done other bm hl' hready _ hd =>
    obtain rfl : swapped = other := Option.some.inj (hl.symm.trans hl')
    exact ⟨hready,bm,hd,rfl⟩

theorem swap_in_ok_iff (a : RealKvAllocator α) (r : Request) : (a.swapIn r).ok = true ↔
    ∃ swapped, a.swappedRequests.lookup r.requestId = some swapped ∧ a.Ready swapped ∧
      a.device.Succeeds 4 := by
  have h := swap_in_case a r
  generalize a.swapIn r = out at h
  cases h with
  | refused h =>
    refine ⟨fun hf => absurd hf (by simp),?_⟩
    rintro ⟨swapped,hl,hready,_⟩
    exact absurd hready (h swapped hl)
  | undone swapped d bm hl hready _ _ _ _ _ h =>
    refine ⟨fun hf => absurd hf (by simp),?_⟩
    rintro ⟨_,_,_,hk⟩
    exact absurd hk h
  | done swapped bm hl hready hk hd => exact ⟨fun _ => ⟨swapped,hl,hready,hk⟩,fun _ => rfl⟩

section Faults

variable {a : RealKvAllocator α} {r : Request} {swapped : SwappedRequest}

theorem marked_iff {d : Device α} {overrun : Bool} :
    (d.mark overrun).faulted = true ↔ d.faulted = true ∨ overrun = true := Bool.or_eq_true_iff

theorem swap_in_marks (hl : a.swappedRequests.lookup r.requestId = some swapped)
    (hready : a.Ready swapped) (h : a.device.faulted = true ∨ overrun swapped = true) :
    (a.swapIn r).alloc.device.faulted = true := by
  have hmark := marked_iff.mpr h
  have hcase := swap_in_case a r
  generalize a.swapIn r = out at hcase
  cases hcase with
  | refused hno => exact absurd hready (hno swapped hl)
  | undone other d bm hl' _ hd =>
    obtain rfl := Option.some.inj (hl.symm.trans hl')
    exact hd.kept hmark
  | done other bm hl' =>
    obtain rfl := Option.some.inj (hl.symm.trans hl')
    exact Bool.or_eq_true_iff.mpr (.inl hmark)

theorem swap_in_keeps_mark (h : a.device.faulted = true) :
    (a.swapIn r).alloc.device.faulted = true := by
  by_cases hready : ∃ swapped, a.swappedRequests.lookup r.requestId = some swapped ∧
      a.Ready swapped
  · obtain ⟨swapped,hl,hready⟩ := hready
    exact swap_in_marks hl hready (.inl h)
  · have hcase := swap_in_case a r
    generalize a.swapIn r = out at hcase
    cases hcase with
    | refused => exact h
    | undone other _ _ hl hr => exact absurd ⟨other,hl,hr⟩ hready
    | done other _ hl hr => exact absurd ⟨other,hl,hr⟩ hready

/-- A swap-in marks the device only for an entry that overruns or underfills the vector. -/
theorem swap_in_marked (h : (a.swapIn r).alloc.device.faulted = true) :
    a.device.faulted = true ∨ ∃ swapped, a.swappedRequests.lookup r.requestId = some swapped ∧
      a.Ready swapped ∧ (overrun swapped = true ∨ (a.dstBlocks swapped).any (· < 0) = true) := by
  have hcause {other : SwappedRequest} (hl : a.swappedRequests.lookup r.requestId = some other)
      (hready : a.Ready other)
      (h : (a.device.mark (overrun other)).faulted = true ∨
        (a.dstBlocks other).any (· < 0) = true) :
      a.device.faulted = true ∨ ∃ swapped, a.swappedRequests.lookup r.requestId = some swapped ∧
        a.Ready swapped ∧
        (overrun swapped = true ∨ (a.dstBlocks swapped).any (· < 0) = true) := by
    rcases h with h | h
    · rcases marked_iff.mp h with h | h
      · exact .inl h
      · exact .inr ⟨other,hl,hready,.inl h⟩
    · exact .inr ⟨other,hl,hready,.inr h⟩
  have hcase := swap_in_case a r
  generalize a.swapIn r = out at hcase h
  cases hcase with
  | refused => exact .inl h
  | undone other d bm hl hready hd => exact hcause hl hready (hd.caused h)
  | done other bm hl hready => exact hcause hl hready (Bool.or_eq_true_iff.mp h)

end Faults

end MiniLlm

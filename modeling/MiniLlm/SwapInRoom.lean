import MiniLlm.Serviceable

/-!
# What the swap-ins leave

`retry_swap_in_requests` goes over its queue once and restores every request
whose blocks are free and fit the staging buffer, first come first served.
How many blocks are free afterwards depends on nothing but the sizes.
-/

set_option autoImplicit false

namespace MiniLlm

open RealKvAllocator Scheduler

variable {α B : Type*}

/-- Requests of these sizes take their blocks in turn, if they can. -/
def firstFit : ℕ → List ℕ → ℕ
  | free, [] => free
  | free, n::sizes =>
    if n ≤ free ∧ n ≤ maxTotalBlocks then firstFit (free-n) sizes else firstFit free sizes

def swapInBlocks (a : RealKvAllocator α) (r : Request) : ℕ :=
  match a.swappedRequests.lookup r.requestId with
  | none => 0
  | some swapped => expected swapped

namespace Scheduler

def leftAfterSwapIns (s : Scheduler (RealKvAllocator α) B) : ℕ :=
  firstFit s.kvAllocator.blockManager.gpu.count
    ((s.queues .swapOut).map (swapInBlocks s.kvAllocator))

end Scheduler

def Returning (a : RealKvAllocator α) (r : Request) : Prop :=
  ∃ swapped, a.swappedRequests.lookup r.requestId = some swapped ∧ 0 < expected swapped ∧
    swapped.cpuBlocks.length = expected swapped

section Turns

variable {a : RealKvAllocator α} {r : Request}

theorem Returning.blocks (h : Returning a r) : ∃ swapped,
    a.swappedRequests.lookup r.requestId = some swapped ∧
    swapInBlocks a r = expected swapped := by
  obtain ⟨swapped,hl,_,_⟩ := h
  refine ⟨swapped,hl,?_⟩
  unfold swapInBlocks
  rw [hl]

structure TakenBy (a : RealKvAllocator α) (r : Request) (b : RealKvAllocator α) : Prop where
  room : swapInBlocks a r ≤ a.blockManager.gpu.ids.length ∧ swapInBlocks a r ≤ maxTotalBlocks
  left : b.blockManager.gpu.ids.length = a.blockManager.gpu.ids.length-swapInBlocks a r
  others : ∀ id, id ≠ r.requestId →
    b.swappedRequests.lookup id = a.swappedRequests.lookup id

/-- When no CUDA call fails, the sizes decide. -/
theorem swap_in_returning (hb : SwapInBuffers a) (h : Returning a r) :
    ((a.swapIn r).ok = true ∧ TakenBy a r (a.swapIn r).alloc) ∨
    (¬ (swapInBlocks a r ≤ a.blockManager.gpu.ids.length ∧ swapInBlocks a r ≤ maxTotalBlocks) ∧
      a.swapIn r = ⟨false,a,r⟩) := by
  obtain ⟨swapped,hl,hblocks⟩ := h.blocks
  obtain ⟨other,hother,hpos,hsize⟩ := h
  obtain rfl := Option.some.inj (hl.symm.trans hother)
  have hcase := swap_in_case a r
  generalize a.swapIn r = out at hcase
  cases hcase with
  | refused hrefused =>
    refine .inr ⟨fun hroom => ?_,rfl⟩
    rw [hblocks] at hroom
    exact hrefused swapped hl ⟨hpos,hsize,hroom.1,hb.staging,hb.dst,hb.capacity.symm ▸ hroom.2⟩
  | undone _ _ _ _ _ _ _ _ _ _ hfail => exact absurd (hb.succeeds 4) hfail
  | done found bm hl' hready _ hd =>
    obtain rfl := Option.some.inj (hl.symm.trans hl')
    refine .inl ⟨rfl,?_,?_,fun id hid => AList.lookup_erase_ne hid⟩
    · rw [hblocks, ← hb.capacity]
      exact ⟨hready.room,hready.capacity⟩
    · show (bm.freeCpu _).gpu.ids.length = _
      rw [BlockManager.free_cpu_gpu, hd.gpu, FreeStack.drop_ids, List.length_drop, hblocks]

theorem Returning.other {b : RealKvAllocator α} {q : Request} (h : Returning a q)
    (hb : b.swappedRequests.lookup q.requestId = a.swappedRequests.lookup q.requestId) :
    Returning b q ∧ swapInBlocks b q = swapInBlocks a q := by
  unfold Returning swapInBlocks
  rw [hb]
  exact ⟨h,rfl⟩

end Turns

theorem swap_in_turn_granted {A : Type*} {kv : KvAllocator A} (s : Scheduler A B) (r : Request)
    (h : (kv.swapIn s.kvAllocator r).ok = true) : s.swapInTurn kv r = (.progressed,
      (s.withAllocator (kv.swapIn s.kvAllocator r).alloc).pushBack .decode
        ((kv.swapIn s.kvAllocator r).req.withState .decodeReady)) := by
  unfold swapInTurn
  exact if_pos h

theorem swap_in_turn_refused {A : Type*} {kv : KvAllocator A} (s : Scheduler A B) (r : Request)
    (h : kv.swapIn s.kvAllocator r = ⟨false,s.kvAllocator,r⟩) :
    s.swapInTurn kv r = (.continued,s.pushBack .swapOut (r.withState .swappedOut)) := by
  unfold swapInTurn
  rw [h]
  rfl

/-- The loop of `retry_swap_in_requests` over the first requests of the queue. -/
theorem swap_in_loop (xs ys : List Request) (s : Scheduler (RealKvAllocator α) B)
    (hq : s.queues .swapOut = xs++ys) (hb : SwapInBuffers s.kvAllocator)
    (hx : ∀ r ∈ xs, Returning s.kvAllocator r) (hn : (xs.map Request.requestId).Nodup) :
    (s.forFront .swapOut (swapInTurn (realKvAllocator α))
      xs.length).2.kvAllocator.blockManager.gpu.ids.length =
      firstFit s.kvAllocator.blockManager.gpu.ids.length
        (xs.map (swapInBlocks s.kvAllocator)) := by
  induction xs generalizing ys s with
  | nil => rfl
  | cons r xs ih =>
    obtain ⟨hfresh,hn⟩ := List.nodup_cons.mp hn
    have hrest (q : Request) (hqx : q ∈ xs) : Returning s.kvAllocator q :=
      hx q (List.mem_cons_of_mem r hqx)
    have hnext : (s.setQueue .swapOut (xs++ys)).queues .swapOut = xs++ys := by
      rw [set_queue_queues, if_pos rfl]
    rw [List.length_cons, forFront, pop_front_cons s .swapOut r (xs++ys) hq, List.map_cons,
      firstFit]
    dsimp only
    rcases swap_in_returning hb (hx r List.mem_cons_self) with ⟨hok,htaken⟩ | ⟨hno,hout⟩
    · rw [swap_in_turn_granted _ r hok, if_pos htaken.room, ← htaken.left]
      have hother (q : Request) (hqx : q ∈ xs) :=
        (hrest q hqx).other (htaken.others q.requestId fun hid => hfresh
          (List.mem_map.mpr ⟨q,hqx,hid⟩))
      refine (ih ys _ ?_ (swap_in_buffers hb) (fun q hqx => (hother q hqx).1) hn).trans ?_
      · rw [push_back_queues, if_neg (by decide), with_allocator_queues, hnext]
      · exact congrArg _ (List.map_congr_left fun q hqx => (hother q hqx).2)
    · rw [swap_in_turn_refused _ r hout, if_neg hno]
      refine ih (ys++[r.withState .swappedOut]) _ ?_ hb hrest hn
      rw [push_back_queues, if_pos rfl, hnext, List.append_assoc]

theorem retry_swap_in_left (s : Scheduler (RealKvAllocator α) B) (hb : SwapInBuffers s.kvAllocator)
    (hx : ∀ r ∈ s.queues .swapOut, Returning s.kvAllocator r)
    (hn : ((s.queues .swapOut).map Request.requestId).Nodup) :
    (s.retrySwapInRequests (realKvAllocator α)).2.kvAllocator.blockManager.gpu.ids.length =
      s.leftAfterSwapIns := by
  rw [leftAfterSwapIns, s.kvAllocator.blockManager.gpu.counted]
  exact swap_in_loop _ [] s (List.append_nil _).symm hb hx hn

end MiniLlm

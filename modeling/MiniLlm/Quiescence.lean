import MiniLlm.AdmissionGate
import MiniLlm.BoundedService
import MiniLlm.ExclusiveBlocks
import MiniLlm.QueuePlaces

/-!
# Where the worker thread sleeps

The thread goes to sleep only where nothing is pending: whatever it has taken
is finished and answered to the end, all blocks of both pools are free, no
entry of a swapped-out request is left and admission is open again.
-/

set_option autoImplicit false

namespace MiniLlm

open RealKvAllocator Scheduler

variable {α A B : Type*}

/-- Nothing is pending and nothing is lost. -/
structure Quiescent (s : Scheduler (RealKvAllocator α) B) : Prop where
  drained : ∀ p, p ≠ .request → p ≠ .finish → s.queues p = []
  gpu : s.kvAllocator.blockManager.gpu.ids.Perm (List.range defaultTotalKvBlocks)
  cpu : s.kvAllocator.blockManager.cpu.ids.Perm (List.range defaultTotalCpuBlocks)
  entries : ∀ id, s.kvAllocator.swappedRequests.lookup id = none
  admission : s.admissionPaused = false
  finished : ∀ id ∈ s.popped, ∃ r ∈ s.queues .finish, r.requestId = id
  answered : ∀ id ∈ s.popped, ∃ resp ∈ (streamOf s.responses id).getLast?, resp.finished = true

theorem body_reopens {kv : KvAllocator A} {be : InferenceBackend B} {s : Scheduler A B}
    (h : (s.workerLoopBody kv be).noInternalWork = true) :
    (s.workerLoopBody kv be).admissionPaused = false := by
  have hresume (t : Scheduler A B) (ht : t.resumeAdmission.noInternalWork = true) :
      t.resumeAdmission.admissionPaused = false := by
    by_cases hpaused : t.admissionPaused = true
    · have hnone : t.noInternalWork = true := by
        rw [noInternalWork] at ht ⊢
        simpa only [resume_queues] using ht
      unfold resumeAdmission
      rw [hpaused, hnone]
      rfl
    · unfold resumeAdmission
      rw [Bool.not_eq_true] at hpaused
      rw [hpaused]
      exact hpaused
  exact hresume _ h

theorem asleep_open {kv : KvAllocator A} {be : InferenceBackend B}
    {admissible : (Request → Prop) → Request → Prop} {start s : Scheduler A B} {c : Control}
    (h : Reached kv be admissible start c s) : c = .waiting → s.admissionPaused = false := by
  induction h with
  | start => nofun
  | submit c s req _ _ ih => exact ih
  | stop c s _ ih => exact ih
  | body => nofun
  | idle s _ _ _ hw _ => exact fun _ => body_reopens hw
  | wake => nofun

theorem drained_places {s : Scheduler A B} (h : s.Settled) (hnone : s.noInternalWork = true)
    {p : Place} (hrequest : p ≠ .request) (hfinish : p ≠ .finish) : s.queues p = [] := by
  simp only [noInternalWork, Bool.and_eq_true, List.isEmpty_iff] at hnone
  obtain ⟨⟨⟨⟨⟨⟨hwaiting,hprefill⟩,hdecode⟩,hdeferred⟩,hlater⟩,hout⟩,hcancel⟩ := hnone
  cases p with
  | request => exact absurd rfl hrequest
  | finish => exact absurd rfl hfinish
  | waitingPrefill => exact hwaiting
  | prefill => exact hprefill
  | decode => exact hdecode
  | deferredPrefill => exact hdeferred
  | deferredDecode => exact hlater
  | cancel => exact hcancel
  | swapOut => exact hout
  | decodeBatch => exact h.decodeBatch
  | nextDecode => exact h.nextDecode
  | prefillBatch => exact h.prefillBatch

theorem drained_unheld {totalBlocks totalCpuBlocks : ℕ} {s : Scheduler (RealKvAllocator α) B}
    (hcustody : Custody totalBlocks totalCpuBlocks s.board)
    (hempty : ∀ p, p ≠ .request → p ≠ .finish → s.queues p = []) (x : Place × Request)
    (hx : x ∈ s.board.requests) :
    x.2.blocks = [] ∧ s.kvAllocator.swappedRequests.lookup x.2.requestId = none := by
  obtain ⟨p,r⟩ := x
  have hplaced : Placed _ r p := hcustody.placed (p,r) hx
  by_cases hrequest : p = .request
  · subst hrequest
    exact ⟨hplaced.2.1.blocks_empty,hplaced.2.2⟩
  · by_cases hfinish : p = .finish
    · subst hfinish
      exact ⟨hplaced.1.blocks_empty,hplaced.2⟩
    · have hm := (mem_held s p r).mp hx
      rw [hempty p hrequest hfinish] at hm
      cases hm

/-- Whatever was submitted, refused and swapped out before, as long as no copy went astray. -/
theorem asleep_quiescent (be : InferenceBackend B) (hbe : be.Answers SameId) (device : Device α)
    (b : B) (async : Bool) {s : Scheduler (RealKvAllocator α) B}
    (h : Reached (realKvAllocator α) be NewRequest (startedReal device b async) .waiting s)
    (_ : s.kvAllocator.device.faulted = false) : Quiescent s := by
  have hstart := started_settled (RealKvAllocator.new device) b async
  obtain ⟨_,hsettled,hidle⟩ := reached_loop hstart h
  obtain ⟨_,hvisited⟩ := reached_visited hbe hstart h
  have hcustody := visited_custody hvisited
  have hempty (p : Place) := drained_places hsettled (hidle rfl) (p := p)
  have hunheld := drained_unheld hcustody hempty
  have hentries (id : UInt64) : s.kvAllocator.swappedRequests.lookup id = none := by
    by_contra hne
    obtain ⟨x,hx,rfl⟩ := hcustody.entries id hne
    exact hne (hunheld x hx).2
  have htables : tables s.board.requests = 0 := by
    rw [tables, Multiset.bind_congr (fun x hx => congrArg _ (hunheld x hx).1)]
    exact Multiset.bind_zero _
  have hlast (id : UInt64) (hid : id ∈ s.popped) : ∃ r ∈ s.queues .finish, r.requestId = id ∧
      ∃ resp ∈ (streamOf s.responses id).getLast?, resp.finished = true := by
    have hpopped : (id : UInt64) ∈ (s.popped : Multiset UInt64) := hid
    rw [show (s.popped : Multiset UInt64) = _ from visited_popped hvisited] at hpopped
    obtain ⟨⟨p,r⟩,hx,rfl⟩ := Multiset.mem_map.mp hpopped
    obtain ⟨hx,hrequest⟩ := Multiset.mem_filter.mp hx
    have hinv := visited_board StreamInv (fun _ _ => hop_stream) hvisited (started_stream _ b async)
    have hm := (mem_held s p r).mp hx
    have hfinish : p = .finish := by
      by_contra hne
      rw [hempty p hrequest hne] at hm
      cases hm
    subst hfinish
    exact ⟨r,hm,rfl,(hinv.streams (.finish,r) hx).last.mpr rfl⟩
  refine ⟨hempty,?_,?_,hentries,asleep_open h rfl,fun id hid => ?_,fun id hid => ?_⟩
  · have hgpu := hcustody.gpu
    rw [htables, add_zero] at hgpu
    exact Multiset.coe_eq_coe.mp hgpu
  · have hcpu := hcustody.cpu
    have hrecorded : recordedIds s.board.kvAllocator.swappedRequests = [] :=
      recorded_none _ hentries
    rw [hrecorded, List.append_nil] at hcpu
    exact hcpu
  · obtain ⟨r,hr,hid,_⟩ := hlast id hid
    exact ⟨r,hr,hid⟩
  · obtain ⟨_,_,_,hlast⟩ := hlast id hid
    exact hlast

theorem two_served_asleep : Quiescent (twoServed 3) := by
  obtain ⟨hrunning,hfirst,hsecond,hthird,_⟩ := two_served_sizes
  obtain ⟨hroom,hroom'⟩ := two_asked_room (le_refl 3) ()
  have hasked : Reached (realKvAllocator ℤ) mockBackend NewRequest
      (startedReal freshDevice () true) .top (twoAsked 3 ()) :=
    .submit _ _ _ (.submit _ _ _ .start hroom.fresh) hroom'.fresh
  exact asleep_quiescent mockBackend mock_answers freshDevice () true
    (.idle (twoServed 2) (.body (twoServed 1) (.body (twoServed 0) hasked rfl trivial hfirst)
      (hrunning 1 (by decide)) trivial hsecond) (hrunning 2 (by decide)) trivial hthird)
    (by decide +kernel)

end MiniLlm

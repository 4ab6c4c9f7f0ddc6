import MiniLlm.PhaseRecords
import MiniLlm.SchedulerSteps

/-!
# The sizes of batches

Every batch handed to the backend has a request in it and at most
`MAX_BATCH_NUM` of them: a batch that stays empty is not served, and both
batch functions stop adding in time.
-/

set_option autoImplicit false

namespace MiniLlm

open Scheduler

variable {A B : Type*}

section Sizes

variable (kv : KvAllocator A) (be : InferenceBackend B)

structure BatchSized (batch : List Request) : Prop where
  nonempty : batch ≠ []
  requests : batch.length ≤ maxBatchNum

def CallsSized (s : Scheduler A B) : Prop :=
  (∀ batch ∈ s.prefillCalls, BatchSized batch) ∧ ∀ batch ∈ s.decodeCalls, BatchSized batch

def SameCalls (s t : Scheduler A B) : Prop :=
  t.prefillCalls = s.prefillCalls ∧ t.decodeCalls = s.decodeCalls

variable {s t : Scheduler A B}

theorem CallsSized.same (h : CallsSized s) (k : SameCalls s t) : CallsSized t := by
  unfold CallsSized
  rw [k.1, k.2]
  exact h

theorem CallsSized.records (h : CallsSized s) (k : s.SameRecords t) : CallsSized t :=
  h.same ⟨k.prefillCalls,k.decodeCalls⟩

variable (s)

theorem respond_loop_calls (q ready : Place) (cache : Request → PagedKVCache → PagedKVCache)
    (n : ℕ) (answers : List Response) :
    SameCalls s (respondLoop q (respond kv cache ready) n answers s) := by
  apply respond_loop_keeps (SameCalls s)
  · intro answer r t u h hp
    have hpop := pop_front_records hp
    rw [SameCalls, ← h.1, ← h.2, ← hpop.prefillCalls, ← hpop.decodeCalls]
    unfold respond
    dsimp only
    split <;> exact ⟨rfl,rfl⟩
  · exact ⟨rfl,rfl⟩

theorem admit_decode_sized (n : ℕ) (h : (s.queues .decodeBatch).length ≤ maxBatchNum) :
    ((s.admitDecodeLoop kv n).2.queues .decodeBatch).length ≤ maxBatchNum := by
  induction n generalizing s with
  | zero => exact h
  | succ n ih =>
    unfold admitDecodeLoop
    split
    · exact h
    · rename_i hroom
      cases hp : s.popFront .decode with
      | none => exact h
      | some popped =>
        obtain ⟨r,t⟩ := popped
        apply ih
        have hother := pop_front_other hp .decodeBatch (by decide)
        unfold admitDecodeTurn
        dsimp only
        split
        · rw [push_back_queues, if_pos rfl, with_allocator_queues, hother, List.length_append,
            List.length_singleton]
          omega
        · rw [push_back_queues, if_neg (by decide), with_allocator_queues, hother]
          exact h

variable {s}

theorem serve_decode_sized (h : CallsSized s)
    (hlen : (s.queues .decodeBatch).length ≤ maxBatchNum) (hne : s.queues .decodeBatch ≠ []) :
    CallsSized (s.serveDecode kv be) := by
  have hcall : CallsSized (s.callDecode be).2 := by
    refine ⟨h.1,fun batch hb => ?_⟩
    rcases List.mem_append.mp hb with hb | hb
    · exact h.2 batch hb
    · rw [List.mem_singleton.mp hb]
      exact ⟨hne,hlen⟩
  exact hcall.same (respond_loop_calls kv _ _ _ _ _ _)

theorem serve_prefill_sized (h : CallsSized s)
    (hlen : (s.queues .prefillBatch).length ≤ maxBatchNum) (hne : s.queues .prefillBatch ≠ []) :
    CallsSized (s.servePrefill kv be) := by
  have hcall : CallsSized (s.callPrefill be).2 := by
    refine ⟨fun batch hb => ?_,h.2⟩
    rcases List.mem_append.mp hb with hb | hb
    · exact h.1 batch hb
    · rw [List.mem_singleton.mp hb]
      exact ⟨hne,hlen⟩
  exact hcall.same (respond_loop_calls kv _ _ _ _ _ _)

theorem run_decode_sized (h : CallsSized s) (hb : s.queues .decodeBatch = []) :
    CallsSized (s.runDecodeBatch kv be).2 := by
  let P (t : Scheduler A B) : Prop :=
    CallsSized t ∧ (t.queues .decodeBatch).length ≤ maxBatchNum
  have hrounds : P (decodeRounds kv be (s.queues .decode).length (s.queues .decode).length
      { s with hasResp := false }).2 := by
    apply decode_rounds_serve kv be P
    · rintro n t ⟨ht,hlen⟩
      exact ⟨ht.records (admit_decode_records kv t n),admit_decode_sized kv t n hlen⟩
    · rintro t ⟨ht,hlen⟩ hne
      refine ⟨serve_decode_sized kv be ht hlen hne,?_⟩
      have hempty : (t.serveDecode kv be).queues .decodeBatch = [] :=
        respond_loop_empties kv _ _ _ (by simp) (by simp) _ _ _ rfl
      rw [hempty]
      exact Nat.zero_le _
    · refine ⟨h,?_⟩
      show (s.queues .decodeBatch).length ≤ maxBatchNum
      rw [hb]
      exact Nat.zero_le _
  exact (hrounds.1.records (flush_records _)).same
    ⟨(notify_same _).prefillCalls,(notify_same _).decodeCalls⟩

theorem start_prefill_grows (n : ℕ) (s : Scheduler A B) :
    ((s.forFront .prefill startPrefillTurn n).2.queues .prefillBatch).length ≤
      (s.queues .prefillBatch).length+n := by
  induction n generalizing s with
  | zero => exact le_refl _
  | succ n ih =>
    unfold forFront
    cases hp : s.popFront .prefill with
    | none => exact Nat.le_add_right _ _
    | some popped =>
      obtain ⟨r,t⟩ := popped
      have hturn := ih (t.pushBack .prefillBatch (r.withState .prefillRunning))
      rw [push_back_queues, if_pos rfl, pop_front_other hp .prefillBatch (by decide),
        List.length_append, List.length_singleton] at hturn
      exact hturn.trans (by omega)

theorem run_prefill_sized (h : CallsSized s) (hb : s.queues .prefillBatch = []) :
    CallsSized (s.runPrefillBatch kv be).2 := by
  have hrounds : CallsSized (prefillRounds kv be (s.queues .prefill).length
      { s with hasResp := false }).2 ∧ (prefillRounds kv be (s.queues .prefill).length
      { s with hasResp := false }).2.queues .prefillBatch = [] := by
    apply prefill_rounds_serve kv be (fun t => CallsSized t ∧ t.queues .prefillBatch = [])
      (Q := fun t => CallsSized t ∧ (t.queues .prefillBatch).length ≤ maxBatchNum)
    · rintro t ⟨ht,hnone⟩
      have hgrows := start_prefill_grows maxBatchNum t
      rw [hnone] at hgrows
      exact ⟨ht.records (start_prefill_records t),hgrows⟩
    · exact fun t ht hnone => ⟨ht.1,hnone⟩
    · rintro t ⟨ht,hlen⟩ hne
      exact ⟨serve_prefill_sized kv be ht hlen hne,
        respond_loop_empties kv _ _ _ (by simp) (by simp) _ _ _ rfl⟩
    · exact ⟨h,hb⟩
  exact hrounds.1.same ⟨(notify_same _).prefillCalls,(notify_same _).decodeCalls⟩

theorem run_phases_sized (hs : s.Settled) (h : CallsSized s) :
    CallsSized (s.runPhases kv be).2 := by
  let P (t : Scheduler A B) : Prop := CallsSized t ∧ t.queues .prefillBatch = []
  let R (t : Scheduler A B) : Prop := CallsSized t ∧ t.Settled
  have hswap (t : Scheduler A B) (ht : R t) : R (t.retrySwapInRequests kv).2 :=
    ⟨ht.1.records (retry_swap_in_records kv t),ht.2.only (t.retry_swap_in_only kv) (by simp)⟩
  have hdrain : R s.drainUnlessPaused :=
    ⟨h.records (drain_records s),hs.only s.drain_unless_paused_only (by simp)⟩
  unfold runPhases
  refine then_run_keeps (P := CallsSized) ?_ fun t ht => ht.records (retry_swap_in_records kv t)
  refine then_run_keeps (P := P) ?_ fun t ht => run_prefill_sized kv be ht.1 ht.2
  refine then_run_keeps (P := P) ?_ fun t ht => ⟨ht.1.records (admit_waiting_records kv t),
    (t.admit_waiting_only kv _ (by simp)).trans ht.2⟩
  refine then_run_keeps (P := P) ?_ fun t ht => ⟨ht.1.records (retry_deferred_prefill_records kv t),
    (t.retry_deferred_prefill_only kv _ (by simp)).trans ht.2⟩
  refine then_run_keeps (P := R) ?_ fun t ht => ⟨(hswap t ht).1,(hswap t ht).2.prefillBatch⟩
  refine then_run_keeps (P := R) (Q := R) ?_ fun t ht =>
    ⟨run_decode_sized kv be ht.1 ht.2.decodeBatch,t.run_decode_settled kv be ht.2⟩
  refine then_run_keeps (P := R) (Q := R) ?_ fun t ht =>
    ⟨ht.1.records (retry_deferred_decode_records t),
      ht.2.only t.retry_deferred_decode_only (by simp)⟩
  exact then_run_keeps (P := R) (Q := R) hdrain hswap

theorem body_sized (hs : s.Settled) (h : CallsSized s) : CallsSized (s.workerLoopBody kv be) := by
  have hphases := run_phases_sized kv be hs h
  unfold workerLoopBody
  dsimp only
  split
  · exact (hphases.records (victim_records kv _)).records (resume_records _)
  · exact hphases.records (resume_records _)

theorem wait_calls (hw : s.waitAndEnqueueOneRequest = some t) : SameCalls s t := by
  unfold waitAndEnqueueOneRequest at hw
  split at hw
  · rename_i r u hp
    have hpop := pop_front_records hp
    obtain rfl := Option.some.inj hw
    exact ⟨hpop.prefillCalls,hpop.decodeCalls⟩
  · split at hw
    · obtain rfl := Option.some.inj hw
      exact ⟨rfl,rfl⟩
    · cases hw

theorem reached_sized {kv : KvAllocator A} {be : InferenceBackend B}
    {admissible : (Request → Prop) → Request → Prop} {start : Scheduler A B} {c : Control}
    (hs : start.Settled) (h0 : CallsSized start)
    (h : Reached kv be admissible start c s) : s.Settled ∧ CallsSized s := by
  induction h with
  | start => exact ⟨hs,h0⟩
  | submit c s req h ha ih => exact ⟨submit_settled s req ih.1,ih.2⟩
  | stop c s h ih => exact ⟨⟨ih.1.1,ih.1.2,ih.1.3,ih.1.4,ih.1.5⟩,ih.2⟩
  | body s h hr _ hw ih => exact ⟨body_settled kv be s ih.1,body_sized kv be ih.1 ih.2⟩
  | idle s h hr _ hw ih => exact ⟨body_settled kv be s ih.1,body_sized kv be ih.1 ih.2⟩
  | wake s t h hw ih => exact ⟨wait_settled s t hw ih.1,ih.2.same (wait_calls hw)⟩

end Sizes

end MiniLlm

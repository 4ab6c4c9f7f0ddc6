import MiniLlm.BatchSizes
import MiniLlm.StagingBuffers

/-!
# Backends that agree on the batches of a run

The worker loop looks at its backend only through the batches that it hands
over. Where two backends give the same for every batch of a run with the one,
the run is one with the other.
-/

set_option autoImplicit false

namespace MiniLlm

open Scheduler

variable {A B : Type*} {kv : KvAllocator A} {be be' : InferenceBackend B}
  {allowed : Request → Response → Prop} {admissible : (Request → Prop) → Request → Prop}
  {start s : Scheduler A B}

structure BackendsAgree (kv : KvAllocator A) (be be' : InferenceBackend B)
    (allowed : Request → Response → Prop) (admissible : (Request → Prop) → Request → Prop)
    (start : Scheduler A B) : Prop where
  answers : be.Answers allowed
  settled : start.Settled
  prefill : ∀ s, Visited kv be allowed admissible start s →
    BatchSized (s.queues .prefillBatch) →
    be.prefill s.backend (s.queues .prefillBatch) = be'.prefill s.backend (s.queues .prefillBatch)
  decode : ∀ s, Visited kv be allowed admissible start s →
    BatchSized (s.queues .decodeBatch) →
    be.decode s.backend (s.queues .decodeBatch) = be'.decode s.backend (s.queues .decodeBatch)

section Rounds

variable (kv be be') {P Q : Scheduler A B → Prop}

theorem decode_rounds_agree
    (hadmitted : ∀ (n : ℕ) (s : Scheduler A B), P s → P (s.admitDecodeLoop kv n).2)
    (hserve : ∀ s, P s → s.queues .decodeBatch ≠ [] →
      s.serveDecode kv be = s.serveDecode kv be' ∧ P (s.serveDecode kv be))
    (turns remaining : ℕ) (s : Scheduler A B) (h : P s) :
    s.decodeRounds kv be turns remaining = s.decodeRounds kv be' turns remaining := by
  induction turns generalizing remaining s with
  | zero => rfl
  | succ turns ih =>
    have hadmit := hadmitted remaining s h
    unfold decodeRounds
    split
    · rfl
    · dsimp only
      split
      · exact ih _ _ hadmit
      · obtain ⟨hsame,hnext⟩ := hserve _ hadmit ‹_›
        rw [← hsame, ih _ _ hnext]

theorem prefill_rounds_agree (hstart : ∀ s, P s → Q s.startPrefill)
    (hserve : ∀ s, Q s → s.queues .prefillBatch ≠ [] →
      s.servePrefill kv be = s.servePrefill kv be' ∧ P (s.servePrefill kv be))
    (turns : ℕ) (s : Scheduler A B) (h : P s) :
    s.prefillRounds kv be turns = s.prefillRounds kv be' turns := by
  induction turns generalizing s with
  | zero => rfl
  | succ turns ih =>
    have hbatch := hstart s h
    unfold prefillRounds
    split
    · rfl
    · dsimp only
      split
      · rfl
      · obtain ⟨hsame,hnext⟩ := hserve _ hbatch ‹_›
        rw [← hsame, ih _ hnext]

theorem then_run_agree {f f' : Scheduler A B → Bool × Scheduler A B}
    {out out' : Bool × Scheduler A B} (h : out = out' ∧ P out.2)
    (hf : ∀ s, P s → f s = f' s ∧ Q (f s).2) :
    thenRun f out = thenRun f' out' ∧ Q (thenRun f out).2 := by
  obtain ⟨rfl,h⟩ := h
  obtain ⟨hsame,hnext⟩ := hf _ h
  refine ⟨?_,hnext⟩
  rw [thenRun, thenRun, hsame]

end Rounds

section Bodies

variable (h : BackendsAgree kv be be' allowed admissible start)
  (hv : Visited kv be allowed admissible start s)

include h hv

theorem BackendsAgree.serve_decode (hsized : BatchSized (s.queues .decodeBatch)) :
    s.serveDecode kv be = s.serveDecode kv be' := by
  unfold serveDecode callDecode
  dsimp only
  rw [h.decode s hv hsized]

theorem BackendsAgree.serve_prefill (hsized : BatchSized (s.queues .prefillBatch)) :
    s.servePrefill kv be = s.servePrefill kv be' := by
  unfold servePrefill callPrefill
  dsimp only
  rw [h.prefill s hv hsized]

theorem BackendsAgree.run_decode (hb : s.queues .decodeBatch = []) :
    s.runDecodeBatch kv be = s.runDecodeBatch kv be' := by
  let P (t : Scheduler A B) : Prop := Visited kv be allowed admissible start t ∧
    (t.queues .decodeBatch).length ≤ maxBatchNum
  have hrounds := decode_rounds_agree kv be be' (P := P)
    (fun n t ht => ⟨?_,admit_decode_sized kv t n ht.2⟩) (fun t ht hne => ?_)
    (s.queues .decode).length (s.queues .decode).length { s with hasResp := false } ⟨?_,?_⟩
  · unfold runDecodeBatch
    dsimp only
    rw [hrounds]
  · exact ht.1.trans (admit_decode_keeps (Steps kv be allowed admissible t) kv
      (fun req u v hu hp => hu.tail (.admitDecode u v req hp)) n t .refl)
  · refine ⟨h.serve_decode ht.1 ⟨hne,ht.2⟩,ht.1.trans (serve_decode_steps h.answers t),?_⟩
    have hempty : (t.serveDecode kv be).queues .decodeBatch = [] :=
      respond_loop_empties kv _ _ _ (by simp) (by simp) _ _ _ rfl
    rw [hempty]
    exact Nat.zero_le _
  · exact control_steps hv ⟨rfl,rfl,rfl,rfl,rfl,rfl⟩
  · show (s.queues .decodeBatch).length ≤ maxBatchNum
    rw [hb]
    exact Nat.zero_le _

theorem BackendsAgree.run_prefill (hb : s.queues .prefillBatch = []) :
    s.runPrefillBatch kv be = s.runPrefillBatch kv be' := by
  have hrounds := prefill_rounds_agree kv be be'
    (P := fun t => Visited kv be allowed admissible start t ∧ t.queues .prefillBatch = [])
    (Q := fun t => Visited kv be allowed admissible start t ∧
      (t.queues .prefillBatch).length ≤ maxBatchNum)
    (fun t ht => ⟨?_,?_⟩) (fun t ht hne => ?_)
    (s.queues .prefill).length { s with hasResp := false } ⟨?_,hb⟩
  · unfold runPrefillBatch
    dsimp only
    rw [hrounds]
  · exact ht.1.trans (for_front_run _ _ .startPrefill _ t)
  · have hgrows := start_prefill_grows maxBatchNum t
    rwa [ht.2, List.length_nil, Nat.zero_add] at hgrows
  · exact ⟨h.serve_prefill ht.1 ⟨hne,ht.2⟩,ht.1.trans (serve_prefill_steps h.answers t),
      respond_loop_empties kv _ _ _ (by simp) (by simp) _ _ _ rfl⟩
  · exact control_steps hv ⟨rfl,rfl,rfl,rfl,rfl,rfl⟩

theorem BackendsAgree.run_phases (hs : s.Settled) : s.runPhases kv be = s.runPhases kv be' := by
  let P (t : Scheduler A B) : Prop :=
    Visited kv be allowed admissible start t ∧ t.queues .prefillBatch = []
  let R (t : Scheduler A B) : Prop := Visited kv be allowed admissible start t ∧ t.Settled
  have hswap (t : Scheduler A B) (ht : R t) : R (t.retrySwapInRequests kv).2 :=
    ⟨ht.1.trans (retry_swap_in_steps t),ht.2.only (t.retry_swap_in_only kv) (by simp)⟩
  have hdrain : R s.drainUnlessPaused :=
    ⟨hv.trans (drain_steps s),hs.only s.drain_unless_paused_only (by simp)⟩
  unfold Scheduler.runPhases
  refine (then_run_agree (P := fun _ => True) (Q := fun _ => True) ?_
    fun _ _ => ⟨rfl,trivial⟩).1
  refine then_run_agree (P := P) (Q := fun _ => True) ?_
    fun t ht => ⟨h.run_prefill ht.1 ht.2,trivial⟩
  refine then_run_agree (P := P) ?_ fun t ht => ⟨rfl,ht.1.trans (admit_waiting_steps t),
    (t.admit_waiting_only kv _ (by simp)).trans ht.2⟩
  refine then_run_agree (P := P) ?_ fun t ht => ⟨rfl,ht.1.trans (retry_deferred_prefill_steps t),
    (t.retry_deferred_prefill_only kv _ (by simp)).trans ht.2⟩
  refine then_run_agree (P := R) ?_ fun t ht =>
    ⟨rfl,(hswap t ht).1,(hswap t ht).2.prefillBatch⟩
  refine then_run_agree (P := R) (Q := R) ?_ fun t ht => ⟨h.run_decode ht.1 ht.2.decodeBatch,
    ht.1.trans ((step_turns h.answers).run_decode t),t.run_decode_settled kv be ht.2⟩
  refine then_run_agree (P := R) (Q := R) ?_ fun t ht => ⟨rfl,
    ht.1.trans (retry_deferred_decode_steps t),ht.2.only t.retry_deferred_decode_only (by simp)⟩
  exact then_run_agree (P := R) (Q := R) ⟨rfl,hdrain⟩ fun t ht => ⟨rfl,hswap t ht⟩

theorem BackendsAgree.body (hs : s.Settled) : s.workerLoopBody kv be = s.workerLoopBody kv be' := by
  unfold workerLoopBody
  rw [h.run_phases hv hs]

end Bodies

section Runs

variable {c : Control}

theorem BackendsAgree.visited (h : BackendsAgree kv be be' allowed admissible start)
    (hr : Reached kv be admissible start c s) :
    s.Settled ∧ Visited kv be allowed admissible start s :=
  reached_visited h.answers h.settled hr

/-- The runs of the two backends reach the same states. -/
theorem BackendsAgree.reached (h : BackendsAgree kv be be' allowed admissible start) :
    Reached kv be admissible start c s ↔ Reached kv be' admissible start c s := by
  have hbody {t : Scheduler A B} (ht : Reached kv be admissible start .top t) :
      t.workerLoopBody kv be = t.workerLoopBody kv be' :=
    h.body (h.visited ht).2 (h.visited ht).1
  constructor
  · intro hr
    induction hr with
    | start => exact .start
    | submit c s req _ ha ih => exact .submit c s req ih ha
    | stop c s _ ih => exact .stop c s ih
    | body s ht hr _ hw ih =>
      rw [hbody ht] at hw ⊢
      exact .body s ih hr trivial hw
    | idle s ht hr _ hw ih =>
      rw [hbody ht] at hw ⊢
      exact .idle s ih hr trivial hw
    | wake s t _ hw ih => exact .wake s t ih hw
  · intro hr
    induction hr with
    | start => exact .start
    | submit c s req _ ha ih => exact .submit c s req ih ha
    | stop c s _ ih => exact .stop c s ih
    | body s _ hr _ hw ih =>
      rw [← hbody ih] at hw ⊢
      exact .body s ih hr trivial hw
    | idle s _ hr _ hw ih =>
      rw [← hbody ih] at hw ⊢
      exact .idle s ih hr trivial hw
    | wake s t _ hw ih => exact .wake s t ih hw

end Runs

end MiniLlm

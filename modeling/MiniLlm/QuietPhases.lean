import MiniLlm.PhaseRecords
import MiniLlm.SchedulerBoard

/-!
# The phases that answer nobody

Only the two response loops push responses. Whatever is kept by steps that
push none and by the response loops is kept by the body of the worker loop.
-/

set_option autoImplicit false

namespace MiniLlm

open Scheduler

variable {A B : Type*}

section Responses

variable {kv : KvAllocator A} {be : InferenceBackend B} {allowed : Request → Response → Prop}
  {admissible : (Request → Prop) → Request → Prop} {s t : Scheduler A B}

theorem step_responses (h : Step kv be allowed admissible s t) : s.responses <+: t.responses := by
  rcases step_hop h with hop | hsame
  · have hgrow {b c : Board A} (hop : Hop kv allowed admissible b c) :
        b.responses <+: c.responses := by
      cases hop with
      | submit => exact List.prefix_refl _
      | move => exact List.prefix_append _ _
    exact hgrow hop
  · have hsame : t.responses = s.responses := congrArg Board.responses hsame
    rw [hsame]

theorem steps_responses (h : Steps kv be allowed admissible s t) :
    s.responses <+: t.responses := by
  induction h with
  | refl => exact List.prefix_refl _
  | tail _ hstep ih => exact ih.trans (step_responses hstep)

theorem quiet_steps (h : Steps kv be allowed admissible s t)
    (hr : t.responses = s.responses) :
    Relation.ReflTransGen (fun s t => Step kv be allowed admissible s t ∧
      t.responses = s.responses) s t := by
  induction h with
  | refl => exact .refl
  | @tail u v hsteps hstep ih =>
    have hlast : u.responses = v.responses := by
      apply (step_responses hstep).eq_of_length_le
      rw [hr]
      exact (steps_responses hsteps).length_le
    exact (ih (hlast.trans hr)).tail ⟨hstep,hlast.symm⟩

theorem body_responses (s : Scheduler A B) :
    (s.workerLoopBody kv be).responses = (s.runPhases kv be).2.responses := by
  unfold workerLoopBody
  dsimp only
  rw [(resume_records _).responses]
  split
  · exact (victim_records kv _).responses
  · rfl

end Responses

section Keeps

variable (kv : KvAllocator A) (be : InferenceBackend B) (allowed : Request → Response → Prop)
  (admissible : (Request → Prop) → Request → Prop) (P : Scheduler A B → Prop)

def KeptQuietly : Prop := ∀ s t,
  Relation.ReflTransGen (fun s t => Step kv be allowed admissible s t ∧
    t.responses = s.responses) s t → P s → P t

variable {kv be allowed admissible P} (hquiet : KeptQuietly kv be allowed admissible P)

include hquiet

theorem KeptQuietly.steps {s t : Scheduler A B} (h : Steps kv be allowed admissible s t)
    (hr : t.responses = s.responses) (hs : P s) : P t := hquiet s t (quiet_steps h hr) hs

theorem KeptQuietly.run_decode (hserve : ∀ s, P s → P (s.serveDecode kv be))
    (s : Scheduler A B) (h : P s) : P (s.runDecodeBatch kv be).2 := by
  have hadmit (n : ℕ) (t : Scheduler A B) (ht : P t) : P (t.admitDecodeLoop kv n).2 :=
    hquiet.steps (admit_decode_keeps (Steps kv be allowed admissible t) kv
      (fun req u v hu hp => hu.tail (.admitDecode u v req hp)) n t .refl)
      (admit_decode_records kv t n).responses ht
  have hrounds : P (decodeRounds kv be (s.queues .decode).length (s.queues .decode).length
      { s with hasResp := false }).2 := by
    apply decode_rounds_keeps kv be P hadmit hserve
    have hfields : s.SameQueues { s with hasResp := false } := ⟨rfl,rfl,rfl,rfl,rfl,rfl⟩
    exact hquiet.steps (control_steps .refl hfields) rfl h
  have hflush (t : Scheduler A B) (ht : P t) : P t.flushNextDecode :=
    hquiet.steps (for_front_run _ _ .flush _ t)
      (flush_records t).responses ht
  exact hquiet.steps (control_steps .refl (notify_same _)) (notify_same _).responses
    (hflush _ hrounds)

theorem KeptQuietly.run_prefill (hserve : ∀ s, P s → P (s.servePrefill kv be))
    (s : Scheduler A B) (h : P s) : P (s.runPrefillBatch kv be).2 := by
  have hstart (t : Scheduler A B) (ht : P t) : P t.startPrefill :=
    hquiet.steps (for_front_run _ _ .startPrefill _ t)
      (start_prefill_records t).responses ht
  have hrounds : P (prefillRounds kv be (s.queues .prefill).length
      { s with hasResp := false }).2 := by
    apply prefill_rounds_keeps kv be P hstart hserve
    have hfields : s.SameQueues { s with hasResp := false } := ⟨rfl,rfl,rfl,rfl,rfl,rfl⟩
    exact hquiet.steps (control_steps .refl hfields) rfl h
  exact hquiet.steps (control_steps .refl (notify_same _)) (notify_same _).responses hrounds

theorem KeptQuietly.run_phases (hdecode : ∀ s, P s → P (s.serveDecode kv be))
    (hprefill : ∀ s, P s → P (s.servePrefill kv be)) (s : Scheduler A B) (h : P s) :
    P (s.runPhases kv be).2 := by
  have hswap (t : Scheduler A B) (ht : P t) : P (t.retrySwapInRequests kv).2 :=
    hquiet.steps (retry_swap_in_steps t) (retry_swap_in_records kv t).responses ht
  unfold runPhases
  refine then_run_keeps (P := P) ?_ hswap
  refine then_run_keeps (P := P) ?_ (hquiet.run_prefill hprefill)
  refine then_run_keeps (P := P) ?_ fun t ht =>
    hquiet.steps (admit_waiting_steps t) (admit_waiting_records kv t).responses ht
  refine then_run_keeps (P := P) ?_ fun t ht =>
    hquiet.steps (retry_deferred_prefill_steps t) (retry_deferred_prefill_records kv t).responses ht
  refine then_run_keeps (P := P) ?_ hswap
  refine then_run_keeps (P := P) ?_ (hquiet.run_decode hdecode)
  refine then_run_keeps (P := P) ?_ fun t ht =>
    hquiet.steps (retry_deferred_decode_steps t) (retry_deferred_decode_records t).responses ht
  exact then_run_keeps (P := P) (hquiet.steps (drain_steps s) (drain_records s).responses h) hswap

theorem KeptQuietly.body (hdecode : ∀ s, P s → P (s.serveDecode kv be))
    (hprefill : ∀ s, P s → P (s.servePrefill kv be)) (s : Scheduler A B) (hsettled : s.Settled)
    (h : P s) : P (s.workerLoopBody kv be) := by
  have hphases := hquiet.run_phases hdecode hprefill s h
  have hresume (t : Scheduler A B) (ht : P t) : P t.resumeAdmission := by
    refine hquiet.steps (control_steps .refl ?_) (resume_records t).responses ht
    unfold resumeAdmission
    split <;> exact ⟨rfl,rfl,rfl,rfl,rfl,rfl⟩
  unfold workerLoopBody
  apply hresume
  split
  · rename_i hidle
    rw [Bool.and_eq_true, Bool.not_eq_true'] at hidle
    have hdecode := run_phases_quiet kv be s hsettled hidle.1
    exact hquiet.steps (try_swap_out_steps _ hdecode fun _ _ _ => trivial)
      (victim_records kv _).responses hphases
  · exact hphases

end Keeps

end MiniLlm

import MiniLlm.PhaseRecords
import MiniLlm.ResponseStream
import MiniLlm.Server

/-!
# The scheduler thread as the event loop sees it

The thread is inside a batch function or outside of one. Inside it pushes
responses, and on the way out it may send one notification; whatever else it
does leaves the responses and the notifications alone. The body of the
worker loop is a run of such steps.
-/

set_option autoImplicit false

namespace MiniLlm

open Scheduler

variable {A B : Type*}

structure SchedulerThread (A B : Type*) where
  scheduler : Scheduler A B
  /-- Inside `run_decode_batch` or `run_prefill_batch`, where `has_resp` is a local variable. -/
  inBatch : Bool

inductive ThreadAction where
  | quiet
  /-- `response_queue_.push(resp)` -/
  | push (resp : Response)
  /-- `uv_async_send(response_async_)` -/
  | send
  deriving DecidableEq, Repr

/-- `resp` as it is pushed by `run_decode_batch`. -/
def decodePushed (answer : Option Response) (req : Request) : Response :=
  pushedResponse (fun _ kv => kv.incrementTokens 1) answer req

def prefillPushed (answer : Option Response) (req : Request) : Response :=
  pushedResponse (fun req kv => kv.setNumTokens req.promptsLen) answer req

def leaveAction (s : Scheduler A B) : ThreadAction :=
  if s.hasResp && s.responseAsync then .send else .quiet

def ThreadAction.pushed : ThreadAction → List Response
  | .push resp => [resp]
  | .quiet | .send => []

def SchedulerThread.WillSend (t : SchedulerThread A B) : Prop :=
  t.inBatch = true ∧ t.scheduler.hasResp = true ∧ t.scheduler.responseAsync = true

section Thread

variable (kv : KvAllocator A) (be : InferenceBackend B)

inductive ThreadStep : SchedulerThread A B → ThreadAction → SchedulerThread A B → Prop
  | quiet (s t : Scheduler A B) (inBatch : Bool)
      (h : Step kv be SameId ServerContext.NothingNew s t) (hs : s.SameAsync t) :
      ThreadStep ⟨s,inBatch⟩ .quiet ⟨t,inBatch⟩
  | enter (s : Scheduler A B) : ThreadStep ⟨s,false⟩ .quiet ⟨{ s with hasResp := false },true⟩
  | respondDecode (s t : Scheduler A B) (req : Request) (answer : Option Response)
      (h : s.popFront .decodeBatch = some (req,t))
      (ha : ∀ resp, answer = some resp → SameId req resp) :
      ThreadStep ⟨s,true⟩ (.push (decodePushed answer req)) ⟨t.respondDecode kv answer req,true⟩
  | respondPrefill (s t : Scheduler A B) (req : Request) (answer : Option Response)
      (h : s.popFront .prefillBatch = some (req,t))
      (ha : ∀ resp, answer = some resp → SameId req resp) :
      ThreadStep ⟨s,true⟩ (.push (prefillPushed answer req)) ⟨t.respondPrefill kv answer req,true⟩
  | leave (s : Scheduler A B) : ThreadStep ⟨s,true⟩ (leaveAction s) ⟨s.notify,false⟩

abbrev ThreadRun : SchedulerThread A B → SchedulerThread A B → Prop :=
  Relation.ReflTransGen fun s t => ∃ action, ThreadStep kv be s action t

variable {kv be}

theorem thread_step {s t : SchedulerThread A B} {action : ThreadAction}
    (h : ThreadStep kv be s action t) :
    Step kv be SameId ServerContext.NothingNew s.scheduler t.scheduler := by
  cases h with
  | quiet s t _ h => exact h
  | enter s => exact .control _ _ ⟨rfl,rfl,rfl,rfl,rfl,rfl⟩
  | respondDecode s t req answer h ha => exact .respondDecode s t req answer h ha
  | respondPrefill s t req answer h ha => exact .respondPrefill s t req answer h ha
  | leave s => exact .control _ _ (notify_same s)

structure Visible (s : SchedulerThread A B) (action : ThreadAction) (t : SchedulerThread A B) :
    Prop where
  responses : t.scheduler.responses = s.scheduler.responses++action.pushed
  responseAsync : t.scheduler.responseAsync = s.scheduler.responseAsync
  pushing : action.pushed ≠ [] → t.inBatch = true ∧ t.scheduler.hasResp = true
  sending : s.WillSend → action = .send ∨ t.WillSend

theorem respond_visible {s t : Scheduler A B} {q : Place} {req : Request}
    (h : s.popFront q = some (req,t)) (cache : Request → PagedKVCache → PagedKVCache)
    (ready : Place) (answer : Option Response) :
    Visible ⟨s,true⟩ (.push (pushedResponse cache answer req))
      ⟨t.respond kv cache ready answer req,true⟩ := by
  have hpop := pop_front_records h
  have hresponses : (t.respond kv cache ready answer req).responses =
      s.responses++[pushedResponse cache answer req] := by
    rw [← hpop.responses]
    unfold respond
    dsimp only
    split <;> rfl
  have hasync : (t.respond kv cache ready answer req).responseAsync = s.responseAsync := by
    rw [← hpop.responseAsync]
    unfold respond
    dsimp only
    split <;> rfl
  have hresp : (t.respond kv cache ready answer req).hasResp = true := by
    unfold respond
    dsimp only
    split <;> rfl
  exact ⟨hresponses,hasync,fun _ => ⟨rfl,hresp⟩,
    fun hwill => .inr ⟨rfl,hresp,hasync.trans hwill.2.2⟩⟩

theorem thread_visible {s t : SchedulerThread A B} {action : ThreadAction}
    (h : ThreadStep kv be s action t) : Visible s action t := by
  cases h with
  | quiet s t _ _ hs =>
    refine ⟨hs.responses.trans (List.append_nil _).symm,hs.responseAsync,
      fun hne => absurd rfl hne,fun hwill => .inr ⟨hwill.1,?_,?_⟩⟩
    · exact hs.hasResp.trans hwill.2.1
    · exact hs.responseAsync.trans hwill.2.2
  | enter s =>
    exact ⟨(List.append_nil _).symm,rfl,fun hne => absurd rfl hne,fun hwill => nomatch hwill.1⟩
  | respondDecode s t req answer hp => exact respond_visible hp _ _ answer
  | respondPrefill s t req answer hp => exact respond_visible hp _ _ answer
  | leave s =>
    have hasync : s.notify.responseAsync = s.responseAsync := by
      unfold notify
      split <;> rfl
    have hresponses := (notify_same s).responses
    by_cases hsend : (s.hasResp && s.responseAsync) = true
    · rw [leaveAction, if_pos hsend]
      exact ⟨hresponses.trans (List.append_nil _).symm,hasync,fun hne => absurd rfl hne,
        fun _ => .inl rfl⟩
    · rw [leaveAction, if_neg hsend]
      refine ⟨hresponses.trans (List.append_nil _).symm,hasync,fun hne => absurd rfl hne,?_⟩
      rintro ⟨_,hresp,hset⟩
      exact absurd (Bool.and_eq_true_iff.mpr ⟨hresp,hset⟩) hsend

end Thread

section Realized

variable {kv : KvAllocator A} {be : InferenceBackend B} {inBatch : Bool}

theorem quiet_run {s t u : Scheduler A B} (h : ThreadRun kv be ⟨s,inBatch⟩ ⟨t,inBatch⟩)
    (hs : Step kv be SameId ServerContext.NothingNew t u) (hr : t.SameAsync u) :
    ThreadRun kv be ⟨s,inBatch⟩ ⟨u,inBatch⟩ := h.tail ⟨_,.quiet t u inBatch hs hr⟩

theorem for_front_thread (q : Place) (body : Request → Scheduler A B → Turn × Scheduler A B)
    (hstep : ∀ req s t, s.popFront q = some (req,t) →
      Step kv be SameId ServerContext.NothingNew s (body req t).2)
    (hrecords : ∀ r t, SameRecords t (body r t).2) (n : ℕ) (s : Scheduler A B) :
    ThreadRun kv be ⟨s,inBatch⟩ ⟨(s.forFront q body n).2,inBatch⟩ := by
  apply for_front_keeps fun t => ThreadRun kv be ⟨s,inBatch⟩ ⟨t,inBatch⟩
  · intro req t u h hp
    exact quiet_run h (hstep req t u hp)
      ((pop_front_records hp).trans (hrecords req u)).toSameAsync
  · exact .refl

theorem retry_swap_in_thread (s : Scheduler A B) :
    ThreadRun kv be ⟨s,inBatch⟩ ⟨(s.retrySwapInRequests kv).2,inBatch⟩ :=
  for_front_thread _ _ (fun req s t h => .swapIn s t req h)
    (fun r t => swap_in_turn_records kv t r) _ s

theorem admit_decode_thread (n : ℕ) (s : Scheduler A B) :
    ThreadRun kv be ⟨s,inBatch⟩ ⟨(s.admitDecodeLoop kv n).2,inBatch⟩ := by
  apply admit_decode_keeps fun t => ThreadRun kv be ⟨s,inBatch⟩ ⟨t,inBatch⟩
  · intro req t u h hp
    exact quiet_run h (.admitDecode t u req hp)
      ((pop_front_records hp).trans (admit_decode_turn_records kv u req)).toSameAsync
  · exact .refl

theorem serve_decode_thread (hbe : be.Answers SameId) (s : Scheduler A B) :
    ThreadRun kv be ⟨s,true⟩ ⟨s.serveDecode kv be,true⟩ := by
  have hcall : ThreadStep kv be ⟨s,true⟩ .quiet ⟨(s.callDecode be).2,true⟩ :=
    .quiet _ _ _ (.callDecode s) ⟨rfl,rfl,rfl,rfl⟩
  let R (s t : Scheduler A B) : Prop := ∃ action, ThreadStep kv be ⟨s,true⟩ action ⟨t,true⟩
  have hloop : Relation.ReflTransGen R (s.callDecode be).2 (s.serveDecode kv be) := by
    apply respond_loop_run SameId
    · exact fun s t req answer h ha => ⟨_,.respondDecode s t req answer h ha⟩
    · exact fun answer req t => respond_only t kv _ _ answer req _ (by simp)
    · exact fun i r resp hr ha => hbe.decode s.backend _ i r resp hr ha
  exact .head ⟨_,hcall⟩ (hloop.lift (SchedulerThread.mk · true) fun _ _ h => h)

theorem serve_prefill_thread (hbe : be.Answers SameId) (s : Scheduler A B) :
    ThreadRun kv be ⟨s,true⟩ ⟨s.servePrefill kv be,true⟩ := by
  have hcall : ThreadStep kv be ⟨s,true⟩ .quiet ⟨(s.callPrefill be).2,true⟩ :=
    .quiet _ _ _ (.callPrefill s) ⟨rfl,rfl,rfl,rfl⟩
  let R (s t : Scheduler A B) : Prop := ∃ action, ThreadStep kv be ⟨s,true⟩ action ⟨t,true⟩
  have hloop : Relation.ReflTransGen R (s.callPrefill be).2 (s.servePrefill kv be) := by
    apply respond_loop_run SameId
    · exact fun s t req answer h ha => ⟨_,.respondPrefill s t req answer h ha⟩
    · exact fun answer req t => respond_only t kv _ _ answer req _ (by simp)
    · exact fun i r resp hr ha => hbe.prefill s.backend _ i r resp hr ha
  exact .head ⟨_,hcall⟩ (hloop.lift (SchedulerThread.mk · true) fun _ _ h => h)

theorem run_decode_thread (hbe : be.Answers SameId) (s : Scheduler A B) :
    ThreadRun kv be ⟨s,false⟩ ⟨(s.runDecodeBatch kv be).2,false⟩ := by
  let P (t : Scheduler A B) : Prop := ThreadRun kv be ⟨s,false⟩ ⟨t,true⟩
  have hrounds : P (decodeRounds kv be (s.queues .decode).length (s.queues .decode).length
      { s with hasResp := false }).2 := by
    apply decode_rounds_keeps kv be P
    · exact fun n t h => h.trans (admit_decode_thread n t)
    · exact fun t h => h.trans (serve_decode_thread hbe t)
    · exact .single ⟨_,.enter s⟩
  have hflush (t : Scheduler A B) (h : P t) : P t.flushNextDecode :=
    h.trans (for_front_thread _ _ (fun req s t h => .flush s t req h)
      (fun _ _ => ⟨⟨rfl,rfl,rfl,rfl⟩,rfl,rfl⟩) _ t)
  exact (hflush _ hrounds).tail ⟨_,.leave _⟩

theorem run_prefill_thread (hbe : be.Answers SameId) (s : Scheduler A B) :
    ThreadRun kv be ⟨s,false⟩ ⟨(s.runPrefillBatch kv be).2,false⟩ := by
  let P (t : Scheduler A B) : Prop := ThreadRun kv be ⟨s,false⟩ ⟨t,true⟩
  have hrounds : P (prefillRounds kv be (s.queues .prefill).length
      { s with hasResp := false }).2 := by
    apply prefill_rounds_keeps kv be P
    · intro t h
      exact h.trans (for_front_thread _ _ (fun req s t h => .startPrefill s t req h)
        (fun _ _ => ⟨⟨rfl,rfl,rfl,rfl⟩,rfl,rfl⟩) _ t)
    · exact fun t h => h.trans (serve_prefill_thread hbe t)
    · exact .single ⟨_,.enter s⟩
  exact hrounds.tail ⟨_,.leave _⟩

theorem drain_thread (s : Scheduler A B) :
    ThreadRun kv be ⟨s,inBatch⟩ ⟨s.drainUnlessPaused,inBatch⟩ := by
  unfold drainUnlessPaused
  split
  · exact .refl
  · exact for_front_thread _ _ (fun req s t h => .enqueue s t req h)
      (fun r t => enqueue_records t r) _ s

theorem run_phases_thread (hbe : be.Answers SameId) (s : Scheduler A B) :
    ThreadRun kv be ⟨s,false⟩ ⟨(s.runPhases kv be).2,false⟩ := by
  let P (t : Scheduler A B) : Prop := ThreadRun kv be ⟨s,false⟩ ⟨t,false⟩
  have hswap (t : Scheduler A B) (h : P t) : P (t.retrySwapInRequests kv).2 :=
    h.trans (retry_swap_in_thread t)
  unfold runPhases
  refine then_run_keeps (P := P) ?_ hswap
  refine then_run_keeps (P := P) ?_ fun t h => h.trans (run_prefill_thread hbe t)
  refine then_run_keeps (P := P) ?_ fun t h => h.trans (for_front_thread _ _
    (fun req s t h => .admitWaiting s t req h) (fun r t => admit_waiting_turn_records kv t r) _ t)
  refine then_run_keeps (P := P) ?_ fun t h => h.trans (for_front_thread _ _
    (fun req s t h => .retryPrefill s t req h) (fun r t => retry_prefill_turn_records kv t r) _ t)
  refine then_run_keeps (P := P) ?_ hswap
  refine then_run_keeps (P := P) ?_ fun t h => h.trans (run_decode_thread hbe t)
  refine then_run_keeps (P := P) ?_ fun t h => h.trans (for_front_thread _ _
    (fun req s t h => .retryDecode s t req h) (fun _ _ => ⟨⟨rfl,rfl,rfl,rfl⟩,rfl,rfl⟩) _ t)
  exact then_run_keeps (P := P) (drain_thread s) hswap

theorem victim_thread (s : Scheduler A B) (hdecode : s.queues .decode = []) :
    ThreadRun kv be ⟨s,false⟩ ⟨(s.trySwapOutVictim kv).2,false⟩ := by
  have hrecords := (try_from_records kv s .deferredDecode).toSameAsync
  rw [try_swap_out_first kv hdecode]
  unfold tryFrom at hrecords ⊢
  split
  · exact .refl
  · rename_i before req after hv
    obtain ⟨hq,hr,hs⟩ := find_victim_some _ _ _ _ _ hv
    rw [hv] at hrecords
    exact quiet_run .refl (.victim s before after req hdecode hq hr hs trivial) hrecords

/-- The body of the worker loop is a run of the thread. -/
theorem body_thread (hbe : be.Answers SameId) (s : Scheduler A B) (h : s.Settled) :
    ThreadRun kv be ⟨s,false⟩ ⟨s.workerLoopBody kv be,false⟩ := by
  have hphases : ThreadRun kv be ⟨s,false⟩ ⟨(s.runPhases kv be).2,false⟩ :=
    run_phases_thread hbe s
  have hresume (t : Scheduler A B) (ht : ThreadRun kv be ⟨s,false⟩ ⟨t,false⟩) :
      ThreadRun kv be ⟨s,false⟩ ⟨t.resumeAdmission,false⟩ := by
    refine quiet_run ht (.control _ _ ?_) (resume_records t).toSameAsync
    unfold resumeAdmission
    split <;> exact ⟨rfl,rfl,rfl,rfl,rfl,rfl⟩
  unfold workerLoopBody
  apply hresume
  split
  · rename_i hidle
    rw [Bool.and_eq_true, Bool.not_eq_true'] at hidle
    exact hphases.trans (victim_thread _ (run_phases_quiet kv be s h hidle.1))
  · exact hphases

end Realized

end MiniLlm

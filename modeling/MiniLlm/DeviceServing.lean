import MiniLlm.BackendAgreement
import MiniLlm.ClientService
import MiniLlm.DevicePass

/-!
# Serving with the kernels

The worker loop over the passes on device buffers. While the lines are within
the tables every launch of every run stays inside its buffers, and the run is
one over rows; so the answers are greedy decoding here as well.
-/

set_option autoImplicit false

namespace MiniLlm

open RealKvAllocator Scheduler

variable {α A B : Type*}

def BoundedRequest (holds : Request → Prop) (req : Request) : Prop :=
  PromptedRequest holds req ∧ PromptAdmissible holds req

namespace Kernels.DeviceModel

variable (D : DeviceModel) (be : GemmBackend ℝ)

/-- `GPT2Model` with its kernels; the order of the threads may be another one in each pass. -/
noncomputable def backend (scheds : Buffers → List Request → ℕ → ℕ → NormSchedule)
    (attend : PrefillAttention) (shared : FlatMemory.Memory ℝ) : InferenceBackend Buffers where
  prefill b reqs := (D.prefill be (scheds b reqs) attend reqs b).getD ([],b)
  decode b reqs := (D.decode be (scheds b reqs) shared reqs b).getD ([],b)

section Answers

variable {D be} {scheds : ℕ → ℕ → NormSchedule} {reqs : List Request}

def ReadOff (reqs : List Request) (resps : List Response) : Prop :=
  ∃ logits, resps = modelAnswers exactComparison logits reqs

theorem answer_rows_read {n : ℕ} {src : DevicePtr n} {srcs : FlatMemory.Memory ℝ} {b : Buffers}
    {out : List Response × Buffers} (h : D.answerRows be scheds reqs src srcs b = some out) :
    ReadOff reqs out.1 := by
  obtain ⟨ln,_,h⟩ := Option.bind_eq_some_iff.mp h
  obtain ⟨logits,_,h⟩ := Option.bind_eq_some_iff.mp h
  obtain rfl := Option.some.inj h
  exact ⟨_,rfl⟩

theorem prefill_read {attend : PrefillAttention} {b : Buffers} {out : List Response × Buffers}
    (h : D.prefill be scheds attend reqs b = some out) : ReadOff reqs out.1 := by
  obtain ⟨x,_,h⟩ := Option.bind_eq_some_iff.mp h
  obtain ⟨c,_,h⟩ := Option.bind_eq_some_iff.mp h
  exact answer_rows_read h

theorem decode_read {shared : FlatMemory.Memory ℝ} {b : Buffers} {out : List Response × Buffers}
    (h : D.decode be scheds shared reqs b = some out) : out.1 = [] ∨ ReadOff reqs out.1 := by
  unfold decode at h
  split at h
  · obtain rfl := Option.some.inj h
    exact .inl rfl
  · obtain ⟨x,_,h⟩ := Option.bind_eq_some_iff.mp h
    obtain ⟨c,_,h⟩ := Option.bind_eq_some_iff.mp h
    exact .inr (answer_rows_read h)

theorem backend_answers {allowed : Request → Response → Prop}
    (hread : ∀ batch resps (i : ℕ) r resp, ReadOff batch resps → batch[i]? = some r →
      resps[i]? = some resp → allowed r resp)
    (scheds : Buffers → List Request → ℕ → ℕ → NormSchedule) (attend : PrefillAttention)
    (shared : FlatMemory.Memory ℝ) : (D.backend be scheds attend shared).Answers allowed := by
  constructor
  · intro b batch i r resp hr hresp
    simp only [backend] at hresp
    cases hout : D.prefill be (scheds b batch) attend batch b with
    | none =>
      rw [hout] at hresp
      cases hresp
    | some out =>
      rw [hout] at hresp
      exact hread _ _ i r resp (prefill_read hout) hr hresp
  · intro b batch i r resp hr hresp
    simp only [backend] at hresp
    cases hout : D.decode be (scheds b batch) shared batch b with
    | none =>
      rw [hout] at hresp
      cases hresp
    | some out =>
      rw [hout, Option.getD_some] at hresp
      rcases decode_read hout with hnone | hsome
      · rw [hnone] at hresp
        cases hresp
      · exact hread _ _ i r resp hsome hr hresp

end Answers

section Runs

variable (scheds : Buffers → List Request → ℕ → ℕ → NormSchedule) (attend : PrefillAttention)
  (shared : FlatMemory.Memory ℝ)

theorem read_off_vocabulary (batch : List Request) (resps : List Response) (i : ℕ) (r : Request)
    (resp : Response) (h : ReadOff batch resps) (_ : batch[i]? = some r)
    (hresp : resps[i]? = some resp) : VocabularyAnswer r resp := by
  obtain ⟨logits,rfl⟩ := h
  exact model_answers_vocabulary _ _ batch resp (List.mem_of_getElem? hresp)

theorem read_off_id (batch : List Request) (resps : List Response) (i : ℕ) (r : Request)
    (resp : Response) (h : ReadOff batch resps) (hr : batch[i]? = some r)
    (hresp : resps[i]? = some resp) : SameId r resp := by
  obtain ⟨logits,rfl⟩ := h
  exact model_answers_id _ _ hr hresp

/-- Every batch of a run is inside the tables, the buffers and the pool. -/
theorem visited_inside {device : Device α} {b : Buffers} {async : Bool}
    {s : Scheduler (RealKvAllocator α) Buffers}
    (h : Visited (realKvAllocator α) (D.backend be scheds attend shared) VocabularyAnswer
      BoundedRequest (startedReal device b async) s) :
    (BatchSized (s.queues .prefillBatch) → PrefillInside (s.queues .prefillBatch)) ∧
      (BatchSized (s.queues .decodeBatch) → DecodeInside (s.queues .decodeBatch)) := by
  have hcustody := visited_custody (steps_widen h fun _ _ hreq => hreq.1.1)
  have hplaces := (visited_each EntriesWithin Sheltered submit_sheltered
    (fun _ _ _ _ _ _ _ ha hp m => move_sheltered hp ha m)
    (steps_widen h fun _ _ hreq => hreq.2) (new_entries device)).2
  exact ⟨fun hsized => ⟨hsized,batch_prefill_held hcustody,
      batch_prefill_within (hplaces .prefillBatch)⟩,
    fun hsized => ⟨hsized,batch_decode_within (hplaces .decodeBatch),
      fun r hr => hcustody.token_ready hr⟩⟩

theorem device_agrees (device : Device α) (b : Buffers) (async : Bool) :
    BackendsAgree (realKvAllocator α) (D.backend be scheds attend shared)
      (D.W.rows.backend attend shared) VocabularyAnswer BoundedRequest
      (startedReal device b async) where
  answers := backend_answers read_off_vocabulary scheds attend shared
  settled := started_settled _ b async
  prefill s hv hsized := by
    have hinside := (visited_inside D be scheds attend shared hv).1 hsized
    show (D.prefill be _ attend _ _).getD _ = (D.W.rows.prefill attend _ _).getD _
    rw [prefill_rows _ attend hinside]
  decode s hv hsized := by
    have hinside := (visited_inside D be scheds attend shared hv).2 hsized
    show (D.decode be _ shared _ _).getD _ = (D.W.rows.decode shared _ _).getD _
    rw [decode_rows _ shared hinside]

/-- The runs with the kernels are those over rows, and every pass of them goes through. -/
theorem device_runs (device : Device α) (b : Buffers) (async : Bool) (c : Control)
    (s : Scheduler (RealKvAllocator α) Buffers) :
    let start := startedReal device b async
    (Reached (realKvAllocator α) (D.backend be scheds attend shared) BoundedRequest start c s ↔
      Reached (realKvAllocator α) (D.W.rows.backend attend shared) BoundedRequest start c s) ∧
    (Reached (realKvAllocator α) (D.backend be scheds attend shared) BoundedRequest start c s →
      (∀ batch ∈ s.prefillCalls, ∀ held, ∃ out,
        D.prefill be (scheds held batch) attend batch held = some out ∧
          D.W.rows.prefill attend batch held = some out) ∧
      ∀ batch ∈ s.decodeCalls, ∀ held, ∃ out,
        D.decode be (scheds held batch) shared batch held = some out ∧
          D.W.rows.decode shared batch held = some out) := by
  intro start
  have hagree := device_agrees (α := α) D be scheds attend shared device b async
  refine ⟨hagree.reached,fun h => ?_⟩
  obtain ⟨_,hvisited⟩ := hagree.visited h
  obtain ⟨hprefill,hdecode⟩ := visited_each_call hvisited rfl rfl
    (P := fun batch => BatchSized batch → PrefillInside batch)
    (Q := fun batch => BatchSized batch → DecodeInside batch)
    fun t ht => visited_inside D be scheds attend shared ht
  obtain ⟨_,hsized⟩ := reached_sized hagree.settled ⟨nofun,nofun⟩ h
  exact ⟨fun batch hbatch held => prefill_defined held attend (hprefill batch hbatch
      (hsized.1 batch hbatch)),
    fun batch hbatch held => decode_defined held shared (hdecode batch hbatch
      (hsized.2 batch hbatch))⟩

end Runs

section Witness

noncomputable def rampDevice : DeviceModel := .load freshPointers rampLoaded fun _ => 0

noncomputable def kernelModel : InferenceBackend Buffers :=
  rampDevice.backend cublasBackend (fun _ _ _ _ => loadsFirstSchedule) FlashAttention.promptLaunch
    fun _ => 0

theorem prompt_bounded : Reached (realKvAllocator ℤ) kernelModel BoundedRequest
    (startedReal freshDevice zeroBuffers true) .top promptSubmitted :=
  .submit _ _ _ .start ⟨⟨⟨⟨1,[5],8,rfl⟩,fun _ ⟨_,hr⟩ => absurd hr List.not_mem_nil⟩,by decide⟩,
    1,[5],.inr ⟨by decide,by decide⟩,rfl⟩

theorem kernel_answers : kernelModel.Answers VocabularyAnswer :=
  backend_answers read_off_vocabulary _ _ _

theorem kernel_progresses :
    (promptSubmitted.runPhases (realKvAllocator ℤ) kernelModel).1 = true := by
  decide +kernel

theorem prompt_runs : ∃ c, let s := promptSubmitted.workerLoopBody (realKvAllocator ℤ) kernelModel
    (Reached (realKvAllocator ℤ) (rampLoaded.rows.backend FlashAttention.promptLaunch fun _ => 0)
      BoundedRequest (startedReal freshDevice zeroBuffers true) c s) ∧
    (∀ batch ∈ s.prefillCalls, ∀ held, ∃ out,
      rampDevice.prefill cublasBackend (fun _ _ => loadsFirstSchedule) FlashAttention.promptLaunch
        batch held = some out ∧
        rampLoaded.rows.prefill FlashAttention.promptLaunch batch held = some out) ∧
    ∀ batch ∈ s.decodeCalls, ∀ held, ∃ out,
      rampDevice.decode cublasBackend (fun _ _ => loadsFirstSchedule) (fun _ => 0) batch held =
        some out ∧ rampLoaded.rows.decode (fun _ => 0) batch held = some out := by
  have hreached : ∃ c, Reached (realKvAllocator ℤ) kernelModel BoundedRequest
      (startedReal freshDevice zeroBuffers true) c
      (promptSubmitted.workerLoopBody (realKvAllocator ℤ) kernelModel) := by
    cases hw : (promptSubmitted.workerLoopBody (realKvAllocator ℤ)
      kernelModel).noInternalWork with
    | true => exact ⟨_,.idle _ prompt_bounded rfl trivial hw⟩
    | false => exact ⟨_,.body _ prompt_bounded rfl trivial hw⟩
  obtain ⟨c,hc⟩ := hreached
  have hruns := device_runs rampDevice cublasBackend (fun _ _ _ _ => loadsFirstSchedule)
    FlashAttention.promptLaunch (fun _ => 0) freshDevice zeroBuffers true c
    (promptSubmitted.workerLoopBody (realKvAllocator ℤ) kernelModel)
  exact ⟨c,hruns.1.mp hc,hruns.2 hc⟩

end Witness

end Kernels.DeviceModel

section Unswapped

variable {kv : KvAllocator A} {be be' : InferenceBackend B}
  {allowed : Request → Response → Prop} {admissible : (Request → Prop) → Request → Prop}
  {start s t : Scheduler A B} {c : Control}

theorem BackendsAgree.body_unswapped (h : BackendsAgree kv be be' allowed admissible start)
    (hv : Visited kv be allowed admissible start s) (hs : s.Settled) :
    s.workerLoopBody kv be = s.workerLoopBody kv be' ∧
      (¬s.SwapsOutVictim kv be → ¬s.SwapsOutVictim kv be') ∧
      Visited kv be allowed admissible start (s.workerLoopBody kv be') := by
  have hsame := h.body hv hs
  refine ⟨hsame,?_,?_⟩
  · unfold SwapsOutVictim
    rw [h.run_phases hv hs]
    exact id
  · rw [← hsame]
    exact hv.trans (body_steps h.answers s hs)

theorem BackendsAgree.unswapped (h : BackendsAgree kv be be' allowed admissible start)
    (permitted : Request → Prop)
    (hallowed : ∀ holds req, PromptedRequest holds req → permitted req → admissible holds req)
    (hr : ReachedUnswapped kv be start c s)
    (hs : ∀ r, Constructed r → s.board.Asked r → permitted r) :
    ReachedUnswapped kv be' start c s ∧ Visited kv be allowed admissible start s := by
  have hsettled {c : Control} {s : Scheduler A B} (hr : ReachedUnswapped kv be start c s) :
      s.Settled := (reached_visited h.answers h.settled hr.reached).1
  -- whoever asks for something in a state is still there after more steps
  have hbefore {s t : Scheduler A B} (hsteps : Steps kv be allowed (fun _ _ => True) s t)
      (ht : ∀ r, Constructed r → t.board.Asked r → permitted r) (r : Request)
      (hr : Constructed r) (hs : s.board.Asked r) : permitted r :=
    ht r hr (steps_asked hsteps hs)
  induction hr with
  | start => exact ⟨.start,.refl⟩
  | submit c s req _ ha ih =>
    obtain ⟨hrun,hv⟩ := ih (hbefore (.single (.submit s req trivial)) hs)
    have hmem : (Place.request,req) ∈ (s.submitRequest req).board.requests := by
      rw [submit_board]
      exact Multiset.mem_cons_self (Place.request,req) s.board.requests
    have hreq : permitted req := hs req ha.1.1 ⟨_,hmem,.refl req⟩
    exact ⟨.submit c s req hrun ha,hv.tail (.submit s req (hallowed _ _ ha hreq))⟩
  | stop c s _ ih =>
    have hstop : s.SameQueues s.stop := ⟨rfl,rfl,rfl,rfl,rfl,rfl⟩
    obtain ⟨hrun,hv⟩ := ih (hbefore (.single (.control s _ hstop)) hs)
    exact ⟨.stop c s hrun,control_steps hv hstop⟩
  | body s hr hrunning hvictim hw ih =>
    obtain ⟨hrun,hv⟩ := ih (hbefore (body_steps h.answers s (hsettled hr)) hs)
    obtain ⟨hsame,hswaps,hnext⟩ := h.body_unswapped hv (hsettled hr)
    rw [hsame] at hw ⊢
    exact ⟨.body s hrun hrunning (hswaps hvictim) hw,hnext⟩
  | idle s hr hrunning hvictim hw ih =>
    obtain ⟨hrun,hv⟩ := ih (hbefore (body_steps h.answers s (hsettled hr)) hs)
    obtain ⟨hsame,hswaps,hnext⟩ := h.body_unswapped hv (hsettled hr)
    rw [hsame] at hw ⊢
    exact ⟨.idle s hrun hrunning (hswaps hvictim) hw,hnext⟩
  | wake s t _ hw ih =>
    obtain ⟨hrun,hv⟩ := ih (hbefore (wait_steps s t hw) hs)
    exact ⟨.wake s t hrun hw,hv.trans (wait_steps s t hw)⟩

end Unswapped

namespace EventLoop

variable {P : Type*} [DecidableEq P]

section Limits

variable {kv : KvAllocator A} {be : InferenceBackend B} {client : P} {stream : List UInt8}
  {c : Control} {s t : EventLoop P A B}

/-- What is kept by all that ask for the same is kept while nobody submits. -/
theorem steps_ask_keeps {allowed : Request → Response → Prop} {s t : Scheduler A B}
    {Q : Request → Prop} (hQ : ∀ r q, SameAsk r q → Q r → Q q)
    (hs : ∀ x ∈ s.board.requests, Q x.2) (hsteps : Steps kv be allowed NoRequest s t) :
    ∀ x ∈ t.board.requests, Q x.2 := by
  refine visited_board (fun b => ∀ x ∈ b.requests, Q x.2) (fun b c hb hop => ?_) hsteps hs
  cases hop with
  | submit _ hreq => exact hreq.elim
  | move a p q r r' resps rest hsplit m =>
    rw [hsplit] at hb
    intro x hx
    rcases Multiset.mem_cons.mp hx with rfl | hx
    · exact hQ _ _ (move_ask m).2 (hb _ (Multiset.mem_cons_self _ _))
    · exact hb x (Multiset.mem_cons_of_mem hx)

def AsksDefault (s : Scheduler A B) : Prop :=
  ∀ x ∈ s.board.requests, x.2.maxNewTokens = ServerContext.defaultMaxNewTokens

theorem asks_default_steps {allowed : Request → Response → Prop} {s t : Scheduler A B}
    (h : AsksDefault s) (hsteps : Steps kv be allowed NoRequest s t) : AsksDefault t :=
  steps_ask_keeps (fun _ _ hask hr => hask.maxNewTokens.trans hr) h hsteps

theorem asks_default_read (h : AsksDefault s.scheduler) (client : P) (bytes : List UInt8) :
    AsksDefault (s.onRead client bytes).scheduler := by
  refine on_read_keeps (Q := AsksDefault) (fun u id tokens hu => ?_) h client bytes
  rw [AsksDefault, submit_board]
  intro x hx
  rcases (Multiset.mem_cons (s := u.board.requests)).mp hx with rfl | hx
  · rfl
  · exact hu x hx

theorem served_asks (hbe : be.Answers SameId) {start : EventLoop P A B}
    (hstart : start.scheduler.Settled) (hd : AsksDefault start.scheduler)
    (h : Served kv be client start stream c s) : AsksDefault s.scheduler := by
  have hevent {s t : EventLoop P A B} {e : Event P A B} (hs : AsksDefault s.scheduler)
      (he : Step kv be s e t) (hw : ∀ next, e ≠ .work next) : AsksDefault t.scheduler := by
    rcases event_scheduler he hw with ⟨other,bytes,rfl⟩ | ⟨hsame,_⟩
    · exact asks_default_read hs other bytes
    · rwa [hsame]
  induction h with
  | start => exact hd
  | read _ bytes c s t _ hs ih => exact hevent ih hs fun _ => nofun
  | other _ c s t e _ hw _ _ hs ih => exact hevent ih hs hw
  | stop _ c s _ ih => exact ih
  | body _ s hs _ _ _ ih | idle _ s hs _ _ _ ih =>
    exact asks_default_steps ih (body_steps hbe _ (served_heard hbe hstart hs).1)
  | wake _ s next _ hw ih =>
    have hsteps : Steps kv be SameId NoRequest s.scheduler next := wait_steps _ _ hw
    exact asks_default_steps ih hsteps

end Limits

/-- The same service from the kernels: while every prompt is within the tables, a client that stays
connected is sent greedy decoding of the tokens on its lines. -/
theorem device_client_served (D : Kernels.DeviceModel) (be : Kernels.GemmBackend ℝ)
    (scheds : Buffers → List Request → ℕ → ℕ → Kernels.NormSchedule) {attend : PrefillAttention}
    {f : RowAttention} (hattend : AttendsRows attend f) (shared : FlatMemory.Memory ℝ)
    (device : Device α) (b : Buffers) (async : Bool) (client : P) {stream : List UInt8}
    {c : Control} {s : EventLoop P (RealKvAllocator α) Buffers}
    (h : Served (realKvAllocator α) (D.backend be scheds attend shared) client
      (listening (startedReal device b async)) stream c s) (hn : s.accepted.length < 2^31)
    (hwithin : ∀ p, ∀ r ∈ s.scheduler.queues p, PromptWithin r.prompt) :
    ∃ log, Transcript client (completeLines stream) log s ∧
      List.Forall₂ (fun x prompt => ∃ p outputs, AnswerTo D.W.rows f c s log x prompt p outputs)
        (s.linesOf client) (requestsOf (completeLines stream)) := by
  have hid : (D.backend be scheds attend shared).Answers SameId :=
    Kernels.DeviceModel.backend_answers Kernels.DeviceModel.read_off_id scheds attend shared
  have hstart : AsksDefault (started (RealKvAllocator.new device) b async) :=
    fun x hx => absurd hx (Multiset.notMem_zero x)
  have hdefault := served_asks hid (started_settled _ b async) hstart h
  have hagree := Kernels.DeviceModel.device_agrees D be scheds attend shared device b async
  let permitted (r : Request) : Prop :=
    PromptWithin r.tokens ∧ r.maxNewTokens = ServerContext.defaultMaxNewTokens
  have hallowed (holds : Request → Prop) (req : Request) (hreq : PromptedRequest holds req)
      (hpermitted : permitted req) : BoundedRequest holds req := by
    obtain ⟨reqId,t,maxTokens,rfl⟩ := hreq.1.1
    obtain ⟨hprompt,hmax⟩ := hpermitted
    obtain rfl : maxTokens = ServerContext.defaultMaxNewTokens := hmax
    exact ⟨hreq,reqId,t,hprompt,rfl⟩
  have hasked (r : Request) (hr : Constructed r) (ha : s.scheduler.board.Asked r) :
      permitted r := by
    obtain ⟨reqId,t,maxTokens,rfl⟩ := hr
    obtain ⟨⟨p,q⟩,hx,hask⟩ := ha
    have hprompt := hwithin p q ((mem_held s.scheduler p q).mp hx)
    have htext : (Request.new reqId t maxTokens).prompt = t := List.take_length
    rw [hask.prompt le_rfl, htext] at hprompt
    exact ⟨hprompt,hask.maxNewTokens.symm.trans (hdefault _ hx)⟩
  obtain ⟨hrun,_⟩ := hagree.unswapped permitted hallowed (served_unswapped hid h hn) hasked
  have hgreedy := (reached_greedily hattend device b async hrun).2
  exact h.answered hid hn fun p r hr => hgreedy.outputs hr

section OneClient

open Kernels

noncomputable def lineComputed : EventLoop Unit (RealKvAllocator ℤ) Buffers :=
  { lineRead with
    scheduler := lineRead.scheduler.workerLoopBody (realKvAllocator ℤ) DeviceModel.kernelModel }

def KeepsWithin (r : Request) : Prop :=
  r.promptsLen ≤ r.tokens.length ∧ PromptWithin r.prompt

theorem keeps_within (r q : Request) (hask : SameAsk r q) (hr : KeepsWithin r) :
    KeepsWithin q := by
  refine ⟨?_,?_⟩
  · rw [hask.promptsLen]
    exact hr.1.trans hask.tokens.length_le
  · rw [hask.prompt hr.1]
    exact hr.2

theorem line_computed : ∃ c log, Transcript () (completeLines [53,newline]) log lineComputed ∧
    List.Forall₂ (fun x prompt => ∃ p outputs,
      AnswerTo rampLoaded.rows FlashAttention.launchedRows c lineComputed log x prompt p outputs)
      (lineComputed.linesOf ()) (requestsOf (completeLines [53,newline])) := by
  obtain ⟨hscheduler,haccepted⟩ := line_read_submitted
  obtain ⟨c,hc⟩ := line_body_served DeviceModel.kernelModel DeviceModel.kernel_progresses
  have hkept (s : EventLoop Unit (RealKvAllocator ℤ) Buffers)
      (next : Scheduler (RealKvAllocator ℤ) Buffers) :
      { s with scheduler := next }.accepted = s.accepted ∧
        { s with scheduler := next }.scheduler = next := ⟨rfl,rfl⟩
  have hfew : lineComputed.accepted.length < 2^31 := by
    rw [lineComputed, (hkept _ _).1, haccepted]
    decide
  have hcomputed : lineComputed.scheduler =
      promptSubmitted.workerLoopBody (realKvAllocator ℤ) DeviceModel.kernelModel := by
    rw [lineComputed, (hkept _ _).2, hscheduler]
  have hsettled : promptSubmitted.Settled := submit_settled _ _ (started_settled _ _ _)
  have hwithin (x : Place × Request) (hx : x ∈ promptSubmitted.board.requests) :
      KeepsWithin x.2 := by
    rw [promptSubmitted, submit_board] at hx
    rcases (Multiset.mem_cons (s := 0)).mp hx with rfl | hx
    · exact ⟨le_rfl,.inr ⟨by decide,by decide⟩⟩
    · exact absurd hx (Multiset.notMem_zero x)
  have hsteps : Steps (realKvAllocator ℤ) DeviceModel.kernelModel VocabularyAnswer NoRequest
      promptSubmitted lineComputed.scheduler := by
    rw [hcomputed]
    exact body_steps DeviceModel.kernel_answers promptSubmitted hsettled
  have hprompts := steps_ask_keeps keeps_within hwithin hsteps
  exact ⟨c,device_client_served DeviceModel.rampDevice cublasBackend
    (fun _ _ _ _ => loadsFirstSchedule) FlashAttention.prompt_launch_rows (fun _ => 0) freshDevice
    zeroBuffers true () hc hfew fun p r hr => (hprompts (p,r) ((mem_held _ p r).mpr hr)).2⟩

end OneClient

end EventLoop

end MiniLlm

import MiniLlm.BoundedService
import MiniLlm.ClientTranscript
import MiniLlm.Quiescence

/-!
# From the bytes of a client to its answers

The event loop, the worker, the block allocator and the model together. A
client that stays connected is sent, for every line of its bytes that is a
request, greedy decoding of the tokens on that line, whatever else is
connected, read, scheduled and sent in between.
-/

set_option autoImplicit false

namespace MiniLlm

open Scheduler Gpt2Weights

variable {P α A B : Type*}

section Backend

variable {W : Gpt2Weights} {attend : PrefillAttention} {shared : FlatMemory.Memory ℝ}

theorem model_answers_id {F : Type*} (cmp : FloatComparison F) (logits : ℕ → ℕ → F)
    {batch : List Request} {i : ℕ} {r : Request} {resp : Response} (hr : batch[i]? = some r)
    (hresp : (modelAnswers cmp logits batch)[i]? = some resp) : SameId r resp := by
  rw [modelAnswers, List.getElem?_map, List.getElem?_zipIdx, hr] at hresp
  obtain rfl := Option.some.inj hresp
  exact response_id _ _ _

theorem backend_same_id : (W.backend attend shared).Answers SameId := by
  constructor
  · intro b batch i r resp hr hresp
    simp only [Gpt2Weights.backend, Gpt2Launches.prefill] at hresp
    cases hlayers : Gpt2Launches.prefillLayers W attend batch b with
    | none =>
      rw [hlayers] at hresp
      cases hresp
    | some buffers =>
      rw [hlayers] at hresp
      exact model_answers_id _ _ hr hresp
  · intro b batch i r resp hr hresp
    simp only [Gpt2Weights.backend, decode] at hresp
    split at hresp
    · cases hresp
    · cases hlayers : decodeLayers W shared batch b with
      | none =>
        rw [hlayers] at hresp
        cases hresp
      | some buffers =>
        rw [hlayers] at hresp
        exact model_answers_id _ _ hr hresp

theorem ReachedUnswapped.reached {kv : KvAllocator A} {be : InferenceBackend B}
    {start s : Scheduler A B} {c : Control} (h : ReachedUnswapped kv be start c s) :
    MiniLlm.Reached kv be NewRequest start c s := by
  induction h with
  | start => exact .start
  | submit c s req _ ha ih => exact .submit c s req ih ha.1
  | stop c s _ ih => exact .stop c s ih
  | body s _ hr _ hw ih => exact .body s ih hr trivial hw
  | idle s _ hr _ hw ih => exact .idle s ih hr trivial hw
  | wake s t _ hw ih => exact .wake s t ih hw

end Backend

namespace EventLoop

variable [DecidableEq P]

/-- The states between two bodies of the worker that swap out no victim, with all that the event
loop does in between and the bytes that a client has sent. -/
inductive Served (kv : KvAllocator A) (be : InferenceBackend B) (client : P)
    (start : EventLoop P A B) : List UInt8 → Control → EventLoop P A B → Prop
  | start : Served kv be client start [] .top start
  | read (stream bytes : List UInt8) (c : Control) (s t : EventLoop P A B)
      (h : Served kv be client start stream c s) (hs : Step kv be s (.read client bytes) t) :
      Served kv be client start (stream++bytes) c t
  | other (stream : List UInt8) (c : Control) (s t : EventLoop P A B) (e : Event P A B)
      (h : Served kv be client start stream c s) (hw : ∀ next, e ≠ .work next)
      (hr : ∀ bytes, e ≠ .read client bytes) (he : e ≠ .readEnd client) (hs : Step kv be s e t) :
      Served kv be client start stream c t
  | stop (stream : List UInt8) (c : Control) (s : EventLoop P A B)
      (h : Served kv be client start stream c s) :
      Served kv be client start stream c { s with scheduler := s.scheduler.stop }
  | body (stream : List UInt8) (s : EventLoop P A B) (h : Served kv be client start stream .top s)
      (hr : s.scheduler.running = true) (hv : ¬s.scheduler.SwapsOutVictim kv be)
      (hw : (s.scheduler.workerLoopBody kv be).noInternalWork = false) :
      Served kv be client start stream .top
        { s with scheduler := s.scheduler.workerLoopBody kv be }
  | idle (stream : List UInt8) (s : EventLoop P A B) (h : Served kv be client start stream .top s)
      (hr : s.scheduler.running = true) (hv : ¬s.scheduler.SwapsOutVictim kv be)
      (hw : (s.scheduler.workerLoopBody kv be).noInternalWork = true) :
      Served kv be client start stream .waiting
        { s with scheduler := s.scheduler.workerLoopBody kv be }
  | wake (stream : List UInt8) (s : EventLoop P A B) (next : Scheduler A B)
      (h : Served kv be client start stream .waiting s)
      (hw : s.scheduler.waitAndEnqueueOneRequest = some next) :
      Served kv be client start stream .top { s with scheduler := next }

section Runs

variable {kv : KvAllocator A} {be : InferenceBackend B} {client : P} {stream : List UInt8}
  {c : Control} {s t : EventLoop P A B} {e : Event P A B}

theorem on_line_scheduler (s : EventLoop P A B) (client : P) (line : List UInt8) :
    (s.onLine client line).scheduler = s.scheduler ∨ parseRequest line ≠ [] ∧
      LineAccepted s (s.onLine client line) client (Request.new
        (ServerContext.asInt s.nextRequestId) (parseRequest line)
        ServerContext.defaultMaxNewTokens) := by
  by_cases hline : parseRequest line = []
  · rw [on_line_refused s client hline]
    exact .inl rfl
  · exact .inr ⟨hline,on_line_asks s client hline⟩

theorem on_read_keeps {Q : Scheduler A B → Prop} (hQ : ∀ (u : Scheduler A B) id tokens, Q u →
      Q (u.submitRequest (Request.new id tokens ServerContext.defaultMaxNewTokens)))
    (h : Q s.scheduler) (client : P) (bytes : List UInt8) :
    Q (s.onRead client bytes).scheduler := by
  apply (reader client).on_read_keeps (fun s => Q s.scheduler) _ _ h
  · exact fun _ _ hs => hs
  · intro s line hs
    show Q (s.onLine client line).scheduler
    rcases on_line_scheduler s client line with hsame | ⟨_,ht⟩
    · rwa [hsame]
    · rw [ht.scheduler]
      exact hQ _ _ _ hs

theorem event_scheduler (hs : Step kv be s e t) (hw : ∀ next, e ≠ .work next) :
    (∃ client bytes, t = s.onRead client bytes) ∨
      t.scheduler = s.scheduler ∧ t.accepted = s.accepted := by
  cases hs with
  | read client bytes => exact .inl ⟨client,bytes,rfl⟩
  | response resp garbage =>
    have ht := on_response_handled s resp garbage
    exact .inr ⟨ht.scheduler,ht.accepted⟩
  | work next => exact absurd rfl (hw next)
  | _ => exact .inr ⟨rfl,rfl⟩

theorem event_settled (hs : Step kv be s e t) (hw : ∀ next, e ≠ .work next)
    (h : s.scheduler.Settled) : t.scheduler.Settled := by
  rcases event_scheduler hs hw with ⟨client,bytes,rfl⟩ | ⟨hsame,_⟩
  · exact on_read_keeps (fun u _ _ hu => submit_settled u _ hu) h client bytes
  · rwa [hsame]

theorem served_heard (hbe : be.Answers SameId) {start : EventLoop P A B}
    (hstart : start.scheduler.Settled) (h : Served kv be client start stream c s) :
    s.scheduler.Settled ∧ Heard kv be client start stream s := by
  induction h with
  | start => exact ⟨hstart,.start⟩
  | read stream bytes c s t _ hs ih =>
    exact ⟨event_settled hs (fun _ => nofun) ih.1,.read _ _ _ _ ih.2 hs⟩
  | other stream c s t e _ hw hr he hs ih =>
    exact ⟨event_settled hs hw ih.1,.other _ _ _ _ ih.2 hr he hs⟩
  | stop stream c s _ ih =>
    refine ⟨⟨ih.1.prefill,ih.1.cancel,ih.1.decodeBatch,ih.1.nextDecode,ih.1.prefillBatch⟩,?_⟩
    exact ih.2.works (.single (.control _ _ ⟨rfl,rfl,rfl,rfl,rfl,rfl⟩))
  | body stream s _ hr hv hw ih | idle stream s _ hr hv hw ih =>
    exact ⟨body_settled kv be _ ih.1,ih.2.works (body_steps hbe _ ih.1)⟩
  | wake stream s next _ hw ih =>
    exact ⟨wait_settled _ _ hw ih.1,ih.2.works (wait_steps _ _ hw)⟩

theorem read_unswapped {kv : KvAllocator A} {be : InferenceBackend B} {c : Control}
    {start : Scheduler A B} {s : EventLoop P A B} (h : s.RoutingInv)
    (hs : s.accepted.length < 2^31 → ReachedUnswapped kv be start c s.scheduler) (client : P)
    (bytes : List UInt8) (hn : (s.onRead client bytes).accepted.length < 2^31) :
    ReachedUnswapped kv be start c (s.onRead client bytes).scheduler := by
  apply (on_read_few (fun _ s => ReachedUnswapped kv be start c s.scheduler) _ _ h [] hs
    bytes).2 hn
  · exact fun _ _ _ hs => hs
  · intro _ s line hrouting hn hs
    rcases on_line_scheduler s client line with hsame | ⟨hline,ht⟩
    · rwa [hsame]
    · rw [ht.scheduler]
      refine .submit _ _ _ hs ⟨hrouting.accepted_new ht ?_,hline⟩
      rwa [ht.accepted, List.length_append] at hn

theorem served_unswapped {kv : KvAllocator A} {be : InferenceBackend B}
    (hbe : be.Answers SameId) {a : A} {b : B} {async : Bool} {client : P} {stream : List UInt8}
    {c : Control} {s : EventLoop P A B}
    (h : Served kv be client (listening (started a b async)) stream c s)
    (hn : s.accepted.length < 2^31) :
    ReachedUnswapped kv be (started a b async) c s.scheduler := by
  have hheard {stream : List UInt8} {c : Control} {s : EventLoop P A B}
      (h : Served kv be client (listening (started a b async)) stream c s) : s.RoutingInv :=
    (heard_listening (served_heard hbe (started_settled a b async) h).2).routing
  have hevent {stream : List UInt8} {c : Control} {s t : EventLoop P A B} {e : Event P A B}
      (h : Served kv be client (listening (started a b async)) stream c s)
      (ih : s.accepted.length < 2^31 → ReachedUnswapped kv be (started a b async) c s.scheduler)
      (hs : Step kv be s e t) (hw : ∀ next, e ≠ .work next) (hn : t.accepted.length < 2^31) :
      ReachedUnswapped kv be (started a b async) c t.scheduler := by
    rcases event_scheduler hs hw with ⟨other,bytes,rfl⟩ | ⟨hsame,haccepted⟩
    · exact read_unswapped (hheard h) ih other bytes hn
    · rw [hsame]
      exact ih (haccepted ▸ hn)
  induction h with
  | start => exact .start
  | read stream bytes c s t h hs ih => exact hevent h ih hs (fun _ => nofun) hn
  | other stream c s t e h hw _ _ hs ih => exact hevent h ih hs hw hn
  | stop stream c s _ ih => exact .stop _ _ (ih hn)
  | body stream s _ hr hv hw ih => exact .body _ (ih hn) hr hv hw
  | idle stream s _ hr hv hw ih => exact .idle _ (ih hn) hr hv hw
  | wake stream s next _ hw ih => exact .wake _ _ (ih hn) hw

/-- A line of a client: where its request is, the greedy decoding of its prompt that has been
pushed, and what of it the client has been sent. -/
structure AnswerTo (W : Gpt2Weights) (f : RowAttention) (c : Control)
    (s : EventLoop P (RealKvAllocator α) Buffers) (log : List (Option Response))
    (x : AcceptedLine P) (prompt : List ℤ) (p : Place) (outputs : List (ℤ × Bool)) : Prop where
  held : ∃ r ∈ s.scheduler.queues p, SameAsk
    (Request.new (ServerContext.asInt x.key) prompt ServerContext.defaultMaxNewTokens) r
  greedy : GreedyOutputs W f p
    (Request.new (ServerContext.asInt x.key) prompt ServerContext.defaultMaxNewTokens) outputs
  sent : outputsOf log.reduceOption x.key <+: outputs
  caughtUp : s.handled = s.scheduler.responses.length →
    outputsOf log.reduceOption x.key = outputs
  asleep : c = .waiting → p = .request ∨ p = .finish

theorem Transcript.stream_of {lines : List (List UInt8)} {log : List (Option Response)}
    (h : Transcript client lines log s) {x : AcceptedLine P} (hx : x ∈ s.linesOf client) :
    outputsOf log.reduceOption x.key =
      outputsOf (s.scheduler.responses.take s.handled) x.key := by
  have hmine (resp : Response) (hid : resp.requestId = x.key) :
      s.answersTo client resp = true := decide_eq_true ⟨x,hx,hid.symm⟩
  rw [outputsOf, outputsOf, streamOf, streamOf, h.answered, List.filter_filter]
  congr 1
  apply List.filter_congr
  intro resp _
  by_cases hid : resp.requestId = x.key
  · rw [decide_eq_true hid, hmine resp hid]
    rfl
  · rw [decide_eq_false hid]
    rfl

/-- What a client has been sent for its lines, where the outputs that are pushed are those of greedy
decoding. -/
theorem Served.answered {W : Gpt2Weights} {f : RowAttention} {be : InferenceBackend Buffers}
    (hbe : be.Answers SameId) {device : Device α} {b : Buffers} {async : Bool} {client : P}
    {stream : List UInt8} {c : Control} {s : EventLoop P (RealKvAllocator α) Buffers}
    (h : Served (realKvAllocator α) be client (listening (startedReal device b async)) stream c s)
    (hn : s.accepted.length < 2^31) (hgreedy : ∀ p, ∀ r ∈ s.scheduler.queues p,
      GreedyOutputs W f p r (outputsOf s.scheduler.responses r.requestId)) :
    ∃ log, Transcript client (completeLines stream) log s ∧
      List.Forall₂ (fun x prompt => ∃ p outputs, AnswerTo W f c s log x prompt p outputs)
        (s.linesOf client) (requestsOf (completeLines stream)) := by
  have hlistening := heard_listening (served_heard hbe (started_settled _ b async) h).2
  have hunswapped := served_unswapped hbe h hn
  obtain ⟨_,hsettled,hidle⟩ := reached_loop (started_settled _ b async) hunswapped.reached
  obtain ⟨log,hlog⟩ := hlistening.transcript hn
  refine ⟨log,hlog,?_⟩
  have hboth := (List.forall₂_and_left _ _).mpr
    ⟨fun x (hx : x ∈ s.linesOf client) => hx,hlog.prompts⟩
  refine hboth.imp fun x prompt ⟨hx,⟨p,r⟩,hr,hask⟩ => ?_
  have hheld : r ∈ s.scheduler.queues p := (mem_held s.scheduler p r).mp hr
  have hid : r.requestId = x.key := hask.requestId.trans
    (hlistening.routing.line_id hn (mem_lines.mp hx).1 prompt _)
  have houtputs := hgreedy p r hheld
  rw [hid] at houtputs
  have hsent := hlog.stream_of hx
  refine ⟨p,outputsOf s.scheduler.responses x.key,⟨r,hheld,hask⟩,?_,?_,?_,?_⟩
  · exact houtputs.same_ask hask le_rfl
  · rw [hsent, outputsOf, outputsOf, streamOf, streamOf]
    exact ((List.take_prefix _ _).filter _).map _
  · intro hall
    rw [hsent, hall, List.take_length]
  · intro hwaiting
    by_contra hnot
    rw [not_or] at hnot
    have hempty := drained_places hsettled (hidle hwaiting) hnot.1 hnot.2
    rw [hempty] at hheld
    cases hheld

/-- A client that stays connected is sent a refusal for each of its lines that is no request, and
greedy decoding of the tokens on each line that is one. -/
theorem client_served (W : Gpt2Weights) {attend : PrefillAttention} {f : RowAttention}
    (hattend : AttendsRows attend f) (shared : FlatMemory.Memory ℝ) (device : Device α)
    (b : Buffers) (async : Bool) (client : P) {stream : List UInt8} {c : Control}
    {s : EventLoop P (RealKvAllocator α) Buffers}
    (h : Served (realKvAllocator α) (W.backend attend shared) client
      (listening (startedReal device b async)) stream c s) (hn : s.accepted.length < 2^31) :
    ∃ log, Transcript client (completeLines stream) log s ∧
      List.Forall₂ (fun x prompt => ∃ p outputs, AnswerTo W f c s log x prompt p outputs)
        (s.linesOf client) (requestsOf (completeLines stream)) := by
  have hunswapped := served_unswapped backend_same_id h hn
  have hgreedy := (reached_greedily hattend device b async hunswapped).2
  exact h.answered backend_same_id hn fun p r hr => hgreedy.outputs hr

end Runs

section OneClient

noncomputable def lineRead : EventLoop Unit (RealKvAllocator ℤ) Buffers :=
  onRead (onNewConnection (listening (startedReal freshDevice zeroBuffers true)) () true) ()
    [53,newline]

theorem line_read_served (be : InferenceBackend Buffers) : Served (realKvAllocator ℤ) be ()
    (listening (startedReal freshDevice zeroBuffers true)) [53,newline] .top lineRead := by
  have hconnected : Served (realKvAllocator ℤ) be ()
      (listening (startedReal freshDevice zeroBuffers true)) [] .top
      (onNewConnection (listening (startedReal freshDevice zeroBuffers true)) () true) :=
    .other _ _ _ _ (.connect () true) .start (fun _ => nofun) nofun nofun (.connect _ () true rfl)
  exact .read [] [53,newline] _ _ _ hconnected (.read _ () _ ⟨0,false,false⟩ rfl rfl)

theorem line_read_submitted :
    lineRead.scheduler = promptSubmitted ∧ lineRead.accepted.length = 1 := by
  let connected : EventLoop Unit (RealKvAllocator ℤ) Buffers :=
    onNewConnection (listening (startedReal freshDevice zeroBuffers true)) () true
  have hempty : (reader ()).buffer connected = [] := rfl
  have hfree : newline ∉ ([]++[53]) := by decide
  have hread : lineRead = onLine () [53] _ := (reader ()).on_read_completes hempty hfree
  have hline := on_line_asks ((reader ()).setBuffer connected []) ()
    (show parseRequest [53] ≠ [] by decide)
  rw [hread, hline.scheduler, hline.accepted]
  exact ⟨rfl,rfl⟩

theorem line_body_served (be : InferenceBackend Buffers)
    (hbe : (promptSubmitted.runPhases (realKvAllocator ℤ) be).1 = true) :
    ∃ c, Served (realKvAllocator ℤ) be () (listening (startedReal freshDevice zeroBuffers true))
      [53,newline] c
      { lineRead with
        scheduler := lineRead.scheduler.workerLoopBody (realKvAllocator ℤ) be } := by
  obtain ⟨hscheduler,_⟩ := line_read_submitted
  have hvictim : ¬lineRead.scheduler.SwapsOutVictim (realKvAllocator ℤ) be := by
    rintro ⟨hquiet,_⟩
    rw [hscheduler, hbe] at hquiet
    cases hquiet
  have hrunning : lineRead.scheduler.running = true := by
    rw [hscheduler]
    rfl
  cases hw : (lineRead.scheduler.workerLoopBody (realKvAllocator ℤ) be).noInternalWork with
  | true => exact ⟨_,.idle _ _ (line_read_served be) hrunning hvictim hw⟩
  | false => exact ⟨_,.body _ _ (line_read_served be) hrunning hvictim hw⟩

noncomputable def lineServed : EventLoop Unit (RealKvAllocator ℤ) Buffers :=
  { lineRead with
    scheduler := lineRead.scheduler.workerLoopBody (realKvAllocator ℤ) copyModel }

theorem line_served : ∃ c log, Transcript () (completeLines [53,newline]) log lineServed ∧
    List.Forall₂ (fun x prompt => ∃ p outputs,
      AnswerTo copyWeights FlashAttention.launchedRows c lineServed log x prompt p outputs)
      (lineServed.linesOf ()) (requestsOf (completeLines [53,newline])) := by
  obtain ⟨c,hc⟩ := line_body_served copyModel prompt_progresses
  have hfew : lineServed.accepted.length < 2^31 := by
    show lineRead.accepted.length < 2^31
    rw [line_read_submitted.2]
    decide
  exact ⟨c,client_served copyWeights FlashAttention.prompt_launch_rows (fun _ => 0) freshDevice
    zeroBuffers true () hc hfew⟩

end OneClient

end EventLoop

end MiniLlm

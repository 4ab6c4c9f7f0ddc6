import MiniLlm.EventLoop
import MiniLlm.SchedulerThread

/-!
# The notification between the two threads

The scheduler thread and the event loop share the response queue and one
async handle. Sending sets the flag of the handle, several sends may set it
only once, and the loop clears it just before it calls the drain loop. The
steps of the two threads interleave in any order; the callbacks of the event
loop do not interleave with its drain loop.
-/

set_option autoImplicit false

namespace MiniLlm

open Scheduler

variable {P A B : Type*}

def Event.OnConnection : Event P A B → Prop
  | .connect _ _ | .read _ _ | .readEnd _ | .clientClosed _ => True
  | .response _ _ | .work _ => False

structure ResponseAsync (P A B : Type*) extends EventLoop P A B where
  inBatch : Bool
  /-- `response_queue_` -/
  queue : List Response
  /-- The flag of `response_async_`. -/
  pending : Bool
  /-- Inside `on_response_async`, before the `try_pop` that finds nothing. -/
  draining : Bool
  /-- The responses handled so far. -/
  taken : List Response

namespace ResponseAsync

def thread (s : ResponseAsync P A B) : SchedulerThread A B := ⟨s.scheduler,s.inBatch⟩

def afterThread (s : ResponseAsync P A B) (action : ThreadAction) (t : SchedulerThread A B) :
    ResponseAsync P A B :=
  let next := { s with
    toEventLoop := { s.toEventLoop with scheduler := t.scheduler }
    inBatch := t.inBatch }
  match action with
  | .quiet => next
  | .push resp => { next with queue := s.queue++[resp] }
  | .send => { next with pending := true }

/-- After `start`, which hands the scheduler the async handle. -/
def listening (a : A) (b : B) : ResponseAsync P A B where
  toEventLoop := EventLoop.listening (started a b true)
  inBatch := false
  queue := []
  pending := false
  draining := false
  taken := []

section Steps

variable [DecidableEq P] (kv : KvAllocator A) (be : InferenceBackend B)

inductive Step : ResponseAsync P A B → ResponseAsync P A B → Prop
  | connection (s : ResponseAsync P A B) (e : Event P A B) (t : EventLoop P A B)
      (hd : s.draining = false) (he : e.OnConnection) (h : EventLoop.Step kv be s.toEventLoop e t) :
      Step s { s with toEventLoop := t }
  /-- the event loop calls `on_response_async` -/
  | callback (s : ResponseAsync P A B) (hd : s.draining = false) (hp : s.pending = true) :
      Step s { s with pending := false, draining := true }
  /-- a `try_pop` that finds a response, and the turn for it -/
  | tryPop (s : ResponseAsync P A B) (resp : Response) (rest : List Response) (garbage : Bool)
      (hd : s.draining = true) (hq : s.queue = resp::rest) :
      Step s { s with
        toEventLoop := s.toEventLoop.onResponse resp garbage
        queue := rest
        taken := s.taken++[resp] }
  /-- a `try_pop` that finds nothing -/
  | drained (s : ResponseAsync P A B) (hd : s.draining = true) (hq : s.queue = []) :
      Step s { s with draining := false }
  | thread (s : ResponseAsync P A B) (action : ThreadAction) (t : SchedulerThread A B)
      (h : ThreadStep kv be s.thread action t) : Step s (s.afterThread action t)

def Reached (start s : ResponseAsync P A B) : Prop :=
  Relation.ReflTransGen (Step kv be) start s

end Steps

structure Notified (s : ResponseAsync P A B) : Prop where
  responseAsync : s.scheduler.responseAsync = true
  noticed : s.queue ≠ [] → s.pending = true ∨ s.draining = true ∨ s.thread.WillSend
  pushed : s.taken++s.queue = s.scheduler.responses
  handled : s.handled = s.taken.length

structure SameNotice (s t : EventLoop P A B) : Prop extends
    s.scheduler.SameAsync t.scheduler where
  handled : t.handled = s.handled

theorem SameNotice.trans {s t u : EventLoop P A B} (h : SameNotice s t) (h' : SameNotice t u) :
    SameNotice s u := ⟨h.toSameAsync.trans h'.toSameAsync,h'.handled.trans h.handled⟩

section Connections

variable [DecidableEq P] {kv : KvAllocator A} {be : InferenceBackend B} {s t : EventLoop P A B}

theorem on_line_notice (client : P) (line : List UInt8) (s : EventLoop P A B) :
    SameNotice s (EventLoop.onLine client line s) := by
  have hserver : s.scheduler.SameAsync (s.toServerContext.onLine client line).scheduler := by
    unfold ServerContext.onLine
    split <;> exact ⟨rfl,rfl,rfl,rfl⟩
  refine ⟨?_,(s.on_line_frame client line).2.2⟩
  rw [EventLoop.on_line_server]
  exact hserver

theorem on_read_notice (client : P) (bytes : List UInt8) (s : EventLoop P A B) :
    SameNotice s (s.onRead client bytes) := by
  apply (EventLoop.reader client).on_read_keeps (SameNotice s) _ _ ⟨⟨rfl,rfl,rfl,rfl⟩,rfl⟩
  · exact fun t buffer ht => ht.trans ⟨⟨rfl,rfl,rfl,rfl⟩,rfl⟩
  · exact fun t line ht => ht.trans (on_line_notice client line t)

theorem connection_notice {e : Event P A B} (he : e.OnConnection)
    (h : EventLoop.Step kv be s e t) : SameNotice s t := by
  cases h with
  | connect client reading => exact ⟨⟨rfl,rfl,rfl,rfl⟩,rfl⟩
  | read client bytes => exact on_read_notice client bytes s
  | readEnd => exact ⟨⟨rfl,rfl,rfl,rfl⟩,rfl⟩
  | clientClosed => exact ⟨⟨rfl,rfl,rfl,rfl⟩,rfl⟩
  | response => exact he.elim
  | work => exact he.elim

end Connections

structure ThreadTaken (s : ResponseAsync P A B) (action : ThreadAction) (t : SchedulerThread A B)
    (u : ResponseAsync P A B) : Prop where
  thread : u.thread = t
  queue : u.queue = s.queue++action.pushed
  taken : u.taken = s.taken
  draining : u.draining = s.draining
  loop : u.toEventLoop = { s.toEventLoop with scheduler := t.scheduler }
  pending : u.pending = true ↔ s.pending = true ∨ action = .send

theorem after_thread_taken (s : ResponseAsync P A B) (action : ThreadAction)
    (t : SchedulerThread A B) : ThreadTaken s action t (s.afterThread action t) := by
  cases action with
  | quiet => exact ⟨rfl,(List.append_nil _).symm,rfl,rfl,rfl,by simp [afterThread]⟩
  | push resp => exact ⟨rfl,rfl,rfl,rfl,rfl,by simp [afterThread]⟩
  | send => exact ⟨rfl,(List.append_nil _).symm,rfl,rfl,rfl,by simp [afterThread]⟩

section Runs

variable [DecidableEq P] {kv : KvAllocator A} {be : InferenceBackend B} {s t : ResponseAsync P A B}

theorem Notified.connection (h : s.Notified) {e : Event P A B} (he : e.OnConnection)
    {t : EventLoop P A B} (hs : EventLoop.Step kv be s.toEventLoop e t) :
    Notified { s with toEventLoop := t } := by
  have hsame := connection_notice he hs
  refine ⟨hsame.responseAsync.trans h.responseAsync,fun hne => ?_,
    h.pushed.trans hsame.responses.symm,hsame.handled.trans h.handled⟩
  rcases h.noticed hne with hp | hd | hw
  · exact .inl hp
  · exact .inr (.inl hd)
  · exact .inr (.inr ⟨hw.1,hsame.hasResp.trans hw.2.1,hsame.responseAsync.trans hw.2.2⟩)

theorem Notified.tryPop (h : s.Notified) {resp : Response} {rest : List Response}
    (hd : s.draining = true) (hq : s.queue = resp::rest) (garbage : Bool) :
    Notified { s with
      toEventLoop := s.toEventLoop.onResponse resp garbage
      queue := rest
      taken := s.taken++[resp] } := by
  have ht := s.toEventLoop.on_response_handled resp garbage
  have hpushed := h.pushed
  rw [hq] at hpushed
  refine ⟨?_,fun _ => .inr (.inl hd),?_,?_⟩
  · show (s.toEventLoop.onResponse resp garbage).scheduler.responseAsync = true
    rw [ht.scheduler]
    exact h.responseAsync
  · show s.taken++[resp]++rest = (s.toEventLoop.onResponse resp garbage).scheduler.responses
    rw [ht.scheduler, ← hpushed, List.append_assoc]
    rfl
  · show (s.toEventLoop.onResponse resp garbage).handled = (s.taken++[resp]).length
    rw [ht.handled, h.handled, List.length_append, List.length_singleton]

omit [DecidableEq P] in
theorem Notified.thread (h : s.Notified) {action : ThreadAction} {t : SchedulerThread A B}
    (hs : ThreadStep kv be s.thread action t) : (s.afterThread action t).Notified := by
  have ht := after_thread_taken s action t
  have hvisible := thread_visible hs
  have hasync : t.scheduler.responseAsync = true :=
    hvisible.responseAsync.trans h.responseAsync
  have hscheduler : (s.afterThread action t).scheduler = t.scheduler := by rw [ht.loop]
  refine ⟨by rw [hscheduler, hasync],fun hne => ?_,?_,?_⟩
  · rw [ht.pending, ht.draining, ht.thread]
    by_cases hpushed : action.pushed = []
    · rw [ht.queue, hpushed, List.append_nil] at hne
      rcases h.noticed hne with hp | hd | hw
      · exact .inl (.inl hp)
      · exact .inr (.inl hd)
      · rcases hvisible.sending hw with hsend | hw
        · exact .inl (.inr hsend)
        · exact .inr (.inr hw)
    · obtain ⟨hin,hresp⟩ := hvisible.pushing hpushed
      exact .inr (.inr ⟨hin,hresp,hasync⟩)
  · rw [ht.queue, ht.taken, hscheduler, hvisible.responses, ← List.append_assoc, h.pushed]
    rfl
  · rw [ht.loop, ht.taken]
    exact h.handled

theorem Notified.step (h : s.Notified) (hs : Step kv be s t) : t.Notified := by
  cases hs with
  | connection e t hd he hs => exact h.connection he hs
  | callback hd hp => exact ⟨h.responseAsync,fun _ => .inr (.inl rfl),h.pushed,h.handled⟩
  | tryPop resp rest garbage hd hq => exact h.tryPop hd hq garbage
  | drained hd hq =>
    exact ⟨h.responseAsync,fun hne => absurd hq hne,h.pushed,h.handled⟩
  | thread action t hs => exact h.thread hs

theorem reached_notified (a : A) (b : B) (h : Reached kv be (listening a b) s) : s.Notified := by
  induction h with
  | refl => exact ⟨rfl,fun hne => absurd rfl hne,rfl,rfl⟩
  | tail _ hs ih => exact ih.step hs

theorem will_send_step (h : s.thread.WillSend) (hs : Step kv be s t) :
    t.thread.WillSend ∨ t.pending = true := by
  cases hs with
  | connection e t hd he hs =>
    have hsame := connection_notice he hs
    exact .inl ⟨h.1,hsame.hasResp.trans h.2.1,hsame.responseAsync.trans h.2.2⟩
  | callback => exact .inl h
  | tryPop resp rest garbage =>
    left
    have ht := s.toEventLoop.on_response_handled resp garbage
    unfold ResponseAsync.thread SchedulerThread.WillSend
    dsimp only
    rw [ht.scheduler]
    exact h
  | drained => exact .inl h
  | thread action t hs =>
    rw [(after_thread_taken s action t).thread, (after_thread_taken s action t).pending]
    rcases (thread_visible hs).sending h with hsend | hw
    · exact .inr (.inr hsend)
    · exact .inl hw

/-- In any interleaving, every response in the queue has been announced or will be, and each
response pushed is handled or in the queue. -/
theorem none_stranded (kv : KvAllocator A) (be : InferenceBackend B) (a : A) (b : B)
    (s : ResponseAsync P A B) (h : Reached kv be (listening a b) s) :
    (s.queue ≠ [] → s.pending = true ∨ s.draining = true ∨ s.thread.WillSend) ∧
      (s.thread.WillSend → ∀ t, Step kv be s t → t.thread.WillSend ∨ t.pending = true) ∧
      s.taken++s.queue = s.scheduler.responses :=
  ⟨(reached_notified a b h).noticed,fun hw _ hs => will_send_step hw hs,
    (reached_notified a b h).pushed⟩

theorem thread_reached {r : SchedulerThread A B} (hr : ThreadRun kv be s.thread r) :
    ∃ t, Reached kv be s t ∧ t.thread = r ∧ t.taken = s.taken ∧ t.draining = s.draining := by
  induction hr with
  | refl => exact ⟨s,.refl,rfl,rfl,rfl⟩
  | tail _ hs ih =>
    obtain ⟨action,hs⟩ := hs
    obtain ⟨t,hreached,rfl,htaken,hdraining⟩ := ih
    have ht := after_thread_taken t action ‹_›
    exact ⟨_,hreached.tail (.thread t action _ hs),ht.thread,ht.taken.trans htaken,
      ht.draining.trans hdraining⟩

theorem reached_event_loop (a : A) (b : B) (h : Reached kv be (listening a b) s) :
    EventLoop.Reached kv be EventLoop.AnyEvent (EventLoop.listening (started a b true))
      s.toEventLoop := by
  induction h with
  | refl => exact .start
  | @tail s t hbefore hs ih =>
    cases hs with
    | connection e t hd he hs => exact .next _ _ e ih trivial hs
    | callback => exact ih
    | tryPop resp rest garbage hd hq =>
      have hnotified := reached_notified a b hbefore
      refine .next _ _ (.response resp garbage) ih trivial (.response _ _ _ ?_)
      rw [← hnotified.pushed, hnotified.handled, hq, List.getElem?_append_right (le_refl _),
        Nat.sub_self]
      rfl
    | drained => exact ih
    | thread action t hs =>
      rw [(after_thread_taken s action t).loop]
      exact .next _ _ (.work _) ih trivial (.work _ _ (thread_step hs))

end Runs

def mockListening : ResponseAsync Unit ℕ Unit := listening 0 ()

def mockConnected : ResponseAsync Unit ℕ Unit :=
  { mockListening with toEventLoop := mockListening.toEventLoop.onNewConnection () true }

/-- A client has asked, and the scheduler has not looked yet. -/
def oneWaiting : ResponseAsync Unit ℕ Unit :=
  { mockConnected with toEventLoop := mockConnected.toEventLoop.onRead () [53,newline] }

theorem one_waiting_reached : Reached mockKvAllocator mockBackend mockListening oneWaiting := by
  have hconnect : Step mockKvAllocator mockBackend mockListening mockConnected :=
    .connection _ (.connect () true) _ rfl trivial (.connect _ () true rfl)
  have hread : EventLoop.Step mockKvAllocator mockBackend mockConnected.toEventLoop
      (.read () [53,newline]) (mockConnected.toEventLoop.onRead () [53,newline]) :=
    .read _ () _ ⟨0,false,false⟩ rfl rfl
  exact .tail (.single hconnect) (.connection _ (.read () [53,newline]) _ rfl trivial hread)

/-- After the next body its answer is in the queue, and the flag is set. -/
theorem one_answer_pending : ∃ s : ResponseAsync Unit ℕ Unit,
    Reached mockKvAllocator mockBackend (listening 0 ()) s ∧ s.queue.length = 1 ∧
      s.pending = true := by
  have hsettled : oneWaiting.scheduler.Settled := by
    constructor <;> decide +kernel
  have hbody : ThreadRun mockKvAllocator mockBackend oneWaiting.thread
      ⟨oneWaiting.scheduler.workerLoopBody mockKvAllocator mockBackend,false⟩ :=
    body_thread mock_answers _ hsettled
  obtain ⟨s,hrun,hthread,htaken,hdraining⟩ :=
    thread_reached (s := oneWaiting) hbody
  have hreached : Reached mockKvAllocator mockBackend (listening 0 ()) s :=
    one_waiting_reached.trans hrun
  obtain ⟨hnoticed,_,hpushed⟩ := none_stranded mockKvAllocator mockBackend 0 () s hreached
  have hqueue : s.queue = (oneWaiting.scheduler.workerLoopBody mockKvAllocator
      mockBackend).responses := by
    rw [htaken] at hpushed
    exact hpushed.trans (congrArg (fun t => t.scheduler.responses) hthread)
  have hlength : s.queue.length = 1 := by
    rw [hqueue]
    decide +kernel
  refine ⟨s,hreached,hlength,?_⟩
  rcases hnoticed (List.ne_nil_of_length_eq_add_one hlength) with hp | hd | hw
  · exact hp
  · rw [hdraining] at hd
    cases hd
  · rw [hthread] at hw
    cases hw.1

end ResponseAsync

end MiniLlm

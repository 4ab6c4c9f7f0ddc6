import MiniLlm.LineReader
import MiniLlm.SchedulerInvariant

/-!
# The server

The event loop turns what it reads into requests for the scheduler. Each
accepted line takes the next id, a `uint64_t` that goes through an `int` on
its way into the request. Reads and steps of the scheduler interleave freely.
-/

set_option autoImplicit false

namespace MiniLlm

open Scheduler

variable {C A B : Type*}

structure ServerContext (C A B : Type*) where
  scheduler : Scheduler A B
  nextRequestId : UInt64
  reqToClient : UInt64 → Option C
  readBuffer : C → List UInt8
  /-- The strings handed to `enqueue_write`. -/
  enqueued : C → List String

namespace ServerContext

/-- The conversion of `next_request_id` to the constructor's `int`. -/
def asInt (id : UInt64) : Int32 := id.toUInt32.toInt32

def defaultMaxNewTokens : ℤ := 8

variable [DecidableEq C]

def setBuffer (s : ServerContext C A B) (client : C) (buffer : List UInt8) :
    ServerContext C A B :=
  { s with readBuffer := Function.update s.readBuffer client buffer }

def enqueueWrite (s : ServerContext C A B) (client : C) (data : String) : ServerContext C A B :=
  { s with enqueued := Function.update s.enqueued client (s.enqueued client++[data]) }

/-- `insert` keeps an entry that is there. -/
def insertClient (s : ServerContext C A B) (client : C) : ServerContext C A B :=
  let entry := (s.reqToClient s.nextRequestId).getD client
  { s with reqToClient := Function.update s.reqToClient s.nextRequestId (some entry) }

def onLine (client : C) (line : List UInt8) (s : ServerContext C A B) : ServerContext C A B :=
  if parseRequest line = [] then s.enqueueWrite client "invalid request\n" else
  let req := Request.new (asInt s.nextRequestId) (parseRequest line) defaultMaxNewTokens
  { s.insertClient client with
    scheduler := s.scheduler.submitRequest req
    nextRequestId := s.nextRequestId+1 }

section Buffers

variable (s : ServerContext C A B) (client : C) (line buffer : List UInt8)

@[simp] theorem set_buffer_get : (s.setBuffer client buffer).readBuffer client = buffer :=
  Function.update_self _ _ _

@[simp] theorem set_buffer_twice (next : List UInt8) :
    (s.setBuffer client buffer).setBuffer client next = s.setBuffer client next := by
  unfold setBuffer
  rw [Function.update_idem]

@[simp] theorem on_line_buffer : (s.onLine client line).readBuffer = s.readBuffer := by
  unfold onLine
  split <;> rfl

end Buffers

def reader (client : C) : LineReader (ServerContext C A B) where
  buffer s := s.readBuffer client
  setBuffer s buffer := s.setBuffer client buffer
  onLine := onLine client
  buffer_set s := s.set_buffer_get client
  set_set s := s.set_buffer_twice client
  buffer_line line s := congrFun (s.on_line_buffer client line) client

def onRead (s : ServerContext C A B) (client : C) (bytes : List UInt8) : ServerContext C A B :=
  (reader client).onRead s bytes

/-- After `start`. -/
def listening (scheduler : Scheduler A B) : ServerContext C A B where
  scheduler := scheduler
  nextRequestId := 1
  reqToClient := fun _ => none
  readBuffer := fun _ => []
  enqueued := fun _ => []

def ReadMeets (condition : ServerContext C A B → List UInt8 → Prop) (s : ServerContext C A B)
    (client : C) (bytes : List UInt8) : Prop := (reader client).ReadMeets condition s bytes

def NothingNew (_ : Request → Prop) (_ : Request) : Prop := False

inductive Reached (kv : KvAllocator A) (be : InferenceBackend B)
    (allowed : Request → Response → Prop) (condition : ServerContext C A B → List UInt8 → Prop)
    (start : ServerContext C A B) : ServerContext C A B → Prop
  | start : Reached kv be allowed condition start start
  | read (s : ServerContext C A B) (client : C) (bytes : List UInt8)
      (h : Reached kv be allowed condition start s) (hc : s.ReadMeets condition client bytes) :
      Reached kv be allowed condition start (s.onRead client bytes)
  | work (s : ServerContext C A B) (t : Scheduler A B)
      (h : Reached kv be allowed condition start s)
      (hs : Step kv be allowed NothingNew s.scheduler t) :
      Reached kv be allowed condition start { s with scheduler := t }

section OneLine

variable (s : ServerContext C A B) (client : C) (line : List UInt8)

theorem on_read_line (h : s.readBuffer client = []) (hn : newline ∉ line) :
    s.onRead client (line++[newline]) = (s.setBuffer client []).onLine client line :=
  (reader client).on_read_completes h hn

theorem read_meets_line (condition : ServerContext C A B → List UInt8 → Prop)
    (h : s.readBuffer client = []) (hn : newline ∉ line)
    (hc : condition (s.setBuffer client []) line) :
    s.ReadMeets condition client (line++[newline]) :=
  (reader client).read_meets_completes condition h hn hc

end OneLine

section Runs

variable {kv : KvAllocator A} {be : InferenceBackend B} {allowed : Request → Response → Prop}
  {admissible : (Request → Prop) → Request → Prop}
  {condition : ServerContext C A B → List UInt8 → Prop}

theorem on_line_steps (client : C) (line : List UInt8) (s : ServerContext C A B)
    (h : parseRequest line ≠ [] → admissible s.scheduler.Holds
      (Request.new (asInt s.nextRequestId) (parseRequest line) defaultMaxNewTokens)) :
    Steps kv be allowed admissible s.scheduler (s.onLine client line).scheduler := by
  unfold onLine
  split
  · exact .refl
  · exact .single (.submit _ _ (h ‹_›))

/-- The scheduler of a server takes steps of its own and submissions that are admissible by the
condition on lines and what else is known of the server. -/
theorem reached_steps (J : ServerContext C A B → Prop)
    (hbuffer : ∀ s client buffer, J s → J (s.setBuffer client buffer))
    (hline : ∀ s client line, J s → condition s line → J (s.onLine client line) ∧
      Steps kv be allowed admissible s.scheduler (s.onLine client line).scheduler)
    (hwork : ∀ s t, J s → Step kv be allowed NothingNew s.scheduler t →
      J { s with scheduler := t }) {start s : ServerContext C A B} (hstart : J start)
    (h : Reached kv be allowed condition start s) :
    J s ∧ Steps kv be allowed admissible start.scheduler s.scheduler := by
  induction h with
  | start => exact ⟨hstart,.refl⟩
  | read s client bytes _ hc ih =>
    apply (reader client).on_read_meets
      (fun t => J t ∧ Steps kv be allowed admissible start.scheduler t.scheduler) _ _ ih hc
    · exact fun s buffer hs => ⟨hbuffer s client buffer hs.1,hs.2⟩
    · intro s line hs hline'
      obtain ⟨hj,hsteps⟩ := hline s client line hs.1 hline'
      exact ⟨hj,hs.2.trans hsteps⟩
  | work s t _ hs ih => exact ⟨hwork s t ih.1 hs,ih.2.tail (step_widen hs fun _ _ hn => hn.elim)⟩

theorem Reached.works {start s : ServerContext C A B} {t : Scheduler A B}
    (h : Reached kv be allowed condition start s)
    (hs : Steps kv be allowed NothingNew s.scheduler t) :
    Reached kv be allowed condition start { s with scheduler := t } := by
  induction hs with
  | refl => exact h
  | @tail u v _ hstep ih => exact .work { s with scheduler := u } v ih hstep

end Runs

end ServerContext

def listeningReal {α : Type*} (C : Type*) (device : Device α) (b : B) (async : Bool) :
    ServerContext C (RealKvAllocator α) B := ServerContext.listening (startedReal device b async)

def oneClient : ServerContext Unit (RealKvAllocator ℤ) Unit :=
  listeningReal Unit freshDevice () true

end MiniLlm

import MiniLlm.Server
import MiniLlm.ResponseStream

/-!
# The event loop

Connections come and go while requests are served. A connection is known by
the address of its storage, which a later one may get again; a serial number
tells them apart. Every callback of the loop and every step of the scheduler
thread is an event, and the drain of the response queue is one event for each
response.
-/

set_option autoImplicit false

namespace MiniLlm

open Scheduler

variable {P A B : Type*}

structure ClientConnection where
  serial : ℕ
  closed : Bool
  /-- Whether `uv_close` has been called on the handle. -/
  closing : Bool
  deriving DecidableEq, Repr

/-- A line that became a request: the key of its entry, the id stored in the request, and the
address and the serial of the connection it came from. -/
structure AcceptedLine (P : Type*) where
  key : UInt64
  requestId : UInt64
  client : P
  serial : ℕ
  deriving DecidableEq

structure EventLoop (P A B : Type*) extends ServerContext P A B where
  connections : P → Option ClientConnection
  nextSerial : ℕ
  accepted : List (AcceptedLine P)
  /-- The serial of the connection an entry of `req_to_client_` was made for. -/
  owner : UInt64 → ℕ
  /-- How many responses have been taken from the queue. -/
  handled : ℕ

inductive Event (P A B : Type*) where
  /-- `on_new_connection`, and whether reading could be started -/
  | connect (client : P) (reading : Bool)
  /-- `on_read` with `nread > 0` -/
  | read (client : P) (bytes : List UInt8)
  /-- `on_read` with `nread <= 0` -/
  | readEnd (client : P)
  /-- `on_client_closed_static` -/
  | clientClosed (client : P)
  /-- a turn of `on_response_async`, and what `closed` reads as in freed storage -/
  | response (resp : Response) (garbage : Bool)
  /-- a step of the scheduler thread -/
  | work (next : Scheduler A B)

namespace EventLoop

structure ResponseHandled (s t : EventLoop P A B) (resp : Response) : Prop where
  scheduler : t.scheduler = s.scheduler
  next : t.nextRequestId = s.nextRequestId
  accepted : t.accepted = s.accepted
  entries : t.reqToClient =
    if resp.finished then Function.update s.reqToClient resp.requestId none else s.reqToClient
  owner : t.owner = s.owner
  handled : t.handled = s.handled+1

namespace ResponseHandled

variable {s t : EventLoop P A B} {resp : Response}

theorem erased (h : ResponseHandled s t resp) (hdone : resp.finished = true) :
    t.reqToClient resp.requestId = none := by
  rw [h.entries, if_pos hdone, Function.update_self]

theorem kept (h : ResponseHandled s t resp) {id : UInt64}
    (hid : resp.finished = true → id ≠ resp.requestId) : t.reqToClient id = s.reqToClient id := by
  rw [h.entries]
  split
  · rename_i hdone
    exact Function.update_of_ne (hid hdone) _ _
  · rfl

theorem cases (h : ResponseHandled s t resp) (id : UInt64) :
    t.reqToClient id = none ∨ t.reqToClient id = s.reqToClient id := by
  by_cases hid : resp.finished = true ∧ id = resp.requestId
  · exact .inl (hid.2 ▸ h.erased hid.1)
  · exact .inr (h.kept fun hdone heq => hid ⟨hdone,heq⟩)

end ResponseHandled

variable [DecidableEq P]

def serialAt (s : EventLoop P A B) (client : P) : ℕ :=
  (s.connections client).elim 0 ClientConnection.serial

/-- The turn of the loop of `on_read` for one line, and what is recorded of it. -/
def onLine (client : P) (line : List UInt8) (s : EventLoop P A B) : EventLoop P A B :=
  let t := { s with toServerContext := s.toServerContext.onLine client line }
  if parseRequest line = [] then t else
  let req := Request.new (ServerContext.asInt s.nextRequestId) (parseRequest line)
    ServerContext.defaultMaxNewTokens
  { t with
    accepted := s.accepted++[⟨s.nextRequestId,req.requestId,client,s.serialAt client⟩]
    owner := if s.reqToClient s.nextRequestId = none
      then Function.update s.owner s.nextRequestId (s.serialAt client) else s.owner }

section Lines

variable (s : EventLoop P A B) (client : P) (line : List UInt8)

theorem on_line_server :
    (s.onLine client line).toServerContext = s.toServerContext.onLine client line := by
  unfold onLine
  split <;> rfl

theorem on_line_frame : (s.onLine client line).connections = s.connections ∧
    (s.onLine client line).nextSerial = s.nextSerial ∧
    (s.onLine client line).handled = s.handled := by
  unfold onLine
  split <;> exact ⟨rfl,rfl,rfl⟩

end Lines

def reader (client : P) : LineReader (EventLoop P A B) where
  buffer s := s.readBuffer client
  setBuffer s buffer := { s with toServerContext := s.setBuffer client buffer }
  onLine := onLine client
  buffer_set s := s.set_buffer_get client
  set_set s buffer next := by rw [s.set_buffer_twice client buffer next]
  buffer_line line s := by rw [on_line_server, ServerContext.on_line_buffer]

def onRead (s : EventLoop P A B) (client : P) (bytes : List UInt8) : EventLoop P A B :=
  (reader client).onRead s bytes

def setConnection (s : EventLoop P A B) (client : P) (connection : Option ClientConnection) :
    EventLoop P A B :=
  { s with connections := Function.update s.connections client connection }

def onNewConnection (s : EventLoop P A B) (client : P) (reading : Bool) : EventLoop P A B :=
  let server := { s.setBuffer client [] with
    enqueued := Function.update s.enqueued client [] }
  setConnection { s with toServerContext := server, nextSerial := s.nextSerial+1 } client
    (some ⟨s.nextSerial,false,!reading⟩)

def onReadEnd (s : EventLoop P A B) (client : P) (connection : ClientConnection) :
    EventLoop P A B :=
  s.setConnection client (some { connection with closed := true, closing := true })

def onClientClosed (s : EventLoop P A B) (client : P) : EventLoop P A B :=
  s.setConnection client none

/-- `client->closed` -/
def isClosed (s : EventLoop P A B) (client : P) (garbage : Bool) : Bool :=
  (s.connections client).elim garbage ClientConnection.closed

def responseText (resp : Response) : String :=
  toString resp.token++(if resp.finished then " [DONE]" else "")++"\n"

def eraseRequest (s : EventLoop P A B) (id : UInt64) : EventLoop P A B :=
  { s with reqToClient := Function.update s.reqToClient id none }

/-- A turn of the loop of `on_response_async`. -/
def onResponse (s : EventLoop P A B) (resp : Response) (garbage : Bool) : EventLoop P A B :=
  let s := { s with handled := s.handled+1 }
  match s.reqToClient resp.requestId with
  | none => s
  | some client =>
    let s := if s.isClosed client garbage then s
      else { s with toServerContext := s.enqueueWrite client (responseText resp) }
    if resp.finished then s.eraseRequest resp.requestId else s

/-- After `start`. -/
def listening (scheduler : Scheduler A B) : EventLoop P A B where
  toServerContext := ServerContext.listening scheduler
  connections := fun _ => none
  nextSerial := 0
  accepted := []
  owner := fun _ => 0
  handled := 0

section Responses

variable (s : EventLoop P A B)

theorem on_response_handled (resp : Response) (garbage : Bool) :
    ResponseHandled s (s.onResponse resp garbage) resp := by
  unfold onResponse
  dsimp only
  split
  · rename_i hnone
    refine ⟨rfl,rfl,rfl,?_,rfl,rfl⟩
    split
    · exact (Function.update_eq_self_iff.mpr hnone.symm).symm
    · rfl
  · split
    · refine ⟨?_,?_,?_,?_,?_,?_⟩
      all_goals split <;> rfl
    · refine ⟨?_,?_,?_,?_,?_,?_⟩
      all_goals split <;> rfl

end Responses

section Steps

variable (kv : KvAllocator A) (be : InferenceBackend B)

inductive Step : EventLoop P A B → Event P A B → EventLoop P A B → Prop
  | connect (s : EventLoop P A B) (client : P) (reading : Bool)
      (h : s.connections client = none) :
      Step s (.connect client reading) (s.onNewConnection client reading)
  | read (s : EventLoop P A B) (client : P) (bytes : List UInt8) (connection : ClientConnection)
      (h : s.connections client = some connection) (hc : connection.closing = false) :
      Step s (.read client bytes) (s.onRead client bytes)
  | readEnd (s : EventLoop P A B) (client : P) (connection : ClientConnection)
      (h : s.connections client = some connection) (hc : connection.closing = false) :
      Step s (.readEnd client) (s.onReadEnd client connection)
  | clientClosed (s : EventLoop P A B) (client : P) (connection : ClientConnection)
      (h : s.connections client = some connection) (hc : connection.closing = true) :
      Step s (.clientClosed client) (s.onClientClosed client)
  | response (s : EventLoop P A B) (resp : Response) (garbage : Bool)
      (h : s.scheduler.responses[s.handled]? = some resp) :
      Step s (.response resp garbage) (s.onResponse resp garbage)
  | work (s : EventLoop P A B) (next : Scheduler A B)
      (h : MiniLlm.Step kv be SameId ServerContext.NothingNew s.scheduler next) :
      Step s (.work next) { s with scheduler := next }

/-- The states of runs whose events each meet a condition in the state in which they happen. -/
inductive Reached (condition : EventLoop P A B → Event P A B → Prop) (start : EventLoop P A B) :
    EventLoop P A B → Prop
  | start : Reached condition start start
  | next (s t : EventLoop P A B) (e : Event P A B) (h : Reached condition start s)
      (hc : condition s e) (hs : Step kv be s e t) : Reached condition start t

def AnyEvent (_ : EventLoop P A B) (_ : Event P A B) : Prop := True

variable {kv be} {condition : EventLoop P A B → Event P A B → Prop} {start s : EventLoop P A B}

theorem Reached.any (h : Reached kv be condition start s) : Reached kv be AnyEvent start s := by
  induction h with
  | start => exact .start
  | next s t e _ _ hs ih => exact .next s t e ih trivial hs

theorem Reached.works (h : Reached kv be condition start s)
    (hc : ∀ t next, condition t (.work next)) {next : Scheduler A B}
    (hs : Steps kv be SameId ServerContext.NothingNew s.scheduler next) :
    Reached kv be condition start { s with scheduler := next } := by
  induction hs with
  | refl => exact h
  | tail _ hstep ih => exact ih.next _ _ _ (hc _ _) (.work _ _ hstep)

end Steps

end EventLoop

end MiniLlm

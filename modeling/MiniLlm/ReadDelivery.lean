import MiniLlm.EventLoop
import MiniLlm.RequestGrammar

/-!
# Requests and the delivery of their bytes

A connection is a stream of bytes that arrives in pieces. Its requests and
replies are those of its complete lines, so the pieces do not matter. A
callback with `nread = 0` brings no bytes, and `on_read` takes it for the end.
-/

set_option autoImplicit false

namespace MiniLlm

open Scheduler

variable {P A B : Type*}

def requestsOf (lines : List (List UInt8)) : List (List ℤ) :=
  (lines.map parseRequest).filter (· ≠ [])

def repliesOf (lines : List (List UInt8)) : List String :=
  (lines.filter (parseRequest · = [])).map fun _ => "invalid request\n"

section Lines

theorem requests_append (lines more : List (List UInt8)) :
    requestsOf (lines++more) = requestsOf lines++requestsOf more := by
  simp [requestsOf]

theorem replies_append (lines more : List (List UInt8)) :
    repliesOf (lines++more) = repliesOf lines++repliesOf more := by
  simp [repliesOf]

end Lines

namespace ServerContext

variable {C : Type*} {s t : ServerContext C A B} {client : C}

def submitted (s t : ServerContext C A B) : List (List ℤ) :=
  ((t.scheduler.queues .request).drop (s.scheduler.queues .request).length).map Request.tokens

def replied (s t : ServerContext C A B) (client : C) : List String :=
  (t.enqueued client).drop (s.enqueued client).length

structure Framed (s t : ServerContext C A B) (client : C) (lines : List (List UInt8))
    (last : List UInt8) : Prop where
  buffer : t.readBuffer client = last
  requests : ∃ reqs : List Request, t.scheduler.queues .request =
    s.scheduler.queues .request++reqs ∧ reqs.map Request.tokens = requestsOf lines
  replies : t.enqueued client = s.enqueued client++repliesOf lines

theorem Framed.submitted {lines : List (List UInt8)} {last : List UInt8}
    (h : Framed s t client lines last) : submitted s t = requestsOf lines := by
  obtain ⟨reqs,hqueue,htokens⟩ := h.requests
  rw [ServerContext.submitted, hqueue, List.drop_left, htokens]

theorem Framed.replied {lines : List (List UInt8)} {last : List UInt8}
    (h : Framed s t client lines last) : replied s t client = repliesOf lines := by
  rw [ServerContext.replied, h.replies, List.drop_left]

theorem Framed.trans {u : ServerContext C A B} {lines more : List (List UInt8)}
    {last last' : List UInt8} (h : Framed s t client lines last)
    (h' : Framed t u client more last') : Framed s u client (lines++more) last' := by
  obtain ⟨reqs,hqueue,htokens⟩ := h.requests
  obtain ⟨reqs',hqueue',htokens'⟩ := h'.requests
  refine ⟨h'.buffer,⟨reqs++reqs',?_,?_⟩,?_⟩
  · rw [hqueue', hqueue, List.append_assoc]
  · rw [List.map_append, htokens, htokens', requests_append]
  · rw [h'.replies, h.replies, replies_append, List.append_assoc]

variable [DecidableEq C]

theorem on_line_framed (s : ServerContext C A B) (client : C) (line : List UInt8) :
    Framed s (s.onLine client line) client [line] (s.readBuffer client) := by
  by_cases hparse : parseRequest line = []
  · obtain ⟨hsched,henq⟩ := on_line_refuses s client line hparse
    refine ⟨by rw [on_line_buffer],⟨[],?_,?_⟩,?_⟩
    · rw [hsched, List.append_nil]
    · simp [requestsOf, hparse]
    · rw [henq]
      simp [repliesOf, hparse]
  · obtain ⟨req,htokens,hsched⟩ := (on_line_submits s client line _).mpr ⟨hparse,rfl⟩
    refine ⟨by rw [on_line_buffer],⟨[req],?_,?_⟩,?_⟩
    · rw [hsched, submitRequest, push_back_queues, if_pos rfl]
    · simp [requestsOf, hparse, htokens]
    · rw [onLine, if_neg hparse]
      simp [repliesOf, hparse, insertClient]

theorem Framed.set_buffer {lines : List (List UInt8)} {last : List UInt8}
    (h : Framed s t client lines last) (buffer : List UInt8) :
    Framed s (t.setBuffer client buffer) client lines buffer :=
  ⟨t.set_buffer_get client buffer,h.requests,h.replies⟩

theorem on_read_framed (s : ServerContext C A B) (client : C) (bytes : List UInt8) :
    Framed s (s.onRead client bytes) client (completeLines (s.readBuffer client++bytes))
      (lastLine (s.readBuffer client++bytes)) := by
  have hstart : Framed s s client [] (s.readBuffer client) :=
    ⟨rfl,⟨[],(List.append_nil _).symm,rfl⟩,(List.append_nil _).symm⟩
  obtain ⟨⟨last,hframed⟩,hlast⟩ := (reader client).on_read_lines
    (fun lines t => ∃ last, Framed s t client lines last)
    (fun _ t buffer ⟨_,ht⟩ => ⟨buffer,ht.set_buffer buffer⟩)
    (fun _ t line ⟨_,ht⟩ => ⟨_,ht.trans (on_line_framed t client line)⟩) [] ⟨_,hstart⟩ bytes
  exact ⟨hlast,hframed.requests,hframed.replies⟩

theorem on_read_other (s : ServerContext C A B) (client other : C) (bytes : List UInt8)
    (h : other ≠ client) : (s.onRead client bytes).readBuffer other = s.readBuffer other := by
  apply (reader client).on_read_keeps (fun t => t.readBuffer other = s.readBuffer other) _ _ rfl
  · intro t buffer ht
    exact (Function.update_of_ne h buffer t.readBuffer).trans ht
  · exact fun t line ht => (congrFun (t.on_line_buffer client line) other).trans ht

end ServerContext

namespace EventLoop

variable [DecidableEq P]

/-- `on_read`, where `bytes` are the `nread` bytes that were read. -/
def readCallback (client : P) (bytes : List UInt8) : Event P A B :=
  if bytes = [] then .readEnd client else .read client bytes

section Delivery

variable (kv : KvAllocator A) (be : InferenceBackend B) (client : P) (serial : ℕ)

def At (s : EventLoop P A B) : Prop :=
  ∃ connection, s.connections client = some connection ∧ connection.serial = serial

def Reads (s : EventLoop P A B) (e : Event P A B) : Prop :=
  s.At client serial ∧ (e = .readEnd client ∨ ∃ bytes, e = .read client bytes)

/-- Runs in which a connection reads its stream in these pieces, without an end or an error, and
what its callbacks submitted and replied. -/
inductive Delivered (start : EventLoop P A B) :
    List (List UInt8) → List (List ℤ) → List String → EventLoop P A B → Prop
  | start : Delivered start [] [] [] start
  | callback (s t : EventLoop P A B) (pieces : List (List UInt8)) (requests : List (List ℤ))
      (replies : List String) (bytes : List UInt8)
      (h : Delivered start pieces requests replies s) (hc : s.At client serial)
      (hs : Step kv be s (readCallback client bytes) t) :
      Delivered start (pieces++[bytes]) (requests++ServerContext.submitted s.toServerContext
        t.toServerContext) (replies++ServerContext.replied s.toServerContext t.toServerContext
        client) t
  | other (s t : EventLoop P A B) (e : Event P A B) (pieces : List (List UInt8))
      (requests : List (List ℤ)) (replies : List String)
      (h : Delivered start pieces requests replies s) (he : ¬ s.Reads client serial e)
      (hs : Step kv be s e t) : Delivered start pieces requests replies t

/-- The requests and replies of a stream are those of its lines, its last bytes are in the
buffer and its connection is open. -/
structure StreamFramed (stream : List UInt8) (requests : List (List ℤ)) (replies : List String)
    (s : EventLoop P A B) : Prop where
  requests : requests = requestsOf (completeLines stream)
  replies : replies = repliesOf (completeLines stream)
  buffer : s.readBuffer client = lastLine stream
  opened : s.connections client = some ⟨serial,false,false⟩

end Delivery

section Callbacks

variable (client : P) (s : EventLoop P A B)

theorem on_read_server (bytes : List UInt8) :
    (s.onRead client bytes).toServerContext = s.toServerContext.onRead client bytes :=
  (reader client).on_read_simulates (ServerContext.reader client) toServerContext
    (fun _ => rfl) (fun _ _ => rfl) (fun line t => t.on_line_server client line) s bytes

theorem on_read_parts (bytes : List UInt8) :
    (s.onRead client bytes).connections = s.connections ∧
      (s.onRead client bytes).nextSerial = s.nextSerial := by
  apply (reader client).on_read_keeps
    (fun t => t.connections = s.connections ∧ t.nextSerial = s.nextSerial) _ _ ⟨rfl,rfl⟩
  · exact fun _ _ ht => ht
  · intro t line ht
    obtain ⟨hconnections,hserial,_⟩ := t.on_line_frame client line
    exact ⟨hconnections.trans ht.1,hserial.trans ht.2⟩

theorem on_read_connections (bytes : List UInt8) :
    (s.onRead client bytes).connections = s.connections := (on_read_parts client s bytes).1

theorem on_read_serial (bytes : List UInt8) :
    (s.onRead client bytes).nextSerial = s.nextSerial := (on_read_parts client s bytes).2

theorem on_response_frame (resp : Response) (garbage : Bool) :
    (s.onResponse resp garbage).connections = s.connections ∧
      (s.onResponse resp garbage).nextSerial = s.nextSerial ∧
      (s.onResponse resp garbage).readBuffer = s.readBuffer := by
  unfold onResponse
  dsimp only
  split
  · exact ⟨rfl,rfl,rfl⟩
  · split <;> split <;> exact ⟨rfl,rfl,rfl⟩

end Callbacks

section Runs

variable {kv : KvAllocator A} {be : InferenceBackend B} {client : P} {serial : ℕ}
  {s t : EventLoop P A B} {e : Event P A B}

theorem open_frame (hs : Step kv be s e t) (he : ¬ s.Reads client serial e)
    (hopen : s.connections client = some ⟨serial,false,false⟩) :
    t.connections client = s.connections client ∧ t.readBuffer client = s.readBuffer client := by
  have hat : s.At client serial := ⟨_,hopen,rfl⟩
  cases hs with
  | connect other reading h =>
    have hne : client ≠ other := by
      rintro rfl
      rw [hopen] at h
      cases h
    exact ⟨Function.update_of_ne hne _ _,Function.update_of_ne hne _ _⟩
  | read other bytes connection h hc =>
    have hne : client ≠ other := by
      rintro rfl
      exact he ⟨hat,.inr ⟨bytes,rfl⟩⟩
    rw [on_read_connections, on_read_server]
    exact ⟨rfl,ServerContext.on_read_other _ _ _ _ hne⟩
  | readEnd other connection h hc =>
    have hne : client ≠ other := by
      rintro rfl
      exact he ⟨hat,.inl rfl⟩
    exact ⟨Function.update_of_ne hne _ _,rfl⟩
  | clientClosed other connection h hc =>
    have hne : client ≠ other := by
      rintro rfl
      obtain rfl := Option.some.inj (hopen.symm.trans h)
      cases hc
    exact ⟨Function.update_of_ne hne _ _,rfl⟩
  | response resp garbage h =>
    obtain ⟨hconnections,_,hbuffer⟩ := on_response_frame s resp garbage
    rw [hconnections, hbuffer]
    exact ⟨rfl,rfl⟩
  | work next h => exact ⟨rfl,rfl⟩

def Ended (s : EventLoop P A B) (client : P) (serial : ℕ) : Prop :=
  ∀ connection, s.connections client = some connection → connection.serial = serial →
    connection.closing = true

theorem next_serial_grows (hs : Step kv be s e t) : s.nextSerial ≤ t.nextSerial := by
  cases hs with
  | connect => exact Nat.le_succ _
  | read other bytes connection h hc => rw [on_read_serial]
  | response resp garbage h => rw [(on_response_frame s resp garbage).2.1]
  | _ => exact le_rfl

theorem ended_step (hs : Step kv be s e t) (hserial : serial < s.nextSerial)
    (h : s.Ended client serial) : t.Ended client serial := by
  have hset (other : P) (next : Option ClientConnection)
      (hnext : ∀ c, other = client → next = some c → c.serial = serial → c.closing = true) :
      (s.setConnection other next).Ended client serial := by
    intro connection hconnection
    change Function.update s.connections other next client = some connection at hconnection
    by_cases ho : client = other
    · subst ho
      rw [Function.update_self] at hconnection
      exact hnext connection rfl hconnection
    · rw [Function.update_of_ne ho] at hconnection
      exact h connection hconnection
  cases hs with
  | connect other reading hnone =>
    apply hset other (some ⟨s.nextSerial,false,!reading⟩)
    rintro c _ hc hsame
    obtain rfl := Option.some.inj hc
    exact absurd hsame (by dsimp only; omega)
  | read other bytes connection hother hc =>
    unfold Ended
    rw [on_read_connections]
    exact h
  | readEnd other connection hother hc =>
    apply hset other (some { connection with closed := true, closing := true })
    rintro c _ hc _
    obtain rfl := Option.some.inj hc
    rfl
  | clientClosed other connection hother hc =>
    apply hset other none
    rintro c _ hc
    cases hc
  | response resp garbage hresp =>
    unfold Ended
    rw [(on_response_frame s resp garbage).1]
    exact h
  | work next hwork => exact h

structure DeliveryInv (client : P) (serial : ℕ) (pieces : List (List UInt8))
    (requests : List (List ℤ)) (replies : List String) (s : EventLoop P A B) : Prop where
  fresh : serial < s.nextSerial
  framed : [] ∉ pieces → StreamFramed client serial pieces.flatten requests replies s
  ended : [] ∈ pieces → s.Ended client serial

variable {pieces : List (List UInt8)} {requests : List (List ℤ)} {replies : List String}

/-- A callback with bytes handles the lines they complete. -/
theorem StreamFramed.callback {stream : List UInt8}
    (h : StreamFramed client serial stream requests replies s) (bytes : List UInt8) :
    StreamFramed client serial (stream++bytes)
      (requests++ServerContext.submitted s.toServerContext (s.onRead client bytes).toServerContext)
      (replies++ServerContext.replied s.toServerContext (s.onRead client bytes).toServerContext
        client) (s.onRead client bytes) := by
  have hread := ServerContext.on_read_framed s.toServerContext client bytes
  obtain ⟨hlines,hlast⟩ := lines_append stream bytes
  rw [h.buffer] at hread
  rw [on_read_server, hread.submitted, hread.replied]
  refine ⟨?_,?_,?_,?_⟩
  · rw [h.requests, hlines, requests_append]
  · rw [h.replies, hlines, replies_append]
  · rw [on_read_server, hread.buffer, hlast]
  · rw [on_read_connections, h.opened]

theorem DeliveryInv.callback (h : DeliveryInv client serial pieces requests replies s)
    (hat : s.At client serial) (bytes : List UInt8)
    (hs : Step kv be s (readCallback client bytes) t) :
    DeliveryInv client serial (pieces++[bytes])
      (requests++ServerContext.submitted s.toServerContext t.toServerContext)
      (replies++ServerContext.replied s.toServerContext t.toServerContext client) t := by
  obtain ⟨connection,hconnection,hserial⟩ := hat
  refine ⟨h.fresh.trans_le (next_serial_grows hs),fun hne => ?_,fun hmem => ?_⟩
  · rw [List.mem_append, not_or, List.mem_singleton] at hne
    obtain ⟨hold,hbytes⟩ := hne
    rw [readCallback, if_neg (Ne.symm hbytes)] at hs
    rw [List.flatten_append, List.flatten_singleton]
    cases hs with
    | read => exact (h.framed hold).callback bytes
  · by_cases hold : [] ∈ pieces
    · exact ended_step hs h.fresh (h.ended hold)
    · have hbytes : [] = bytes := by simpa [hold] using hmem
      rw [readCallback, if_pos hbytes.symm] at hs
      cases hs with
      | readEnd _ _ _ =>
        intro c hc _
        change Function.update s.connections client _ client = some c at hc
        rw [Function.update_self] at hc
        obtain rfl := Option.some.inj hc
        rfl

theorem DeliveryInv.other (h : DeliveryInv client serial pieces requests replies s)
    (he : ¬ s.Reads client serial e) (hs : Step kv be s e t) :
    DeliveryInv client serial pieces requests replies t := by
  refine ⟨h.fresh.trans_le (next_serial_grows hs),fun hne => ?_,fun hmem => ?_⟩
  · have hframed := h.framed hne
    obtain ⟨hconnections,hbuffer⟩ := open_frame hs he hframed.opened
    exact ⟨hframed.requests,hframed.replies,hbuffer.trans hframed.buffer,
      hconnections.trans hframed.opened⟩
  · exact ended_step hs h.fresh (h.ended hmem)

theorem delivery_inv {start : EventLoop P A B}
    (hstart : DeliveryInv client serial [] [] [] start)
    (h : Delivered kv be client serial start pieces requests replies s) :
    DeliveryInv client serial pieces requests replies s := by
  induction h with
  | start => exact hstart
  | callback s t pieces requests replies bytes _ hc hs ih => exact ih.callback hc bytes hs
  | other s t e pieces requests replies _ he hs ih => exact ih.other he hs

theorem connected_inv (s : EventLoop P A B) (client : P) :
    DeliveryInv client s.nextSerial [] [] [] (s.onNewConnection client true) := by
  refine ⟨Nat.lt_succ_self _,fun _ => ⟨rfl,rfl,?_,?_⟩,fun h => by cases h⟩
  · exact Function.update_self _ _ _
  · exact Function.update_self _ _ _

/-- Framing does not depend on the delivery of the stream if and only if no piece is empty. -/
theorem delivery_framed_iff (kv : KvAllocator A) (be : InferenceBackend B)
    (s₀ s : EventLoop P A B) (client : P) (pieces : List (List UInt8))
    (requests : List (List ℤ)) (replies : List String)
    (h : Delivered kv be client s₀.nextSerial (s₀.onNewConnection client true) pieces requests
      replies s) :
    StreamFramed client s₀.nextSerial pieces.flatten requests replies s ↔
      ∀ bytes ∈ pieces, bytes ≠ [] := by
  have hinv := delivery_inv (connected_inv s₀ client) h
  constructor
  · rintro hframed bytes hbytes rfl
    have hclosing := hinv.ended hbytes _ hframed.opened rfl
    cases hclosing
  · intro hne
    exact hinv.framed fun hmem => hne [] hmem rfl

end Runs

def noClients : EventLoop Unit ℕ Unit := listening (started 0 () true)

theorem two_pieces : ∃ s requests replies,
    Delivered mockKvAllocator mockBackend () noClients.nextSerial
      (noClients.onNewConnection () true) [[49,50],[newline]] requests replies s := by
  let start := noClients.onNewConnection () true
  have hopen : start.connections () = some ⟨0,false,false⟩ := rfl
  have hopen' : (start.onRead () [49,50]).connections () = some ⟨0,false,false⟩ := by
    rw [on_read_connections, hopen]
  have hfirst : Delivered mockKvAllocator mockBackend () noClients.nextSerial start [[49,50]] _ _
      (start.onRead () [49,50]) :=
    .callback start _ [] [] [] [49,50] .start ⟨_,hopen,rfl⟩ (.read start () _ _ hopen rfl)
  exact ⟨_,_,_,hfirst.callback _ _ [[49,50]] _ _ [newline] ⟨_,hopen',rfl⟩
    (.read _ () _ _ hopen' rfl)⟩

theorem two_pieces_framed : ∃ s requests replies,
    Delivered mockKvAllocator mockBackend () noClients.nextSerial
      (noClients.onNewConnection () true) [[49,50],[newline]] requests replies s ∧
    (StreamFramed () noClients.nextSerial [[49,50],[newline]].flatten requests replies s ↔
      ∀ bytes ∈ [[49,50],[newline]], bytes ≠ []) := by
  obtain ⟨s,requests,replies,h⟩ := two_pieces
  exact ⟨s,requests,replies,h,delivery_framed_iff _ _ _ _ _ _ _ _ h⟩

/-- A callback without bytes closes the connection. -/
theorem empty_read_closes : ¬ ∀ s requests replies,
    Delivered mockKvAllocator mockBackend () noClients.nextSerial
      (noClients.onNewConnection () true) [[]] requests replies s →
    StreamFramed () noClients.nextSerial [[]].flatten requests replies s := by
  intro h
  let start := noClients.onNewConnection () true
  have hopen : start.connections () = some ⟨0,false,false⟩ := rfl
  have hend : Step mockKvAllocator mockBackend start (readCallback () [])
      (start.onReadEnd () ⟨0,false,false⟩) := .readEnd start () _ hopen rfl
  have hframed := h _ _ _ (.callback start _ [] [] [] [] .start ⟨_,hopen,rfl⟩ hend)
  cases hframed.opened

end EventLoop

end MiniLlm

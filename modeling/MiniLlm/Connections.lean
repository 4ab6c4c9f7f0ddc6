import MiniLlm.Routing

/-!
# Who the entries of `req_to_client_` refer to

An entry keeps the address of the connection its line came from. Nothing but
the last response of a request removes it, so it outlives a connection that
is closed before that.
-/

set_option autoImplicit false

namespace MiniLlm

open Scheduler

variable {P A B : Type*}

namespace EventLoop

/-- Every entry refers to the connection it was made for, and that one is not deleted. -/
def ReferencesLive (s : EventLoop P A B) : Prop :=
  ∀ id client, s.reqToClient id = some client →
    ∃ connection, s.connections client = some connection ∧ connection.serial = s.owner id

def Answered (s : EventLoop P A B) (x : AcceptedLine P) : Prop :=
  ∃ resp ∈ s.scheduler.responses.take s.handled, resp.requestId = x.requestId ∧
    resp.finished = true

def AllAnswered (s : EventLoop P A B) (client : P) : Prop :=
  ∀ x ∈ s.accepted, x.client = client → x.serial = s.serialAt client → s.Answered x

/-- A connection is deleted only after all its lines have been answered. -/
def ClosedAfter (s : EventLoop P A B) (e : Event P A B) : Prop :=
  ∀ client, e = .clientClosed client → s.accepted.length < 2^31 ∧ s.AllAnswered client

/-- An entry refers to a connection exactly as long as one of its lines is not answered. -/
theorem none_pending_iff {s : EventLoop P A B} {client : P} (h : s.ReferencesLive)
    (hs : s.RoutingInv) (hn : s.accepted.length < 2^31) :
    (∀ id, s.reqToClient id ≠ some client) ↔ s.AllAnswered client := by
  have htracked := hs.tracked hn
  constructor
  · rintro hnone x hx rfl _
    by_contra hopen
    apply hnone x.key
    apply htracked.waiting x hx
    intro resp hresp hid
    by_contra hdone
    exact hopen ⟨resp,hresp,hid.trans (hs.counted.keys hn hx).symm,by simpa using hdone⟩
  · intro hall id hid
    obtain ⟨connection,hconnection,hserial⟩ := h id client hid
    obtain ⟨x,hx,rfl,rfl⟩ := htracked.known id client hid
    have hsame : x.serial = s.serialAt x.client := by
      rw [← htracked.owners x hx, ← hserial, serialAt, hconnection]
      rfl
    obtain ⟨resp,hresp,hid',hdone⟩ := hall x hx rfl hsame
    have herased := htracked.erased resp hresp hdone
    rw [hid', hs.counted.keys hn hx, hid] at herased
    cases herased

variable [DecidableEq P]

section Events

variable {s : EventLoop P A B} {client : P} {connection : ClientConnection}

theorem ReferencesLive.on_line (h : s.ReferencesLive)
    (hc : s.connections client = some connection) (line : List UInt8) :
    (s.onLine client line).ReferencesLive := by
  unfold onLine
  split
  · rename_i hempty
    intro id other hother
    apply h id other
    dsimp only at hother
    rwa [ServerContext.onLine, if_pos hempty] at hother
  · rename_i hline
    intro id other hother
    dsimp only at hother ⊢
    rw [ServerContext.onLine, if_neg hline] at hother
    change Function.update s.reqToClient s.nextRequestId _ id = some other at hother
    by_cases hid : id = s.nextRequestId
    · subst hid
      rw [Function.update_self] at hother
      cases hentry : s.reqToClient s.nextRequestId with
      | none =>
        rw [hentry] at hother
        obtain rfl : client = other := Option.some.inj hother
        refine ⟨connection,hc,?_⟩
        rw [if_pos rfl, Function.update_self, serialAt, hc]
        rfl
      | some found =>
        rw [hentry] at hother
        rw [if_neg (Option.some_ne_none found)]
        exact h _ other (hentry.trans hother)
    · rw [Function.update_of_ne hid] at hother
      obtain ⟨found,hfound,hserial⟩ := h id other hother
      refine ⟨found,hfound,?_⟩
      split
      · rwa [Function.update_of_ne hid]
      · exact hserial

theorem ReferencesLive.on_read (h : s.ReferencesLive)
    (hc : s.connections client = some connection) (bytes : List UInt8) :
    (s.onRead client bytes).ReferencesLive := by
  refine ((reader client).on_read_keeps (fun t => t.ReferencesLive ∧
    t.connections client = some connection) (fun _ _ ht => ht) (fun t line ht => ?_)
    ⟨h,hc⟩ bytes).1
  exact ⟨ht.1.on_line ht.2 line,(congrFun (t.on_line_frame client line).1 client).trans ht.2⟩

theorem ReferencesLive.set_connection (h : s.ReferencesLive) (next : ClientConnection)
    (hnext : ∀ found, s.connections client = some found → next.serial = found.serial) :
    (s.setConnection client (some next)).ReferencesLive := by
  intro id other hother
  obtain ⟨found,hfound,hserial⟩ := h id other hother
  show ∃ c, Function.update s.connections client (some next) other = some c ∧ _
  by_cases ho : other = client
  · subst ho
    rw [Function.update_self]
    exact ⟨next,rfl,(hnext found hfound).trans hserial⟩
  · rw [Function.update_of_ne ho]
    exact ⟨found,hfound,hserial⟩

theorem ReferencesLive.on_response (h : s.ReferencesLive) (resp : Response) (garbage : Bool) :
    (s.onResponse resp garbage).ReferencesLive := by
  have herase (t : EventLoop P A B) (ht : t.ReferencesLive) :
      (t.eraseRequest resp.requestId).ReferencesLive := by
    intro id other hother
    change Function.update t.reqToClient resp.requestId none id = some other at hother
    by_cases hid : id = resp.requestId
    · subst hid
      rw [Function.update_self] at hother
      cases hother
    · rw [Function.update_of_ne hid] at hother
      exact ht id other hother
  unfold onResponse
  dsimp only
  split
  · exact h
  · split
    · apply herase
      split <;> exact h
    · split <;> exact h

/-- Deleting a connection is safe exactly when no entry refers to it. -/
theorem client_closed_iff (h : s.ReferencesLive) :
    (s.onClientClosed client).ReferencesLive ↔ ∀ id, s.reqToClient id ≠ some client := by
  constructor
  · intro hlive id hid
    obtain ⟨found,hfound,_⟩ := hlive id client hid
    change Function.update s.connections client none client = some found at hfound
    rw [Function.update_self] at hfound
    cases hfound
  · intro hnone id other hother
    obtain ⟨found,hfound,hserial⟩ := h id other hother
    refine ⟨found,?_,hserial⟩
    show Function.update s.connections client none other = some found
    rw [Function.update_of_ne]
    · exact hfound
    · rintro rfl
      exact hnone id hother

end Events

section Runs

variable {kv : KvAllocator A} {be : InferenceBackend B}

theorem step_live {s t : EventLoop P A B} {e : Event P A B} (h : s.ReferencesLive)
    (hr : s.RoutingInv) (hc : s.ClosedAfter e) (hs : Step kv be s e t) : t.ReferencesLive := by
  cases hs with
  | connect client reading hnone =>
    apply ReferencesLive.set_connection
    · exact h
    · intro found hfound
      rw [show s.connections client = some found from hfound] at hnone
      cases hnone
  | read client bytes connection hopen _ => exact h.on_read hopen bytes
  | readEnd client connection hopen _ =>
    apply h.set_connection
    intro found hfound
    rw [hopen] at hfound
    rw [← Option.some.inj hfound]
  | clientClosed client =>
    obtain ⟨hn,hall⟩ := hc client rfl
    exact (client_closed_iff h).mpr ((none_pending_iff h hr hn).mpr hall)
  | response resp garbage => exact h.on_response resp garbage
  | work => exact h

/-- The entries refer to live connections in every state of every run that deletes a connection
only after all its lines have been answered; deleting one earlier makes an entry dangle. -/
theorem references_live (kv : KvAllocator A) (be : InferenceBackend B) (a : A) (b : B)
    (async : Bool) :
    (∀ s : EventLoop P A B, Reached kv be ClosedAfter (listening (started a b async)) s →
      s.ReferencesLive) ∧
    ∀ (s t : EventLoop P A B) client,
      Reached kv be ClosedAfter (listening (started a b async)) s → s.accepted.length < 2^31 →
      Step kv be s (.clientClosed client) t → (t.ReferencesLive ↔ s.AllAnswered client) := by
  have hall (s : EventLoop P A B)
      (h : Reached kv be ClosedAfter (listening (started a b async)) s) : s.ReferencesLive := by
    induction h with
    | start => exact fun id client hid => by cases hid
    | next s t e h hc hs ih => exact step_live ih (routing_inv h.any) hc hs
  refine ⟨hall,fun s t client h hn hs => ?_⟩
  cases hs with
  | clientClosed =>
    exact (client_closed_iff (hall s h)).trans (none_pending_iff (hall s h) (routing_inv h.any) hn)

end Runs

section OneClient

def oneGone : EventLoop Unit ℕ Unit :=
  (oneAsked.onReadEnd () ⟨0,false,false⟩).onClientClosed ()

theorem one_gone_dangles : ¬ ∀ s : EventLoop Unit ℕ Unit,
    Reached mockKvAllocator mockBackend AnyEvent (listening (started 0 () true)) s →
    s.ReferencesLive := by
  intro h
  have hasked := one_asked_reached AnyEvent fun _ _ _ => trivial
  have hended : Reached mockKvAllocator mockBackend AnyEvent (listening (started 0 () true))
      (oneAsked.onReadEnd () ⟨0,false,false⟩) :=
    .next _ _ (.readEnd ()) hasked trivial (.readEnd oneAsked () ⟨0,false,false⟩ (by decide) rfl)
  have hgone : Reached mockKvAllocator mockBackend AnyEvent (listening (started 0 () true))
      oneGone :=
    .next _ _ (.clientClosed ()) hended trivial
      (.clientClosed _ () ⟨0,true,true⟩ (by decide) rfl)
  obtain ⟨connection,hnone,_⟩ := h oneGone hgone 1 () (by decide)
  cases hnone

def drained : ℕ → EventLoop Unit ℕ Unit → EventLoop Unit ℕ Unit
  | 0, s => s
  | n+1, s =>
    match s.scheduler.responses[s.handled]? with
    | none => s
    | some resp => drained n (s.onResponse resp false)

def oneAnswered : EventLoop Unit ℕ Unit :=
  drained 8 { oneAsked with
    scheduler := (workerLoopBody mockKvAllocator mockBackend)^[8] oneAsked.scheduler }

def oneClosed : EventLoop Unit ℕ Unit := oneAnswered.onReadEnd () ⟨0,false,false⟩

/-- A later connection gets the same storage and asks again. -/
def oneReplaced : EventLoop Unit ℕ Unit :=
  ((oneClosed.onClientClosed ()).onNewConnection () true).onRead () [53,newline]

theorem drained_reached {condition : EventLoop Unit ℕ Unit → Event Unit ℕ Unit → Prop}
    (hc : ∀ s resp garbage, condition s (.response resp garbage)) (n : ℕ)
    {start s : EventLoop Unit ℕ Unit} (h : Reached mockKvAllocator mockBackend condition start s) :
    Reached mockKvAllocator mockBackend condition start (drained n s) := by
  induction n generalizing s with
  | zero => exact h
  | succ n ih =>
    unfold drained
    split
    · exact h
    · rename_i resp hresp
      exact ih (h.next _ _ _ (hc s resp false) (.response s resp false hresp))

theorem bodies_steps (n : ℕ) (s : Scheduler ℕ Unit) (h : s.Settled) :
    Steps mockKvAllocator mockBackend SameId ServerContext.NothingNew s
      ((workerLoopBody mockKvAllocator mockBackend)^[n] s) := by
  induction n generalizing s with
  | zero => exact .refl
  | succ n ih => exact (body_steps mock_answers s h).trans (ih _ (body_settled _ _ s h))

theorem one_closed_reached : Reached mockKvAllocator mockBackend ClosedAfter
    (listening (started 0 () true)) oneClosed := by
  have hother (s : EventLoop Unit ℕ Unit) (e : Event Unit ℕ Unit)
      (he : ∀ client, e ≠ .clientClosed client) : s.ClosedAfter e :=
    fun client hclosed => absurd hclosed (he client)
  have hserved := (one_asked_reached ClosedAfter hother).works (fun t _ => hother t _ nofun)
    (bodies_steps 8 _ one_asked_settled)
  have hanswered := drained_reached (fun t _ _ => hother t _ nofun) 8 hserved
  exact hanswered.next _ _ _ (hother _ (.readEnd ()) nofun)
    (.readEnd _ () ⟨0,false,false⟩ (by decide +kernel) rfl)

theorem one_replaced_live : oneReplaced.reqToClient 2 = some () ∧ oneReplaced.ReferencesLive ∧
    ((oneClosed.onClientClosed ()).ReferencesLive ↔ oneClosed.AllAnswered ()) := by
  have hclosing : oneClosed.connections () = some ⟨0,true,true⟩ := rfl
  have hclosed : Step mockKvAllocator mockBackend oneClosed (.clientClosed ())
      (oneClosed.onClientClosed ()) := .clientClosed _ () _ hclosing rfl
  have hall : oneClosed.AllAnswered () := by
    intro x hx _ _
    have haccepted : oneClosed.accepted = [⟨1,1,(),0⟩] := by decide +kernel
    rw [haccepted, List.mem_singleton] at hx
    subst hx
    exact ⟨⟨1,50256,true⟩,by decide +kernel,rfl,rfl⟩
  have hreplaced : Reached mockKvAllocator mockBackend ClosedAfter (listening (started 0 () true))
      oneReplaced := by
    refine .next _ _ (.read () [53,newline]) (.next _ _ (.connect () true) (.next _ _ _
      one_closed_reached ?_ hclosed) nofun (.connect _ () true rfl)) nofun
      (.read _ () _ ⟨1,false,false⟩ (by decide +kernel) rfl)
    rintro _ ⟨⟩
    exact ⟨by decide +kernel,hall⟩
  have hfew : oneClosed.accepted.length < 2^31 := by decide +kernel
  obtain ⟨hlive,hclose⟩ :=
    references_live (P := Unit) mockKvAllocator mockBackend 0 () true
  exact ⟨by decide +kernel,hlive _ hreplaced,hclose _ _ () one_closed_reached hfew hclosed⟩

end OneClient

end EventLoop

end MiniLlm

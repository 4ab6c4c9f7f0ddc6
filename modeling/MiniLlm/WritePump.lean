import Mathlib.Tactic

/-!
# The writes of a connection

Strings for a client are queued and handed to `uv_write` one at a time. The
pump is driven from both ends: by `enqueue_write` when nothing is being
written, and by the callback of the write before. Every call of `uv_write`
that returns zero is followed by one callback, and no other is.
-/

set_option autoImplicit false

namespace MiniLlm

/-- What `enqueue_write`, `start_write` and `on_write_static` keep of a connection. -/
structure ClientWrites where
  closed : Bool
  writing : Bool
  writeQueue : List String
  /-- The data of every call of `uv_write`. -/
  handed : List String
  /-- The requests whose callback is still to come. -/
  inFlight : List String
  deriving DecidableEq, Repr

inductive WriteEvent where
  /-- `enqueue_write`, and what `uv_write` would return -/
  | enqueue (data : String) (ret : ℤ)
  /-- `on_write_static`, and what `uv_write` would return -/
  | written (status ret : ℤ)
  /-- `closed` is set when reading ends -/
  | close
  deriving DecidableEq, Repr

namespace ClientWrites

def connected : ClientWrites := ⟨false,false,[],[],[]⟩

def startWrite (client : ClientWrites) (ret : ℤ) : ClientWrites :=
  if client.closed then client else
  if client.writing then client else
  match client.writeQueue with
  | [] => client
  | data::rest =>
    let client := { client with
      writeQueue := rest
      writing := true
      handed := client.handed++[data] }
    if ret = 0 then { client with inFlight := client.inFlight++[data] }
    else { client with writing := false }

def enqueueWrite (client : ClientWrites) (data : String) (ret : ℤ) : ClientWrites :=
  if client.closed then client else
  let client := { client with writeQueue := client.writeQueue++[data] }
  if client.writing then client else client.startWrite ret

/-- The status is printed and nothing else; the request is deleted before the flag is tested. -/
def onWrite (client : ClientWrites) (_status ret : ℤ) : ClientWrites :=
  let client := { client with inFlight := client.inFlight.tail }
  if client.closed then client else
  let client := { client with writing := false }
  if client.writeQueue = [] then client else client.startWrite ret

def step : WriteEvent → ClientWrites → ClientWrites
  | .enqueue data ret, client => client.enqueueWrite data ret
  | .written status ret, client => client.onWrite status ret
  | .close, client => { client with closed := true }

def run : List WriteEvent → ClientWrites → ClientWrites
  | [], client => client
  | event::events, client => run events (step event client)

end ClientWrites

namespace WriteEvent

def Accepts : WriteEvent → Prop
  | .enqueue _ ret => ret = 0
  | .written _ ret => ret = 0
  | .close => True

def enqueued : WriteEvent → List String
  | .enqueue data _ => [data]
  | _ => []

end WriteEvent

namespace ClientWrites

/-- One write is in flight exactly while `writing` is set, nothing is lost or overtaken, and
nothing waits without a write in flight. -/
structure Pumping (client : ClientWrites) (enqueued : List String) : Prop where
  one : client.inFlight.length = if client.writing then 1 else 0
  order : client.handed++client.writeQueue = enqueued
  busy : client.writeQueue ≠ [] → client.inFlight ≠ []

def PumpInv (client : ClientWrites) (enqueued : List String) : Prop :=
  client.closed = false → client.Pumping enqueued

section Turns

variable {client : ClientWrites} {enqueued : List String}

/-- Between two writes the next string is handed over. -/
theorem start_write_pumping (hopen : client.closed = false) (hidle : client.writing = false)
    (hnone : client.inFlight = []) (horder : client.handed++client.writeQueue = enqueued) :
    (client.startWrite 0).Pumping enqueued := by
  unfold startWrite
  rw [hopen, hidle]
  cases hqueue : client.writeQueue with
  | nil =>
    refine ⟨?_,horder,fun h => absurd hqueue h⟩
    simp [hnone, hidle]
  | cons data rest =>
    refine ⟨?_,?_,fun _ => ?_⟩
    · simp [hnone]
    · rw [hqueue] at horder
      simpa using horder
    · simp

theorem enqueue_pumping (h : client.Pumping enqueued) (hopen : client.closed = false)
    (data : String) : (client.enqueueWrite data 0).Pumping (enqueued++[data]) := by
  have horder : client.handed++(client.writeQueue++[data]) = enqueued++[data] := by
    rw [← List.append_assoc, h.order]
  unfold enqueueWrite
  rw [if_neg (ne_true_of_eq_false hopen)]
  dsimp only
  cases hwriting : client.writing with
  | true =>
    rw [if_pos rfl]
    have hone : client.inFlight.length = 1 := by
      rw [h.one, hwriting, if_pos rfl]
    exact ⟨hone,horder,fun _ => List.ne_nil_of_length_pos (by rw [hone]; decide)⟩
  | false =>
    rw [if_neg Bool.false_ne_true]
    have hnone : client.inFlight = [] := by
      have hone := h.one
      rw [hwriting] at hone
      exact List.length_eq_zero_iff.mp hone
    apply start_write_pumping
    · exact hopen
    · rfl
    · exact hnone
    · exact horder

theorem written_pumping (h : client.Pumping enqueued) (hopen : client.closed = false)
    (status : ℤ) : (client.onWrite status 0).Pumping enqueued := by
  have hnone : client.inFlight.tail = [] := by
    apply List.length_eq_zero_iff.mp
    have hone := h.one
    rw [List.length_tail]
    split at hone <;> omega
  unfold onWrite
  dsimp only
  rw [if_neg (ne_true_of_eq_false hopen)]
  by_cases hqueue : client.writeQueue = []
  · rw [if_pos hqueue]
    exact ⟨by simp [hnone],h.order,fun hne => absurd hqueue hne⟩
  · rw [if_neg hqueue]
    apply start_write_pumping
    · exact hopen
    · rfl
    · exact hnone
    · exact h.order

/-- No event opens a connection again. -/
theorem step_closed (event : WriteEvent) (h : client.closed = true) :
    (step event client).closed = true := by
  cases event with
  | enqueue data ret => simp [step, enqueueWrite, h]
  | written status ret => simp [step, onWrite, h]
  | close => rfl

theorem step_pumping (event : WriteEvent) (h : client.PumpInv enqueued) (hevent : event.Accepts) :
    (step event client).PumpInv (enqueued++event.enqueued) := by
  intro hopen'
  have hopen : client.closed = false := by
    rw [← Bool.not_eq_true]
    intro hclosed
    rw [step_closed event hclosed] at hopen'
    cases hopen'
  cases event with
  | enqueue data ret =>
    obtain rfl : ret = 0 := hevent
    exact enqueue_pumping (h hopen) hopen data
  | written status ret =>
    obtain rfl : ret = 0 := hevent
    have hnothing : enqueued++(WriteEvent.written status 0).enqueued = enqueued :=
      List.append_nil _
    rw [hnothing]
    exact written_pumping (h hopen) hopen status
  | close => cases hopen'

theorem run_pumping (events : List WriteEvent) (h : client.PumpInv enqueued)
    (hevents : ∀ event ∈ events, event.Accepts) :
    (run events client).PumpInv (enqueued++events.flatMap WriteEvent.enqueued) := by
  induction events generalizing client enqueued with
  | nil => rwa [List.flatMap_nil, List.append_nil]
  | cons event events ih =>
    rw [List.forall_mem_cons] at hevents
    rw [List.flatMap_cons, ← List.append_assoc]
    exact ih (step_pumping event h hevents.1) hevents.2

end Turns

/-- Output is sent in order with one write in flight, whatever the order of the events. -/
theorem output_in_order (events : List WriteEvent) (hevents : ∀ event ∈ events, event.Accepts)
    (hopen : (run events connected).closed = false) :
    (run events connected).Pumping (events.flatMap WriteEvent.enqueued) := by
  have hstart : connected.PumpInv [] := by
    intro _
    exact ⟨rfl,rfl,fun h => absurd rfl h⟩
  exact run_pumping events hstart hevents hopen

/-- Two responses, the first of which has been written. -/
theorem two_responses_in_order :
    (run [.enqueue "15\n" 0,.enqueue "16 [DONE]\n" 0,.written 0 0] connected).Pumping
      ["15\n","16 [DONE]\n"] := by
  apply output_in_order [.enqueue "15\n" 0,.enqueue "16 [DONE]\n" 0,.written 0 0]
  · intro event hevent
    simp only [List.mem_cons, List.not_mem_nil, or_false] at hevent
    rcases hevent with rfl | rfl | rfl <;> rfl
  · decide

end ClientWrites

end MiniLlm

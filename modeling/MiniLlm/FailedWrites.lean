import MiniLlm.WritePump

/-!
# Writes that fail

A call of `uv_write` that returns an error deletes its request and is not
repeated. Its string is lost, no callback follows, and what is behind it in
the queue waits for the next `enqueue_write`. Here the strings of a connection
are accounted for, whatever the calls return and whatever the order of the
events.
-/

set_option autoImplicit false

namespace MiniLlm

/-- What `uv_write` returns if the event calls it. -/
def WriteEvent.returned : WriteEvent → ℤ
  | .enqueue _ ret => ret
  | .written _ ret => ret
  | .close => 0

namespace ClientWrites

def queuedBy : WriteEvent → ClientWrites → List String
  | .enqueue data _, client => if client.closed then [] else [data]
  | .written _ _, _ => []
  | .close, _ => []

def calledBy (event : WriteEvent) (client : ClientWrites) : List (String × ℤ) :=
  ((step event client).handed.drop client.handed.length).map (·,event.returned)

def finishedBy : WriteEvent → ClientWrites → List String
  | .enqueue _ _, _ => []
  | .written _ _, client => client.inFlight.take 1
  | .close, _ => []

def collect {α : Type} (of : WriteEvent → ClientWrites → List α) :
    List WriteEvent → ClientWrites → List α
  | [], _ => []
  | event::events, client => of event client++collect of events (step event client)

structure Accounted (client : ClientWrites) (queued : List String) (calls : List (String × ℤ))
    (finished : List String) : Prop where
  order : client.handed++client.writeQueue = queued
  handed : calls.map Prod.fst = client.handed
  sent : finished++client.inFlight = (calls.filter (·.2 = 0)).map Prod.fst
  single : client.inFlight.length ≤ 1
  writing : client.closed = false → client.inFlight.length = if client.writing then 1 else 0
  waiting : client.closed = false → client.writeQueue ≠ [] → client.inFlight = [] →
    ∃ call ∈ calls.getLast?, call.2 ≠ 0

section Calls

variable {client : ClientWrites} {queued done : List String} {calls : List (String × ℤ)}

theorem start_write_cases (hopen : client.closed = false) (hidle : client.writing = false)
    (ret : ℤ) :
    (client.writeQueue = [] ∧ client.startWrite ret = client) ∨
    ∃ data rest, client.writeQueue = data::rest ∧
      ((ret = 0 ∧ client.startWrite ret = { client with
          writeQueue := rest
          writing := true
          handed := client.handed++[data]
          inFlight := client.inFlight++[data] }) ∨
        (ret ≠ 0 ∧ client.startWrite ret = { client with
          writeQueue := rest
          handed := client.handed++[data] })) := by
  unfold startWrite
  rw [hopen, hidle]
  cases hqueue : client.writeQueue with
  | nil => exact .inl ⟨rfl,rfl⟩
  | cons data rest =>
    refine .inr ⟨data,rest,rfl,?_⟩
    by_cases hret : ret = 0
    · exact .inl ⟨hret,by simp [hret]⟩
    · exact .inr ⟨hret,by simp [hret]⟩

theorem start_write_accounted (client : ClientWrites) (hopen : client.closed = false)
    (hidle : client.writing = false) (hnone : client.inFlight = [])
    (horder : client.handed++client.writeQueue = queued)
    (hhanded : calls.map Prod.fst = client.handed)
    (hsent : done = (calls.filter (·.2 = 0)).map Prod.fst) (ret : ℤ) :
    (client.startWrite ret).Accounted queued
      (calls++((client.startWrite ret).handed.drop client.handed.length).map (·,ret)) done := by
  obtain ⟨hqueue,hstart⟩ | ⟨data,rest,hqueue,hstart⟩ := start_write_cases hopen hidle ret
  · rw [hstart, List.drop_length, List.map_nil, List.append_nil]
    refine ⟨horder,hhanded,?_,?_,?_,fun _ hne => absurd hqueue hne⟩
    · rw [hnone, List.append_nil, hsent]
    · rw [hnone]
      exact Nat.zero_le 1
    · intro _
      rw [hnone, hidle]
      rfl
  have hnext : client.handed++[data]++rest = queued := by
    rw [List.append_assoc, List.singleton_append, ← hqueue, horder]
  have hcall : ((client.handed++[data]).drop client.handed.length).map (·,ret) =
      [(data,ret)] := by
    rw [List.drop_left]
    rfl
  have hnames : (calls++[(data,ret)]).map Prod.fst = client.handed++[data] := by
    rw [List.map_append, hhanded]
    rfl
  obtain ⟨hret,hstart⟩ | ⟨hret,hstart⟩ := hstart
  · rw [hstart, hcall]
    refine ⟨hnext,hnames,?_,?_,fun _ => ?_,fun _ _ h => ?_⟩
    · simp [hnone, hsent, hret]
    · simp [hnone]
    · simp [hnone]
    · simp at h
  · rw [hstart, hcall]
    refine ⟨hnext,hnames,?_,?_,fun _ => ?_,fun _ _ _ => ?_⟩
    · simp [hnone, hsent, hret]
    · simp [hnone]
    · simp [hnone, hidle]
    · exact ⟨(data,ret),by simp,hret⟩

theorem called_none (event : WriteEvent) {next : ClientWrites} (h : step event client = next)
    (hsame : next.handed = client.handed) : calledBy event client = [] := by
  rw [calledBy, h, hsame, List.drop_length]
  rfl

theorem Accounted.idle (h : client.Accounted queued calls done) (hopen : client.closed = false)
    (hidle : client.writing = false) : client.inFlight = [] := by
  have hnone := h.writing hopen
  rw [hidle] at hnone
  exact List.length_eq_zero_iff.mp hnone

theorem Accounted.callback (h : client.Accounted queued calls done) :
    client.inFlight.tail = [] := by
  have hsingle := h.single
  apply List.length_eq_zero_iff.mp
  rw [List.length_tail]
  omega

theorem enqueue_accounted (h : client.Accounted queued calls done) (data : String) (ret : ℤ) :
    (client.enqueueWrite data ret).Accounted
      (queued++queuedBy (.enqueue data ret) client)
      (calls++calledBy (.enqueue data ret) client) done := by
  cases hclosed : client.closed with
  | true =>
    have hsame : client.enqueueWrite data ret = client := by
      rw [enqueueWrite, hclosed, if_pos rfl]
    rw [called_none (.enqueue data ret) hsame rfl, hsame, queuedBy, hclosed, if_pos rfl,
      List.append_nil, List.append_nil]
    exact h
  | false =>
    have horder : client.handed++(client.writeQueue++[data]) = queued++[data] := by
      rw [← List.append_assoc, h.order]
    have hqueued' : queuedBy (.enqueue data ret) client = [data] := by
      rw [queuedBy, hclosed]
      rfl
    rw [hqueued']
    cases hwriting : client.writing with
    | true =>
      have hbusy : client.inFlight.length = 1 := by
        rw [h.writing hclosed, hwriting, if_pos rfl]
      have hqueued : client.enqueueWrite data ret =
          { client with writeQueue := client.writeQueue++[data] } := by
        simp [enqueueWrite, hclosed, hwriting]
      rw [called_none (.enqueue data ret) hqueued rfl, hqueued, List.append_nil]
      refine ⟨horder,h.handed,h.sent,h.single,h.writing,fun _ _ hnone => ?_⟩
      rw [hnone] at hbusy
      cases hbusy
    | false =>
      have hnone := h.idle hclosed hwriting
      have hstart : client.enqueueWrite data ret =
          ({ client with writeQueue := client.writeQueue++[data] } : ClientWrites).startWrite
            ret := by
        simp [enqueueWrite, hclosed, hwriting]
      have hsent := h.sent
      rw [hnone, List.append_nil] at hsent
      rw [calledBy, step, hstart]
      exact start_write_accounted { client with writeQueue := client.writeQueue++[data] } hclosed
        hwriting hnone horder h.handed hsent ret

theorem written_accounted (h : client.Accounted queued calls done) (status ret : ℤ) :
    (client.onWrite status ret).Accounted queued (calls++calledBy (.written status ret) client)
      (done++client.inFlight.take 1) := by
  have hlast := h.callback
  have hdone : done++client.inFlight.take 1 = (calls.filter (·.2 = 0)).map Prod.fst := by
    rw [← h.sent, List.take_of_length_le h.single]
  cases hclosed : client.closed with
  | true =>
    have hstays : client.onWrite status ret =
        { client with inFlight := client.inFlight.tail } := by
      simp [onWrite, hclosed]
    rw [called_none (.written status ret) hstays rfl, hstays, List.append_nil]
    refine ⟨h.order,h.handed,?_,?_,?_,?_⟩
    · rw [hlast, List.append_nil, hdone]
    · rw [hlast]
      exact Nat.zero_le 1
    · intro hopen
      rw [hclosed] at hopen
      cases hopen
    · intro hopen
      rw [hclosed] at hopen
      cases hopen
  | false =>
    -- With an empty queue `start_write` would return at once.
    have hstart : client.onWrite status ret =
        ({ client with inFlight := client.inFlight.tail, writing := false } :
          ClientWrites).startWrite ret := by
      unfold onWrite startWrite
      by_cases hqueue : client.writeQueue = [] <;> simp [hclosed, hqueue]
    rw [calledBy, step, hstart]
    exact start_write_accounted
      { client with inFlight := client.inFlight.tail, writing := false } hclosed rfl hlast h.order
      h.handed hdone ret

theorem step_accounted (event : WriteEvent) (h : client.Accounted queued calls done) :
    (step event client).Accounted (queued++queuedBy event client)
      (calls++calledBy event client) (done++finishedBy event client) := by
  cases event with
  | enqueue data ret =>
    rw [finishedBy, List.append_nil]
    exact enqueue_accounted h data ret
  | written status ret =>
    rw [queuedBy, List.append_nil]
    exact written_accounted h status ret
  | close =>
    rw [called_none .close rfl rfl, finishedBy, queuedBy, List.append_nil, List.append_nil,
      List.append_nil]
    refine ⟨h.order,h.handed,h.sent,h.single,?_,?_⟩
    · exact fun hopen => Bool.noConfusion hopen
    · exact fun hopen => Bool.noConfusion hopen

theorem run_accounted (events : List WriteEvent) (h : client.Accounted queued calls done) :
    (run events client).Accounted (queued++collect queuedBy events client)
      (calls++collect calledBy events client) (done++collect finishedBy events client) := by
  induction events generalizing client queued calls done with
  | nil => simpa only [collect, List.append_nil, run] using h
  | cons event events ih =>
    simp only [collect, ← List.append_assoc]
    exact ih (step_accounted event h)

end Calls

section Recovery

variable {client : ClientWrites}

structure Drained (client : ClientWrites) (queued : List String) : Prop where
  handed : client.handed = queued
  waiting : client.writeQueue = []
  flying : client.inFlight = []

theorem run_append (events later : List WriteEvent) :
    run (events++later) client = run later (run events client) := by
  induction events generalizing client with
  | nil => rfl
  | cons event events ih => exact ih

/-- Callbacks of writes that succeeded hand over what is waiting. -/
theorem callbacks_drain {data : String} {n : ℕ} (hopen : client.closed = false)
    (hflying : client.inFlight = [data]) (hn : client.writeQueue.length = n) :
    (run (List.replicate (n+1) (.written 0 0)) client).Drained
      (client.handed++client.writeQueue) := by
  induction n generalizing client data with
  | zero =>
    have hqueue : client.writeQueue = [] := List.length_eq_zero_iff.mp hn
    have hlast : step (.written 0 0) client =
        { client with inFlight := [], writing := false } := by
      simp [step, onWrite, hopen, hqueue, hflying]
    have hrun : run (List.replicate (0+1) (.written 0 0)) client = step (.written 0 0) client := rfl
    rw [hrun, hlast]
    exact ⟨by rw [hqueue, List.append_nil],hqueue,rfl⟩
  | succ n ih =>
    obtain ⟨next,rest,hqueue⟩ := List.exists_cons_of_length_eq_add_one hn
    have hnext : step (.written 0 0) client = { client with
        inFlight := [next]
        writing := true
        writeQueue := rest
        handed := client.handed++[next] } := by
      simp [step, onWrite, startWrite, hopen, hqueue, hflying]
    have hrest : rest.length = n := by
      rw [hqueue] at hn
      exact Nat.succ.inj hn
    have hall : client.handed++client.writeQueue = client.handed++[next]++rest := by
      rw [hqueue, List.append_assoc, List.singleton_append]
    rw [List.replicate_succ, run, hnext, hall]
    exact ih hopen rfl hrest

theorem enqueue_flying {queued done : List String} {calls : List (String × ℤ)}
    (h : client.Accounted queued calls done) (hopen : client.closed = false) (data : String) :
    ∃ first, (client.enqueueWrite data 0).closed = false ∧
      (client.enqueueWrite data 0).inFlight = [first] ∧
      (client.enqueueWrite data 0).handed++(client.enqueueWrite data 0).writeQueue =
        queued++[data] := by
  have horder : client.handed++(client.writeQueue++[data]) = queued++[data] := by
    rw [← List.append_assoc, h.order]
  cases hwriting : client.writing with
  | true =>
    have hone := h.writing hopen
    rw [hwriting] at hone
    obtain ⟨first,hfirst⟩ := List.length_eq_one_iff.mp hone
    have hqueued : client.enqueueWrite data 0 =
        { client with writeQueue := client.writeQueue++[data] } := by
      simp [enqueueWrite, hopen, hwriting]
    rw [hqueued]
    exact ⟨first,hopen,hfirst,horder⟩
  | false =>
    have hnone := h.idle hopen hwriting
    obtain ⟨first,rest,hqueue⟩ := List.exists_cons_of_ne_nil
      (List.append_ne_nil_of_right_ne_nil client.writeQueue (List.cons_ne_nil data []))
    have hstart : client.enqueueWrite data 0 = { client with
        inFlight := [first]
        writing := true
        writeQueue := rest
        handed := client.handed++[first] } := by
      simp [enqueueWrite, startWrite, hopen, hwriting, hqueue, hnone]
    rw [hstart]
    refine ⟨first,hopen,rfl,?_⟩
    rw [List.append_assoc, List.singleton_append, ← hqueue, horder]

end Recovery

theorem connected_accounted : connected.Accounted [] [] [] where
  order := rfl
  handed := rfl
  sent := rfl
  single := Nat.zero_le 1
  writing _ := rfl
  waiting _ h := absurd rfl h

/-- Whatever `uv_write` returns no string is handed over twice or out of turn and those of failed
calls alone are lost. What such a call leaves behind goes out with the next string, if from then
on the calls succeed. -/
theorem failed_writes (events : List WriteEvent) :
    let client := run events connected
    let queued := collect queuedBy events connected
    client.Accounted queued (collect calledBy events connected)
      (collect finishedBy events connected) ∧
    (client.closed = false → ∀ data, ∃ n,
      (run (events++.enqueue data 0::List.replicate n (.written 0 0)) connected).Drained
        (queued++[data])) := by
  have haccounted : (run events connected).Accounted (collect queuedBy events connected)
      (collect calledBy events connected) (collect finishedBy events connected) :=
    run_accounted events connected_accounted
  refine ⟨haccounted,fun hopen data => ?_⟩
  obtain ⟨first,hopen',hflying,horder⟩ := enqueue_flying haccounted hopen data
  refine ⟨((run events connected).enqueueWrite data 0).writeQueue.length+1,?_⟩
  rw [run_append, run, step, ← horder]
  exact callbacks_drain hopen' hflying rfl

/-- The second of three writes fails and the third waits until there is a fourth. -/
theorem second_write_fails :
    let events : List WriteEvent := [.enqueue "15\n" 0,.enqueue "16\n" 0,
      .enqueue "17 [DONE]\n" 0,.written 0 (-32)]
    (run events connected).handed = ["15\n","16\n"] ∧
    (run events connected).writeQueue = ["17 [DONE]\n"] ∧
    (run events connected).inFlight = [] ∧
    ∃ n, (run (events++.enqueue "18\n" 0::List.replicate n (.written 0 0)) connected).Drained
      ["15\n","16\n","17 [DONE]\n","18\n"] := by
  refine ⟨rfl,rfl,rfl,?_⟩
  exact (failed_writes [.enqueue "15\n" 0,.enqueue "16\n" 0,.enqueue "17 [DONE]\n" 0,
    .written 0 (-32)]).2 rfl "18\n"

end ClientWrites

end MiniLlm

import Mathlib.Data.List.ReduceOption
import MiniLlm.Capacity
import MiniLlm.ReadDelivery
import MiniLlm.Routing

/-!
# What a client is sent

Responses carry no id on the wire. A client is sent the texts of the
responses to its own lines, in the order in which they were pushed, and a
refusal for each line that is no request, whatever the other clients and the
scheduler do in between.
-/

set_option autoImplicit false

namespace MiniLlm

open Scheduler

variable {P A B : Type*}

namespace EventLoop

def sentText : Option Response → String
  | none => "invalid request\n"
  | some resp => responseText resp

def Prompts (s : EventLoop P A B) (x : AcceptedLine P) (prompt : List ℤ) : Prop :=
  s.scheduler.board.Asked
    (Request.new (ServerContext.asInt x.key) prompt ServerContext.defaultMaxNewTokens)

section Accepted

variable {s t : EventLoop P A B} {client : P} {req : Request}

theorem LineAccepted.asked (ht : LineAccepted s t client req) :
    t.scheduler.board.requests = (.request,req) ::ₘ s.scheduler.board.requests := by
  rw [ht.scheduler, submit_board]

theorem LineAccepted.prompts (ht : LineAccepted s t client req) {x : AcceptedLine P}
    {prompt : List ℤ} (h : s.Prompts x prompt) : t.Prompts x prompt := by
  obtain ⟨y,hy,hask⟩ := h
  refine ⟨y,?_,hask⟩
  rw [ht.asked]
  exact Multiset.mem_cons_of_mem hy

theorem RoutingInv.line_id (h : s.RoutingInv) (hn : s.accepted.length < 2^31) {x : AcceptedLine P}
    (hx : x ∈ s.accepted) (prompt : List ℤ) (maxNewTokens : ℤ) :
    (Request.new (ServerContext.asInt x.key) prompt maxNewTokens).requestId = x.key := by
  obtain ⟨_,_,_,hid⟩ := h.counted.key hx
  exact hid.symm.trans (h.counted.keys hn hx)

end Accepted

variable [DecidableEq P]

def linesOf (s : EventLoop P A B) (client : P) : List (AcceptedLine P) :=
  s.accepted.filter fun x => x.client = client

def answersTo (s : EventLoop P A B) (client : P) (resp : Response) : Bool :=
  decide (∃ x ∈ s.linesOf client, x.key = resp.requestId)

/-- What a client has been sent for its lines. -/
structure Transcript (client : P) (lines : List (List UInt8)) (log : List (Option Response))
    (s : EventLoop P A B) : Prop where
  prompts : List.Forall₂ s.Prompts (s.linesOf client) (requestsOf lines)
  refused : log.countP Option.isNone = (repliesOf lines).length
  answered : log.reduceOption =
    (s.scheduler.responses.take s.handled).filter (s.answersTo client)
  sent : s.enqueued client = log.map sentText

section Lines

variable {s t : EventLoop P A B} {client other : P} {req : Request}

theorem mem_lines {x : AcceptedLine P} :
    x ∈ s.linesOf client ↔ x ∈ s.accepted ∧ x.client = client := by
  rw [linesOf, List.mem_filter, decide_eq_true_iff]

theorem answers_line (client : P) (h : s.Counted) (hn : s.accepted.length < 2^31)
    {x : AcceptedLine P} (hx : x ∈ s.accepted) {resp : Response} (hkey : x.key = resp.requestId) :
    s.answersTo client resp = decide (x.client = client) := by
  rw [answersTo, decide_eq_decide]
  constructor
  · rintro ⟨y,hy,hkey'⟩
    obtain ⟨hy,hclient⟩ := mem_lines.mp hy
    rw [h.unique hn hx hy (hkey.trans hkey'.symm), hclient]
  · exact fun hclient => ⟨x,mem_lines.mpr ⟨hx,hclient⟩,hkey⟩

theorem on_line_asks (s : EventLoop P A B) (client : P) {line : List UInt8}
    (h : parseRequest line ≠ []) : LineAccepted s (s.onLine client line) client
      (Request.new (ServerContext.asInt s.nextRequestId) (parseRequest line)
        ServerContext.defaultMaxNewTokens) := by
  have hserver := ServerContext.onLine.eq_1 client line s.toServerContext
  rw [if_neg h] at hserver
  rw [onLine, if_neg h, hserver]
  exact ⟨⟨_,_,_,rfl⟩,rfl,rfl,rfl,rfl,rfl,rfl,rfl⟩

theorem on_line_refused (s : EventLoop P A B) (client : P) {line : List UInt8}
    (h : parseRequest line = []) : s.onLine client line =
      { s with toServerContext := s.enqueueWrite client "invalid request\n" } := by
  rw [onLine, if_pos h, ServerContext.onLine, if_pos h]

/-- A line is one more at most. -/
theorem on_line_accepts (s : EventLoop P A B) (client : P) (line : List UInt8) :
    s.accepted <+: (s.onLine client line).accepted := by
  by_cases hline : parseRequest line = []
  · rw [on_line_refused s client hline]
  · rw [(on_line_asks s client hline).accepted]
    exact List.prefix_append _ _

theorem on_line_enqueued (s : EventLoop P A B) (client other : P) (line : List UInt8) :
    (s.onLine other line).enqueued client = s.enqueued client++
      if other = client then repliesOf [line] else [] := by
  rw [on_line_server]
  by_cases hline : parseRequest line = []
  · rw [ServerContext.onLine, if_pos hline]
    by_cases hclient : other = client
    · subst hclient
      rw [if_pos rfl]
      simp [ServerContext.enqueueWrite, repliesOf, hline]
    · rw [if_neg hclient, List.append_nil]
      exact Function.update_of_ne (Ne.symm hclient) _ _
  · rw [ServerContext.onLine, if_neg hline]
    simp [ServerContext.insertClient, repliesOf, hline]

theorem LineAccepted.lines (ht : LineAccepted s t other req) : t.linesOf client =
    s.linesOf client++if other = client
      then [⟨s.nextRequestId,req.requestId,other,s.serialAt other⟩] else [] := by
  rw [linesOf, ht.accepted, List.filter_append, linesOf]
  by_cases hclient : other = client
  · rw [if_pos hclient]
    simp [hclient]
  · rw [if_neg hclient]
    simp [hclient]

theorem LineAccepted.answers (ht : LineAccepted s t other req) (h : s.RoutingInv)
    (hn : s.accepted.length < 2^31) {resp : Response} (hresp : resp ∈ s.scheduler.responses) :
    t.answersTo client resp = s.answersTo client resp := by
  obtain ⟨x,hx,hkey⟩ := (h.tracked hn).known_response hresp
  rw [answersTo, answersTo, decide_eq_decide, ht.lines]
  constructor
  · rintro ⟨y,hy,hkey'⟩
    rcases List.mem_append.mp hy with hy | hy
    · exact ⟨y,hy,hkey'⟩
    · split at hy
      · obtain rfl := List.mem_singleton.mp hy
        exact absurd (hkey.trans hkey'.symm) (h.counted.fresh hn hx)
      · cases hy
  · exact fun ⟨y,hy,hkey'⟩ => ⟨y,List.mem_append_left _ hy,hkey'⟩

theorem LineAccepted.answered (ht : LineAccepted s t other req) (h : s.RoutingInv)
    (hn : s.accepted.length < 2^31) :
    (t.scheduler.responses.take t.handled).filter (t.answersTo client) =
      (s.scheduler.responses.take s.handled).filter (s.answersTo client) := by
  rw [ht.scheduler, ht.handled]
  exact List.filter_congr fun resp hresp => ht.answers h hn (List.mem_of_mem_take hresp)

end Lines

section Events

variable {kv : KvAllocator A} {be : InferenceBackend B} {s t : EventLoop P A B} {client : P}
  {lines : List (List UInt8)} {log : List (Option Response)}

theorem Transcript.same (h : Transcript client lines log s) (hs : t.scheduler = s.scheduler)
    (ha : t.accepted = s.accepted) (hn : t.handled = s.handled)
    (he : t.enqueued client = s.enqueued client) : Transcript client lines log t := by
  have hlines : t.linesOf client = s.linesOf client := by rw [linesOf, linesOf, ha]
  refine ⟨?_,h.refused,?_,he.trans h.sent⟩
  · unfold Prompts
    rw [hs, hlines]
    exact h.prompts
  · have hanswers : t.answersTo client = s.answersTo client := by
      funext resp
      unfold answersTo
      rw [hlines]
    rw [hs, hn, hanswers]
    exact h.answered

theorem Transcript.line (h : Transcript client lines log s) (hs : s.RoutingInv)
    {line : List UInt8} (hn : (s.onLine client line).accepted.length < 2^31) :
    ∃ more, Transcript client (lines++[line]) more (s.onLine client line) := by
  have hold := (on_line_accepts s client line).length_le.trans_lt hn
  have hsent := on_line_enqueued s client client line
  rw [if_pos rfl, h.sent] at hsent
  by_cases hline : parseRequest line = []
  · have hrequests : requestsOf (lines++[line]) = requestsOf lines := by
      simp [requestsOf, hline]
    have hreply : repliesOf [line] = ["invalid request\n"] := by
      simp [repliesOf, hline]
    have hserver := on_line_refused s client hline
    refine ⟨log++[none],?_,?_,?_,?_⟩
    · rw [hrequests, hserver]
      exact h.prompts
    · rw [List.countP_append, h.refused, replies_append, hreply, List.length_append]
      rfl
    · rw [List.reduceOption_append, h.answered, hserver]
      exact List.append_nil _
    · rw [hsent, hreply, List.map_append]
      rfl
  · have ht := on_line_asks s client hline
    have hreply : repliesOf [line] = [] := by
      simp [repliesOf, hline]
    have hrequest : requestsOf [line] = [parseRequest line] := by
      simp [requestsOf, hline]
    refine ⟨log,?_,?_,?_,?_⟩
    · rw [requests_append, hrequest, ht.lines, if_pos rfl]
      refine List.rel_append (h.prompts.imp fun _ _ => ht.prompts) (.cons ?_ .nil)
      refine ⟨(.request,_),?_,.refl _⟩
      rw [ht.asked]
      exact Multiset.mem_cons_self _ _
    · rw [replies_append, hreply, List.append_nil, h.refused]
    · rw [h.answered, ht.answered hs hold]
    · rw [hsent, hreply, List.append_nil]

theorem Transcript.other_line (h : Transcript client lines log s) (hs : s.RoutingInv)
    {other : P} (ho : other ≠ client) {line : List UInt8}
    (hn : (s.onLine other line).accepted.length < 2^31) :
    Transcript client lines log (s.onLine other line) := by
  have hold := (on_line_accepts s other line).length_le.trans_lt hn
  have hsent := on_line_enqueued s client other line
  rw [if_neg ho, List.append_nil] at hsent
  by_cases hline : parseRequest line = []
  · have hparts : (s.onLine other line).scheduler = s.scheduler ∧
        (s.onLine other line).accepted = s.accepted ∧
        (s.onLine other line).handled = s.handled := by
      rw [on_line_refused s other hline]
      exact ⟨rfl,rfl,rfl⟩
    exact h.same hparts.1 hparts.2.1 hparts.2.2 hsent
  · have ht := on_line_asks s other hline
    refine ⟨?_,h.refused,?_,hsent.trans h.sent⟩
    · rw [ht.lines, if_neg ho, List.append_nil]
      exact h.prompts.imp fun _ _ => ht.prompts
    · rw [h.answered, ht.answered hs hold]

theorem on_response_enqueued (s : EventLoop P A B) (client : P) {resp : Response}
    (garbage : Bool) {other : P} (h : s.reqToClient resp.requestId = some other) :
    (s.onResponse resp garbage).enqueued client = s.enqueued client++
      if other = client ∧ s.isClosed other garbage = false then [responseText resp] else [] := by
  have henqueued : (s.onResponse resp garbage).enqueued =
      if s.isClosed other garbage then s.enqueued
      else (s.enqueueWrite other (responseText resp)).enqueued := by
    unfold onResponse
    dsimp only
    rw [h]
    dsimp only
    have hclosed : isClosed { s with handled := s.handled+1 } other garbage =
      s.isClosed other garbage := rfl
    rw [hclosed]
    split <;> split <;> rfl
  rw [henqueued]
  by_cases hclosed : s.isClosed other garbage = true
  · rw [if_pos hclosed, if_neg (by simp [hclosed]), List.append_nil]
  · rw [if_neg hclosed]
    by_cases hclient : other = client
    · subst hclient
      rw [if_pos ⟨rfl,by simpa using hclosed⟩]
      exact Function.update_self _ _ _
    · rw [if_neg fun hboth => hclient hboth.1, List.append_nil]
      exact Function.update_of_ne (Ne.symm hclient) _ _

theorem Transcript.response (h : Transcript client lines log s) (hs : s.RoutingInv)
    (hn : s.accepted.length < 2^31) (hopen : s.linesOf client ≠ [] →
      ∃ c, s.connections client = some c ∧ c.closed = false) {resp : Response}
    (hresp : s.scheduler.responses[s.handled]? = some resp) (garbage : Bool) :
    ∃ more, Transcript client lines more (s.onResponse resp garbage) := by
  obtain ⟨x,hx,hkey,hentry,_⟩ := (hs.tracked hn).found hresp
  have hsent := on_response_enqueued s client garbage hentry
  have ht := on_response_handled s resp garbage
  generalize s.onResponse resp garbage = t at hsent ht
  have hlines : t.linesOf client = s.linesOf client := by rw [linesOf, linesOf, ht.accepted]
  have hanswers : t.answersTo client = s.answersTo client := by
    funext other
    unfold answersTo
    rw [hlines]
  have htake : (t.scheduler.responses.take t.handled).filter (t.answersTo client) =
      (s.scheduler.responses.take s.handled).filter (s.answersTo client)++
        [resp].filter (s.answersTo client) := by
    rw [ht.scheduler, ht.handled, hanswers, List.take_add_one, hresp, List.filter_append]
    rfl
  have hprompts : List.Forall₂ t.Prompts (t.linesOf client) (requestsOf lines) := by
    unfold Prompts
    rw [ht.scheduler, hlines]
    exact h.prompts
  have hmine := answers_line client hs.counted hn hx hkey
  by_cases hclient : x.client = client
  · obtain ⟨c,hc,hclosed⟩ := hopen (List.ne_nil_of_mem (mem_lines.mpr ⟨hx,hclient⟩))
    have hlive : s.isClosed x.client garbage = false := by
      rw [isClosed, hclient, hc]
      exact hclosed
    rw [if_pos ⟨hclient,hlive⟩] at hsent
    rw [decide_eq_true hclient] at hmine
    refine ⟨log++[some resp],hprompts,?_,?_,?_⟩
    · rw [List.countP_append, h.refused]
      rfl
    · rw [htake, List.reduceOption_append, h.answered, List.filter_cons_of_pos hmine]
      rfl
    · rw [hsent, h.sent, List.map_append]
      rfl
  · rw [if_neg fun hboth => hclient hboth.1, List.append_nil] at hsent
    rw [decide_eq_false hclient] at hmine
    refine ⟨log,hprompts,h.refused,?_,hsent.trans h.sent⟩
    rw [htake, h.answered, List.filter_cons_of_neg (ne_true_of_eq_false hmine), List.filter_nil,
      List.append_nil]

/-- The scheduler pushes responses behind those that are handled. -/
theorem Transcript.work (h : Transcript client lines log s) (hs : s.Tracked)
    {next : Scheduler A B}
    (hstep : MiniLlm.Step kv be SameId ServerContext.NothingNew s.scheduler next) :
    Transcript client lines log { s with scheduler := next } := by
  refine ⟨h.prompts.imp fun _ _ => steps_asked (.single hstep),h.refused,?_,h.sent⟩
  obtain ⟨more,hmore⟩ := step_responses hstep
  have htake : next.responses.take s.handled = s.scheduler.responses.take s.handled := by
    rw [← hmore, List.take_append_of_le_length hs.handled]
  rw [h.answered]
  exact congrArg (List.filter (s.answersTo client)) htake.symm

end Events

section Runs

variable {client : P}

theorem on_read_few {client : P} (J : List (List UInt8) → EventLoop P A B → Prop)
    (hset : ∀ lines (s : EventLoop P A B) buffer, J lines s →
      J lines { s with toServerContext := s.setBuffer client buffer })
    (hline : ∀ lines (s : EventLoop P A B) line, s.RoutingInv →
      (s.onLine client line).accepted.length < 2^31 → J lines s →
      J (lines++[line]) (s.onLine client line)) {s : EventLoop P A B}
    (h : s.RoutingInv) (lines : List (List UInt8)) (hs : s.accepted.length < 2^31 → J lines s)
    (bytes : List UInt8) : (s.onRead client bytes).RoutingInv ∧
      ((s.onRead client bytes).accepted.length < 2^31 →
        J (lines++completeLines (s.readBuffer client++bytes)) (s.onRead client bytes)) := by
  refine ((reader client).on_read_lines (fun lines (s : EventLoop P A B) => s.RoutingInv ∧
    (s.accepted.length < 2^31 → J lines s)) ?_ ?_ lines ⟨h,hs⟩ bytes).1
  · exact fun lines s buffer hs => ⟨hs.1.same rfl rfl rfl rfl rfl rfl,fun hn =>
      hset lines s buffer (hs.2 hn)⟩
  · intro lines s line hs
    refine ⟨hs.1.on_line client line,fun hn => ?_⟩
    have hold := (on_line_accepts s client line).length_le.trans_lt hn
    exact hline lines s line hs.1 hn (hs.2 hold)

inductive Heard (kv : KvAllocator A) (be : InferenceBackend B) (client : P)
    (start : EventLoop P A B) : List UInt8 → EventLoop P A B → Prop
  | start : Heard kv be client start [] start
  | read (stream bytes : List UInt8) (s t : EventLoop P A B)
      (h : Heard kv be client start stream s) (hs : Step kv be s (.read client bytes) t) :
      Heard kv be client start (stream++bytes) t
  | other (stream : List UInt8) (s t : EventLoop P A B) (e : Event P A B)
      (h : Heard kv be client start stream s) (hr : ∀ bytes, e ≠ .read client bytes)
      (he : e ≠ .readEnd client) (hs : Step kv be s e t) : Heard kv be client start stream t

structure Listening (client : P) (stream : List UInt8) (s : EventLoop P A B) : Prop where
  routing : s.RoutingInv
  transcript : s.accepted.length < 2^31 →
    ∃ log, Transcript client (completeLines stream) log s
  buffer : s.readBuffer client = lastLine stream
  opened : ∀ c, s.connections client = some c →
    c.closed = false ∧ (c.closing = true → stream = [])
  absent : s.connections client = none → stream = []

variable {kv : KvAllocator A} {be : InferenceBackend B} {s t : EventLoop P A B}
  {stream : List UInt8}

theorem Listening.read (h : Listening client stream s) (bytes : List UInt8)
    (hc : ∀ c, s.connections client = some c → c.closing = false)
    (hopen : s.connections client ≠ none) :
    Listening client (stream++bytes) (s.onRead client bytes) := by
  have hread := on_read_few (fun lines s => ∃ log, Transcript client lines log s)
    (fun _ _ _ ⟨log,hlog⟩ => ⟨log,hlog.same rfl rfl rfl rfl⟩)
    (fun _ _ _ hrouting hn ⟨_,hlog⟩ => hlog.line hrouting hn) h.routing _ h.transcript bytes
  obtain ⟨hlines,hlast⟩ := lines_append stream bytes
  rw [h.buffer, ← hlines] at hread
  refine ⟨hread.1,hread.2,?_,?_,?_⟩
  · rw [on_read_server, (ServerContext.on_read_framed _ _ _).buffer, h.buffer, ← hlast]
  · rw [on_read_connections]
    intro c hsome
    refine ⟨(h.opened c hsome).1,fun hclosing => ?_⟩
    rw [hc c hsome] at hclosing
    cases hclosing
  · rw [on_read_connections]
    exact fun hnone => absurd hnone hopen

theorem Listening.other_read (h : Listening client stream s) {other : P} (ho : other ≠ client)
    (bytes : List UInt8) : Listening client stream (s.onRead other bytes) := by
  have hread := on_read_few
    (fun _ s => ∃ log, Transcript client (completeLines stream) log s)
    (fun _ _ _ ⟨log,hlog⟩ => ⟨log,hlog.same rfl rfl rfl rfl⟩)
    (fun _ _ _ hrouting hn ⟨log,hlog⟩ => ⟨log,hlog.other_line hrouting ho hn⟩)
    h.routing [] h.transcript bytes
  refine ⟨hread.1,hread.2,?_,?_,?_⟩
  · rw [on_read_server, ServerContext.on_read_other _ _ _ _ (Ne.symm ho)]
    exact h.buffer
  all_goals rw [on_read_connections]
  · exact h.opened
  · exact h.absent

theorem Listening.same (h : Listening client stream s) (hs : t.scheduler = s.scheduler)
    (ha : t.accepted = s.accepted) (he : t.reqToClient = s.reqToClient) (ho : t.owner = s.owner)
    (hi : t.nextRequestId = s.nextRequestId) (hn : t.handled = s.handled)
    (hc : t.connections client = s.connections client)
    (hb : t.readBuffer client = s.readBuffer client)
    (hsent : t.enqueued client = s.enqueued client) : Listening client stream t := by
  refine ⟨h.routing.same hs ha he ho hi hn,fun hfew => ?_,hb.trans h.buffer,?_,?_⟩
  · obtain ⟨log,hlog⟩ := h.transcript (ha ▸ hfew)
    exact ⟨log,hlog.same hs ha hn hsent⟩
  all_goals rw [hc]
  · exact h.opened
  · exact h.absent

theorem Listening.connect (h : Listening client stream s) (hnone : s.connections client = none)
    (reading : Bool) : Listening client stream (s.onNewConnection client reading) := by
  have hconnections : (s.onNewConnection client reading).connections client =
      some ⟨s.nextSerial,false,!reading⟩ := Function.update_self _ _ _
  have hstream := h.absent hnone
  subst hstream
  refine ⟨h.routing.same rfl rfl rfl rfl rfl rfl,fun hfew => ?_,Function.update_self _ _ _,?_,?_⟩
  · obtain ⟨log,hlog⟩ := h.transcript hfew
    have hlines : s.linesOf client = [] := by
      have hprompts := hlog.prompts
      rw [(lines_none [] List.not_mem_nil).1] at hprompts
      exact List.forall₂_nil_right_iff.mp hprompts
    refine ⟨[],hlog.prompts,?_,?_,Function.update_self _ _ _⟩
    · rw [(lines_none [] List.not_mem_nil).1]
      rfl
    · have hno (resp : Response) : ¬s.answersTo client resp = true := by
        rw [answersTo, hlines, decide_eq_true_iff]
        exact fun ⟨x,hx,_⟩ => List.not_mem_nil hx
      exact (List.filter_eq_nil_iff.mpr fun resp _ => hno resp).symm
  · intro c hc
    rw [hconnections] at hc
    obtain rfl := Option.some.inj hc
    exact ⟨rfl,fun _ => rfl⟩
  · exact fun _ => rfl

theorem Listening.response (h : Listening client stream s) {resp : Response}
    (hresp : s.scheduler.responses[s.handled]? = some resp) (garbage : Bool) :
    Listening client stream (s.onResponse resp garbage) := by
  obtain ⟨hconnections,_,hbuffer⟩ := on_response_frame s resp garbage
  refine ⟨h.routing.on_response hresp garbage,fun hfew => ?_,?_,?_,?_⟩
  · rw [(on_response_handled s resp garbage).accepted] at hfew
    obtain ⟨log,hlog⟩ := h.transcript hfew
    apply hlog.response h.routing hfew _ hresp
    intro hlines
    cases hc : s.connections client with
    | some c => exact ⟨c,rfl,(h.opened c hc).1⟩
    | none =>
      have hprompts := hlog.prompts
      rw [h.absent hc, (lines_none [] List.not_mem_nil).1] at hprompts
      exact absurd (List.forall₂_nil_right_iff.mp hprompts) hlines
  · rw [hbuffer]
    exact h.buffer
  all_goals rw [hconnections]
  · exact h.opened
  · exact h.absent

theorem Listening.work (h : Listening client stream s) {next : Scheduler A B}
    (hstep : MiniLlm.Step kv be SameId ServerContext.NothingNew s.scheduler next) :
    Listening client stream { s with scheduler := next } := by
  refine ⟨h.routing.work hstep,fun hfew => ?_,h.buffer,h.opened,h.absent⟩
  obtain ⟨log,hlog⟩ := h.transcript hfew
  exact ⟨log,hlog.work (h.routing.tracked hfew) hstep⟩

theorem Listening.closed (h : Listening client stream s) {c : ClientConnection}
    (hc : s.connections client = some c) (hclosing : c.closing = true) :
    Listening client stream (s.onClientClosed client) := by
  have hconnections : (s.onClientClosed client).connections client = none :=
    Function.update_self _ _ _
  refine ⟨h.routing.same rfl rfl rfl rfl rfl rfl,fun hfew => ?_,h.buffer,?_,fun _ => ?_⟩
  · obtain ⟨log,hlog⟩ := h.transcript hfew
    exact ⟨log,hlog.same rfl rfl rfl rfl⟩
  · intro c hsome
    rw [hconnections] at hsome
    cases hsome
  · exact (h.opened c hc).2 hclosing

theorem heard_listening {a : A} {b : B} {async : Bool}
    (h : Heard kv be client (listening (started a b async)) stream s) :
    Listening client stream s := by
  induction h with
  | start =>
    have hrouting := routing_inv (Reached.start (P := P) : Reached kv be AnyEvent
      (listening (started a b async)) _)
    refine ⟨hrouting,fun _ => ⟨[],?_,?_,rfl,rfl⟩,rfl,nofun,fun _ => rfl⟩
    all_goals rw [(lines_none [] List.not_mem_nil).1]
    · exact .nil
    · rfl
  | read stream bytes s t _ hs ih =>
    cases hs with
    | read _ _ c hc hopen =>
      apply ih.read
      · intro found hfound
        rw [hc] at hfound
        rw [← Option.some.inj hfound, hopen]
      · rw [hc]
        exact Option.some_ne_none c
  | other stream s t e _ hr he hs ih =>
    cases hs with
    | connect other reading hnone =>
      by_cases ho : other = client
      · subst ho
        exact ih.connect hnone reading
      · have hframe {β : Type _} (f : P → β) (x : β) :
            Function.update f other x client = f client := Function.update_of_ne (Ne.symm ho) _ _
        exact ih.same rfl rfl rfl rfl rfl rfl (hframe _ _) (hframe _ _) (hframe _ _)
    | read other bytes c hc hopen =>
      have ho : other ≠ client := by
        rintro rfl
        exact hr bytes rfl
      exact ih.other_read ho bytes
    | readEnd other c hc hopen =>
      have ho : client ≠ other := by
        rintro rfl
        exact he rfl
      exact ih.same rfl rfl rfl rfl rfl rfl (Function.update_of_ne ho _ _) rfl rfl
    | clientClosed other c hc hclosing =>
      by_cases ho : client = other
      · subst ho
        exact ih.closed hc hclosing
      · exact ih.same rfl rfl rfl rfl rfl rfl (Function.update_of_ne ho _ _) rfl rfl
    | response resp garbage hresp => exact ih.response hresp garbage
    | work next hstep => exact ih.work hstep

/-- Whatever happens in between, a client that stays is sent a refusal for each of its lines that
is no request and the responses to its own requests, which are those of its lines, and nothing
else. -/
theorem client_transcript (kv : KvAllocator A) (be : InferenceBackend B) (a : A) (b : B)
    (async : Bool) (client : P) (stream : List UInt8) (s : EventLoop P A B)
    (h : Heard kv be client (listening (started a b async)) stream s)
    (hn : s.accepted.length < 2^31) :
    ∃ log, Transcript client (completeLines stream) log s :=
  (heard_listening h).transcript hn

theorem Heard.works {start : EventLoop P A B} {next : Scheduler A B}
    (h : Heard kv be client start stream s)
    (hs : Steps kv be SameId ServerContext.NothingNew s.scheduler next) :
    Heard kv be client start stream { s with scheduler := next } := by
  induction hs with
  | refl => exact h
  | tail _ hstep ih => exact ih.other _ _ _ (.work _) nofun nofun (.work _ _ hstep)

end Runs

section OneClient

theorem one_told_heard : Heard mockKvAllocator mockBackend () (listening (started 0 () true))
    [53,newline] oneTold := by
  let start : EventLoop Unit ℕ Unit := listening (started 0 () true)
  let connected := onNewConnection start () true
  have hconnected : Heard mockKvAllocator mockBackend () start [] connected :=
    .other _ _ _ (.connect () true) .start nofun nofun (.connect _ () true rfl)
  have hasked : Heard mockKvAllocator mockBackend () start [53,newline] oneAsked :=
    .read [] [53,newline] _ _ hconnected (.read _ () _ ⟨0,false,false⟩ rfl rfl)
  exact (hasked.works one_told_steps).other _ _ _ (.response _ false)
    nofun nofun (.response _ _ false (by decide))

theorem one_told_transcript : ∃ log, Transcript () (completeLines [53,newline]) log oneTold :=
  client_transcript mockKvAllocator mockBackend 0 () true () _ oneTold one_told_heard (by decide)

end OneClient

end EventLoop

end MiniLlm

import MiniLlm.EventLoop
import MiniLlm.QuietPhases

/-!
# Whom a response is routed to

The key of an entry is the counter, a `uint64_t`; the id of the request is
the same number after a detour through an `int`. Up to `2^31` they agree, and
every response finds the entry of the line it answers.
-/

set_option autoImplicit false

namespace MiniLlm

open Scheduler

variable {P A B : Type*}

theorem as_int_small (k : ℕ) (hk : k < 2^31) :
    (ServerContext.asInt (UInt64.ofNat k)).toInt64.toUInt64 = UInt64.ofNat k := by
  have hmod : k%2^64%2^32 = k := by omega
  apply UInt64.toBitVec_inj.mp
  show BitVec.signExtend 64 (BitVec.setWidth 32 (BitVec.ofNat 64 k)) = BitVec.ofNat 64 k
  rw [BitVec.signExtend_eq_setWidth_of_msb_false]
  · apply BitVec.eq_of_toNat_eq
    simp only [BitVec.toNat_setWidth, BitVec.toNat_ofNat, hmod]
  · rw [BitVec.msb_eq_false_iff_two_mul_lt, BitVec.toNat_setWidth, BitVec.toNat_ofNat, hmod]
    omega

theorem of_nat_inj {j k : ℕ} (hj : j < 2^64) (hk : k < 2^64)
    (h : UInt64.ofNat j = UInt64.ofNat k) : j = k := by
  have hnat := congrArg UInt64.toNat h
  rw [UInt64.toNat_ofNat', UInt64.toNat_ofNat', Nat.mod_eq_of_lt hj, Nat.mod_eq_of_lt hk] at hnat
  exact hnat

theorem filter_earlier {β : Type*} (p : β → Bool) (xs : List β) (n : ℕ) (x y : β)
    (hx : x ∈ xs.take n) (hy : xs[n]? = some y) (hpx : p x = true) (hpy : p y = true) :
    x ∈ (xs.filter p).dropLast := by
  obtain ⟨hn,rfl⟩ := List.getElem?_eq_some_iff.mp hy
  have hsplit : xs = xs.take n++xs[n]::xs.drop (n+1) := by
    rw [List.cons_getElem_drop_succ, List.take_append_drop]
  rw [hsplit, List.filter_append, List.filter_cons_of_pos hpy,
    List.dropLast_append_of_ne_nil (List.cons_ne_nil _ _)]
  exact List.mem_append_left _ (List.mem_filter.mpr ⟨hx,hpx⟩)

namespace EventLoop

/-- What the ids are for: each request has the id of its entry and no other request has it, every
response built for it carries that id, and the next response finds the entry that was made for the
connection of its line. -/
structure Routed (s : EventLoop P A B) : Prop where
  keys : ∀ x ∈ s.accepted, x.requestId = x.key
  distinct : (s.accepted.map AcceptedLine.requestId).Nodup
  built : ∀ p, ∀ r ∈ s.scheduler.queues p, (∃ x ∈ s.accepted, x.requestId = r.requestId) ∧
    ∀ token done, (Response.new r.requestId token done).requestId = r.requestId
  found : ∀ resp, s.scheduler.responses[s.handled]? = some resp →
    ∃ x ∈ s.accepted, x.requestId = resp.requestId ∧
      s.reqToClient resp.requestId = some x.client ∧ s.owner resp.requestId = x.serial

structure Counted (s : EventLoop P A B) : Prop where
  next : s.nextRequestId = UInt64.ofNat (s.accepted.length+1)
  lines : ∀ (i : ℕ) x, s.accepted[i]? = some x → x.key = UInt64.ofNat (i+1) ∧
    x.requestId = (ServerContext.asInt x.key).toInt64.toUInt64

structure Tracked (s : EventLoop P A B) : Prop where
  stream : StreamInv s.scheduler.board
  held : ∀ r, s.scheduler.Holds r → ∃ x ∈ s.accepted, x.key = r.requestId
  known : ∀ id client, s.reqToClient id = some client →
    ∃ x ∈ s.accepted, x.key = id ∧ x.client = client
  owners : ∀ x ∈ s.accepted, s.owner x.key = x.serial
  erased : ∀ resp ∈ s.scheduler.responses.take s.handled, resp.finished = true →
    s.reqToClient resp.requestId = none
  waiting : ∀ x ∈ s.accepted,
    (∀ resp ∈ s.scheduler.responses.take s.handled, resp.requestId = x.key →
      resp.finished = false) → s.reqToClient x.key = some x.client
  handled : s.handled ≤ s.scheduler.responses.length

structure RoutingInv (s : EventLoop P A B) : Prop where
  counted : s.Counted
  tracked : s.accepted.length < 2^31 → s.Tracked

section Facts

variable {s : EventLoop P A B}

theorem Counted.key (h : s.Counted) {x : AcceptedLine P} (hx : x ∈ s.accepted) :
    ∃ i < s.accepted.length, x.key = UInt64.ofNat (i+1) ∧
      x.requestId = (ServerContext.asInt x.key).toInt64.toUInt64 := by
  obtain ⟨i,hi⟩ := List.mem_iff_getElem?.mp hx
  exact ⟨i,(List.getElem?_eq_some_iff.mp hi).1,h.lines i x hi⟩

theorem Counted.keys (h : s.Counted) (hn : s.accepted.length < 2^31) {x : AcceptedLine P}
    (hx : x ∈ s.accepted) : x.requestId = x.key := by
  obtain ⟨i,hi,hkey,hid⟩ := h.key hx
  rw [hid, hkey]
  exact as_int_small _ (by omega)

theorem Counted.fresh (h : s.Counted) (hn : s.accepted.length < 2^31) {x : AcceptedLine P}
    (hx : x ∈ s.accepted) : x.key ≠ s.nextRequestId := by
  obtain ⟨i,hi,hkey,_⟩ := h.key hx
  rw [hkey, h.next]
  intro heq
  have hsame := of_nat_inj (by omega) (by omega) heq
  omega

theorem Counted.distinct (h : s.Counted) (hn : s.accepted.length < 2^31) :
    (s.accepted.map AcceptedLine.requestId).Nodup := by
  rw [List.nodup_iff_injective_getElem]
  intro i j hij
  have hline (i : Fin (s.accepted.map AcceptedLine.requestId).length) :
      i.val < 2^31 ∧ (s.accepted.map AcceptedLine.requestId)[i] = UInt64.ofNat (i.val+1) := by
    have hi : i.val < s.accepted.length := by simpa using i.isLt
    obtain ⟨hkey,_⟩ := h.lines i _ (List.getElem?_eq_getElem hi)
    refine ⟨by omega,?_⟩
    rw [← hkey, ← h.keys hn (List.getElem_mem hi)]
    exact List.getElem_map _
  have hsame := of_nat_inj (by have := (hline i).1; omega) (by have := (hline j).1; omega)
    ((hline i).2.symm.trans (hij.trans (hline j).2))
  exact Fin.ext (by omega)

theorem Counted.unique (h : s.Counted) (hn : s.accepted.length < 2^31) {x y : AcceptedLine P}
    (hx : x ∈ s.accepted) (hy : y ∈ s.accepted) (hkey : x.key = y.key) : x = y := by
  obtain ⟨i,hi⟩ := List.mem_iff_getElem?.mp hx
  obtain ⟨j,hj⟩ := List.mem_iff_getElem?.mp hy
  have hi' := (List.getElem?_eq_some_iff.mp hi).1
  have hj' := (List.getElem?_eq_some_iff.mp hj).1
  rw [(h.lines i x hi).1, (h.lines j y hj).1] at hkey
  have hij := of_nat_inj (by omega) (by omega) hkey
  obtain rfl : i = j := by omega
  exact Option.some.inj (hi.symm.trans hj)

theorem Tracked.known_response (h : s.Tracked) {resp : Response}
    (hresp : resp ∈ s.scheduler.responses) : ∃ x ∈ s.accepted, x.key = resp.requestId := by
  obtain ⟨⟨p,r⟩,hr,hid⟩ := h.stream.owned resp hresp
  obtain ⟨x,hx,hkey⟩ := h.held r ⟨p,(mem_held s.scheduler p r).mp hr⟩
  exact ⟨x,hx,hkey.trans hid⟩

/-- The next response finds the entry of the line that produced its request. -/
theorem Tracked.found (h : s.Tracked) {resp : Response}
    (hresp : s.scheduler.responses[s.handled]? = some resp) :
    ∃ x ∈ s.accepted, x.key = resp.requestId ∧
      s.reqToClient resp.requestId = some x.client ∧ s.owner resp.requestId = x.serial := by
  obtain ⟨⟨p,r⟩,hr,hid⟩ := h.stream.owned resp (List.mem_of_getElem? hresp)
  obtain ⟨x,hx,hkey⟩ := h.held r ⟨p,(mem_held s.scheduler p r).mp hr⟩
  have hsame : x.key = resp.requestId := hkey.trans hid
  refine ⟨x,hx,hsame,?_,hsame ▸ h.owners x hx⟩
  rw [← hsame]
  apply h.waiting x hx
  intro earlier hearlier heq
  apply (h.stream.streams _ hr).earlier
  dsimp only at hid ⊢
  rw [hid]
  exact filter_earlier _ _ _ _ _ hearlier hresp (decide_eq_true (heq.trans hsame))
    (decide_eq_true rfl)

theorem RoutingInv.routed_iff_few (h : s.RoutingInv) : s.Routed ↔ s.accepted.length < 2^31 := by
  constructor
  · intro hrouted
    by_contra hmany
    have hi : 2^31-1 < s.accepted.length := by omega
    obtain ⟨hkey,hid⟩ := h.counted.lines (2^31-1) _ (List.getElem?_eq_getElem hi)
    have hsame := hrouted.keys _ (List.getElem_mem hi)
    rw [hid, hkey] at hsame
    exact absurd hsame (by decide)
  · intro hn
    have htracked := h.tracked hn
    refine ⟨fun x hx => h.counted.keys hn hx,h.counted.distinct hn,?_,?_⟩
    · intro p r hr
      obtain ⟨x,hx,hkey⟩ := htracked.held r ⟨p,hr⟩
      refine ⟨⟨x,hx,(h.counted.keys hn hx).trans hkey⟩,fun token done => ?_⟩
      exact response_id _ _ _ (htracked.stream.fromInt _ ((mem_held s.scheduler p r).mpr hr))
    · intro resp hresp
      obtain ⟨x,hx,hkey,hfound⟩ := htracked.found hresp
      exact ⟨x,hx,(h.counted.keys hn hx).trans hkey,hfound⟩

end Facts

section Lines

variable {kv : KvAllocator A} {be : InferenceBackend B} {s : EventLoop P A B}

structure LineAccepted (s t : EventLoop P A B) (client : P) (req : Request) : Prop where
  built : Constructed req
  requestId : req.requestId = (ServerContext.asInt s.nextRequestId).toInt64.toUInt64
  scheduler : t.scheduler = s.scheduler.submitRequest req
  next : t.nextRequestId = s.nextRequestId+1
  accepted : t.accepted =
    s.accepted++[⟨s.nextRequestId,req.requestId,client,s.serialAt client⟩]
  entries : t.reqToClient = Function.update s.reqToClient s.nextRequestId
    (some ((s.reqToClient s.nextRequestId).getD client))
  owner : t.owner = if s.reqToClient s.nextRequestId = none
    then Function.update s.owner s.nextRequestId (s.serialAt client) else s.owner
  handled : t.handled = s.handled

theorem Counted.accept {t : EventLoop P A B} (h : s.Counted) {client : P} {req : Request}
    (ht : LineAccepted s t client req) : t.Counted := by
  constructor
  · rw [ht.next, ht.accepted, h.next, List.length_append, List.length_singleton,
      UInt64.ofNat_add (s.accepted.length+1) 1]
    rfl
  · intro i x hx
    rw [ht.accepted] at hx
    rcases Nat.lt_trichotomy i s.accepted.length with hi | rfl | hi
    · rw [List.getElem?_append_left hi] at hx
      exact h.lines i x hx
    · rw [List.getElem?_concat_length] at hx
      obtain rfl := Option.some.inj hx
      exact ⟨h.next,ht.requestId⟩
    · rw [List.getElem?_eq_none (by simpa using hi)] at hx
      cases hx

theorem RoutingInv.next_unknown (h : s.RoutingInv) (hn : s.accepted.length < 2^31) :
    s.reqToClient s.nextRequestId = none := by
  by_contra hsome
  obtain ⟨client,hclient⟩ := Option.ne_none_iff_exists'.mp hsome
  obtain ⟨x,hx,hx',_⟩ := (h.tracked hn).known _ client hclient
  exact h.counted.fresh hn hx hx'

section Accept

variable {t : EventLoop P A B} {client : P} {req : Request} (ht : LineAccepted s t client req)

include ht

theorem LineAccepted.older {x : AcceptedLine P} (hx : x ∈ s.accepted) : x ∈ t.accepted := by
  rw [ht.accepted]
  exact List.mem_append_left _ hx

theorem LineAccepted.newest :
    (⟨s.nextRequestId,req.requestId,client,s.serialAt client⟩ : AcceptedLine P) ∈ t.accepted := by
  rw [ht.accepted]
  exact List.mem_append_right _ (List.mem_singleton_self _)

theorem LineAccepted.entry {id : UInt64} (hid : id ≠ s.nextRequestId) :
    t.reqToClient id = s.reqToClient id := by
  rw [ht.entries, Function.update_of_ne hid]

theorem LineAccepted.holds {r : Request} (hr : t.scheduler.Holds r) :
    s.scheduler.Holds r ∨ r = req := by
  obtain ⟨p,hr⟩ := hr
  rw [ht.scheduler, submitRequest, push_back_queues] at hr
  split at hr
  · rcases List.mem_append.mp hr with hr | hr
    · exact .inl ⟨_,hr⟩
    · exact .inr (List.mem_singleton.mp hr)
  · exact .inl ⟨_,hr⟩

variable (h : s.RoutingInv) (hn : s.accepted.length+1 < 2^31)

include h hn

theorem RoutingInv.accepted_key : req.requestId = s.nextRequestId := by
  rw [ht.requestId, h.counted.next]
  exact as_int_small _ hn

theorem RoutingInv.accepted_new : NewRequest s.scheduler.Holds req := by
  have hold : s.accepted.length < 2^31 := by omega
  refine ⟨ht.built,fun r hr => ?_⟩
  obtain ⟨x,hx,hx'⟩ := (h.tracked hold).held r hr
  rw [h.accepted_key ht hn, ← hx']
  exact h.counted.fresh hold hx

end Accept

theorem RoutingInv.accept {t : EventLoop P A B} (h : s.RoutingInv) {client : P} {req : Request}
    (ht : LineAccepted s t client req) : t.RoutingInv := by
  refine ⟨h.counted.accept ht,fun hn => ?_⟩
  rw [ht.accepted, List.length_append, List.length_singleton] at hn
  have hold : s.accepted.length < 2^31 := by omega
  have htracked := h.tracked hold
  refine ⟨?_,?_,?_,?_,?_,?_,?_⟩
  · rw [ht.scheduler, submit_board]
    exact submit_stream htracked.stream (by rw [board_holds]; exact h.accepted_new ht hn)
  · intro r hr
    rcases ht.holds hr with hr | rfl
    · obtain ⟨x,hx,hx'⟩ := htracked.held r hr
      exact ⟨x,ht.older hx,hx'⟩
    · exact ⟨_,ht.newest,(h.accepted_key ht hn).symm⟩
  · intro id other hid
    by_cases hi : id = s.nextRequestId
    · rw [hi, ht.entries, Function.update_self, h.next_unknown hold] at hid
      exact ⟨_,ht.newest,hi.symm,Option.some.inj hid⟩
    · rw [ht.entry hi] at hid
      obtain ⟨x,hx,hx'⟩ := htracked.known id other hid
      exact ⟨x,ht.older hx,hx'⟩
  · intro x hx
    rw [ht.owner, if_pos (h.next_unknown hold)]
    rw [ht.accepted] at hx
    rcases List.mem_append.mp hx with hx | hx
    · rw [Function.update_of_ne (h.counted.fresh hold hx)]
      exact htracked.owners x hx
    · rw [List.mem_singleton.mp hx]
      exact Function.update_self _ _ _
  · intro resp hresp hdone
    rw [ht.scheduler, ht.handled] at hresp
    obtain ⟨x,hx,hkey⟩ := htracked.known_response (List.mem_of_mem_take hresp)
    rw [ht.entry (hkey ▸ h.counted.fresh hold hx)]
    exact htracked.erased resp hresp hdone
  · intro x hx hopen
    rw [ht.accepted] at hx
    rcases List.mem_append.mp hx with hx | hx
    · rw [ht.entry (h.counted.fresh hold hx)]
      apply htracked.waiting x hx
      rwa [ht.scheduler, ht.handled] at hopen
    · rw [List.mem_singleton.mp hx, ht.entries, Function.update_self, h.next_unknown hold]
      rfl
  · rw [ht.handled, ht.scheduler]
    exact htracked.handled

theorem Tracked.same {t : EventLoop P A B} (h : s.Tracked) (hs : t.scheduler = s.scheduler)
    (ha : t.accepted = s.accepted) (he : t.reqToClient = s.reqToClient) (ho : t.owner = s.owner)
    (hn : t.handled = s.handled) : t.Tracked := by
  refine ⟨?_,?_,?_,?_,?_,?_,?_⟩
  · rw [hs]
    exact h.stream
  · rw [hs, ha]
    exact h.held
  · rw [he, ha]
    exact h.known
  · rw [ho, ha]
    exact h.owners
  · rw [hs, he, hn]
    exact h.erased
  · rw [hs, ha, he, hn]
    exact h.waiting
  · rw [hs, hn]
    exact h.handled

theorem RoutingInv.same {t : EventLoop P A B} (h : s.RoutingInv) (hs : t.scheduler = s.scheduler)
    (ha : t.accepted = s.accepted) (he : t.reqToClient = s.reqToClient) (ho : t.owner = s.owner)
    (hi : t.nextRequestId = s.nextRequestId) (hn : t.handled = s.handled) : t.RoutingInv := by
  refine ⟨⟨?_,?_⟩,fun hlt => (h.tracked (ha ▸ hlt)).same hs ha he ho hn⟩
  · rw [hi, ha]
    exact h.counted.next
  · rw [ha]
    exact h.counted.lines

theorem RoutingInv.work (h : s.RoutingInv) {next : Scheduler A B}
    (hstep : MiniLlm.Step kv be SameId ServerContext.NothingNew s.scheduler next) :
    RoutingInv { s with scheduler := next } := by
  refine ⟨⟨h.counted.next,h.counted.lines⟩,fun hn => ?_⟩
  have htracked := h.tracked hn
  have hgrown := step_responses hstep
  have hids (r : Request) (hr : next.Holds r) :
      ∃ r', s.scheduler.Holds r' ∧ r'.requestId = r.requestId := by
    rw [← board_holds] at hr ⊢
    rcases step_hop hstep with hop | hsame
    · generalize next.board = c at hr hop
      cases hop with
      | submit _ hnew => exact hnew.elim
      | move a p q r₁ r₂ resps rest hb m =>
        obtain ⟨place,hr⟩ := hr
        rcases Multiset.mem_cons.mp hr with heq | hr
        · obtain ⟨rfl,rfl⟩ := Prod.mk.inj heq
          exact ⟨r₁,⟨p,hb ▸ Multiset.mem_cons_self _ _⟩,m.requestId.symm⟩
        · exact ⟨r,⟨place,hb ▸ Multiset.mem_cons_of_mem hr⟩,rfl⟩
    · rw [hsame] at hr
      exact ⟨r,hr,rfl⟩
  have htake : next.responses.take s.handled = s.scheduler.responses.take s.handled := by
    obtain ⟨more,hmore⟩ := hgrown
    rw [← hmore, List.take_append_of_le_length htracked.handled]
  refine ⟨?_,?_,htracked.known,htracked.owners,?_,?_,htracked.handled.trans hgrown.length_le⟩
  · have hwide : MiniLlm.Step kv be SameId NewRequest s.scheduler next :=
      step_widen hstep fun _ _ hnew => hnew.elim
    rcases step_hop hwide with hop | hsame
    · exact hop_stream htracked.stream hop
    · show StreamInv next.board
      rw [hsame]
      exact htracked.stream
  · intro r hr
    obtain ⟨r',hr',hid⟩ := hids r hr
    rw [← hid]
    exact htracked.held r' hr'
  · intro resp hresp
    exact htracked.erased resp (htake ▸ hresp)
  · intro x hx hopen
    apply htracked.waiting x hx
    rwa [← htake]

end Lines

variable [DecidableEq P]

section Events

variable {kv : KvAllocator A} {be : InferenceBackend B} {s : EventLoop P A B}

theorem on_line_accepted (client : P) (line : List UInt8) (h : parseRequest line ≠ []) :
    ∃ req, LineAccepted s (s.onLine client line) client req := by
  have hserver : s.toServerContext.onLine client line =
      { s.insertClient client with
        scheduler := s.scheduler.submitRequest (Request.new (ServerContext.asInt s.nextRequestId)
          (parseRequest line) ServerContext.defaultMaxNewTokens)
        nextRequestId := s.nextRequestId+1 } := by
    unfold ServerContext.onLine
    exact if_neg h
  unfold onLine
  rw [if_neg h, hserver]
  exact ⟨_,⟨_,_,_,rfl⟩,rfl,rfl,rfl,rfl,rfl,rfl,rfl⟩

theorem RoutingInv.on_line (h : s.RoutingInv) (client : P) (line : List UInt8) :
    (s.onLine client line).RoutingInv := by
  by_cases hline : parseRequest line = []
  · have hserver : s.toServerContext.onLine client line =
        s.enqueueWrite client "invalid request\n" := by
      unfold ServerContext.onLine
      exact if_pos hline
    unfold onLine
    rw [if_pos hline, hserver]
    exact h.same rfl rfl rfl rfl rfl rfl
  · obtain ⟨req,ht⟩ := on_line_accepted (s := s) client line hline
    exact h.accept ht

theorem RoutingInv.on_read (h : s.RoutingInv) (client : P) (bytes : List UInt8) :
    (s.onRead client bytes).RoutingInv := by
  apply (reader client).on_read_keeps RoutingInv _ _ h
  · exact fun _ _ hs => hs.same rfl rfl rfl rfl rfl rfl
  · exact fun _ line hs => hs.on_line client line

theorem RoutingInv.on_response (h : s.RoutingInv) {resp : Response}
    (hresp : s.scheduler.responses[s.handled]? = some resp) (garbage : Bool) :
    (s.onResponse resp garbage).RoutingInv := by
  have ht := on_response_handled s resp garbage
  generalize s.onResponse resp garbage = t at ht
  refine ⟨⟨?_,?_⟩,fun hn => ?_⟩
  · rw [ht.next, ht.accepted]
    exact h.counted.next
  · rw [ht.accepted]
    exact h.counted.lines
  · have htracked := h.tracked (ht.accepted ▸ hn)
    obtain ⟨hlt,_⟩ := List.getElem?_eq_some_iff.mp hresp
    refine ⟨ht.scheduler ▸ htracked.stream,?_,?_,?_,?_,?_,?_⟩
    · rw [ht.scheduler, ht.accepted]
      exact htracked.held
    · intro id client hid
      rw [ht.accepted]
      rcases ht.cases id with hnone | hsame
      · cases hnone.symm.trans hid
      · exact htracked.known id client (hsame.symm.trans hid)
    · rw [ht.owner, ht.accepted]
      exact htracked.owners
    · intro earlier hearlier hdone
      rw [ht.scheduler, ht.handled, List.take_add_one, hresp] at hearlier
      rcases List.mem_append.mp hearlier with hbefore | hlast
      · have hnone := htracked.erased earlier hbefore hdone
        exact (ht.cases earlier.requestId).elim id fun hsame => hsame.trans hnone
      · obtain rfl : earlier = resp := by simpa using hlast
        exact ht.erased hdone
    · intro x hx hopen
      rw [ht.accepted] at hx
      rw [ht.scheduler, ht.handled, List.take_add_one, hresp] at hopen
      have hentry : s.reqToClient x.key = some x.client :=
        htracked.waiting x hx fun earlier he => hopen earlier (List.mem_append_left _ he)
      refine (ht.kept fun hfinished hkey => ?_).trans hentry
      have hfalse := hopen resp (List.mem_append_right _ (by simp)) hkey.symm
      rw [hfinished] at hfalse
      cases hfalse
    · rw [ht.handled, ht.scheduler]
      exact hlt

theorem routing_inv {a : A} {b : B} {async : Bool} {s : EventLoop P A B}
    (h : Reached kv be AnyEvent (listening (started a b async)) s) : s.RoutingInv := by
  induction h with
  | start =>
    refine ⟨⟨rfl,nofun⟩,fun _ => ⟨started_stream a b async,?_,nofun,nofun,nofun,nofun,
      Nat.zero_le _⟩⟩
    exact fun r ⟨p,hr⟩ => absurd hr List.not_mem_nil
  | next s t e _ _ hs ih =>
    cases hs with
    | connect | readEnd | clientClosed => exact ih.same rfl rfl rfl rfl rfl rfl
    | read client bytes => exact ih.on_read client bytes
    | response resp garbage hresp => exact ih.on_response hresp garbage
    | work next hstep => exact ih.work hstep

end Events

section ManyLines

theorem many_lines (n : ℕ) : ∃ s : EventLoop Unit ℕ Unit,
    Reached mockKvAllocator mockBackend AnyEvent (listening (started 0 () true)) s ∧
    s.accepted.length = n ∧ s.connections () = some ⟨0,false,false⟩ ∧ s.readBuffer () = [] := by
  induction n with
  | zero =>
    exact ⟨onNewConnection (listening (started 0 () true)) () true,
      .next _ _ _ .start trivial (.connect _ () true rfl),rfl,rfl,rfl⟩
  | succ n ih =>
    obtain ⟨s,hreached,hlength,hopen,hbuffer⟩ := ih
    let taken : EventLoop Unit ℕ Unit := { s with toServerContext := s.setBuffer () [] }
    have hfree : newline ∉ ([]++[53]) := by decide
    have hread : s.onRead () ([53]++[newline]) = taken.onLine () [53] :=
      (reader ()).on_read_completes hbuffer hfree
    obtain ⟨req,hline⟩ := on_line_accepted (s := taken) () [53] (by decide)
    refine ⟨s.onRead () ([53]++[newline]),
      hreached.next _ _ _ trivial (.read s () _ _ hopen rfl),?_,?_,?_⟩
    · rw [hread, hline.accepted, List.length_append, List.length_singleton]
      exact congrArg (·+1) hlength
    · rw [hread, (on_line_frame _ _ _).1]
      exact hopen
    · rw [hread, on_line_server, ServerContext.on_line_buffer]
      exact ServerContext.set_buffer_get _ _ _

end ManyLines

/-- Responses are routed to the client that asked in exactly the states in which the counter has
not passed `2^31`. -/
theorem routed_iff (kv : KvAllocator A) (be : InferenceBackend B) (a : A) (b : B) (async : Bool)
    (s : EventLoop P A B) (h : Reached kv be AnyEvent (listening (started a b async)) s) :
    s.Routed ↔ s.accepted.length < 2^31 := (routing_inv h).routed_iff_few

section OneClient

def oneAsked : EventLoop Unit ℕ Unit :=
  (onNewConnection (listening (started 0 () true)) () true).onRead () [53,newline]

def oneTold : EventLoop Unit ℕ Unit :=
  onResponse
    { oneAsked with
      scheduler := (oneAsked.scheduler.workerLoopBody mockKvAllocator mockBackend).workerLoopBody
        mockKvAllocator mockBackend }
    ⟨1,1000,false⟩ false

theorem one_asked_settled : oneAsked.scheduler.Settled :=
  submit_settled _ (Request.new 1 [5] 8) (started_settled 0 () true)

theorem one_asked_reached (condition : EventLoop Unit ℕ Unit → Event Unit ℕ Unit → Prop)
    (hc : ∀ s e, (∀ client, e ≠ .clientClosed client) → condition s e) :
    Reached mockKvAllocator mockBackend condition (listening (started 0 () true)) oneAsked :=
  .next _ _ _ (.next _ _ _ .start (hc _ (.connect () true) nofun) (.connect _ () true rfl))
    (hc _ (.read () [53,newline]) nofun) (.read _ () _ ⟨0,false,false⟩ rfl rfl)

theorem one_told_steps : Steps mockKvAllocator mockBackend SameId ServerContext.NothingNew
    oneAsked.scheduler oneTold.scheduler :=
  (body_steps mock_answers _ one_asked_settled).trans
    (body_steps mock_answers _ (body_settled _ _ _ one_asked_settled))

theorem one_told_reached : Reached mockKvAllocator mockBackend AnyEvent
    (listening (started 0 () true)) oneTold :=
  ((one_asked_reached AnyEvent fun _ _ _ => trivial).works (fun _ _ => trivial)
    one_told_steps).next _ _ _ trivial (.response _ _ false (by decide))

theorem one_told_routed : oneTold.scheduler.responses[oneTold.handled]? = some ⟨1,1001,false⟩ ∧
    (oneTold.Routed ↔ oneTold.accepted.length < 2^31) :=
  ⟨by decide,routed_iff mockKvAllocator mockBackend 0 () true oneTold one_told_reached⟩

end OneClient

theorem late_line_misrouted : ¬ ∀ s : EventLoop Unit ℕ Unit,
    Reached mockKvAllocator mockBackend AnyEvent (listening (started 0 () true)) s →
    s.Routed := by
  intro h
  obtain ⟨s,hreached,hlength,_⟩ := many_lines (2^31)
  have hfew := (routing_inv hreached).routed_iff_few.mp (h s hreached)
  omega

end EventLoop

end MiniLlm

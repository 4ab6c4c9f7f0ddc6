import MiniLlm.MockRuntime
import MiniLlm.SchedulerBoard

/-!
# The response stream of a request

For any allocator, and any backend that answers each request under its own
id, the responses pushed for a request are its generated tokens, and the
last of them is marked finished exactly when the request is done.
-/

set_option autoImplicit false

namespace MiniLlm

open Scheduler

variable {A B : Type*}

/-- The backend answers under the id of the request, which went through an `int`; the rest of
the answer is free. -/
def SameId (r : Request) (resp : Response) : Prop :=
  FromInt r.requestId → resp.requestId = r.requestId

def streamOf (responses : List Response) (id : UInt64) : List Response :=
  responses.filter (fun resp => decide (resp.requestId = id))

/-- What a move says about its request: nothing, or one token, which it also gets. -/
inductive Spoken (p q : Place) (r r' : Request) : List Response → Prop
  | silent (h : r.SameText r') (hp : p ≠ .finish) (hq : q ≠ .finish) : Spoken p q r r' []
  | answered (resp : Response) (h : (r.pushToken resp.token).SameText r')
      (hid : resp.requestId = r.requestId) (hp : p ≠ .finish)
      (hq : resp.finished = true ↔ q = .finish)
      (hopen : resp.finished = false → r'.isfinish = false) : Spoken p q r r' [resp]

theorem same_text_state (r q : Request) (state : RequestState) (h : r.SameText q) :
    r.SameText (q.withState state) := h.trans ⟨rfl,rfl,rfl,rfl⟩

theorem same_text_finish {r q : Request} (h : r.SameText q) : q.isfinish = r.isfinish := by
  unfold Request.isfinish Request.generatedTokens
  rw [h.tokens, h.promptsLen, h.maxNewTokens]

theorem pushed_token (cache : Request → PagedKVCache → PagedKVCache) (answer : Option Response)
    (r : Request) :
    (pushedResponse cache answer r).token = (receivedResponse answer r).token := by
  unfold pushedResponse
  split <;> rfl

theorem pushed_id (cache : Request → PagedKVCache → PagedKVCache) (answer : Option Response)
    (r : Request) (hr : FromInt r.requestId)
    (ha : ∀ resp, answer = some resp → SameId r resp) :
    (pushedResponse cache answer r).requestId = r.requestId := by
  have hreceived : (receivedResponse answer r).requestId = r.requestId := by
    cases answer with
    | none => exact response_id _ _ _ hr
    | some resp => exact ha resp rfl hr
  unfold pushedResponse
  split <;> exact hreceived

theorem served_text (cache : Request → PagedKVCache → PagedKVCache) (answer : Option Response)
    (r : Request) : (r.pushToken (pushedResponse cache answer r).token).SameText
      (servedRequest cache answer r) := by
  rw [pushed_token]
  exact ⟨rfl,rfl,rfl,rfl⟩

theorem pushed_open (cache : Request → PagedKVCache → PagedKVCache) (answer : Option Response)
    (r : Request) (h : (pushedResponse cache answer r).finished = false) :
    (servedRequest cache answer r).isfinish = false := by
  unfold pushedResponse at h
  split at h
  · cases h
  · exact Bool.eq_false_iff.mpr ‹_›

theorem move_spoken {kv : KvAllocator A} {a a' : A} {p q : Place} {r r' : Request}
    {resps : List Response} (hr : FromInt r.requestId)
    (m : Move kv SameId a p r a' q r' resps) : Spoken p q r r' resps := by
  cases m with
  | enqueued => exact .silent (.refl r) (by simp) (by simp)
  | prefillGranted _ _ hp =>
    refine .silent (same_text_state _ _ _ (kv.prefill_text a r)) ?_ (by simp)
    rcases hp with rfl | rfl <;> simp
  | prefillRefused =>
    exact .silent (same_text_state _ _ _ (kv.prefill_text a r)) (by simp) (by simp)
  | prefillRefusedAgain => exact .silent (kv.prefill_text a r) (by simp) (by simp)
  | decodeRetried => exact .silent (same_text_state _ _ _ (.refl r)) (by simp) (by simp)
  | swappedIn => exact .silent (same_text_state _ _ _ (kv.in_text a r)) (by simp) (by simp)
  | swapInRefused => exact .silent (same_text_state _ _ _ (kv.in_text a r)) (by simp) (by simp)
  | decodeGranted => exact .silent (same_text_state _ _ _ (kv.decode_text a r)) (by simp) (by simp)
  | decodeRefused => exact .silent (same_text_state _ _ _ (kv.decode_text a r)) (by simp) (by simp)
  | prefillStarted => exact .silent (same_text_state _ _ _ (.refl r)) (by simp) (by simp)
  | flushed => exact .silent (.refl r) (by simp) (by simp)
  | served _ _ cache _ answer hp ha hf =>
    have hsame := same_text_state _ _ .decodeReady (served_text cache answer r)
    have hopen := (same_text_finish (same_text_state _ _ .decodeReady
      (.refl (servedRequest cache answer r)))).trans (pushed_open cache answer r hf)
    cases hp with
    | decode =>
      exact .answered _ hsame (pushed_id _ _ r hr ha) (by simp) (by simp [hf]) (fun _ => hopen)
    | prefill =>
      exact .answered _ hsame (pushed_id _ _ r hr ha) (by simp) (by simp [hf]) (fun _ => hopen)
  | closed _ _ cache _ answer hp ha hf =>
    have hsame := same_text_state _ _ .finished
      ((served_text cache answer r).trans (kv.free_text a _))
    have hclosed (hopen : (pushedResponse cache answer r).finished = false) :
        ((kv.freeRequest a (servedRequest cache answer r)).2.withState .finished).isfinish =
          false := absurd hf (by simp [hopen])
    cases hp with
    | decode =>
      exact .answered _ hsame (pushed_id _ _ r hr ha) (by simp) (by simp [hf]) hclosed
    | prefill =>
      exact .answered _ hsame (pushed_id _ _ r hr ha) (by simp) (by simp [hf]) hclosed
  | victimOut => exact .silent (same_text_state _ _ _ (kv.out_text a r)) (by simp) (by simp)
  | victimKept => exact .silent (same_text_state _ _ _ (kv.out_text a r)) (by simp) (by simp)

/-- The responses of a request in a given place. -/
structure Streamed (stream : List Response) (p : Place) (r : Request) : Prop where
  prompt : r.promptsLen ≤ r.tokens.length
  tokens : stream.map Response.token = r.tokens.drop r.promptsLen
  bounded : (stream.length : ℤ) ≤ max 1 r.maxNewTokens
  earlier : ∀ resp ∈ stream.dropLast, resp.finished = false
  last : (∃ resp, stream.getLast? = some resp ∧ resp.finished = true) ↔ p = .finish

structure Streaming (stream : List Response) (p : Place) (r : Request) : Prop
    extends Streamed stream p r where
  budget : p ≠ .finish → stream = [] ∨ r.isfinish = false

theorem Streaming.silent {stream : List Response} {p q : Place} {r r' : Request}
    (h : Streaming stream p r) (ht : r.SameText r') (hp : p ≠ .finish) (hq : q ≠ .finish) :
    Streaming stream q r' where
  prompt := by
    rw [ht.promptsLen, ht.tokens]
    exact h.prompt
  tokens := by
    rw [ht.promptsLen, ht.tokens]
    exact h.tokens
  bounded := by
    rw [ht.maxNewTokens]
    exact h.bounded
  earlier := h.earlier
  last := ⟨fun hl => absurd (h.last.mp hl) hp,fun hl => absurd hl hq⟩
  budget := fun _ => by
    rw [same_text_finish ht]
    exact h.budget hp

theorem Streaming.all_open {stream : List Response} {p : Place} {r : Request}
    (h : Streaming stream p r) (hp : p ≠ .finish) : ∀ resp ∈ stream, resp.finished = false := by
  intro resp hresp
  rcases List.eq_nil_or_concat stream with rfl | ⟨front,last,rfl⟩
  · simp at hresp
  · rw [List.concat_eq_append] at hresp h
    rcases List.mem_append.mp hresp with hfront | hlast
    · exact h.earlier resp (by simpa using hfront)
    · obtain rfl := List.mem_singleton.mp hlast
      by_contra hf
      exact hp (h.last.mp ⟨resp,by simp,by simpa using hf⟩)

theorem Streaming.length {stream : List Response} {p : Place} {r : Request}
    (h : Streaming stream p r) : stream.length+r.promptsLen = r.tokens.length := by
  have hlen := congrArg List.length h.tokens
  rw [List.length_map, List.length_drop] at hlen
  have hle := h.prompt
  omega

theorem Streaming.answered {stream : List Response} {p q : Place} {r r' : Request}
    {resp : Response} (h : Streaming stream p r) (ht : (r.pushToken resp.token).SameText r')
    (hp : p ≠ .finish) (hq : resp.finished = true ↔ q = .finish)
    (hopen : resp.finished = false → r'.isfinish = false) :
    Streaming (stream++[resp]) q r' where
  prompt := by
    have hprompt := h.prompt
    rw [ht.promptsLen, ht.tokens]
    simp only [Request.pushToken, List.length_append, List.length_singleton]
    omega
  tokens := by
    rw [ht.promptsLen, ht.tokens, List.map_append, h.tokens]
    exact (List.drop_append_of_le_length h.prompt).symm
  bounded := by
    rw [ht.maxNewTokens]
    change ((stream++[resp]).length : ℤ) ≤ max 1 r.maxNewTokens
    have hlen := h.length
    rw [List.length_append, List.length_singleton]
    rcases h.budget hp with rfl | hbudget
    · exact le_max_left _ _
    · rw [Request.isfinish, decide_eq_false_iff_not, Request.generatedTokens] at hbudget
      refine le_max_of_le_right ?_
      omega
  earlier := by
    rw [List.dropLast_concat]
    exact h.all_open hp
  last := by
    simp [hq]
  budget := fun hf => Or.inr (hopen (Bool.eq_false_iff.mpr fun ht => hf (hq.mp ht)))

theorem Streaming.spoken {stream : List Response} {p q : Place} {r r' : Request}
    {resps : List Response} (h : Streaming stream p r) (hs : Spoken p q r r' resps) :
    Streaming (stream++resps) q r' := by
  cases hs with
  | silent ht hp hq =>
    rw [List.append_nil]
    exact h.silent ht hp hq
  | answered resp ht _ hp hq hopen => exact h.answered ht hp hq hopen

theorem Spoken.requestId {p q : Place} {r r' : Request} {resps : List Response}
    (hs : Spoken p q r r' resps) : r'.requestId = r.requestId := by
  cases hs with
  | silent ht => exact ht.requestId
  | answered _ ht => exact ht.requestId

theorem Spoken.ids {p q : Place} {r r' : Request} {resps : List Response}
    (hs : Spoken p q r r' resps) : ∀ resp ∈ resps, resp.requestId = r.requestId := by
  cases hs with
  | silent => simp
  | answered resp _ hid => simpa using hid

theorem Spoken.started {p q : Place} {r r' : Request} {resps : List Response}
    (hs : Spoken p q r r' resps) : p ≠ .finish := by
  cases hs with
  | silent _ hp => exact hp
  | answered _ _ _ hp => exact hp

theorem stream_other (responses resps : List Response) (id other : UInt64) (hne : id ≠ other)
    (h : ∀ resp ∈ resps, resp.requestId = other) :
    streamOf (responses++resps) id = streamOf responses id := by
  have hnone : streamOf resps id = [] := by
    refine List.filter_eq_nil_iff.mpr fun resp hresp => ?_
    rw [h resp hresp, decide_eq_true_eq]
    exact fun he => hne he.symm
  rw [streamOf, List.filter_append]
  change streamOf responses id++streamOf resps id = _
  rw [hnone, List.append_nil]

theorem stream_own (responses resps : List Response) (id : UInt64)
    (h : ∀ resp ∈ resps, resp.requestId = id) :
    streamOf (responses++resps) id = streamOf responses id++resps := by
  rw [streamOf, List.filter_append]
  exact congrArg _ (List.filter_eq_self.mpr fun resp hresp => decide_eq_true (h resp hresp))

structure StreamInv (b : Board A) : Prop where
  distinct : (b.requests.map (fun x => x.2.requestId)).Nodup
  fromInt : ∀ x ∈ b.requests, FromInt x.2.requestId
  streams : ∀ x ∈ b.requests, Streaming (streamOf b.responses x.2.requestId) x.1 x.2
  owned : ∀ resp ∈ b.responses, ∃ x ∈ b.requests, x.2.requestId = resp.requestId

theorem submit_stream {b : Board A} {req : Request} (h : StreamInv b)
    (hreq : NewRequest b.Holds req) :
    StreamInv { b with requests := (.request,req) ::ₘ b.requests } := by
  obtain ⟨hreq,fresh⟩ := hreq
  replace fresh (x : Place × Request) (hx : x ∈ b.requests) : x.2.requestId ≠ req.requestId :=
    fresh x.2 ⟨x.1,hx⟩
  have hnone : streamOf b.responses req.requestId = [] := by
    refine List.filter_eq_nil_iff.mpr fun resp hresp => ?_
    obtain ⟨x,hx,hid⟩ := h.owned resp hresp
    rw [decide_eq_true_eq]
    exact fun he => fresh x hx (hid.trans he)
  refine ⟨?_,?_,?_,?_⟩
  · exact distinct_cons h.distinct fresh
  · intro x hx
    rcases Multiset.mem_cons.mp hx with rfl | hx
    · obtain ⟨reqId,t,maxTokens,rfl⟩ := hreq
      exact ⟨reqId,rfl⟩
    · exact h.fromInt x hx
  · intro x hx
    rcases Multiset.mem_cons.mp hx with rfl | hx
    · obtain ⟨reqId,t,maxTokens,rfl⟩ := hreq
      rw [hnone]
      exact ⟨⟨le_refl _,by simp [Request.new],by simp,by simp,by simp⟩,fun _ => Or.inl rfl⟩
    · exact h.streams x hx
  · intro resp hresp
    obtain ⟨x,hx,hid⟩ := h.owned resp hresp
    exact ⟨x,Multiset.mem_cons_of_mem hx,hid⟩

theorem move_stream {b : Board A} {a : A} {p q : Place} {r r' : Request} {resps : List Response}
    {rest : Multiset (Place × Request)} (h : StreamInv b) (hb : b.requests = (p,r) ::ₘ rest)
    {popped : List UInt64} (hs : Spoken p q r r' resps) :
    StreamInv ⟨a,(q,r') ::ₘ rest,b.responses++resps,popped⟩ := by
  have hdistinct := h.distinct
  have hid := hs.requestId
  have hown : (p,r) ∈ b.requests := hb ▸ Multiset.mem_cons_self _ _
  have hrest (x : Place × Request) (hx : x ∈ rest) : x ∈ b.requests :=
    hb ▸ Multiset.mem_cons_of_mem hx
  rw [hb] at hdistinct
  have hother := distinct_rest hdistinct
  refine ⟨?_,?_,?_,?_⟩
  · rw [Multiset.map_cons] at hdistinct ⊢
    rwa [hid]
  · intro x hx
    rcases Multiset.mem_cons.mp hx with rfl | hx
    · rw [hid]
      exact h.fromInt _ hown
    · exact h.fromInt x (hrest x hx)
  · intro x hx
    rcases Multiset.mem_cons.mp hx with rfl | hx
    · rw [hid, stream_own _ _ _ hs.ids]
      exact (h.streams _ hown).spoken hs
    · rw [stream_other _ _ _ _ (hother x hx) hs.ids]
      exact h.streams x (hrest x hx)
  · intro resp hresp
    rcases List.mem_append.mp hresp with hold | hnew
    · obtain ⟨x,hx,hx'⟩ := h.owned resp hold
      rw [hb] at hx
      rcases Multiset.mem_cons.mp hx with rfl | hx
      · exact ⟨(q,r'),Multiset.mem_cons_self _ _,hid.trans hx'⟩
      · exact ⟨x,Multiset.mem_cons_of_mem hx,hx'⟩
    · exact ⟨(q,r'),Multiset.mem_cons_self _ _,hid.trans (hs.ids resp hnew).symm⟩

section Runs

variable {kv : KvAllocator A} {be : InferenceBackend B}

theorem hop_stream {b c : Board A} (h : StreamInv b) (hop : Hop kv SameId NewRequest b c) :
    StreamInv c := by
  cases hop with
  | submit req hreq => exact submit_stream h hreq
  | move a p q r r' resps rest hb m =>
    exact move_stream h hb (move_spoken (h.fromInt (p,r) (hb ▸ Multiset.mem_cons_self _ _)) m)

theorem started_stream (a : A) (b : B) (async : Bool) :
    StreamInv (started a b async : Scheduler A B).board := by
  rw [started_board]
  refine ⟨?_,?_,?_,?_⟩ <;> simp

/-- Once a request is in the finish queue, nothing is pushed for it. -/
theorem finished_silent {s t : Scheduler A B} {r : Request} (h : StreamInv s.board)
    (hr : r ∈ s.queues .finish) (hsteps : Steps kv be SameId NewRequest s t) :
    streamOf t.responses r.requestId = streamOf s.responses r.requestId := by
  let I (b : Board A) : Prop := StreamInv b ∧ (.finish,r) ∈ b.requests ∧
    streamOf b.responses r.requestId = streamOf s.responses r.requestId
  suffices hI : I t.board from hI.2.2
  refine visited_board I ?_ hsteps ⟨h,(mem_held s .finish r).mpr hr,rfl⟩
  rintro b c ⟨hinv,hmem,hsame⟩ hop
  refine ⟨hop_stream hinv hop,?_⟩
  cases hop with
  | submit => exact ⟨Multiset.mem_cons_of_mem hmem,hsame⟩
  | move a p q r₁ r' resps rest hb m =>
    have hs := move_spoken (hinv.fromInt (p,r₁) (hb ▸ Multiset.mem_cons_self _ _)) m
    have hdistinct := hinv.distinct
    rw [hb] at hmem hdistinct
    have hrest : (.finish,r) ∈ rest := by
      rcases Multiset.mem_cons.mp hmem with heq | hrest
      · exact absurd (congrArg Prod.fst heq).symm hs.started
      · exact hrest
    refine ⟨Multiset.mem_cons_of_mem hrest,?_⟩
    rw [← hsame]
    exact stream_other _ _ _ _ (distinct_rest hdistinct _ hrest) hs.ids

end Runs

/-- The stream of every request, in every state of every run: the states between two bodies are
among those visited, and in each of these the stream is as it should be. -/
theorem response_stream (kv : KvAllocator A) (be : InferenceBackend B) (hbe : be.Answers SameId)
    (a : A) (b : B) (async : Bool) :
    (∀ c s, Reached kv be NewRequest (started a b async) c s →
      Visited kv be SameId NewRequest (started a b async) s) ∧
    ∀ s, Visited kv be SameId NewRequest (started a b async) s → ∀ p, ∀ r ∈ s.queues p,
      Streamed (streamOf s.responses r.requestId) p r ∧
      (p = .finish → ∀ t, Steps kv be SameId NewRequest s t →
        streamOf t.responses r.requestId = streamOf s.responses r.requestId) := by
  refine ⟨fun c s h => (reached_visited hbe (started_settled a b async) h).2,?_⟩
  intro s h p r hr
  have hinv := visited_board StreamInv (fun _ _ => hop_stream) h (started_stream a b async)
  refine ⟨(hinv.streams (p,r) ((mem_held s p r).mpr hr)).toStreamed,?_⟩
  rintro rfl t ht
  exact finished_silent hinv hr ht

theorem mock_answers : mockBackend.Answers SameId := by
  refine ⟨?_,?_⟩
  · intro b batch i r resp hr hresp hid
    rw [mockBackend, List.getElem?_map, hr] at hresp
    obtain rfl := Option.some.inj hresp
    exact response_id _ _ _ hid
  · intro b batch i r resp hr hresp hid
    rw [mockBackend, List.getElem?_map, hr] at hresp
    obtain rfl := Option.some.inj hresp
    unfold mockDecode
    split <;> exact response_id _ _ _ hid

theorem mock_response_stream :
    (∀ c s, Reached mockKvAllocator mockBackend NewRequest (started 0 () true) c s →
      Visited mockKvAllocator mockBackend SameId NewRequest (started 0 () true) s) ∧
    ∀ s, Visited mockKvAllocator mockBackend SameId NewRequest (started 0 () true) s →
      ∀ p, ∀ r ∈ s.queues p, Streamed (streamOf s.responses r.requestId) p r ∧
      (p = .finish → ∀ t, Steps mockKvAllocator mockBackend SameId NewRequest s t →
        streamOf t.responses r.requestId = streamOf s.responses r.requestId) :=
  response_stream mockKvAllocator mockBackend mock_answers 0 () true

end MiniLlm

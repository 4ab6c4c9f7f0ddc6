import MiniLlm.ResponseStream
import MiniLlm.QuietPhases
import MiniLlm.Determined

/-!
# The output of a request in two runs

With a backend that looks at nothing but the text of a request, each answer
is a function of the answers before it. So two runs that receive the same
prompt differ for that request only in how far they have got, whatever else
they do.
-/

set_option autoImplicit false

namespace MiniLlm

open Scheduler

variable {A B : Type*}

structure TextAnswers where
  prefill : List ℤ → ℕ → ℤ → Option (ℤ × Bool)
  decode : List ℤ → ℕ → ℤ → Option (ℤ × Bool)

def answerTo (f : List ℤ → ℕ → ℤ → Option (ℤ × Bool)) (r : Request) : Option Response :=
  (f r.tokens r.promptsLen r.maxNewTokens).map fun x => Response.new r.requestId x.1 x.2

structure InferenceBackend.AnswersByText (be : InferenceBackend B) (ans : TextAnswers) : Prop where
  prefill : ∀ b batch (i : ℕ) r, batch[i]? = some r →
    (be.prefill b batch).1[i]? = answerTo ans.prefill r
  decode : ∀ b batch (i : ℕ) r, batch[i]? = some r →
    (be.decode b batch).1[i]? = answerTo ans.decode r

def outputsOf (responses : List Response) (id : UInt64) : List (ℤ × Bool) :=
  (streamOf responses id).map fun resp => (resp.token,resp.finished)

def Request.prompt (r : Request) : List ℤ := r.tokens.take r.promptsLen

def nextOutput (ans : TextAnswers) (prompt : List ℤ) (maxNewTokens : ℤ)
    (said : List (ℤ × Bool)) : ℤ × Bool :=
  let f := if said = [] then ans.prefill else ans.decode
  let answer := (f (prompt++said.map Prod.fst) prompt.length maxNewTokens).getD (-1,true)
  (answer.1,answer.2 || decide (maxNewTokens ≤ (said.length : ℤ)+1))

section Steps

variable (kv : KvAllocator A) (be : InferenceBackend B) (ans : TextAnswers)

inductive TextStep : Scheduler A B → Scheduler A B → Prop
  | quiet (s t : Scheduler A B) (h : Step kv be SameId NewRequest s t)
      (hr : t.responses = s.responses) : TextStep s t
  | decode (s t : Scheduler A B) (req : Request) (h : s.popFront .decodeBatch = some (req,t)) :
      TextStep s (t.respondDecode kv (answerTo ans.decode req) req)
  | prefill (s t : Scheduler A B) (req : Request) (h : s.popFront .prefillBatch = some (req,t)) :
      TextStep s (t.respondPrefill kv (answerTo ans.prefill req) req)

def TextRun (start s : Scheduler A B) : Prop := Relation.ReflTransGen (TextStep kv be ans) start s

end Steps

section Runs

variable {kv : KvAllocator A} {be : InferenceBackend B} {ans : TextAnswers}

theorem quiet_kept (start : Scheduler A B) :
    KeptQuietly kv be SameId NewRequest (TextRun kv be ans start) := by
  intro s t h hs
  induction h with
  | refl => exact hs
  | tail _ hstep ih => exact ih.tail (.quiet _ _ hstep.1 hstep.2)

theorem text_loop (q : Place) (turn : Option Response → Request → Scheduler A B → Scheduler A B)
    (f : List ℤ → ℕ → ℤ → Option (ℤ × Bool)) (start : Scheduler A B)
    (hturn : ∀ s t req, s.popFront q = some (req,t) →
      TextStep kv be ans s (turn (answerTo f req) req t))
    (hkeep : ∀ answer req t, (turn answer req t).queues q = t.queues q) (n : ℕ)
    (answers : List Response) (s : Scheduler A B)
    (hans : ∀ (i : ℕ) r, (s.queues q)[i]? = some r → answers[i]? = answerTo f r)
    (h : TextRun kv be ans start s) :
    TextRun kv be ans start (respondLoop q turn n answers s) := by
  induction n generalizing answers s with
  | zero => exact h
  | succ n ih =>
    unfold respondLoop
    cases hp : s.popFront q with
    | none => exact h
    | some popped =>
      obtain ⟨req,t⟩ := popped
      obtain ⟨hq,_⟩ := pop_front_some hp
      have hhead : answers.head? = answerTo f req := by
        rw [List.head?_eq_getElem?]
        exact hans 0 req (by rw [hq]; rfl)
      dsimp only
      rw [hhead]
      apply ih
      · intro i r hr
        rw [hkeep] at hr
        rw [List.getElem?_tail]
        exact hans (i+1) r (by rw [hq]; exact hr)
      · exact h.tail (hturn s t req hp)

theorem serve_decode_run (hbe : be.AnswersByText ans) (start s : Scheduler A B)
    (h : TextRun kv be ans start s) : TextRun kv be ans start (s.serveDecode kv be) := by
  have hcall := h.tail (.quiet s (s.callDecode be).2 (.callDecode s) rfl)
  apply text_loop .decodeBatch (respondDecode kv) ans.decode start _ _ _ _ _ _ hcall
  · exact fun s t req hp => .decode s t req hp
  · exact fun answer req t => respond_only t kv _ _ answer req _ (by simp)
  · exact fun i r hr => hbe.decode s.backend _ i r hr

theorem serve_prefill_run (hbe : be.AnswersByText ans) (start s : Scheduler A B)
    (h : TextRun kv be ans start s) : TextRun kv be ans start (s.servePrefill kv be) := by
  have hcall := h.tail (.quiet s (s.callPrefill be).2 (.callPrefill s) rfl)
  apply text_loop .prefillBatch (respondPrefill kv) ans.prefill start _ _ _ _ _ _ hcall
  · exact fun s t req hp => .prefill s t req hp
  · exact fun answer req t => respond_only t kv _ _ answer req _ (by simp)
  · exact fun i r hr => hbe.prefill s.backend _ i r hr

theorem reached_text_run (hbe : be.AnswersByText ans) {start s : Scheduler A B} {c : Control}
    (hstart : start.Settled) (h : Reached kv be NewRequest start c s) :
    s.Settled ∧ TextRun kv be ans start s := by
  have hquiet : KeptQuietly kv be SameId NewRequest (TextRun kv be ans start) := quiet_kept start
  have hbody (s : Scheduler A B) (hs : s.Settled ∧ TextRun kv be ans start s) :
      (s.workerLoopBody kv be).Settled ∧ TextRun kv be ans start (s.workerLoopBody kv be) :=
    ⟨body_settled kv be s hs.1,hquiet.body (serve_decode_run hbe start)
      (serve_prefill_run hbe start) s hs.1 hs.2⟩
  induction h with
  | start => exact ⟨hstart,.refl⟩
  | submit c s req _ ha ih =>
    exact ⟨submit_settled s req ih.1,ih.2.tail (.quiet _ _ (.submit s req ha) rfl)⟩
  | stop c s _ ih =>
    refine ⟨⟨ih.1.prefill,ih.1.cancel,ih.1.decodeBatch,ih.1.nextDecode,ih.1.prefillBatch⟩,?_⟩
    exact ih.2.tail (.quiet _ _ (.control s _ ⟨rfl,rfl,rfl,rfl,rfl,rfl⟩) rfl)
  | body s _ _ _ _ ih => exact hbody s ih
  | idle s _ _ _ _ ih => exact hbody s ih
  | wake s t _ hw ih =>
    refine ⟨wait_settled s t hw ih.1,hquiet.steps (wait_steps s t hw) ?_ ih.2⟩
    unfold waitAndEnqueueOneRequest at hw
    split at hw
    · rename_i req u hp
      obtain rfl := Option.some.inj hw
      rw [(pop_front_some hp).2]
      rfl
    · split at hw
      · obtain rfl := Option.some.inj hw
        rfl
      · cases hw

end Runs

section Moves

variable {kv : KvAllocator A} {allowed : Request → Response → Prop} {a a' : A} {p q : Place}
  {r r' : Request} {ans : TextAnswers} {responses : List Response}

theorem silent_answered (m : Move kv allowed a p r a' q r' []) : answered q = answered p := by
  cases m with
  | prefillGranted _ _ hp => rcases hp with rfl | rfl <;> rfl
  | _ => rfl

structure Replied (kv : KvAllocator A) (s u : Scheduler A B) (p : Place) (r : Request)
    (resp : Response) (a' : A) (q : Place) (r' : Request)
    (rest : Multiset (Place × Request)) : Prop where
  held : s.board.requests = (p,r) ::ₘ rest
  board : u.board = ⟨a',(q,r') ::ₘ rest,s.responses++[resp],s.popped⟩
  move : Move kv SameId s.kvAllocator p r a' q r' [resp]
  after : answered q = 1

variable (kv) in
theorem respond_replied {ready : Place} {cache : Request → PagedKVCache → PagedKVCache}
    (hp : Serving p cache ready) {s t : Scheduler A B} {answer : Option Response}
    (h : s.popFront p = some (r,t)) (ha : ∀ resp, answer = some resp → SameId r resp) :
    ∃ a' q r', Replied kv s (t.respond kv cache ready answer r) p r
      (pushedResponse cache answer r) a' q r' t.held := by
  have hheld : s.board.requests = (p,r) ::ₘ t.held := held_pop_front h
  have hsame := pop_front_frame h
  unfold respond
  dsimp only
  split
  · rename_i hf
    refine ⟨_,_,_,hheld,?_,.closed p ready cache r answer hp ha hf,rfl⟩
    unfold board
    rw [held_push_back, ← hsame.1, ← hsame.2.1, ← hsame.2.2]
    rfl
  · rename_i hf
    refine ⟨_,_,_,hheld,?_,.served p ready cache r answer hp ha (Bool.eq_false_iff.mpr hf),?_⟩
    · unfold board
      rw [held_push_back, ← hsame.1, ← hsame.2.1, ← hsame.2.2]
      rfl
    · cases hp <;> rfl

theorem answer_same_id (f : List ℤ → ℕ → ℤ → Option (ℤ × Bool)) (r : Request) (resp : Response)
    (h : answerTo f r = some resp) : SameId r resp := by
  obtain ⟨x,_,rfl⟩ := Option.map_eq_some_iff.mp h
  exact fun hid => response_id _ _ _ hid

theorem pushed_output (cache : Request → PagedKVCache → PagedKVCache)
    (f : List ℤ → ℕ → ℤ → Option (ℤ × Bool)) (r : Request) :
    (pushedResponse cache (answerTo f r) r).token =
        ((f r.tokens r.promptsLen r.maxNewTokens).getD (-1,true)).1 ∧
      (pushedResponse cache (answerTo f r) r).finished =
        (((f r.tokens r.promptsLen r.maxNewTokens).getD (-1,true)).2 ||
          decide (r.maxNewTokens ≤ r.generatedTokens+1)) := by
  have hreceived : (receivedResponse (answerTo f r) r).token =
        ((f r.tokens r.promptsLen r.maxNewTokens).getD (-1,true)).1 ∧
      (receivedResponse (answerTo f r) r).finished =
        ((f r.tokens r.promptsLen r.maxNewTokens).getD (-1,true)).2 := by
    unfold receivedResponse answerTo
    cases f r.tokens r.promptsLen r.maxNewTokens <;> exact ⟨rfl,rfl⟩
  have hclosed : (servedRequest cache (answerTo f r) r).isfinish =
      decide (r.maxNewTokens ≤ r.generatedTokens+1) := by
    have hgenerated : (servedRequest cache (answerTo f r) r).generatedTokens =
        r.generatedTokens+1 := by
      show ((r.tokens++[_]).length : ℤ)-(r.promptsLen : ℤ) = _
      rw [List.length_append, List.length_singleton, Request.generatedTokens]
      omega
    unfold Request.isfinish
    rw [hgenerated]
    rfl
  refine ⟨(pushed_token cache _ r).trans hreceived.1,?_⟩
  unfold pushedResponse
  rw [hclosed]
  cases hlimit : decide (r.maxNewTokens ≤ r.generatedTokens+1) with
  | true => rw [if_pos rfl, Bool.or_true]
  | false => rw [if_neg (by decide), Bool.or_false, hreceived.2]

structure Spelled (ans : TextAnswers) (responses : List Response) (p : Place) (r : Request) :
    Prop where
  determined : DeterminedBy (nextOutput ans r.prompt r.maxNewTokens)
    (outputsOf responses r.requestId)
  begun : answered p = 0 ↔ outputsOf responses r.requestId = []

theorem same_text_prompt (h : r.SameText r') : r'.prompt = r.prompt := by
  unfold Request.prompt
  rw [h.tokens, h.promptsLen]

theorem Spelled.silent (h : Spelled ans responses p r) (ht : r.SameText r')
    (hq : answered q = answered p) : Spelled ans responses q r' := by
  refine ⟨?_,?_⟩
  · rw [same_text_prompt ht, ht.maxNewTokens, ht.requestId]
    exact h.determined
  · rw [hq, ht.requestId]
    exact h.begun

theorem Spelled.other (h : Spelled ans responses p r) {resps : List Response} {other : UInt64}
    (hne : r.requestId ≠ other) (hids : ∀ resp ∈ resps, resp.requestId = other) :
    Spelled ans (responses++resps) p r := by
  have hsame : outputsOf (responses++resps) r.requestId = outputsOf responses r.requestId := by
    rw [outputsOf, stream_other _ _ _ _ hne hids]
    rfl
  exact ⟨hsame ▸ h.determined,hsame ▸ h.begun⟩

theorem streaming_text (h : Streaming (streamOf responses r.requestId) p r) :
    r.prompt++(outputsOf responses r.requestId).map Prod.fst = r.tokens ∧
      r.prompt.length = r.promptsLen ∧
      ((outputsOf responses r.requestId).length : ℤ) = r.generatedTokens := by
  have htokens := h.tokens
  have hlength := h.length
  refine ⟨?_,List.length_take_of_le h.prompt,?_⟩
  · rw [outputsOf, List.map_map, Request.prompt]
    show _++(streamOf responses r.requestId).map Response.token = _
    rw [htokens, List.take_append_drop]
  · rw [outputsOf, List.length_map, Request.generatedTokens]
    omega

theorem Spelled.replied (h : Spelled ans responses p r)
    (hstream : Streaming (streamOf responses r.requestId) p r)
    {f : List ℤ → ℕ → ℤ → Option (ℤ × Bool)}
    (hf : f = if answered p = 0 then ans.prefill else ans.decode)
    (cache : Request → PagedKVCache → PagedKVCache) (resp : Response)
    (hresp : resp = pushedResponse cache (answerTo f r) r) (hid : resp.requestId = r.requestId)
    (ht : (r.pushToken resp.token).SameText r') (hq : answered q = 1) :
    Spelled ans (responses++[resp]) q r' := by
  obtain ⟨htext,hprompt,hgenerated⟩ := streaming_text hstream
  obtain ⟨htoken,hfinished⟩ := pushed_output cache f r
  rw [← hresp] at htoken hfinished
  have hown : outputsOf (responses++[resp]) r'.requestId =
      outputsOf responses r.requestId++[(resp.token,resp.finished)] := by
    rw [outputsOf, ht.requestId]
    show (streamOf (responses++[resp]) r.requestId).map _ = _
    rw [stream_own _ _ _ (by simpa using hid), List.map_append]
    rfl
  have hprompt' : r'.prompt = r.prompt := by
    unfold Request.prompt
    rw [ht.tokens, ht.promptsLen]
    exact List.take_append_of_le_length hstream.prompt
  have hnext : (resp.token,resp.finished) =
      nextOutput ans r.prompt r.maxNewTokens (outputsOf responses r.requestId) := by
    unfold nextOutput
    rw [htext, hprompt, hgenerated, ← if_congr h.begun rfl rfl, ← hf]
    exact Prod.ext htoken hfinished
  refine ⟨?_,?_⟩
  · rw [hown, hnext, hprompt', ht.maxNewTokens]
    exact h.determined.append
  · rw [hown, hq]
    simp

end Moves

section Boards

variable {kv : KvAllocator A} {be : InferenceBackend B} {ans : TextAnswers}

structure TextInv (ans : TextAnswers) (b : Board A) : Prop where
  stream : StreamInv b
  spelled : ∀ x ∈ b.requests, Spelled ans b.responses x.1 x.2

theorem quiet_text {b c : Board A} (h : TextInv ans b) (hop : Hop kv SameId NewRequest b c)
    (hr : c.responses = b.responses) : TextInv ans c := by
  have hstream := hop_stream h.stream hop
  refine ⟨hstream,?_⟩
  cases hop with
  | submit req hreq =>
    intro x hx
    rcases Multiset.mem_cons.mp hx with rfl | hx
    · have hlength := (hstream.streams _ hx).length
      obtain ⟨⟨reqId,t,n,rfl⟩,_⟩ := hreq
      have hnone : outputsOf b.responses (Request.new reqId t n).requestId = [] := by
        apply List.eq_nil_of_length_eq_zero
        rw [outputsOf, List.length_map]
        exact Nat.add_eq_right.mp hlength
      exact ⟨hnone ▸ determined_nil,iff_of_true rfl hnone⟩
    · exact h.spelled x hx
  | move a p q r r' resps rest hb m =>
    have hown : (p,r) ∈ b.requests := hb ▸ Multiset.mem_cons_self _ _
    obtain rfl : resps = [] := List.append_right_eq_self.mp hr
    have hs := move_spoken (h.stream.fromInt _ hown) m
    intro x hx
    dsimp only at hx ⊢
    rw [List.append_nil]
    rcases Multiset.mem_cons.mp hx with rfl | hx
    · cases hs with
      | silent ht _ _ => exact (h.spelled _ hown).silent ht (silent_answered m)
    · exact h.spelled x (hb ▸ Multiset.mem_cons_of_mem hx)

theorem replied_text {s u : Scheduler A B} (h : TextInv ans s.board) {p q : Place}
    {r r' : Request} {a' : A} {rest : Multiset (Place × Request)} {resp : Response}
    (hu : Replied kv s u p r resp a' q r' rest) {f : List ℤ → ℕ → ℤ → Option (ℤ × Bool)}
    (hf : f = if answered p = 0 then ans.prefill else ans.decode)
    (cache : Request → PagedKVCache → PagedKVCache)
    (hresp : resp = pushedResponse cache (answerTo f r) r) : TextInv ans u.board := by
  have hown : (p,r) ∈ s.board.requests := hu.held ▸ Multiset.mem_cons_self _ _
  have hs := move_spoken (h.stream.fromInt _ hown) hu.move
  have hdistinct := h.stream.distinct
  rw [hu.held] at hdistinct
  rw [hu.board]
  refine ⟨move_stream h.stream hu.held hs,?_⟩
  intro x hx
  rcases Multiset.mem_cons.mp hx with rfl | hx
  · cases hs with
    | answered _ ht hid _ _ _ =>
      exact (h.spelled _ hown).replied (h.stream.streams _ hown) hf cache resp hresp hid ht
        hu.after
  · exact (h.spelled x (hu.held ▸ Multiset.mem_cons_of_mem hx)).other
      (distinct_rest hdistinct x hx) hs.ids

theorem text_step_inv {s t : Scheduler A B} (h : TextInv ans s.board)
    (hstep : TextStep kv be ans s t) : TextInv ans t.board := by
  cases hstep with
  | quiet _ hquiet hr =>
    rcases step_hop hquiet with hop | hsame
    · exact quiet_text h hop hr
    · rwa [hsame]
  | decode u req hp =>
    obtain ⟨a',q,r',hu⟩ := respond_replied kv .decode hp (answer_same_id ans.decode req)
    exact replied_text h hu rfl _ rfl
  | prefill u req hp =>
    obtain ⟨a',q,r',hu⟩ := respond_replied kv .prefill hp (answer_same_id ans.prefill req)
    exact replied_text h hu rfl _ rfl

theorem text_run_inv {a : A} {b : B} {async : Bool} {s : Scheduler A B}
    (h : TextRun kv be ans (started a b async) s) : TextInv ans s.board := by
  induction h with
  | refl => exact ⟨started_stream a b async,fun x hx => absurd hx (Multiset.notMem_zero x)⟩
  | tail _ hstep ih => exact text_step_inv ih hstep

end Boards

def Shown (s : Scheduler A B) (p : Place) (prompt : List ℤ) (maxNewTokens : ℤ)
    (outputs : List (ℤ × Bool)) : Prop :=
  ∃ r ∈ s.queues p, r.prompt = prompt ∧ r.maxNewTokens = maxNewTokens ∧
    outputsOf s.responses r.requestId = outputs

section Outputs

variable {responses : List Response} {p : Place} {r : Request}
  (h : Streamed (streamOf responses r.requestId) p r)

include h

theorem Streamed.outputs_earlier : ∀ x ∈ (outputsOf responses r.requestId).dropLast,
    x.2 = false := by
  rw [outputsOf, ← List.map_dropLast]
  intro x hx
  obtain ⟨resp,hresp,rfl⟩ := List.mem_map.mp hx
  exact h.earlier resp hresp

theorem Streamed.outputs_last :
    (∃ x, (outputsOf responses r.requestId).getLast? = some x ∧ x.2 = true) ↔ p = .finish := by
  rw [← h.last, outputsOf, List.getLast?_map]
  constructor
  · rintro ⟨x,hx,hfinished⟩
    obtain ⟨resp,hresp,rfl⟩ := Option.map_eq_some_iff.mp hx
    exact ⟨resp,hresp,hfinished⟩
  · rintro ⟨resp,hresp,hfinished⟩
    exact ⟨_,Option.map_eq_some_iff.mpr ⟨resp,hresp,rfl⟩,hfinished⟩

end Outputs

theorem shown_determined {kv : KvAllocator A} {be : InferenceBackend B} {ans : TextAnswers} {a : A}
    {b : B} {async : Bool} {s : Scheduler A B} (h : TextRun kv be ans (started a b async) s)
    {p : Place} {prompt : List ℤ} {maxNewTokens : ℤ} {outputs : List (ℤ × Bool)}
    (hs : Shown s p prompt maxNewTokens outputs) :
    DeterminedBy (nextOutput ans prompt maxNewTokens) outputs ∧
      (∀ x ∈ outputs.dropLast, x.2 = false) ∧
      (p = .finish → ∃ x ∈ outputs.getLast?, x.2 = true) := by
  obtain ⟨r,hr,rfl,rfl,rfl⟩ := hs
  have hinv := text_run_inv h
  have hmem : (p,r) ∈ s.board.requests := (mem_held s p r).mpr hr
  have hstream := hinv.stream.streams _ hmem
  exact ⟨(hinv.spelled _ hmem).determined,hstream.outputs_earlier,hstream.outputs_last.mpr⟩

/-- Two runs, with any allocators and any other requests, that received the same prompt and
limit: all their states are states of these runs, and there the outputs are prefixes of one
another, and the same once both requests have finished. -/
theorem outputs_agree {A' B' : Type*} (ans : TextAnswers) (kv : KvAllocator A)
    (kv' : KvAllocator A') (be : InferenceBackend B) (be' : InferenceBackend B')
    (hbe : be.AnswersByText ans) (hbe' : be'.AnswersByText ans) (a : A) (a' : A') (b : B) (b' : B')
    (async async' : Bool) :
    (∀ c s, Reached kv be NewRequest (started a b async) c s →
      TextRun kv be ans (started a b async) s) ∧
    (∀ c s, Reached kv' be' NewRequest (started a' b' async') c s →
      TextRun kv' be' ans (started a' b' async') s) ∧
    ∀ s s', TextRun kv be ans (started a b async) s →
      TextRun kv' be' ans (started a' b' async') s' →
      ∀ p p' prompt maxNewTokens outputs outputs', Shown s p prompt maxNewTokens outputs →
        Shown s' p' prompt maxNewTokens outputs' →
        (outputs <+: outputs' ∨ outputs' <+: outputs) ∧
        (p = .finish → p' = .finish → outputs = outputs') := by
  refine ⟨fun c s h => (reached_text_run hbe (started_settled a b async) h).2,
    fun c s h => (reached_text_run hbe' (started_settled a' b' async') h).2,?_⟩
  intro s s' h h' p p' prompt maxNewTokens outputs outputs' hs hs'
  obtain ⟨hdet,hearlier,hlast⟩ := shown_determined h hs
  obtain ⟨hdet',hearlier',hlast'⟩ := shown_determined h' hs'
  have horder := hdet.prefix_or hdet'
  refine ⟨horder,fun hp hp' => ?_⟩
  have hopen {xs : List (ℤ × Bool)} (hx : ∀ x ∈ xs.dropLast, x.2 = false) :
      ∀ x ∈ xs.dropLast, ¬ x.2 = true := fun x hm => by simp [hx x hm]
  rcases horder with hle | hge
  · exact prefix_final hle (hlast hp) (hopen hearlier')
  · exact (prefix_final hge (hlast' hp') (hopen hearlier)).symm

def mockAnswers : TextAnswers where
  prefill := fun _ _ _ => some (1000,false)
  decode := fun tokens promptsLen maxNewTokens =>
    let generated : ℤ := (tokens.length : ℤ)-(promptsLen : ℤ)
    if maxNewTokens-1 ≤ generated then some (gpt2EosTokenId,true)
    else some (1000+generated,false)

theorem mock_answers_by_text : mockBackend.AnswersByText mockAnswers := by
  refine ⟨?_,?_⟩
  · intro b batch i r hr
    rw [mockBackend, List.getElem?_map, hr]
    rfl
  · intro b batch i r hr
    rw [mockBackend, List.getElem?_map, hr]
    unfold answerTo mockAnswers
    dsimp only
    show some (mockDecode r) = _
    unfold mockDecode Request.generatedTokens
    split <;> rfl

theorem mock_outputs_agree :
    (∀ c s, Reached mockKvAllocator mockBackend NewRequest (started 0 () true) c s →
      TextRun mockKvAllocator mockBackend mockAnswers (started 0 () true) s) ∧
    (∀ c s, Reached mockKvAllocator mockBackend NewRequest (started 5 () false) c s →
      TextRun mockKvAllocator mockBackend mockAnswers (started 5 () false) s) ∧
    ∀ s s', TextRun mockKvAllocator mockBackend mockAnswers (started 0 () true) s →
      TextRun mockKvAllocator mockBackend mockAnswers (started 5 () false) s' →
      ∀ p p' prompt maxNewTokens outputs outputs', Shown s p prompt maxNewTokens outputs →
        Shown s' p' prompt maxNewTokens outputs' →
        (outputs <+: outputs' ∨ outputs' <+: outputs) ∧
        (p = .finish → p' = .finish → outputs = outputs') :=
  outputs_agree mockAnswers mockKvAllocator mockKvAllocator mockBackend mockBackend
    mock_answers_by_text mock_answers_by_text 0 5 () () true false

end MiniLlm

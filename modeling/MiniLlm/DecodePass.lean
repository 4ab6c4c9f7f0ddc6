import MiniLlm.BatchSizes
import MiniLlm.ResponseStream
import MiniLlm.SchedulerInvariant

/-!
# A decode pass

What one call of `run_decode_batch` does with the requests it finds in the
decode queue. Each of them is visited once: it is admitted to the batch of its
round, answered and returned or finished, or it is deferred. The rounds are
recorded with the allocator and the backend as they were at each call.
-/

set_option autoImplicit false

namespace MiniLlm

open Scheduler

variable {A B : Type*}

structure DecodeAdmission (A : Type*) where
  alloc : A
  entry : Request

/-- What the response loop has for a request of the batch; `release` is the allocator that
`free_request` is called on. -/
structure DecodeReply (A : Type*) where
  answer : Option Response
  release : A

structure DecodeVisit (A : Type*) extends DecodeAdmission A, DecodeReply A

/-- One turn of the outer loop of `run_decode_batch`. -/
structure DecodeRound (A B : Type*) where
  backend : B
  visits : List (DecodeVisit A)

section Visits

variable (kv : KvAllocator A)

namespace DecodeAdmission

variable (x : DecodeAdmission A)

def admitted : Bool := (kv.allocateDecode x.alloc x.entry).ok

def running : Request := (kv.allocateDecode x.alloc x.entry).req.withState .decodeRunning

def deferred : Request := (kv.allocateDecode x.alloc x.entry).req.withState .deferredDecodeKV

end DecodeAdmission

namespace DecodeReply

variable (y : DecodeReply A) (req : Request)

def served : Request := servedRequest (fun _ cache => cache.incrementTokens 1) y.answer req

def response : Response := pushedResponse (fun _ cache => cache.incrementTokens 1) y.answer req

def ready : Request := (y.served req).withState .decodeReady

def finish : Request := (kv.freeRequest y.release (y.served req)).2.withState .finished

end DecodeReply

namespace DecodeRound

def admitted (round : DecodeRound A B) : List (DecodeVisit A) :=
  round.visits.filter fun v => v.toDecodeAdmission.admitted kv

def batch (round : DecodeRound A B) : List Request :=
  (round.admitted kv).map fun v => v.running kv

end DecodeRound

end Visits

section Admission

variable (kv : KvAllocator A) {s t u : Scheduler A B}

structure Admits (s t : Scheduler A B) (xs : List (DecodeAdmission A)) : Prop where
  decode : s.queues .decode = xs.map (·.entry)++t.queues .decode
  batch : t.queues .decodeBatch =
    s.queues .decodeBatch++(xs.filter (·.admitted kv)).map (·.running kv)
  deferred : t.queues .deferredDecode =
    s.queues .deferredDecode++(xs.filter (fun x => !x.admitted kv)).map (·.deferred kv)

theorem Admits.refl (s : Scheduler A B) : Admits kv s s [] :=
  ⟨rfl,(List.append_nil _).symm,(List.append_nil _).symm⟩

variable {kv}

theorem Admits.trans {xs ys : List (DecodeAdmission A)} (h : Admits kv s t xs)
    (k : Admits kv t u ys) : Admits kv s u (xs++ys) := by
  refine ⟨?_,?_,?_⟩
  · rw [h.decode, k.decode, List.map_append, List.append_assoc]
  · rw [k.batch, h.batch, List.filter_append, List.map_append, List.append_assoc]
  · rw [k.deferred, h.deferred, List.filter_append, List.map_append, List.append_assoc]

theorem admit_turn_admits {req : Request} (hpop : s.popFront .decode = some (req,t)) :
    Admits kv s (t.admitDecodeTurn kv req) [⟨t.kvAllocator,req⟩] := by
  have hq := (pop_front_some hpop).1
  have hbatch := pop_front_other hpop .decodeBatch (by decide)
  have hdeferred := pop_front_other hpop .deferredDecode (by decide)
  let x : DecodeAdmission A := ⟨t.kvAllocator,req⟩
  by_cases hok : x.admitted kv
  · have hturn : t.admitDecodeTurn kv req =
        (t.withAllocator (kv.allocateDecode t.kvAllocator req).alloc).pushBack .decodeBatch
          (x.running kv) := if_pos hok
    rw [hturn]
    refine ⟨?_,?_,?_⟩ <;> simp [push_back_queues, hq, hbatch, hdeferred, x, hok]
  · have hturn : t.admitDecodeTurn kv req =
        (t.withAllocator (kv.allocateDecode t.kvAllocator req).alloc).pushBack .deferredDecode
          (x.deferred kv) := if_neg hok
    rw [hturn]
    refine ⟨?_,?_,?_⟩ <;> simp [push_back_queues, hq, hbatch, hdeferred, x, hok]

variable (kv) in
theorem admit_decode_admits (n : ℕ) (s : Scheduler A B) :
    ∃ xs, Admits kv s (s.admitDecodeLoop kv n).2 xs := by
  apply admit_decode_keeps (fun t => ∃ xs, Admits kv s t xs)
  · rintro req t u ⟨xs,h⟩ hpop
    exact ⟨_,h.trans (admit_turn_admits hpop)⟩
  · exact ⟨[],.refl kv s⟩

end Admission

section Replies

variable (kv : KvAllocator A) {s t u : Scheduler A B}

structure Replies (s t : Scheduler A B) (ys : List (Request × DecodeReply A)) : Prop where
  responses : t.responses = s.responses++ys.map fun y => y.2.response y.1
  ready : t.queues .nextDecode = s.queues .nextDecode++
    (ys.filter fun y => !(y.2.response y.1).finished).map fun y => y.2.ready y.1
  finish : t.queues .finish = s.queues .finish++
    (ys.filter fun y => (y.2.response y.1).finished).map fun y => y.2.finish kv y.1

theorem Replies.refl (s : Scheduler A B) : Replies kv s s [] :=
  ⟨(List.append_nil _).symm,(List.append_nil _).symm,(List.append_nil _).symm⟩

variable {kv}

theorem Replies.trans {xs ys : List (Request × DecodeReply A)} (h : Replies kv s t xs)
    (k : Replies kv t u ys) : Replies kv s u (xs++ys) := by
  refine ⟨?_,?_,?_⟩
  · rw [k.responses, h.responses, List.map_append, List.append_assoc]
  · rw [k.ready, h.ready, List.filter_append, List.map_append, List.append_assoc]
  · rw [k.finish, h.finish, List.filter_append, List.map_append, List.append_assoc]

theorem respond_turn_replies {req : Request} (answer : Option Response)
    (hpop : s.popFront .decodeBatch = some (req,t)) :
    Replies kv s (t.respondDecode kv answer req) [(req,⟨answer,t.kvAllocator⟩)] := by
  have hresponses := (pop_front_records hpop).responses
  have hnext := pop_front_other hpop .nextDecode (by decide)
  have hfinish := pop_front_other hpop .finish (by decide)
  let y : DecodeReply A := ⟨answer,t.kvAllocator⟩
  by_cases hdone : (y.response req).finished
  · have hturn : t.respondDecode kv answer req =
        (Scheduler.withAllocator { t with
          responses := t.responses++[y.response req], hasResp := true }
          (kv.freeRequest t.kvAllocator (y.served req)).1).pushBack .finish (y.finish kv req) :=
      if_pos hdone
    rw [hturn]
    refine ⟨?_,?_,?_⟩ <;> simp [push_back_queues, hresponses, hnext, hfinish, y, hdone]
  · have hturn : t.respondDecode kv answer req =
        Scheduler.pushBack { t with
          responses := t.responses++[y.response req], hasResp := true }
          .nextDecode (y.ready req) := if_neg hdone
    rw [hturn]
    refine ⟨?_,?_,?_⟩ <;> simp [push_back_queues, hresponses, hnext, hfinish, y, hdone]

variable (kv) in
theorem respond_loop_replies (n : ℕ) (answers : List Response) (s : Scheduler A B)
    (hn : (s.queues .decodeBatch).length = n) :
    ∃ ys, ys.map Prod.fst = s.queues .decodeBatch ∧
      (∀ (i : ℕ) y, ys[i]? = some y → y.2.answer = answers[i]?) ∧
      Replies kv s (respondLoop .decodeBatch (respondDecode kv) n answers s) ys := by
  induction n generalizing answers s with
  | zero => exact ⟨[],(List.eq_nil_of_length_eq_zero hn).symm,by simp,.refl kv s⟩
  | succ n ih =>
    obtain ⟨req,rest,hq⟩ := List.exists_cons_of_length_eq_add_one hn
    have hpop := pop_front_cons s .decodeBatch req rest hq
    have hbatch : ((s.setQueue .decodeBatch rest).respondDecode kv answers.head? req).queues
        .decodeBatch = rest := by
      rw [respondDecode, respond_only _ kv _ _ answers.head? req .decodeBatch (by simp),
        set_queue_queues, if_pos rfl]
    obtain ⟨ys,hys,hanswers,h⟩ := ih answers.tail _ (by rw [hbatch]; simpa [hq] using hn)
    unfold respondLoop
    rw [hpop]
    refine ⟨_,?_,?_,(respond_turn_replies answers.head? hpop).trans h⟩
    · rw [List.map_append, hys, hbatch, hq]
      rfl
    · rintro (_ | i) y hy
      · obtain rfl := Option.some.inj hy
        exact List.head?_eq_getElem?
      · rw [hanswers i y hy, List.getElem?_tail]

end Replies

section Rounds

variable (kv : KvAllocator A) (be : InferenceBackend B) {s t u : Scheduler A B}

structure Serves (s t : Scheduler A B) (rounds : List (DecodeRound A B)) : Prop where
  decode : s.queues .decode = (rounds.flatMap (·.visits)).map (·.entry)++t.queues .decode
  calls : t.decodeCalls = s.decodeCalls++(rounds.map (·.batch kv)).filter (· ≠ [])
  sized : ∀ round ∈ rounds, (round.batch kv).length ≤ maxBatchNum
  answered : ∀ round ∈ rounds, ∀ (i : ℕ) v, (round.admitted kv)[i]? = some v →
    v.answer = (be.decode round.backend (round.batch kv)).1[i]?
  responses : t.responses = s.responses++
    (rounds.flatMap (·.admitted kv)).map fun v => v.response (v.running kv)
  deferred : t.queues .deferredDecode = s.queues .deferredDecode++
    ((rounds.flatMap (·.visits)).filter fun v => !v.toDecodeAdmission.admitted kv).map
      (·.deferred kv)
  ready : t.queues .nextDecode = s.queues .nextDecode++
    ((rounds.flatMap (·.admitted kv)).filter fun v => !(v.response (v.running kv)).finished).map
      fun v => v.ready (v.running kv)
  finish : t.queues .finish = s.queues .finish++
    ((rounds.flatMap (·.admitted kv)).filter fun v => (v.response (v.running kv)).finished).map
      fun v => v.finish kv (v.running kv)

theorem Serves.refl (s : Scheduler A B) : Serves kv be s s [] where
  decode := rfl
  calls := (List.append_nil _).symm
  sized := by simp
  answered := by simp
  responses := (List.append_nil _).symm
  deferred := (List.append_nil _).symm
  ready := (List.append_nil _).symm
  finish := (List.append_nil _).symm

variable {kv be}

theorem Serves.trans {xs ys : List (DecodeRound A B)} (h : Serves kv be s t xs)
    (k : Serves kv be t u ys) : Serves kv be s u (xs++ys) where
  decode := by rw [h.decode, k.decode, List.flatMap_append, List.map_append, List.append_assoc]
  calls := by rw [k.calls, h.calls, List.map_append, List.filter_append, List.append_assoc]
  sized round hround := (List.mem_append.mp hround).elim (h.sized round) (k.sized round)
  answered round hround := (List.mem_append.mp hround).elim (h.answered round) (k.answered round)
  responses := by
    rw [k.responses, h.responses, List.flatMap_append, List.map_append, List.append_assoc]
  deferred := by
    rw [k.deferred, h.deferred, List.flatMap_append, List.filter_append, List.map_append,
      List.append_assoc]
  ready := by
    rw [k.ready, h.ready, List.flatMap_append, List.filter_append, List.map_append,
      List.append_assoc]
  finish := by
    rw [k.finish, h.finish, List.flatMap_append, List.filter_append, List.map_append,
      List.append_assoc]

theorem visits_exist (xs : List (DecodeAdmission A)) (ys : List (DecodeReply A))
    (h : ys.length = (xs.filter (·.admitted kv)).length) :
    ∃ visits : List (DecodeVisit A), visits.map (·.toDecodeAdmission) = xs ∧
      (visits.filter fun v => v.toDecodeAdmission.admitted kv).map (·.toDecodeReply) = ys := by
  induction xs generalizing ys with
  | nil => exact ⟨[],rfl,(List.eq_nil_of_length_eq_zero h).symm⟩
  | cons x xs ih =>
    by_cases hok : x.admitted kv
    · rw [List.filter_cons_of_pos hok, List.length_cons] at h
      obtain ⟨y,ys,rfl⟩ := List.exists_cons_of_length_eq_add_one h
      obtain ⟨visits,hxs,hys⟩ := ih ys (Nat.succ.inj h)
      refine ⟨⟨x,y⟩::visits,by simp [hxs],?_⟩
      simpa [hok] using hys
    · rw [List.filter_cons_of_neg hok] at h
      obtain ⟨visits,hxs,hys⟩ := ih ys h
      refine ⟨⟨x,⟨none,x.alloc⟩⟩::visits,by simp [hxs],?_⟩
      simpa [hok] using hys

theorem round_serves (b : B) (ys : List (Request × DecodeReply A)) {xs : List (DecodeAdmission A)}
    (h : Admits kv s t xs) (hempty : s.queues .decodeBatch = []) (hsame : s.SameRecords t)
    (hnext : t.queues .nextDecode = s.queues .nextDecode)
    (hfinish : t.queues .finish = s.queues .finish)
    (hsized : (t.queues .decodeBatch).length ≤ maxBatchNum)
    (hys : ys.map Prod.fst = t.queues .decodeBatch)
    (hanswers : ∀ (i : ℕ) y, ys[i]? = some y →
      y.2.answer = (be.decode b (t.queues .decodeBatch)).1[i]?)
    (hreplies : Replies kv t u ys) (hdecode : u.queues .decode = t.queues .decode)
    (hdeferred : u.queues .deferredDecode = t.queues .deferredDecode)
    (hcalls : u.decodeCalls = s.decodeCalls++[t.queues .decodeBatch].filter (· ≠ [])) :
    ∃ round, Serves kv be s u [round] := by
  have hgranted := h.batch
  rw [hempty, List.nil_append] at hgranted
  have hlength : (ys.map Prod.snd).length = (xs.filter (·.admitted kv)).length := by
    have hfirst := congrArg List.length (hys.trans hgranted)
    simpa only [List.length_map] using hfirst
  obtain ⟨visits,hvisits,hreply⟩ := visits_exist xs _ hlength
  have hbatch : (DecodeRound.mk b visits).batch kv = t.queues .decodeBatch := by
    rw [hgranted, ← hvisits, List.filter_map, List.map_map]
    rfl
  have hpairs : ys = ((DecodeRound.mk b visits).admitted kv).map
      fun v => (v.running kv,v.toDecodeReply) := by
    rw [List.zip_of_prod (hys.trans hbatch.symm) hreply.symm]
    exact List.zip_map'
  refine ⟨⟨b,visits⟩,?_,?_,?_,?_,?_,?_,?_,?_⟩
  · rw [h.decode, hdecode, ← hvisits, List.map_map]
    simp
  · rw [hcalls, List.map_singleton, hbatch]
  · simpa [hbatch] using hsized
  · intro round hround i v hv
    obtain rfl := List.mem_singleton.mp hround
    rw [hbatch]
    refine hanswers i (v.running kv,v.toDecodeReply) ?_
    rw [hpairs, List.getElem?_map, hv]
    rfl
  · rw [hreplies.responses, hsame.responses, hpairs, List.map_map]
    simp [DecodeRound.admitted]
  · rw [hdeferred, h.deferred, ← hvisits, List.filter_map, List.map_map]
    simp [Function.comp_def]
  · rw [hreplies.ready, hnext, hpairs, List.filter_map, List.map_map]
    simp [Function.comp_def]
  · rw [hreplies.finish, hfinish, hpairs, List.filter_map, List.map_map]
    simp [Function.comp_def]

theorem idle_round_serves (h : ∃ xs, Admits kv s t xs) (hempty : s.queues .decodeBatch = [])
    (hsame : s.SameRecords t) (honly : Only [.decode,.decodeBatch,.deferredDecode] s t)
    (hbatch : t.queues .decodeBatch = []) : ∃ round, Serves kv be s t [round] := by
  obtain ⟨xs,h⟩ := h
  apply round_serves s.backend [] h hempty hsame (honly _ (by simp))
    (honly _ (by simp)) (by simp [hbatch]) hbatch.symm (by simp) (.refl kv t) rfl rfl
  rw [hsame.decodeCalls, hbatch]
  simp

theorem served_round_serves (h : ∃ xs, Admits kv s t xs) (hempty : s.queues .decodeBatch = [])
    (hsame : s.SameRecords t) (honly : Only [.decode,.decodeBatch,.deferredDecode] s t)
    (hsized : (t.queues .decodeBatch).length ≤ maxBatchNum)
    (hbatch : t.queues .decodeBatch ≠ []) :
    ∃ round, Serves kv be s (t.serveDecode kv be) [round] := by
  obtain ⟨xs,h⟩ := h
  have hserve := serve_decode_only kv be t
  obtain ⟨ys,hys,hanswers,hreplies⟩ := respond_loop_replies kv
    (t.queues .decodeBatch).length (t.callDecode be).1 (t.callDecode be).2 rfl
  apply round_serves t.backend ys h hempty hsame (honly _ (by simp))
    (honly _ (by simp)) hsized hys hanswers ⟨hreplies.1,hreplies.2,hreplies.3⟩
    (hserve _ (by simp)) (hserve _ (by simp))
  have hcalls := (respond_loop_calls kv (t.callDecode be).2 .decodeBatch .nextDecode
    (fun _ cache => cache.incrementTokens 1) (t.queues .decodeBatch).length (t.callDecode be).1).2
  have hrecorded : (t.callDecode be).2.decodeCalls = s.decodeCalls++[t.queues .decodeBatch] := by
    rw [← hsame.decodeCalls]
    rfl
  rw [List.filter_cons_of_pos (by simpa using hbatch)]
  exact hcalls.trans hrecorded

/-- Each turn of the outer loop is a round. -/
theorem decode_rounds_rounds (turns remaining : ℕ) (s : Scheduler A B)
    (hb : s.queues .decodeBatch = []) :
    ∃ rounds, Serves kv be s (s.decodeRounds kv be turns remaining).2 rounds := by
  induction turns generalizing remaining s with
  | zero => exact ⟨[],.refl kv be s⟩
  | succ turns ih =>
    have hadmits := admit_decode_admits kv remaining s
    have hsame := admit_decode_records kv s remaining
    have honly := s.admit_decode_only kv remaining
    unfold decodeRounds
    split
    · exact ⟨[],.refl kv be s⟩
    · dsimp only
      split
      · rename_i hbatch
        obtain ⟨round,h⟩ : ∃ round, Serves kv be s (s.admitDecodeLoop kv remaining).2 [round] :=
          idle_round_serves hadmits hb hsame honly hbatch
        obtain ⟨rounds,hrest⟩ := ih (s.admitDecodeLoop kv remaining).1 _ hbatch
        exact ⟨_,h.trans hrest⟩
      · rename_i hbatch
        have hsized := admit_decode_sized kv s remaining (by simp [hb])
        obtain ⟨round,h⟩ : ∃ round, Serves kv be s
            ((s.admitDecodeLoop kv remaining).2.serveDecode kv be) [round] :=
          served_round_serves hadmits hb hsame honly hsized hbatch
        have hdone : ((s.admitDecodeLoop kv remaining).2.serveDecode kv be).queues .decodeBatch
            = [] := respond_loop_empties kv _ _ _ (by simp) (by simp) _ _ _ rfl
        obtain ⟨rounds,hrest⟩ := ih (s.admitDecodeLoop kv remaining).1 _ hdone
        exact ⟨_,h.trans hrest⟩

end Rounds

section Pass

variable (kv : KvAllocator A) (be : InferenceBackend B) {s t : Scheduler A B}

/-- Whatever else it does, `allocate_decode` leaves the token counts alone. -/
def KvAllocator.KeepsCounts : Prop :=
  ∀ a (r : Request), (kv.allocateDecode a r).req.layerKv.map (·.numTokens) =
    r.layerKv.map (·.numTokens)

/-- What `run_decode_batch` does from `s` to `t`. -/
structure DecodePass (s t : Scheduler A B) (rounds : List (DecodeRound A B)) : Prop where
  visited : (rounds.flatMap (·.visits)).map (·.entry) = s.queues .decode
  calls : t.decodeCalls = s.decodeCalls++(rounds.map (·.batch kv)).filter (· ≠ [])
  sized : ∀ batch ∈ (rounds.map (·.batch kv)).filter (· ≠ []), BatchSized batch
  answered : ∀ round ∈ rounds, ∀ (i : ℕ) v, (round.admitted kv)[i]? = some v →
    v.answer = (be.decode round.backend (round.batch kv)).1[i]?
  responses : t.responses = s.responses++
    (rounds.flatMap (·.admitted kv)).map fun v => v.response (v.running kv)
  deferred : t.queues .deferredDecode = s.queues .deferredDecode++
    ((rounds.flatMap (·.visits)).filter fun v => !v.toDecodeAdmission.admitted kv).map
      (·.deferred kv)
  ready : t.queues .decode =
    ((rounds.flatMap (·.admitted kv)).filter fun v => !(v.response (v.running kv)).finished).map
      fun v => v.ready (v.running kv)
  finish : t.queues .finish = s.queues .finish++
    ((rounds.flatMap (·.admitted kv)).filter fun v => (v.response (v.running kv)).finished).map
      fun v => v.finish kv (v.running kv)
  others : ∀ p, p ≠ .decode → p ≠ .deferredDecode → p ≠ .finish → t.queues p = s.queues p

theorem for_front_moves (p q : Place) (hpq : p ≠ q) (n : ℕ) (s : Scheduler A B)
    (hn : (s.queues q).length = n) :
    (s.forFront q (fun req t => (.continued,t.pushBack p req)) n).2.queues p =
      s.queues p++s.queues q := by
  induction n generalizing s with
  | zero =>
    rw [List.eq_nil_of_length_eq_zero hn, List.append_nil]
    rfl
  | succ n ih =>
    obtain ⟨req,rest,hq⟩ := List.exists_cons_of_length_eq_add_one hn
    have hrest : ((s.setQueue q rest).pushBack p req).queues q = rest := by
      rw [push_back_queues, if_neg hpq.symm, set_queue_queues, if_pos rfl]
    have hpushed : ((s.setQueue q rest).pushBack p req).queues p = s.queues p++[req] := by
      rw [push_back_queues, if_pos rfl, set_queue_queues, if_neg hpq]
    unfold forFront
    rw [pop_front_cons s q req rest hq]
    dsimp only
    rw [ih _ (by rw [hrest]; simpa [hq] using hn), hrest, hpushed, hq, List.append_assoc]
    rfl

theorem flush_moves (s : Scheduler A B) :
    s.flushNextDecode.queues .decode = s.queues .decode++s.queues .nextDecode :=
  for_front_moves .decode .nextDecode (by decide) _ s rfl

theorem run_decode_pass (s : Scheduler A B) (hbatch : s.queues .decodeBatch = [])
    (hnext : s.queues .nextDecode = []) :
    ∃ rounds, DecodePass kv be s (s.runDecodeBatch kv be).2 rounds := by
  let entered : Scheduler A B := { s with hasResp := false }
  let remaining := (s.queues .decode).length
  obtain ⟨rounds,h⟩ : ∃ rounds, Serves kv be entered
      (entered.decodeRounds kv be remaining remaining).2 rounds :=
    decode_rounds_rounds remaining remaining entered hbatch
  obtain ⟨hdecode,hdone⟩ :=
    decode_rounds_empties kv be remaining remaining entered (le_refl _) rfl hbatch
  have hout (p : Place) : (s.runDecodeBatch kv be).2.queues p =
      (entered.decodeRounds kv be remaining remaining).2.flushNextDecode.queues p :=
    notify_queues _ p
  have hflushed := flush_records (entered.decodeRounds kv be remaining remaining).2
  have hnotified := notify_same (entered.decodeRounds kv be remaining remaining).2.flushNextDecode
  have honly := s.run_decode_only kv be
  refine ⟨rounds,?_,?_,?_,h.answered,?_,?_,?_,?_,?_⟩
  · rw [← List.append_nil (List.map _ _), ← hdecode]
    exact h.decode.symm
  · exact (hnotified.decodeCalls.trans hflushed.decodeCalls).trans h.calls
  · intro batch hb
    obtain ⟨hmem,hne⟩ := List.mem_filter.mp hb
    obtain ⟨round,hround,rfl⟩ := List.mem_map.mp hmem
    exact ⟨by simpa using hne,h.sized round hround⟩
  · exact (hnotified.responses.trans hflushed.responses).trans h.responses
  · rw [hout, flush_only _ _ (by simp)]
    exact h.deferred
  · rw [hout, flush_moves, hdecode, h.ready]
    show []++((s.queues .nextDecode)++_) = _
    rw [hnext]
    rfl
  · rw [hout, flush_only _ _ (by simp)]
    exact h.finish
  · intro p hdecode' hdeferred hfinish
    by_cases hb : p = .decodeBatch
    · rw [hb, hout, flush_only _ _ (by simp), hdone, hbatch]
    · by_cases hn : p = .nextDecode
      · rw [hn, hout, flush_empties, hnext]
      · exact honly p (by simp [hdecode', hb, hdeferred, hn, hfinish])

variable {kv}

theorem DecodeAdmission.running_text (x : DecodeAdmission A) : x.entry.SameText (x.running kv) :=
  same_text_state _ _ _ (kv.decode_text x.alloc x.entry)

theorem DecodeAdmission.deferred_text (x : DecodeAdmission A) :
    x.entry.SameText (x.deferred kv) := same_text_state _ _ _ (kv.decode_text x.alloc x.entry)

theorem DecodeReply.served_tokens (y : DecodeReply A) (req : Request) :
    (y.served req).tokens = req.tokens++[(y.response req).token] := by
  rw [DecodeReply.response, pushed_token]
  rfl

theorem DecodeReply.served_counts (y : DecodeReply A) (req : Request) (layer : Fin gpt2NLayers) :
    ((y.served req).cache layer).numTokens = (req.cache layer).numTokens+1 :=
  congrArg PagedKVCache.numTokens (req.map_caches_cache _ layer)

theorem Request.cache_counts {r q : Request}
    (h : q.layerKv.map (·.numTokens) = r.layerKv.map (·.numTokens)) (layer : Fin gpt2NLayers) :
    (q.cache layer).numTokens = (r.cache layer).numTokens := by
  have hlayer := congrArg (·[layer.val]?) h
  simpa [List.getElem?_map, Request.cache_get] using hlayer

theorem DecodePass.distinct {rounds : List (DecodeRound A B)} (h : DecodePass kv be s t rounds)
    (hd : ((s.queues .decode).map (·.requestId)).Nodup) :
    ((rounds.flatMap (·.batch kv)).map (·.requestId)).Nodup := by
  have hbatches : (rounds.flatMap (·.batch kv)).map (·.requestId) =
      ((rounds.flatMap (·.visits)).filter fun v => v.toDecodeAdmission.admitted kv).map
        (·.entry.requestId) := by
    rw [List.filter_flatMap, List.map_flatMap, List.map_flatMap]
    refine List.flatMap_congr fun round _ => ?_
    rw [DecodeRound.batch, List.map_map]
    exact List.map_congr_left fun v _ => v.running_text.requestId
  rw [← h.visited, List.map_map] at hd
  rw [hbatches]
  exact hd.sublist (List.filter_sublist.map _)

theorem extended_counts (need : ℕ) (kvs : List PagedKVCache) (ids : List ℕ) :
    (extended need kvs ids).map (·.numTokens) = kvs.map (·.numTokens) := by
  induction kvs generalizing ids with
  | nil => rfl
  | cons kv kvs ih => simp [extended, ih]

theorem real_keeps_counts (α : Type*) : (realKvAllocator α).KeepsCounts := by
  intro a r
  let need := RealKvAllocator.decodeNeed r.layer0.numTokens
  show ((a.allocateLayers r need).req.layerKv.map _) = _
  rcases allocate_layers_cases a r need with ⟨_,hout⟩ | ⟨_,_,hout⟩
  · rw [hout]
  · rw [hout]
    exact extended_counts _ r.layerKv _

/-- A decode pass admits or defers each request it finds once, and answers what it admits. -/
theorem decode_pass_once (kv : KvAllocator A) (be : InferenceBackend B) (s : Scheduler A B)
    (hbatch : s.queues .decodeBatch = []) (hnext : s.queues .nextDecode = []) :
    ∃ rounds, DecodePass kv be s (s.runDecodeBatch kv be).2 rounds ∧
      (((s.queues .decode).map (·.requestId)).Nodup →
        ((rounds.flatMap (·.batch kv)).map (·.requestId)).Nodup) ∧
      ∀ v ∈ rounds.flatMap (·.visits),
        v.entry.SameText (v.running kv) ∧ v.entry.SameText (v.deferred kv) ∧
        (v.served (v.running kv)).tokens =
          v.entry.tokens++[(v.response (v.running kv)).token] ∧
        (kv.KeepsCounts → ∀ layer,
          ((v.served (v.running kv)).cache layer).numTokens =
            (v.entry.cache layer).numTokens+1 ∧
          ((v.deferred kv).cache layer).numTokens = (v.entry.cache layer).numTokens) := by
  obtain ⟨rounds,h⟩ := run_decode_pass kv be s hbatch hnext
  refine ⟨rounds,h,h.distinct be,fun v _ => ⟨v.running_text,v.deferred_text,?_,?_⟩⟩
  · rw [v.served_tokens, v.running_text.tokens]
  · intro hkeep layer
    have hcounts := Request.cache_counts (hkeep v.alloc v.entry) layer
    exact ⟨(v.served_counts _ layer).trans (congrArg (·+1) hcounts),hcounts⟩

/-- Three prompts in a pool of four blocks in every layer; the next token of the first two needs
another block each. -/
def crowded : Scheduler (RealKvAllocator ℤ) Unit :=
  let pool := { RealKvAllocator.new freshDevice with blockManager := BlockManager.new 48 48 }
  let prompts := [(1,16),(2,16),(3,5)].map
    fun x : Int32 × ℕ => Request.new x.1 (List.replicate x.2 0) 8
  (prompts.foldl submitRequest (started pool () true)).workerLoopBody (realKvAllocator ℤ)
    mockBackend

/-- The second is refused its block and the others are decoded. -/
theorem crowded_pass :
    let t := (crowded.runDecodeBatch (realKvAllocator ℤ) mockBackend).2
    (crowded.queues .decode).map Request.requestId = [1,2,3] ∧
    (t.queues .decode).map Request.requestId = [1,3] ∧
    (t.queues .deferredDecode).map Request.requestId = [2] ∧
    ∃ rounds, DecodePass (realKvAllocator ℤ) mockBackend crowded t rounds ∧
      ((rounds.flatMap (·.batch (realKvAllocator ℤ))).map (·.requestId)).Nodup ∧
      ∀ v ∈ rounds.flatMap (·.visits), ∀ layer,
        ((v.served (v.running (realKvAllocator ℤ))).cache layer).numTokens =
          (v.entry.cache layer).numTokens+1 := by
  intro t
  have hqueues : crowded.queues .decodeBatch = [] ∧ crowded.queues .nextDecode = [] ∧
      (crowded.queues .decode).map Request.requestId = [1,2,3] ∧
      (t.queues .decode).map Request.requestId = [1,3] ∧
      (t.queues .deferredDecode).map Request.requestId = [2] := by decide +kernel
  obtain ⟨hbatch,hnext,hready,hserved,hdeferred⟩ := hqueues
  obtain ⟨rounds,h,hdistinct,hvisits⟩ :=
    decode_pass_once (realKvAllocator ℤ) mockBackend crowded hbatch hnext
  refine ⟨hready,hserved,hdeferred,rounds,h,hdistinct ?_,fun v hv layer => ?_⟩
  · rw [hready]
    decide
  · exact ((hvisits v hv).2.2.2 (real_keeps_counts ℤ) layer).1

end Pass

end MiniLlm

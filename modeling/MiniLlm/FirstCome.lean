import MiniLlm.SwapCycle

/-!
# First come, first served

The prompts are handed to the backend in the order in which they were popped
from the request queue, as long as the allocator lets nobody overtake: a
deferred prompt that is granted is the first of its queue and the only one
of its pass, and nobody who waits is granted while a prompt is deferred.
-/

set_option autoImplicit false

namespace MiniLlm

open Scheduler

variable {A B : Type*}

def requestIds (reqs : List Request) : List UInt64 := reqs.map Request.requestId

namespace Scheduler

/-- The ids handed to `backend_.prefill`, in order. -/
def handed (s : Scheduler A B) : List UInt64 := requestIds s.prefillCalls.flatten

def FirstComeFirstServed (s : Scheduler A B) : Prop := s.handed <+: s.popped

section Turns

variable (kv : KvAllocator A) (be : InferenceBackend B)

/-- The outcomes of `allocate_prefill` for one request after the other. -/
def grants : A → List Request → List Bool
  | _, [] => []
  | a, r::rest => (kv.allocatePrefill a r).ok::grants (kv.allocatePrefill a r).alloc rest

def allocatorAfter : A → List Request → A
  | a, [] => a
  | a, r::rest => allocatorAfter (kv.allocatePrefill a r).alloc rest

def beforePrefill (s : Scheduler A B) : Bool × Scheduler A B :=
  (false,s.drainUnlessPaused)
  |> thenRun (retrySwapInRequests kv)
  |> thenRun (fun s => (false,s.retryDeferredDecode))
  |> thenRun (runDecodeBatch kv be)
  |> thenRun (retrySwapInRequests kv)

/-- In the state in which the deferred prompts are retried, the allocator has blocks for none of
them but the first, and for nobody who waits behind one that it refuses. -/
structure InTurn (s : Scheduler A B) : Prop where
  deferred : ∀ ok ∈ (grants kv s.kvAllocator (s.queues .deferredPrefill)).tail, ok = false
  waiting : false ∈ grants kv s.kvAllocator (s.queues .deferredPrefill) →
    ∀ r ∈ (s.queues .waitingPrefill).head?, (kv.allocatePrefill
      (allocatorAfter kv s.kvAllocator (s.queues .deferredPrefill)) r).ok = false

instance (s : Scheduler A B) : Decidable (s.InTurn kv) :=
  decidable_of_iff ((∀ ok ∈ (grants kv s.kvAllocator (s.queues .deferredPrefill)).tail,
    ok = false) ∧ (false ∈ grants kv s.kvAllocator (s.queues .deferredPrefill) →
      ∀ r ∈ (s.queues .waitingPrefill).head?, (kv.allocatePrefill
        (allocatorAfter kv s.kvAllocator (s.queues .deferredPrefill)) r).ok = false))
    ⟨fun h => ⟨h.1,h.2⟩,fun h => ⟨h.deferred,h.waiting⟩⟩

end Turns

end Scheduler

/-- Everybody popped, in order: handed over, about to be, deferred, or waiting. -/
def InLine (s : Scheduler A B) : Prop :=
  s.popped = s.handed++(requestIds (s.queues .prefillBatch)++(requestIds (s.queues .prefill)++
    (requestIds (s.queues .deferredPrefill)++requestIds (s.queues .waitingPrefill))))

structure SameLine (s t : Scheduler A B) : Prop where
  popped : t.popped = s.popped
  prefillCalls : t.prefillCalls = s.prefillCalls
  queues : ∀ p ∈ [Place.prefillBatch,.prefill,.deferredPrefill,.waitingPrefill],
    t.queues p = s.queues p

section Frames

variable {s t u : Scheduler A B}

theorem SameLine.refl (s : Scheduler A B) : SameLine s s := ⟨rfl,rfl,fun _ _ => rfl⟩

theorem SameLine.trans (h : SameLine s t) (k : SameLine t u) : SameLine s u :=
  ⟨k.popped.trans h.popped,k.prefillCalls.trans h.prefillCalls,
    fun p hp => (k.queues p hp).trans (h.queues p hp)⟩

theorem InLine.same (h : InLine s) (k : SameLine s t) : InLine t := by
  unfold InLine handed at *
  rw [k.popped, k.prefillCalls, k.queues .prefillBatch (by simp), k.queues .prefill (by simp),
    k.queues .deferredPrefill (by simp), k.queues .waitingPrefill (by simp)]
  exact h

theorem SameLine.pushBack (h : SameLine s t) (q : Place) (r : Request)
    (hq : q ∉ [Place.prefillBatch,.prefill,.deferredPrefill,.waitingPrefill]) :
    SameLine s (t.pushBack q r) := by
  refine ⟨h.popped,h.prefillCalls,fun p hp => ?_⟩
  rw [push_back_queues, if_neg]
  · exact h.queues p hp
  · rintro rfl
    exact hq hp

theorem pop_front_log {q : Place} {r : Request} (h : s.popFront q = some (r,t)) :
    t.popped = s.popped ∧ t.prefillCalls = s.prefillCalls := by
  rw [(pop_front_some h).2]
  exact ⟨rfl,rfl⟩

theorem pop_front_line {q : Place} {r : Request} (h : s.popFront q = some (r,t))
    (hq : q ∉ [Place.prefillBatch,.prefill,.deferredPrefill,.waitingPrefill]) :
    SameLine s t := by
  have hlog := pop_front_log h
  refine ⟨hlog.1,hlog.2,fun p hp => pop_front_other h p ?_⟩
  rintro rfl
  exact hq hp

/-- A loop over another queue whose turns leave the line alone. -/
theorem for_front_line (q : Place) (body : Request → Scheduler A B → Turn × Scheduler A B)
    (hq : q ∉ [Place.prefillBatch,.prefill,.deferredPrefill,.waitingPrefill])
    (hbody : ∀ r t, SameLine t (body r t).2) (n : ℕ) (s : Scheduler A B) :
    SameLine s (s.forFront q body n).2 :=
  for_front_keeps (SameLine s) q body
    (fun r _ t h hp => (h.trans (pop_front_line hp hq)).trans (hbody r t)) n s (.refl s)

end Frames

section OtherPhases

variable (kv : KvAllocator A) (be : InferenceBackend B) (s : Scheduler A B)

theorem retry_swap_in_line : SameLine s (s.retrySwapInRequests kv).2 := by
  apply for_front_line _ _ (by simp)
  intro r t
  unfold swapInTurn
  dsimp only
  have hsame (a : A) : SameLine t (t.withAllocator a) := ⟨rfl,rfl,fun _ _ => rfl⟩
  split
  · exact (hsame _).pushBack .decode _ (by simp)
  · exact (hsame _).pushBack .swapOut _ (by simp)

theorem retry_deferred_decode_line : SameLine s s.retryDeferredDecode :=
  for_front_line _ _ (by simp) (fun _ t => (SameLine.refl t).pushBack _ _ (by simp)) _ s

theorem admit_decode_line (n : ℕ) : SameLine s (s.admitDecodeLoop kv n).2 := by
  apply admit_decode_keeps (SameLine s)
  · intro r t u h hp
    have hturn : SameLine u (u.admitDecodeTurn kv r) := by
      unfold admitDecodeTurn
      dsimp only
      have hsame (a : A) : SameLine u (u.withAllocator a) := ⟨rfl,rfl,fun _ _ => rfl⟩
      split
      · exact (hsame _).pushBack .decodeBatch _ (by simp)
      · exact (hsame _).pushBack .deferredDecode _ (by simp)
    exact (h.trans (pop_front_line hp (by simp))).trans hturn
  · exact .refl s

theorem respond_line (cache : Request → PagedKVCache → PagedKVCache) (ready : Place)
    (hr : ready ∉ [Place.prefillBatch,.prefill,.deferredPrefill,.waitingPrefill])
    (answer : Option Response) (r : Request) :
    SameLine s (s.respond kv cache ready answer r) := by
  unfold respond
  dsimp only
  split
  · apply SameLine.pushBack
    · exact ⟨rfl,rfl,fun _ _ => rfl⟩
    · simp
  · apply SameLine.pushBack
    · exact ⟨rfl,rfl,fun _ _ => rfl⟩
    · exact hr

theorem serve_decode_line : SameLine s (s.serveDecode kv be) := by
  apply respond_loop_keeps (SameLine s)
  · intro answer r t u h hp
    exact (h.trans (pop_front_line hp (by simp))).trans (respond_line kv u _ _ (by simp) answer r)
  · exact ⟨rfl,rfl,fun _ _ => rfl⟩

theorem notify_line : SameLine s s.notify :=
  ⟨(notify_same s).popped,(notify_same s).prefillCalls,fun p _ => notify_queues s p⟩

theorem run_decode_line : SameLine s (s.runDecodeBatch kv be).2 := by
  have hrounds : SameLine s (decodeRounds kv be (s.queues .decode).length
      (s.queues .decode).length { s with hasResp := false }).2 :=
    decode_rounds_keeps kv be (SameLine s) (fun n t h => h.trans (admit_decode_line kv t n))
      (fun t h => h.trans (serve_decode_line kv be t)) _ _ _ ⟨rfl,rfl,fun _ _ => rfl⟩
  have hflush (t : Scheduler A B) : SameLine t t.flushNextDecode :=
    for_front_line _ _ (by simp) (fun _ t => (SameLine.refl t).pushBack _ _ (by simp)) _ t
  exact (hrounds.trans (hflush _)).trans (notify_line _)

theorem try_from_line (q : Place)
    (hq : q ∉ [Place.prefillBatch,.prefill,.deferredPrefill,.waitingPrefill]) :
    SameLine s (s.tryFrom kv q).2 := by
  have honly := try_from_only kv s q
  have hlog : (s.tryFrom kv q).2.popped = s.popped ∧
      (s.tryFrom kv q).2.prefillCalls = s.prefillCalls := by
    unfold tryFrom
    split
    · exact ⟨rfl,rfl⟩
    · unfold swapOutVictim
      dsimp only
      split <;> exact ⟨rfl,rfl⟩
  refine ⟨hlog.1,hlog.2,fun p hp => honly p fun hm => ?_⟩
  rcases List.mem_cons.mp hm with rfl | hm
  · exact hq hp
  · rw [List.mem_singleton.mp hm] at hp
    simp at hp

theorem try_swap_out_line : SameLine s (s.trySwapOutVictim kv).2 := by
  apply try_swap_out_keeps kv (SameLine s)
  · exact try_from_line kv s .deferredDecode (by simp)
  · exact fun t ht => ht.trans (try_from_line kv t .decode (by simp))

theorem resume_line : SameLine s s.resumeAdmission := by
  unfold resumeAdmission
  split <;> exact ⟨rfl,rfl,fun _ _ => rfl⟩

theorem InLine.enqueue {t : Scheduler A B} (h : InLine s) {r : Request}
    (hp : s.popFront .request = some (r,t)) : InLine (t.enqueueWaiting r) := by
  have hline := h.same (pop_front_line hp (by simp))
  have hqueue (p : Place) : (t.enqueueWaiting r).queues p =
      if p = .waitingPrefill then t.queues .waitingPrefill++[r] else t.queues p :=
    push_back_queues _ p _ r
  unfold InLine at hline ⊢
  rw [hqueue, hqueue, hqueue, hqueue, if_neg (by decide), if_neg (by decide), if_neg (by decide),
    if_pos rfl]
  show t.popped++[r.requestId] = _
  rw [hline]
  simp [requestIds, handed, enqueueWaiting, pushBack, setQueue]

theorem before_prefill_line (h : InLine s) : InLine (s.beforePrefill kv be).2 := by
  have hdrain : InLine s.drainUnlessPaused := by
    unfold drainUnlessPaused
    split
    · exact h
    · exact for_front_keeps InLine _ _ (fun r t u ht hp => InLine.enqueue t ht hp) _ s h
  have hswap (t : Scheduler A B) (ht : InLine t) : InLine (t.retrySwapInRequests kv).2 :=
    ht.same (retry_swap_in_line kv t)
  unfold beforePrefill
  refine then_run_keeps (P := InLine) ?_ hswap
  refine then_run_keeps (P := InLine) ?_ fun t ht => ht.same (run_decode_line kv be t)
  refine then_run_keeps (P := InLine) ?_ fun t ht => ht.same (retry_deferred_decode_line t)
  exact then_run_keeps (P := InLine) hdrain hswap

end OtherPhases

section Deferred

variable {kv : KvAllocator A} {s : Scheduler A B}

structure Refused (s t : Scheduler A B) (deferred : List UInt64) : Prop where
  popped : t.popped = s.popped
  prefillCalls : t.prefillCalls = s.prefillCalls
  queues : ∀ p, p ≠ .deferredPrefill → t.queues p = s.queues p
  deferred : requestIds (t.queues .deferredPrefill) = deferred

def refusedAgain (kv : KvAllocator A) (s : Scheduler A B) (r : Request) (rest : List Request) :
    Scheduler A B :=
  ((s.setQueue .deferredPrefill rest).withAllocator
    (kv.allocatePrefill s.kvAllocator r).alloc).pushBack .deferredPrefill
      (kv.allocatePrefill s.kvAllocator r).req

theorem retry_refused_turn (s : Scheduler A B) (r : Request) (rest : List Request)
    (hok : (kv.allocatePrefill s.kvAllocator r).ok = false) :
    retryPrefillTurn kv r (s.setQueue .deferredPrefill rest) =
      (.continued,refusedAgain kv s r rest) :=
  if_neg (Bool.eq_false_iff.mp hok)

theorem refused_again_queues (s : Scheduler A B) (r : Request) (rest : List Request) (p : Place) :
    (refusedAgain kv s r rest).queues p = if p = .deferredPrefill then
      rest++[(kv.allocatePrefill s.kvAllocator r).req] else s.queues p := by
  rw [refusedAgain, push_back_queues, with_allocator_queues, set_queue_queues, if_pos rfl]
  split
  · rfl
  · rename_i hp
    rw [with_allocator_queues, set_queue_queues, if_neg hp]

theorem retry_all_refused (xs ys : List Request) (s : Scheduler A B)
    (hq : s.queues .deferredPrefill = xs++ys)
    (hno : ∀ ok ∈ grants kv s.kvAllocator xs, ok = false) :
    Refused s (s.forFront .deferredPrefill (retryPrefillTurn kv) xs.length).2
      (requestIds ys++requestIds xs) := by
  induction xs generalizing ys s with
  | nil =>
    refine ⟨rfl,rfl,fun _ _ => rfl,?_⟩
    show requestIds (s.queues .deferredPrefill) = _
    rw [hq]
    exact (List.append_nil _).symm
  | cons r xs ih =>
    have hid := (kv.prefill_text s.kvAllocator r).requestId
    rw [List.length_cons, forFront, pop_front_cons s _ r (xs++ys) hq]
    dsimp only
    rw [retry_refused_turn s r (xs++ys) (hno _ List.mem_cons_self)]
    have hrest := ih _ (refusedAgain kv s r (xs++ys))
      (by rw [refused_again_queues, if_pos rfl, List.append_assoc])
      (fun ok hok => hno ok (List.mem_cons_of_mem _ hok))
    refine ⟨hrest.popped,hrest.prefillCalls,fun p hp => ?_,?_⟩
    · rw [hrest.queues p hp, refused_again_queues, if_neg hp]
    · rw [hrest.deferred]
      simp [requestIds, hid]

theorem Refused.line {t u : Scheduler A B} {d : List UInt64} (ht : Refused t u d)
    (hids : t.popped = t.handed++(requestIds (t.queues .prefillBatch)++
      (requestIds (t.queues .prefill)++(d++requestIds (t.queues .waitingPrefill))))) :
    InLine u := by
  unfold InLine handed at *
  rw [ht.popped, ht.prefillCalls, ht.deferred, ht.queues .prefillBatch (by decide),
    ht.queues .prefill (by decide), ht.queues .waitingPrefill (by decide)]
  exact hids

def granted (kv : KvAllocator A) (s : Scheduler A B) (r : Request) (rest : List Request) :
    Scheduler A B :=
  ((s.setQueue .deferredPrefill rest).withAllocator
    (kv.allocatePrefill s.kvAllocator r).alloc).pushFront .prefill
      ((kv.allocatePrefill s.kvAllocator r).req.withState .prefillRunning)

theorem retry_granted_turn (s : Scheduler A B) (r : Request) (rest : List Request)
    (hok : (kv.allocatePrefill s.kvAllocator r).ok = true) :
    retryPrefillTurn kv r (s.setQueue .deferredPrefill rest) = (.progressed,granted kv s r rest) :=
  if_pos hok

theorem granted_queues (s : Scheduler A B) (r : Request) (rest : List Request) (p : Place) :
    (granted kv s r rest).queues p = if p = .prefill then
      (kv.allocatePrefill s.kvAllocator r).req.withState .prefillRunning::s.queues .prefill
      else if p = .deferredPrefill then rest else s.queues p := by
  rw [granted]
  by_cases hp : p = .prefill
  · subst hp
    rw [push_front_queues, if_pos rfl, if_pos rfl, with_allocator_queues, set_queue_queues,
      if_neg (by decide)]
  · rw [push_front_queues, if_neg hp, if_neg hp, with_allocator_queues, set_queue_queues]

theorem granted_line {r : Request} {rest : List Request} (h : InLine s)
    (hp : s.queues .prefill = []) (hq : s.queues .deferredPrefill = r::rest) :
    let t := granted kv s r rest
    t.popped = t.handed++(requestIds (t.queues .prefillBatch)++(requestIds (t.queues .prefill)++
      (requestIds rest++requestIds (t.queues .waitingPrefill)))) := by
  intro t
  have hid := (kv.prefill_text s.kvAllocator r).requestId
  unfold InLine at h
  rw [granted_queues, granted_queues, granted_queues, if_neg (by decide), if_neg (by decide),
    if_pos rfl, if_neg (by decide), if_neg (by decide), hp]
  show s.popped = s.handed++_
  rw [h, hq, hp]
  simp [requestIds, Request.withState, hid]

structure Retried (kv : KvAllocator A) (xs ys : List Request) (s t : Scheduler A B) : Prop where
  alloc : t.kvAllocator = allocatorAfter kv s.kvAllocator xs
  waiting : t.queues .waitingPrefill = s.queues .waitingPrefill
  deferred : (t.queues .deferredPrefill).length =
    ys.length+(grants kv s.kvAllocator xs).count false

theorem retry_pass (xs ys : List Request) (s : Scheduler A B)
    (hq : s.queues .deferredPrefill = xs++ys) :
    Retried kv xs ys s (s.forFront .deferredPrefill (retryPrefillTurn kv) xs.length).2 := by
  induction xs generalizing ys s with
  | nil => exact ⟨rfl,rfl,congrArg List.length hq⟩
  | cons r xs ih =>
    rw [List.length_cons, forFront, pop_front_cons s _ r (xs++ys) hq]
    dsimp only
    cases hok : (kv.allocatePrefill s.kvAllocator r).ok with
    | false =>
      rw [retry_refused_turn s r (xs++ys) hok]
      have hrest := ih _ (refusedAgain kv s r (xs++ys))
        (by rw [refused_again_queues, if_pos rfl, List.append_assoc])
      refine ⟨hrest.alloc,?_,?_⟩
      · rw [hrest.waiting, refused_again_queues, if_neg (by decide)]
      · have hleft := hrest.deferred
        rw [List.length_append, List.length_singleton] at hleft
        rw [grants, hok, List.count_cons_self, Nat.add_comm (List.count _ _),
          ← Nat.add_assoc]
        exact hleft
    | true =>
      rw [retry_granted_turn s r (xs++ys) hok]
      have hrest := ih ys (granted kv s r (xs++ys))
        (by rw [granted_queues, if_neg (by decide), if_pos rfl])
      refine ⟨hrest.alloc,?_,?_⟩
      · rw [hrest.waiting, granted_queues, if_neg (by decide), if_neg (by decide)]
      · rw [grants, hok, List.count_cons_of_ne (by decide)]
        exact hrest.deferred

/-- Nobody who waits behind a deferred prompt is granted. -/
theorem Scheduler.InTurn.admission (h : InTurn kv s)
    (hleft : (s.retryDeferredPrefill kv).2.queues .deferredPrefill ≠ []) :
    ∀ r ∈ ((s.retryDeferredPrefill kv).2.queues .waitingPrefill).head?,
      (kv.allocatePrefill (s.retryDeferredPrefill kv).2.kvAllocator r).ok = false := by
  have hpass : Retried kv (s.queues .deferredPrefill) [] s (s.retryDeferredPrefill kv).2 :=
    retry_pass _ [] s (List.append_nil _).symm
  have hrefused : false ∈ grants kv s.kvAllocator (s.queues .deferredPrefill) := by
    by_contra hall
    have hnone := hpass.deferred
    rw [List.count_eq_zero_of_not_mem hall] at hnone
    exact hleft (List.eq_nil_of_length_eq_zero hnone)
  rw [hpass.alloc, hpass.waiting]
  exact h.waiting hrefused

/-- Nobody overtakes in the pass over the deferred prompts. -/
theorem retry_prefill_line (h : InLine s) (hp : s.queues .prefill = [])
    (hturn : ∀ ok ∈ (grants kv s.kvAllocator (s.queues .deferredPrefill)).tail, ok = false) :
    InLine (s.retryDeferredPrefill kv).2 := by
  unfold retryDeferredPrefill
  cases hq : s.queues .deferredPrefill with
  | nil => exact h
  | cons r rest =>
    rw [hq] at hturn
    cases hok : (kv.allocatePrefill s.kvAllocator r).ok with
    | false =>
      have hall : ∀ ok ∈ grants kv s.kvAllocator (r::rest), ok = false := by
        intro ok hm
        rcases List.mem_cons.mp hm with rfl | hm
        · exact hok
        · exact hturn ok hm
      have hrefused := retry_all_refused (r::rest) [] s (by rw [hq, List.append_nil]) hall
      apply hrefused.line
      unfold InLine at h
      rwa [hq] at h
    | true =>
      rw [List.length_cons, forFront, pop_front_cons s _ r rest hq]
      dsimp only
      rw [retry_granted_turn s r rest hok]
      have hleft : (granted kv s r rest).queues .deferredPrefill = rest++[] := by
        rw [granted_queues, if_neg (by decide), if_pos rfl, List.append_nil]
      have hrefused := retry_all_refused rest [] _ hleft hturn
      exact hrefused.line (granted_line h hp hq)

end Deferred

section Waiting

variable {kv : KvAllocator A} {s : Scheduler A B}

/-- A loop whose turns keep `I`, or stop and leave `J`. -/
theorem for_front_stops (I J : Scheduler A B → Prop) (q : Place)
    (body : Request → Scheduler A B → Turn × Scheduler A B)
    (hbody : ∀ r t u, I t → t.popFront q = some (r,u) →
      J (body r u).2 ∧ ((body r u).1 ≠ .stopped → I (body r u).2))
    (hend : ∀ t, I t → J t) (n : ℕ) (s : Scheduler A B) (h : I s) : J (s.forFront q body n).2 := by
  induction n generalizing s with
  | zero => exact hend s h
  | succ n ih =>
    unfold forFront
    cases hp : s.popFront q with
    | none => exact hend s h
    | some popped =>
      obtain ⟨r,t⟩ := popped
      obtain ⟨hj,hi⟩ := hbody r s t h hp
      dsimp only
      generalize body r t = out at hj hi ⊢
      obtain ⟨turn,u⟩ := out
      cases turn with
      | progressed => exact ih u (hi (by simp))
      | continued => exact ih u (hi (by simp))
      | stopped => exact hj

variable (kv) in
theorem admit_refused_line {t : Scheduler A B} {r : Request} (h : InLine s)
    (hp : s.popFront .waitingPrefill = some (r,t))
    (hok : (kv.allocatePrefill t.kvAllocator r).ok = false) :
    (t.admitWaitingTurn kv r).1 = .stopped ∧ InLine (t.admitWaitingTurn kv r).2 := by
  have hturn : t.admitWaitingTurn kv r = (.stopped,
      (t.withAllocator (kv.allocatePrefill t.kvAllocator r).alloc).pushBack .deferredPrefill
        ((kv.allocatePrefill t.kvAllocator r).req.withState .deferredPrefillKV)) :=
    if_neg (Bool.eq_false_iff.mp hok)
  obtain ⟨hq,_⟩ := pop_front_some hp
  have hother := pop_front_other hp
  have hid := (kv.prefill_text t.kvAllocator r).requestId
  rw [hturn]
  refine ⟨rfl,?_⟩
  unfold InLine at h ⊢
  rw [push_back_queues, push_back_queues, push_back_queues, push_back_queues, if_neg (by decide),
    if_neg (by decide), if_pos rfl, if_neg (by decide)]
  simp only [with_allocator_queues]
  rw [hother .prefillBatch (by decide), hother .prefill (by decide),
    hother .deferredPrefill (by decide)]
  have hlog := pop_front_log hp
  show t.popped = requestIds t.prefillCalls.flatten++_
  rw [hlog.1, hlog.2, h, hq]
  simp [handed, requestIds, Request.withState, hid]

theorem admit_granted_line {t : Scheduler A B} {r : Request} (h : InLine s)
    (hd : s.queues .deferredPrefill = []) (hp : s.popFront .waitingPrefill = some (r,t))
    (hok : (kv.allocatePrefill t.kvAllocator r).ok = true) :
    InLine (t.admitWaitingTurn kv r).2 ∧
      (t.admitWaitingTurn kv r).2.queues .deferredPrefill = [] := by
  have hturn : t.admitWaitingTurn kv r = (.progressed,
      (t.withAllocator (kv.allocatePrefill t.kvAllocator r).alloc).pushBack .prefill
        ((kv.allocatePrefill t.kvAllocator r).req.withState .prefillRunning)) := if_pos hok
  obtain ⟨hq,_⟩ := pop_front_some hp
  have hother := pop_front_other hp
  have hid := (kv.prefill_text t.kvAllocator r).requestId
  have hnone : t.queues .deferredPrefill = [] := (hother _ (by decide)).trans hd
  rw [hturn]
  constructor
  · unfold InLine at h ⊢
    rw [push_back_queues, push_back_queues, push_back_queues, push_back_queues,
      if_neg (by decide), if_pos rfl, if_neg (by decide), if_neg (by decide)]
    simp only [with_allocator_queues]
    rw [hother .prefillBatch (by decide), hother .prefill (by decide), hnone]
    have hlog := pop_front_log hp
    show t.popped = requestIds t.prefillCalls.flatten++_
    rw [hlog.1, hlog.2, h, hq, hd]
    simp [handed, requestIds, Request.withState, hid]
  · rw [push_back_queues, if_neg (by decide)]
    exact hnone

theorem admit_waiting_line (h : InLine s)
    (hwait : s.queues .deferredPrefill ≠ [] → ∀ r ∈ (s.queues .waitingPrefill).head?,
      (kv.allocatePrefill s.kvAllocator r).ok = false) :
    InLine (s.admitWaitingPrefill kv).2 := by
  unfold admitWaitingPrefill
  by_cases hd : s.queues .deferredPrefill = []
  · apply for_front_stops (fun t => InLine t ∧ t.queues .deferredPrefill = []) InLine
    · rintro r t u ⟨ht,hnone⟩ hp
      cases hok : (kv.allocatePrefill u.kvAllocator r).ok with
      | false =>
        obtain ⟨hstop,hline⟩ := admit_refused_line kv ht hp hok
        exact ⟨hline,fun hne => absurd hstop hne⟩
      | true =>
        have hgranted := admit_granted_line ht hnone hp hok
        exact ⟨hgranted.1,fun _ => hgranted⟩
    · exact fun t ht => ht.1
    · exact ⟨h,hd⟩
  · cases hn : (s.queues .waitingPrefill).length with
    | zero => exact h
    | succ n =>
      obtain ⟨r,rest,hq⟩ := List.exists_cons_of_length_eq_add_one hn
      have hp := pop_front_cons s .waitingPrefill r rest hq
      obtain ⟨hstop,hline⟩ := admit_refused_line kv h hp
        (by rw [(pop_front_frame hp).1]; exact hwait hd r (by rw [hq]; rfl))
      rw [forFront, hp]
      dsimp only
      generalize admitWaitingTurn kv r _ = out at hstop hline
      obtain ⟨turn,t⟩ := out
      obtain rfl : turn = .stopped := hstop
      exact hline

end Waiting

section Served

variable {kv : KvAllocator A} {be : InferenceBackend B} {s : Scheduler A B}

theorem start_prefill_line (h : InLine s) : InLine s.startPrefill := by
  apply for_front_keeps InLine
  · intro r t u ht hp
    obtain ⟨hq,_⟩ := pop_front_some hp
    have hother := pop_front_other hp
    have hlog := pop_front_log hp
    unfold InLine startPrefillTurn at *
    dsimp only
    rw [push_back_queues, push_back_queues, push_back_queues, push_back_queues, if_pos rfl,
      if_neg (by decide), if_neg (by decide), if_neg (by decide), hother .prefillBatch (by decide),
      hother .deferredPrefill (by decide), hother .waitingPrefill (by decide)]
    show u.popped = requestIds u.prefillCalls.flatten++_
    rw [hlog.1, hlog.2, ht, hq]
    simp [handed, requestIds, Request.withState]
  · exact h

theorem serve_prefill_line (h : InLine s) : InLine (s.servePrefill kv be) := by
  have honly := serve_prefill_only kv be s
  have hempty : (s.servePrefill kv be).queues .prefillBatch = [] :=
    respond_loop_empties kv _ _ _ (by simp) (by simp) _ _ _ rfl
  have hlog : (s.servePrefill kv be).popped = s.popped ∧
      (s.servePrefill kv be).prefillCalls = s.prefillCalls++[s.queues .prefillBatch] := by
    apply respond_loop_keeps fun t => t.popped = s.popped ∧
      t.prefillCalls = s.prefillCalls++[s.queues .prefillBatch]
    · rintro answer r t u ht hp
      rw [(pop_front_some hp).2]
      unfold respondPrefill respond
      dsimp only
      split <;> exact ht
    · exact ⟨rfl,rfl⟩
  unfold InLine handed at h ⊢
  rw [hlog.1, hlog.2, hempty, honly .prefill (by simp), honly .deferredPrefill (by simp),
    honly .waitingPrefill (by simp), h]
  simp [requestIds]

theorem run_prefill_line (h : InLine s) : InLine (s.runPrefillBatch kv be).2 := by
  have hrounds : InLine (prefillRounds kv be (s.queues .prefill).length
      { s with hasResp := false }).2 := by
    apply prefill_rounds_keeps kv be InLine
    · exact fun t ht => start_prefill_line ht
    · exact fun t ht => serve_prefill_line ht
    · exact h.same ⟨rfl,rfl,fun _ _ => rfl⟩
  exact hrounds.same (notify_line _)

end Served

section Body

variable (kv : KvAllocator A) (be : InferenceBackend B) (s : Scheduler A B)

theorem before_prefill_settled (h : s.Settled) : (s.beforePrefill kv be).2.Settled := by
  have hswap (t : Scheduler A B) (ht : t.Settled) : (t.retrySwapInRequests kv).2.Settled :=
    ht.only (t.retry_swap_in_only kv) (by simp)
  have hdrain : s.drainUnlessPaused.Settled := h.only s.drain_unless_paused_only (by simp)
  unfold beforePrefill
  refine then_run_keeps (P := Settled) ?_ hswap
  refine then_run_keeps (P := Settled) ?_ fun t ht => t.run_decode_settled kv be ht
  refine then_run_keeps (P := Settled) ?_ fun t ht => ht.only t.retry_deferred_decode_only (by simp)
  exact then_run_keeps (P := Settled) hdrain hswap

theorem run_phases_line (hs : s.Settled) (h : InLine s)
    (hturn : (s.beforePrefill kv be).2.InTurn kv) : InLine (s.runPhases kv be).2 := by
  have hbefore := before_prefill_line kv be s h
  have hprefill := (before_prefill_settled kv be s hs).prefill
  have hstages : s.runPhases kv be = thenRun (retrySwapInRequests kv)
      (thenRun (runPrefillBatch kv be) (thenRun (admitWaitingPrefill kv)
        (thenRun (retryDeferredPrefill kv) (s.beforePrefill kv be)))) := rfl
  rw [hstages]
  generalize s.beforePrefill kv be = out at hturn hbefore hprefill
  apply then_run_keeps (P := InLine)
  · apply then_run_keeps (P := InLine)
    · have hretried := retry_prefill_line hbefore hprefill hturn.deferred
      exact admit_waiting_line hretried hturn.admission
    · exact fun t ht => run_prefill_line ht
  · exact fun t ht => ht.same (retry_swap_in_line kv t)

theorem body_line (hs : s.Settled) (h : InLine s) (hturn : (s.beforePrefill kv be).2.InTurn kv) :
    InLine (s.workerLoopBody kv be) := by
  have hphases := run_phases_line kv be s hs h hturn
  have hvictim : InLine (if !(s.runPhases kv be).1 && !(s.runPhases kv be).2.noInternalWork then
      ((s.runPhases kv be).2.trySwapOutVictim kv).2 else (s.runPhases kv be).2) := by
    split
    · exact hphases.same (try_swap_out_line kv _)
    · exact hphases
  exact hvictim.same (resume_line _)

/-- Waking up pops one request. -/
theorem wait_line {t : Scheduler A B} (hw : s.waitAndEnqueueOneRequest = some t)
    (h : InLine s) : InLine t := by
  unfold waitAndEnqueueOneRequest at hw
  split at hw
  · obtain rfl := Option.some.inj hw
    exact InLine.enqueue s h ‹_›
  · split at hw
    · obtain rfl := Option.some.inj hw
      exact h
    · cases hw

end Body

section Runs

variable (kv : KvAllocator A) (be : InferenceBackend B)

abbrev ReachedInTurn (start : Scheduler A B) : Control → Scheduler A B → Prop :=
  ReachedWhere (fun s => (s.beforePrefill kv be).2.InTurn kv) kv be (fun _ _ => True) start

theorem reached_in_line {start s : Scheduler A B} {c : Control} (hs : start.Settled)
    (h0 : InLine start) (h : ReachedInTurn kv be start c s) : s.Settled ∧ InLine s := by
  induction h with
  | start => exact ⟨hs,h0⟩
  | submit c s req h _ ih =>
    refine ⟨submit_settled s req ih.1,ih.2.same ?_⟩
    exact (SameLine.refl s).pushBack .request req (by simp)
  | stop c s h ih => exact ⟨⟨ih.1.1,ih.1.2,ih.1.3,ih.1.4,ih.1.5⟩,ih.2⟩
  | body s h hr ht hw ih => exact ⟨body_settled kv be s ih.1,body_line kv be s ih.1 ih.2 ht⟩
  | idle s h hr ht hw ih => exact ⟨body_settled kv be s ih.1,body_line kv be s ih.1 ih.2 ht⟩
  | wake s t h hw ih => exact ⟨wait_settled s t hw ih.1,wait_line s hw ih.2⟩

/-- While nobody overtakes, the prompts are handed over in the order in which they were popped. -/
theorem first_come_first_served (a : A) (b : B) (async : Bool) (c : Control) (s : Scheduler A B)
    (h : ReachedInTurn kv be (started a b async) c s) : s.FirstComeFirstServed := by
  have hline := (reached_in_line kv be (started_settled a b async) rfl h).2
  exact ⟨_,hline.symm⟩

end Runs

/-- Three prompts of two blocks in every layer, and a pool of three blocks in every layer. -/
def threeLong : Scheduler (RealKvAllocator ℤ) Unit :=
  let pool := { RealKvAllocator.new freshDevice with blockManager := BlockManager.new 36 36 }
  let long (id : Int32) (maxNewTokens : ℤ) := Request.new id (List.replicate 20 0) maxNewTokens
  (((started pool () true).submitRequest (long 1 3)).submitRequest (long 2 1)).submitRequest
    (long 3 2)

def threeServed (n : ℕ) : Scheduler (RealKvAllocator ℤ) Unit :=
  (workerLoopBody (realKvAllocator ℤ) mockBackend)^[n] threeLong

set_option maxRecDepth 100000 in
/-- The second and the third are deferred while the first decodes, then served one by one. -/
theorem three_served_turns : (∀ n < 4, (threeServed n).running = true ∧
    (threeServed (n+1)).noInternalWork = false ∧
    ((threeServed n).beforePrefill (realKvAllocator ℤ) mockBackend).2.InTurn
      (realKvAllocator ℤ)) ∧
    requestIds ((threeServed 2).queues .deferredPrefill) = [2,3] ∧
    (threeServed 4).handed = [1,2,3] := by
  decide +kernel

theorem three_served_reached (n : ℕ) (hn : n ≤ 4) :
    ReachedInTurn (realKvAllocator ℤ) mockBackend
      (started threeLong.kvAllocator () true) .top (threeServed n) := by
  induction n with
  | zero => exact .submit _ _ _ (.submit _ _ _ (.submit _ _ _ .start trivial) trivial) trivial
  | succ n ih =>
    obtain ⟨hrunning,hwork,hturn⟩ := three_served_turns.1 n hn
    have hbody : threeServed (n+1) =
        (threeServed n).workerLoopBody (realKvAllocator ℤ) mockBackend :=
      Function.iterate_succ_apply' _ n threeLong
    rw [hbody] at hwork ⊢
    exact .body _ (ih (Nat.le_of_succ_le hn)) hrunning hturn hwork

theorem three_served_first : (threeServed 4).handed = [1,2,3] ∧
    (threeServed 4).FirstComeFirstServed :=
  ⟨three_served_turns.2.2,first_come_first_served (realKvAllocator ℤ) mockBackend _ () true .top
    (threeServed 4) (three_served_reached 4 le_rfl)⟩

/-- A prompt that needs 342 blocks in every layer, and one that needs a single block. -/
def longBeforeShort : Scheduler (RealKvAllocator ℤ) Unit :=
  ((startedReal freshDevice () true).submitRequest
    (Request.new 1 (List.replicate 5457 0) 8)).submitRequest (Request.new 2 [5] 8)

def shortServed : Scheduler (RealKvAllocator ℤ) Unit :=
  (longBeforeShort.workerLoopBody (realKvAllocator ℤ) mockBackend).workerLoopBody
    (realKvAllocator ℤ) mockBackend

set_option maxRecDepth 100000 in
theorem short_overtakes :
    Reached (realKvAllocator ℤ) mockBackend (fun _ _ => True) (startedReal freshDevice () true)
      .top shortServed ∧ shortServed.popped = [1,2] ∧ shortServed.handed = [2] ∧
    ¬shortServed.FirstComeFirstServed := by
  have hruns : (longBeforeShort.workerLoopBody (realKvAllocator ℤ) mockBackend).running = true ∧
      (longBeforeShort.workerLoopBody (realKvAllocator ℤ) mockBackend).noInternalWork = false ∧
      shortServed.noInternalWork = false ∧ shortServed.popped = [1,2] ∧
      shortServed.handed = [2] := by decide +kernel
  obtain ⟨hrunning,hwork,hwork',hpopped,hhanded⟩ := hruns
  refine ⟨?_,hpopped,hhanded,?_⟩
  · refine .body _ (.body longBeforeShort ?_ rfl trivial hwork) hrunning trivial hwork'
    exact .submit _ _ _ (.submit _ _ _ .start trivial) trivial
  · rw [FirstComeFirstServed, hpopped, hhanded]
    decide

end MiniLlm

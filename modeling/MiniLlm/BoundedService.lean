import MiniLlm.BodyTokens
import MiniLlm.GreedyServing

/-!
# Everybody is served in time

A request that stands at index `i` of the request queue is finished after
`i/16` bodies of the worker loop and one more for each token that it can get,
whatever else is submitted, as long as the pool has room for everybody whose
request is accepted. With the model as the backend it has then been answered
with greedy decoding of its prompt.
-/

set_option autoImplicit false

namespace MiniLlm

open RealKvAllocator Scheduler Gpt2Weights

variable {α A B : Type*}

/-- The states between two bodies of a run, with the number of bodies so far. A request is
submitted only where it is accepted. -/
inductive Bodies (kv : KvAllocator A) (be : InferenceBackend B)
    (accepts : Scheduler A B → Request → Prop) (begins : Control) (start : Scheduler A B) :
    ℕ → Control → Scheduler A B → Prop
  | start : Bodies kv be accepts begins start 0 begins start
  | submit (n : ℕ) (c : Control) (s : Scheduler A B) (req : Request)
      (h : Bodies kv be accepts begins start n c s) (ha : accepts s req) :
      Bodies kv be accepts begins start n c (s.submitRequest req)
  | stop (n : ℕ) (c : Control) (s : Scheduler A B)
      (h : Bodies kv be accepts begins start n c s) :
      Bodies kv be accepts begins start n c s.stop
  | body (n : ℕ) (s : Scheduler A B) (h : Bodies kv be accepts begins start n .top s)
      (hr : s.running = true) (hw : (s.workerLoopBody kv be).noInternalWork = false) :
      Bodies kv be accepts begins start (n+1) .top (s.workerLoopBody kv be)
  | idle (n : ℕ) (s : Scheduler A B) (h : Bodies kv be accepts begins start n .top s)
      (hr : s.running = true) (hw : (s.workerLoopBody kv be).noInternalWork = true) :
      Bodies kv be accepts begins start (n+1) .waiting (s.workerLoopBody kv be)
  | wake (n : ℕ) (s t : Scheduler A B) (h : Bodies kv be accepts begins start n .waiting s)
      (hw : s.waitAndEnqueueOneRequest = some t) : Bodies kv be accepts begins start n .top t

section Steps

variable {s t : Scheduler (RealKvAllocator α) B} {req : Request}

theorem Attentive.submit (h : Attentive s) (hreq : RoomFor s req) :
    Attentive (s.submitRequest req) :=
  ⟨submit_settled s req h.settled,submit_roomy h.roomy hreq,h.admission⟩

theorem Attentive.stop (h : Attentive s) : Attentive s.stop :=
  ⟨⟨h.settled.prefill,h.settled.cancel,h.settled.decodeBatch,h.settled.nextDecode,
    h.settled.prefillBatch⟩,h.roomy,h.admission⟩

theorem wait_cases {A : Type*} {s t : Scheduler A B} (hw : s.waitAndEnqueueOneRequest = some t) :
    (∃ req u, s.popFront .request = some (req,u) ∧ t = u.enqueueWaiting req) ∨
      t = { s with running := false } := by
  unfold waitAndEnqueueOneRequest at hw
  split at hw
  · rename_i req u hp
    exact .inl ⟨req,u,hp,(Option.some.inj hw).symm⟩
  · split at hw
    · exact .inr (Option.some.inj hw).symm
    · cases hw

theorem Attentive.wake (be : InferenceBackend B) (h : Attentive s)
    (hw : s.waitAndEnqueueOneRequest = some t) : Attentive t := by
  refine ⟨wait_settled s t hw h.settled,?_,?_⟩
  · have hsteps : Steps (realKvAllocator α) be Anything NoRequest s t := wait_steps s t hw
    exact visited_board Roomy (fun _ _ => hop_roomy) hsteps h.roomy
  · rcases wait_cases hw with ⟨req,u,hp,rfl⟩ | rfl
    · show u.admissionPaused = false
      rw [(pop_front_some hp).2]
      exact h.admission
    · exact h.admission

theorem started_attentive (device : Device α) (b : B) (async : Bool) :
    Attentive (startedReal device b async) := by
  refine ⟨started_settled _ b async,⟨started_custody device b async,?_,?_,?_⟩,rfl⟩
  · exact Nat.zero_le _
  all_goals exact fun x hx => absurd hx (Multiset.notMem_zero x)

end Steps

theorem SameAsk.prompt {r q : Request} (h : SameAsk r q) (hr : r.promptsLen ≤ r.tokens.length) :
    q.prompt = r.prompt := by
  obtain ⟨more,hmore⟩ := h.tokens
  rw [Request.prompt, Request.prompt, h.promptsLen, ← hmore, List.take_append_of_le_length hr]

structure OnTheWay (r : Request) (n : ℕ) (s : Scheduler (RealKvAllocator α) B) : Prop where
  attentive : Attentive s
  asked : s.board.Asked r
  taken : ∀ p, p ≠ .finish → ∀ q ∈ s.queues p, q.requestId = r.requestId → q.left ≤ n
  queued : ∀ (i : ℕ) q, (s.queues .request)[i]? = some q → q.requestId = r.requestId →
    i/maxBatchNum+q.left ≤ n

section Ways

variable {s t : Scheduler (RealKvAllocator α) B} {r req : Request} {m n : ℕ}

theorem OnTheWay.mono (h : OnTheWay r m s) (hn : m ≤ n) : OnTheWay r n s :=
  ⟨h.attentive,h.asked,fun p hp q hq hid => (h.taken p hp q hq hid).trans hn,
    fun i q hq hid => (h.queued i q hq hid).trans hn⟩

theorem OnTheWay.submit (h : OnTheWay r n s) (hreq : RoomFor s req) :
    OnTheWay r n (s.submitRequest req) := by
  have hother : req.requestId ≠ r.requestId := by
    obtain ⟨⟨p,q⟩,hx,hask⟩ := h.asked
    have hheld := hreq.fresh.2 q ⟨p,(mem_held s p q).mp hx⟩
    rw [hask.requestId] at hheld
    exact hheld.symm
  have hback (p : Place) : (s.submitRequest req).queues p =
      if p = .request then s.queues .request++[req] else s.queues p := push_back_queues s p _ req
  refine ⟨h.attentive.submit hreq,?_,fun p hp q hq hid => ?_,fun i q hq hid => ?_⟩
  · obtain ⟨x,hx,hask⟩ := h.asked
    rw [submit_board]
    exact ⟨x,Multiset.mem_cons_of_mem hx,hask⟩
  · rw [hback] at hq
    split at hq
    · rcases List.mem_append.mp hq with hq | hq
      · exact h.taken .request (by decide) q hq hid
      · rw [List.mem_singleton.mp hq] at hid
        exact absurd hid hother
    · exact h.taken p hp q hq hid
  · rw [hback, if_pos rfl] at hq
    rcases List.getElem?_append.symm.trans hq with hold
    split at hold
    · exact h.queued i q hold hid
    · rw [List.mem_singleton.mp (List.mem_of_getElem? hold)] at hid
      exact absurd hid hother

theorem OnTheWay.wake (be : InferenceBackend B) (h : OnTheWay r n s)
    (hw : s.waitAndEnqueueOneRequest = some t) : OnTheWay r n t := by
  have hsteps : Steps (realKvAllocator α) be Anything NoRequest s t := wait_steps s t hw
  have hattentive := h.attentive.wake be hw
  have hasked := steps_asked hsteps h.asked
  rcases wait_cases hw with ⟨o,u,hp,rfl⟩ | rfl
  · have hfront := (pop_front_some hp).1
    have hback (p : Place) : (u.enqueueWaiting o).queues p =
        if p = .waitingPrefill then u.queues .waitingPrefill++[o] else u.queues p :=
      push_back_queues _ p _ o
    have hrest (p : Place) (hfinish : p ≠ .finish) (q : Request) (hq : q ∈ u.queues p)
        (hid : q.requestId = r.requestId) : q.left ≤ n := by
      by_cases hrequest : p = .request
      · subst hrequest
        exact h.taken .request hfinish q (hfront ▸ List.mem_cons_of_mem o hq) hid
      · rw [pop_front_other hp p hrequest] at hq
        exact h.taken p hfinish q hq hid
    refine ⟨hattentive,hasked,fun p hfinish q hq hid => ?_,fun i q hq hid => ?_⟩
    · rw [hback] at hq
      split at hq
      · rcases List.mem_append.mp hq with hq | hq
        · exact hrest .waitingPrefill (by decide) q hq hid
        · rw [List.mem_singleton.mp hq] at hid ⊢
          exact h.taken .request (by decide) o (hfront ▸ List.mem_cons_self) hid
      · exact hrest p hfinish q hq hid
    · rw [hback, if_neg (by decide)] at hq
      have hnext := h.queued (i+1) q (by rw [hfront]; exact hq) hid
      have hless : i/maxBatchNum ≤ (i+1)/maxBatchNum := Nat.div_le_div_right (Nat.le_succ i)
      omega
  · exact ⟨hattentive,hasked,h.taken,h.queued⟩

/-- A body takes sixteen requests and answers each that is taken. -/
theorem OnTheWay.body (be : InferenceBackend B) (h : OnTheWay r (n+1) s) :
    OnTheWay r n (s.workerLoopBody (realKvAllocator α) be) := by
  have hsteps : Steps (realKvAllocator α) be Anything NoRequest s _ :=
    body_steps (answers_anything be) s h.attentive.settled
  obtain ⟨hrequest,htold⟩ := h.attentive.body_told be
    (G := fun id k => id = r.requestId → k ≤ n+1) h.taken
  have hqueued (i : ℕ) (q : Request)
      (hq : ((s.workerLoopBody (realKvAllocator α) be).queues .request)[i]? = some q)
      (hid : q.requestId = r.requestId) : i/maxBatchNum+q.left ≤ n := by
    rw [hrequest, List.getElem?_drop] at hq
    have hbefore := h.queued _ q hq hid
    rw [Nat.add_div_left i (by decide)] at hbefore
    omega
  refine ⟨h.attentive.body be,steps_asked hsteps h.asked,fun p hfinish q hq hid => ?_,hqueued⟩
  by_cases hp : p = .request
  · subst hp
    obtain ⟨i,hi⟩ := List.mem_iff_getElem?.mp hq
    exact (Nat.le_add_left _ _).trans (hqueued i q hi hid)
  · have hone := (htold p hfinish hp q hq).2 hid
    omega

theorem OnTheWay.finished (h : OnTheWay r 0 s) : ∃ q ∈ s.queues .finish, SameAsk r q := by
  obtain ⟨⟨p,q⟩,hx,hask⟩ := h.asked
  have hq := (mem_held s p q).mp hx
  by_cases hp : p = .finish
  · subst hp
    exact ⟨q,hq,hask⟩
  · have hnone := h.taken p hp q hq hask.requestId
    have hleft : 0 < q.left := h.attentive.roomy.unfinished (p,q) hx hp
    omega

end Ways

section Runs

variable {be : InferenceBackend B} {accepts : Scheduler (RealKvAllocator α) B → Request → Prop}
  (haccepts : ∀ s req, accepts s req → RoomFor s req) {c c' : Control}
  {s t : Scheduler (RealKvAllocator α) B} {m n : ℕ} {r : Request}

include haccepts

theorem bodies_attentive (h : Bodies (realKvAllocator α) be accepts c s n c' t)
    (hs : Attentive s) : Attentive t := by
  induction h with
  | start => exact hs
  | submit n c t req _ ha ih => exact ih.submit (haccepts t req ha)
  | stop n c t _ ih => exact ih.stop
  | body n t _ _ _ ih => exact ih.body be
  | idle n t _ _ _ ih => exact ih.body be
  | wake n t u _ hw ih => exact ih.wake be hw

theorem bodies_on_the_way (h : Bodies (realKvAllocator α) be accepts c s m c' t)
    (hs : OnTheWay r n s) : OnTheWay r (n-m) t := by
  have hbody {k : ℕ} {u : Scheduler (RealKvAllocator α) B} (hu : OnTheWay r (n-k) u) :
      OnTheWay r (n-(k+1)) (u.workerLoopBody (realKvAllocator α) be) :=
    OnTheWay.body be (hu.mono (by omega))
  induction h with
  | start => exact hs
  | submit k c t req _ ha ih => exact ih.submit (haccepts t req ha)
  | stop k c t _ ih => exact ⟨ih.attentive.stop,ih.asked,ih.taken,ih.queued⟩
  | body k t _ _ _ ih => exact hbody ih
  | idle k t _ _ _ ih => exact hbody ih
  | wake k t u _ hw ih => exact ih.wake be hw

end Runs

section Queued

variable {s : Scheduler (RealKvAllocator α) B} {r : Request}

theorem Roomy.held_once (h : Roomy s.board) {p q : Place} {o : Request} (hr : r ∈ s.queues p)
    (ho : o ∈ s.queues q) (hid : o.requestId = r.requestId) : q = p ∧ o = r := by
  have hone := Multiset.inj_on_of_nodup_map h.custody.distinct (q,o) ((mem_held s q o).mpr ho)
    (p,r) ((mem_held s p r).mpr hr) hid
  exact Prod.mk.inj hone

/-- A request that has been taken is finished after a body for each token that is left. -/
theorem taken_on_the_way (hs : Attentive s) {p : Place} (hp : p ≠ .request)
    (hr : r ∈ s.queues p) : OnTheWay r r.left s := by
  refine ⟨hs,⟨(p,r),(mem_held s p r).mpr hr,.refl r⟩,fun q _ o ho hid => ?_,fun i o ho hid => ?_⟩
  · obtain ⟨_,rfl⟩ := hs.roomy.held_once hr ho hid
    exact le_rfl
  · obtain ⟨hplace,_⟩ := hs.roomy.held_once hr (List.mem_of_getElem? ho) hid
    exact absurd hplace.symm hp

theorem queued_left (hs : Attentive s) (hr : r ∈ s.queues .request) :
    r.tokens.length = r.promptsLen ∧ r.left = r.limit := by
  have hplaced : Placed _ r .request :=
    hs.roomy.custody.placed (.request,r) ((mem_held s .request r).mpr hr)
  have htokens : r.tokens.length = r.promptsLen := hplaced.1
  refine ⟨htokens,?_⟩
  unfold Request.left
  omega

theorem queued_on_the_way (hs : Attentive s) {i : ℕ} (hr : (s.queues .request)[i]? = some r) :
    OnTheWay r (i/maxBatchNum+r.limit) s := by
  have hm := List.mem_of_getElem? hr
  obtain ⟨_,hleft⟩ := queued_left hs hm
  refine ⟨hs,⟨(.request,r),(mem_held s _ r).mpr hm,.refl r⟩,fun q _ o ho hid => ?_,
    fun j o ho hid => ?_⟩
  · obtain ⟨_,rfl⟩ := hs.roomy.held_once hm ho hid
    exact hleft.le.trans (Nat.le_add_left _ _)
  · obtain ⟨_,rfl⟩ := hs.roomy.held_once hm (List.mem_of_getElem? ho) hid
    have hids : ((s.queues .request).map Request.requestId)[j]? =
        ((s.queues .request).map Request.requestId)[i]? := by
      rw [List.getElem?_map, List.getElem?_map, ho, hr]
    have hlt : j < ((s.queues .request).map Request.requestId).length := by
      rw [List.length_map]
      exact (List.getElem?_eq_some_iff.mp ho).1
    obtain rfl := (List.getElem?_inj hlt (hs.roomy.custody.queue_distinct .request)).mp hids
    exact Nat.add_le_add_left hleft.le _

end Queued

/-- Whoever is accepted is never refused a block, and is finished in time. -/
theorem served_within (be : InferenceBackend B) (device : Device α) (b : B) (async : Bool)
    {n m : ℕ} {c c' : Control} {s t : Scheduler (RealKvAllocator α) B}
    (h : Bodies (realKvAllocator α) be RoomFor .top (startedReal device b async) n c s)
    (hrun : Bodies (realKvAllocator α) be RoomFor c s m c' t) :
    (∀ p, ¬p.Calm → t.queues p = []) ∧
    (∀ i r, (s.queues .request)[i]? = some r → i/maxBatchNum+r.limit ≤ m →
      ∃ q ∈ t.queues .finish, SameAsk r q) ∧
    ∀ p, p ≠ .request → ∀ r ∈ s.queues p, r.left ≤ m → ∃ q ∈ t.queues .finish, SameAsk r q := by
  have hs := bodies_attentive (fun _ _ ha => ha) h (started_attentive device b async)
  have ht := bodies_attentive (fun _ _ ha => ha) hrun hs
  refine ⟨fun p hp => ht.roomy.none_held hp,fun i r hr hm => ?_,fun p hp r hr hm => ?_⟩
  · have hway := bodies_on_the_way (fun _ _ ha => ha) hrun (queued_on_the_way hs hr)
    rw [Nat.sub_eq_zero_of_le hm] at hway
    exact hway.finished
  · have hway := bodies_on_the_way (fun _ _ ha => ha) hrun (taken_on_the_way hs hp hr)
    rw [Nat.sub_eq_zero_of_le hm] at hway
    exact hway.finished

/-- A body takes sixteen requests and gives each one that it has taken one more token, until it is
finished. -/
theorem one_token_each (be : InferenceBackend B) (device : Device α) (b : B) (async : Bool)
    {n : ℕ} {c : Control} {s : Scheduler (RealKvAllocator α) B}
    (h : Bodies (realKvAllocator α) be RoomFor .top (startedReal device b async) n c s) :
    (s.workerLoopBody (realKvAllocator α) be).queues .request =
      (s.queues .request).drop maxBatchNum ∧
    ∀ p, p ≠ .finish → ∀ r ∈ s.queues p, (p = .request → r ∉ (s.queues p).drop maxBatchNum) →
      ∃ q, SameAsk r q ∧ (q ∈ (s.workerLoopBody (realKvAllocator α) be).queues .finish ∨
        q ∈ (s.workerLoopBody (realKvAllocator α) be).queues .decode ∧
          q.tokens.length = r.tokens.length+1) := by
  have hs := bodies_attentive (fun _ _ ha => ha) h (started_attentive device b async)
  obtain ⟨hrequest,htold⟩ := hs.body_told be
    (G := fun id k => ∀ p, ∀ r ∈ s.queues p, id = r.requestId → k = r.left)
    fun p _ q hq o r hr hid => by rw [(hs.roomy.held_once hr hq hid).2]
  refine ⟨hrequest,fun p hp r hr hfirst => ?_⟩
  have hsteps : Steps (realKvAllocator α) be Anything NoRequest s _ :=
    body_steps (answers_anything be) s hs.settled
  obtain ⟨⟨o,q⟩,hx,hask⟩ := steps_asked hsteps ⟨(p,r),(mem_held s p r).mpr hr,.refl r⟩
  have hq := (mem_held _ o q).mp hx
  change SameAsk r q at hask
  refine ⟨q,hask,?_⟩
  by_cases hfinish : o = .finish
  · subst hfinish
    exact .inl hq
  · by_cases hqueued : o = .request
    · subst hqueued
      rw [hrequest] at hq
      obtain ⟨rfl,rfl⟩ := hs.roomy.held_once hr (List.mem_of_mem_drop hq) hask.requestId
      exact absurd hq (hfirst rfl)
    · obtain ⟨rfl,hleft⟩ := htold o hfinish hqueued q hq
      have hone := hleft p r hr hask.requestId
      have hopen : 0 < q.left := (hs.body be).roomy.unfinished _ hx hfinish
      unfold Request.left at hone hopen
      rw [hask.limit, hask.promptsLen] at hone hopen
      exact .inr ⟨hq,by omega⟩

theorem one_body {kv : KvAllocator A} {be : InferenceBackend B}
    {accepts : Scheduler A B → Request → Prop} {s : Scheduler A B} (hs : s.running = true) :
    ∃ c, Bodies kv be accepts .top s 1 c (s.workerLoopBody kv be) := by
  cases hw : (s.workerLoopBody kv be).noInternalWork with
  | true => exact ⟨_,.idle 0 s .start hs hw⟩
  | false => exact ⟨_,.body 0 s .start hs hw⟩

def firstAsked (limit : ℤ) : Request := Request.new 1 [5] limit

def secondAsked (limit : ℤ) : Request := Request.new 2 [6,7] limit

def twoAsked {B : Type*} (limit : ℤ) (b : B) : Scheduler (RealKvAllocator ℤ) B :=
  ((startedReal freshDevice b true).submitRequest (firstAsked limit)).submitRequest
    (secondAsked limit)

theorem two_asked_room {B : Type*} {limit : ℤ} (h : limit ≤ 3) (b : B) :
    RoomFor (startedReal freshDevice b true) (firstAsked limit) ∧
    RoomFor ((startedReal freshDevice b true).submitRequest (firstAsked limit))
      (secondAsked limit) := by
  have hlimit : (max limit 1).toNat ≤ 3 := by omega
  have hfirst : (firstAsked limit).demand ≤ 12 := by
    show (1+(max limit 1).toNat-1+16-1)/16*12 ≤ 12
    omega
  have hsecond : (secondAsked limit).demand ≤ 12 := by
    show (2+(max limit 1).toNat-1+16-1)/16*12 ≤ 12
    omega
  refine ⟨⟨⟨⟨1,[5],limit,rfl⟩,fun _ ⟨_,hr⟩ => absurd hr List.not_mem_nil⟩,?_⟩,
    ⟨⟨2,[6,7],limit,rfl⟩,?_⟩,?_⟩
  · show 0+(firstAsked limit).demand ≤ 4096
    omega
  · rintro r ⟨p,hr⟩
    rw [submitRequest, push_back_queues] at hr
    split at hr
    · obtain rfl := List.mem_singleton.mp hr
      exact (by decide : (1 : UInt64) ≠ 2)
    · exact absurd hr List.not_mem_nil
  · show (firstAsked limit).demand+0+(secondAsked limit).demand ≤ 4096
    omega

def twoServed : ℕ → Scheduler (RealKvAllocator ℤ) Unit
  | 0 => twoAsked 3 ()
  | n+1 => (twoServed n).workerLoopBody (realKvAllocator ℤ) mockBackend

theorem two_served_sizes : (∀ n < 3, (twoServed n).running = true) ∧
    (twoServed 1).noInternalWork = false ∧
    (twoServed 2).noInternalWork = false ∧ (twoServed 3).noInternalWork = true ∧
    (twoServed 1).queues .request = [] ∧
    ((twoServed 1).queues .decode).map Request.tokens = [[5,1000],[6,7,1000]] := by
  decide +kernel

theorem two_asked_reached : Bodies (realKvAllocator ℤ) mockBackend RoomFor .top
    (startedReal freshDevice () true) 0 .top (twoAsked 3 ()) :=
  have hroom := two_asked_room (le_refl 3) ()
  .submit 0 _ _ _ (.submit 0 _ _ _ .start hroom.1) hroom.2

theorem two_served_given :
    ((twoServed 1).queues .decode).map Request.tokens = [[5,1000],[6,7,1000]] ∧
    ∀ r ∈ (twoServed 1).queues .decode, ∃ q, SameAsk r q ∧
      (q ∈ (twoServed 2).queues .finish ∨
        q ∈ (twoServed 2).queues .decode ∧ q.tokens.length = r.tokens.length+1) := by
  have hreached : Bodies (realKvAllocator ℤ) mockBackend RoomFor .top
      (startedReal freshDevice () true) 1 .top (twoServed 1) :=
    two_asked_reached.body 0 (twoServed 0) rfl two_served_sizes.2.1
  have hnext : twoServed 2 = (twoServed 1).workerLoopBody (realKvAllocator ℤ) mockBackend := rfl
  obtain ⟨_,hgiven⟩ := one_token_each mockBackend freshDevice () true hreached
  rw [hnext]
  refine ⟨two_served_sizes.2.2.2.2.2,fun r hr => ?_⟩
  exact hgiven .decode (by decide) r hr fun hne => absurd hne (by decide)

theorem two_served_finished :
    (∃ q ∈ (twoServed 3).queues .finish, SameAsk (firstAsked 3) q) ∧
    ∃ q ∈ (twoServed 3).queues .finish, SameAsk (secondAsked 3) q := by
  obtain ⟨hrunning,hfirst,hsecond,hthird,_⟩ := two_served_sizes
  have hrun : Bodies (realKvAllocator ℤ) mockBackend RoomFor .top (twoAsked 3 ()) 3 .waiting
      (twoServed 3) :=
    .idle 2 (twoServed 2) (.body 1 (twoServed 1) (.body 0 (twoServed 0) .start rfl hfirst)
      (hrunning 1 (by decide)) hsecond) (hrunning 2 (by decide)) hthird
  have hserved := (served_within mockBackend freshDevice () true two_asked_reached hrun).2.1
  exact ⟨hserved 0 (firstAsked 3) rfl (by decide),hserved 1 (secondAsked 3) rfl (by decide)⟩

section Greedy

def PromptRoom (s : Scheduler (RealKvAllocator α) B) (req : Request) : Prop :=
  RoomFor s req ∧ req.tokens ≠ []

theorem Bodies.trans {kv : KvAllocator A} {be : InferenceBackend B}
    {accepts : Scheduler A B → Request → Prop} {begins c c' : Control} {start s t : Scheduler A B}
    {n m : ℕ} (h : Bodies kv be accepts begins start n c s)
    (k : Bodies kv be accepts c s m c' t) : Bodies kv be accepts begins start (n+m) c' t := by
  induction k with
  | start => exact h
  | submit m c t req _ ha ih => exact .submit _ c t req ih ha
  | stop m c t _ ih => exact .stop _ c t ih
  | body m t _ hr hw ih => exact .body _ t ih hr hw
  | idle m t _ hr hw ih => exact .idle _ t ih hr hw
  | wake m t u _ hw ih => exact .wake _ t u ih hw

theorem bodies_unswapped {be : InferenceBackend B} {device : Device α} {b : B} {async : Bool}
    {n : ℕ} {c : Control} {s : Scheduler (RealKvAllocator α) B}
    (h : Bodies (realKvAllocator α) be PromptRoom .top (startedReal device b async) n c s) :
    ReachedUnswapped (realKvAllocator α) be (startedReal device b async) c s ∧ Attentive s := by
  induction h with
  | start => exact ⟨.start,started_attentive device b async⟩
  | submit n c s req _ ha ih =>
    exact ⟨.submit c s req ih.1 ⟨ha.1.fresh,ha.2⟩,ih.2.submit ha.1⟩
  | stop n c s _ ih => exact ⟨.stop c s ih.1,ih.2.stop⟩
  | body n s _ hr hw ih => exact ⟨.body s ih.1 hr (ih.2.swaps_nobody be) hw,ih.2.body be⟩
  | idle n s _ hr hw ih => exact ⟨.idle s ih.1 hr (ih.2.swaps_nobody be) hw,ih.2.body be⟩
  | wake n s t _ hw ih => exact ⟨.wake s t ih.1 hw,ih.2.wake be hw⟩

theorem GreedyOutputs.same_ask {W : Gpt2Weights} {f : RowAttention} {p : Place} {r q : Request}
    {outputs : List (ℤ × Bool)} (h : GreedyOutputs W f p q outputs) (hask : SameAsk r q)
    (hr : r.promptsLen ≤ r.tokens.length) : GreedyOutputs W f p r outputs := by
  have htokens := h.tokens
  have hflags := h.flags
  rw [hask.prompt hr] at htokens
  rw [hask.maxNewTokens] at hflags
  exact ⟨htokens,hflags,h.earlier,h.complete⟩

/-- In time, and with greedy decoding of the prompt up to its end. -/
theorem answered_in_time (W : Gpt2Weights) {attend : PrefillAttention} {f : RowAttention}
    (hattend : AttendsRows attend f) (shared : FlatMemory.Memory ℝ) (device : Device α)
    (b : Buffers) (async : Bool) {n m : ℕ} {c c' : Control}
    {s t : Scheduler (RealKvAllocator α) Buffers}
    (h : Bodies (realKvAllocator α) (W.backend attend shared) PromptRoom .top
      (startedReal device b async) n c s)
    (hrun : Bodies (realKvAllocator α) (W.backend attend shared) PromptRoom c s m c' t) (i : ℕ)
    (r : Request) (hr : (s.queues .request)[i]? = some r) (hm : i/maxBatchNum+r.limit ≤ m) :
    GreedyOutputs W f .finish r (outputsOf t.responses r.requestId) := by
  have hs := (bodies_unswapped h).2
  have hreached := (bodies_unswapped (h.trans hrun)).1
  have hway := bodies_on_the_way (fun _ _ ha => ha.1) hrun (queued_on_the_way hs hr)
  rw [Nat.sub_eq_zero_of_le hm] at hway
  obtain ⟨q,hq,hask⟩ := hway.finished
  have hgreedy := (reached_greedily hattend device b async hreached).2.outputs hq
  rw [hask.requestId] at hgreedy
  exact hgreedy.same_ask hask (queued_left hs (List.mem_of_getElem? hr)).1.ge

/-- Both get their only token in one batch. -/
theorem two_asked_greedy :
    let s := (twoAsked 1 zeroBuffers).workerLoopBody (realKvAllocator ℤ) copyModel
    GreedyOutputs copyWeights FlashAttention.launchedRows .finish (firstAsked 1)
      (outputsOf s.responses 1) ∧
    GreedyOutputs copyWeights FlashAttention.launchedRows .finish (secondAsked 1)
      (outputsOf s.responses 2) := by
  have hbody : ∃ c, Bodies (realKvAllocator ℤ) copyModel PromptRoom .top (twoAsked 1 zeroBuffers)
      1 c ((twoAsked 1 zeroBuffers).workerLoopBody (realKvAllocator ℤ) copyModel) := one_body rfl
  obtain ⟨c,hbody⟩ := hbody
  obtain ⟨hfirst,hsecond⟩ := two_asked_room (show (1 : ℤ) ≤ 3 by decide) zeroBuffers
  have hasked : Bodies (realKvAllocator ℤ) copyModel PromptRoom .top
      (startedReal freshDevice zeroBuffers true) 0 .top (twoAsked 1 zeroBuffers) :=
    .submit 0 _ _ _ (.submit 0 _ _ _ .start ⟨hfirst,by decide⟩) ⟨hsecond,by decide⟩
  have hanswered := answered_in_time copyWeights FlashAttention.prompt_launch_rows (fun _ => 0)
    freshDevice zeroBuffers true hasked hbody
  exact ⟨hanswered 0 (firstAsked 1) rfl (by decide),hanswered 1 (secondAsked 1) rfl (by decide)⟩

end Greedy

end MiniLlm

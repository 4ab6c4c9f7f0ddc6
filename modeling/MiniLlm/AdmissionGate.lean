import MiniLlm.SchedulerInvariant

/-!
# The gate of admission

A swap-out closes admission, and only a worker loop without internal work
opens it again. The steps here keep the order of the worker loop as far as
the gate is concerned: requests enter while it is open, or when the loop has
nothing left to do.
-/

set_option autoImplicit false

namespace MiniLlm

open Scheduler

variable {A B : Type*}

namespace Scheduler

def NoBatch (s : Scheduler A B) : Prop :=
  s.queues .decodeBatch = [] ∧ s.queues .nextDecode = [] ∧ s.queues .prefillBatch = []

/-- Every internal queue is empty, and no batch holds a request either. -/
def Drained (s : Scheduler A B) : Prop := s.noInternalWork = true ∧ s.NoBatch

/-- A request is paused only while admission is. -/
def Gated (s : Scheduler A B) : Prop := s.queues .swapOut ≠ [] → s.admissionPaused = true

def Unfinished (s : Scheduler A B) (id : UInt64) : Prop :=
  ∃ p, p ≠ .request ∧ p ≠ .finish ∧ ∃ r ∈ s.queues p, r.requestId = id

end Scheduler

section Steps

variable (kv : KvAllocator A) (be : InferenceBackend B)

/-- The turns of the worker loop, with `try_swap_out_victim` as one of them, and what other
threads do. -/
inductive LoopStep : Scheduler A B → Scheduler A B → Prop
  | submit (s : Scheduler A B) (req : Request) : LoopStep s (s.submitRequest req)
  | stop (s : Scheduler A B) : LoopStep s s.stop
  | drain (s t : Scheduler A B) (req : Request) (hopen : s.admissionPaused = false)
      (h : s.popFront .request = some (req,t)) : LoopStep s (t.enqueueWaiting req)
  | wait (s t : Scheduler A B) (hidle : s.Drained)
      (h : s.waitAndEnqueueOneRequest = some t) : LoopStep s t
  | swapIn (s t : Scheduler A B) (req : Request) (h : s.popFront .swapOut = some (req,t)) :
      LoopStep s (t.swapInTurn kv req).2
  | retryDecode (s t : Scheduler A B) (req : Request)
      (h : s.popFront .deferredDecode = some (req,t)) : LoopStep s (t.retryDecodeTurn req).2
  | enter (s : Scheduler A B) : LoopStep s { s with hasResp := false }
  | admitDecode (s t : Scheduler A B) (req : Request) (h : s.popFront .decode = some (req,t)) :
      LoopStep s (t.admitDecodeTurn kv req)
  | callDecode (s : Scheduler A B) : LoopStep s (s.callDecode be).2
  | respondDecode (s t : Scheduler A B) (req : Request) (answer : Option Response)
      (h : s.popFront .decodeBatch = some (req,t)) : LoopStep s (t.respondDecode kv answer req)
  | flush (s t : Scheduler A B) (req : Request) (h : s.popFront .nextDecode = some (req,t)) :
      LoopStep s (t.pushBack .decode req)
  | notify (s : Scheduler A B) : LoopStep s s.notify
  | retryPrefill (s t : Scheduler A B) (req : Request)
      (h : s.popFront .deferredPrefill = some (req,t)) : LoopStep s (t.retryPrefillTurn kv req).2
  | admitWaiting (s t : Scheduler A B) (req : Request)
      (h : s.popFront .waitingPrefill = some (req,t)) : LoopStep s (t.admitWaitingTurn kv req).2
  | startPrefill (s t : Scheduler A B) (req : Request)
      (h : s.popFront .prefill = some (req,t)) : LoopStep s (t.startPrefillTurn req).2
  | callPrefill (s : Scheduler A B) : LoopStep s (s.callPrefill be).2
  | respondPrefill (s t : Scheduler A B) (req : Request) (answer : Option Response)
      (h : s.popFront .prefillBatch = some (req,t)) : LoopStep s (t.respondPrefill kv answer req)
  | victim (s : Scheduler A B) : LoopStep s (s.trySwapOutVictim kv).2
  | resume (s : Scheduler A B) (hbatch : s.NoBatch) : LoopStep s s.resumeAdmission

abbrev LoopSteps : Scheduler A B → Scheduler A B → Prop := Relation.ReflTransGen (LoopStep kv be)

/-- The points before the next one with nothing left to do. -/
abbrev BusySteps : Scheduler A B → Scheduler A B → Prop :=
  Relation.ReflTransGen fun s t => LoopStep kv be s t ∧ ¬t.Drained

def SwapsOut (s t : Scheduler A B) : Prop := s.trySwapOutVictim kv = (true,t)

end Steps

section Gate

variable {kv : KvAllocator A} {be : InferenceBackend B} {s t u : Scheduler A B} {p q : Place}
  {req req' : Request}

structure Closed (s t : Scheduler A B) : Prop where
  popped : t.popped = s.popped
  unfinished : ∀ id, t.Unfinished id → s.Unfinished id

structure Shut (s t : Scheduler A B) : Prop extends Closed s t where
  paused : t.admissionPaused = s.admissionPaused
  swapOut : t.queues .swapOut ≠ [] → s.queues .swapOut ≠ []

structure Put (s t : Scheduler A B) (q : Place) (req : Request) : Prop where
  popped : t.popped = s.popped
  paused : t.admissionPaused = s.admissionPaused
  held : ∀ o, ∀ r ∈ t.queues o, r ∈ s.queues o ∨ o = q ∧ r = req

theorem Closed.refl (s : Scheduler A B) : Closed s s := ⟨rfl,fun _ => id⟩

theorem Closed.trans (h : Closed s t) (k : Closed t u) : Closed s u :=
  ⟨k.popped.trans h.popped,fun id hid => h.unfinished id (k.unfinished id hid)⟩

theorem Shut.trans (h : Shut s t) (k : Shut t u) : Shut s u :=
  ⟨h.toClosed.trans k.toClosed,k.paused.trans h.paused,fun hne => h.swapOut (k.swapOut hne)⟩

theorem shut_of_queues (hq : t.queues = s.queues) (hp : t.popped = s.popped)
    (ha : t.admissionPaused = s.admissionPaused) : Shut s t := by
  refine ⟨⟨hp,fun id hid => ?_⟩,ha,fun hne => ?_⟩
  · unfold Unfinished at hid ⊢
    rwa [hq] at hid
  · rwa [hq] at hne

theorem put_back (s t : Scheduler A B) (q : Place) (req : Request) (hq : t.queues = s.queues)
    (hp : t.popped = s.popped) (ha : t.admissionPaused = s.admissionPaused) :
    Put s (t.pushBack q req) q req := by
  refine ⟨hp,ha,fun o r hr => ?_⟩
  rw [push_back_queues, hq] at hr
  split at hr
  · rename_i ho
    rcases List.mem_append.mp hr with hr | hr
    · exact .inl (ho ▸ hr)
    · exact .inr ⟨ho,List.mem_singleton.mp hr⟩
  · exact .inl hr

theorem put_front (s t : Scheduler A B) (q : Place) (req : Request) (hq : t.queues = s.queues)
    (hp : t.popped = s.popped) (ha : t.admissionPaused = s.admissionPaused) :
    Put s (t.pushFront q req) q req := by
  refine ⟨hp,ha,fun o r hr => ?_⟩
  rw [push_front_queues, hq] at hr
  split at hr
  · rename_i ho
    rcases List.mem_cons.mp hr with hr | hr
    · exact .inr ⟨ho,hr⟩
    · exact .inl (ho ▸ hr)
  · exact .inl hr

theorem moved_closed (hpop : s.popFront p = some (req,t)) (hput : Put t u q req')
    (hid : req'.requestId = req.requestId) (hrequest : p ≠ .request) (hfinish : p ≠ .finish) :
    Closed s u := by
  obtain ⟨hq,ht⟩ := pop_front_some hpop
  have hpopped : t.popped = s.popped := by
    rw [ht]
    rfl
  refine ⟨hput.popped.trans hpopped,?_⟩
  rintro id ⟨o,horequest,hofinish,r,hr,rfl⟩
  rcases hput.held o r hr with hr | ⟨rfl,rfl⟩
  · refine ⟨o,horequest,hofinish,r,?_,rfl⟩
    by_cases ho : o = p
    · subst ho
      rw [hq]
      exact List.mem_cons_of_mem _ hr
    · rwa [pop_front_other hpop o ho] at hr
  · refine ⟨p,hrequest,hfinish,req,?_,hid.symm⟩
    rw [hq]
    exact List.mem_cons_self

theorem moved_shut (hpop : s.popFront p = some (req,t)) (hput : Put t u q req')
    (hid : req'.requestId = req.requestId) (hrequest : p ≠ .request) (hfinish : p ≠ .finish)
    (hswap : q = .swapOut → p = .swapOut) : Shut s u := by
  obtain ⟨hq,ht⟩ := pop_front_some hpop
  refine ⟨moved_closed hpop hput hid hrequest hfinish,?_,fun hne => ?_⟩
  · rw [hput.paused, ht]
    rfl
  · by_cases hp : p = .swapOut
    · subst hp
      rw [hq]
      exact List.cons_ne_nil _ _
    · obtain ⟨r,rest,hr⟩ := List.exists_cons_of_ne_nil hne
      have hmem : r ∈ u.queues .swapOut := hr ▸ List.mem_cons_self
      rcases hput.held _ r hmem with hold | ⟨hto,_⟩
      · rw [pop_front_other hpop _ (Ne.symm hp)] at hold
        exact List.ne_nil_of_mem hold
      · exact absurd (hswap hto.symm) hp

theorem respond_shut {cache : Request → PagedKVCache → PagedKVCache} {ready : Place}
    {answer : Option Response} (hpop : s.popFront p = some (req,t)) (hrequest : p ≠ .request)
    (hfinish : p ≠ .finish) (hready : ready ≠ .swapOut) :
    Shut s (t.respond kv cache ready answer req) := by
  let out := kv.freeRequest t.kvAllocator (servedRequest cache answer req)
  have hfree : out.2.requestId = req.requestId := (kv.free_text t.kvAllocator _).requestId
  unfold respond
  dsimp only
  split
  · have hput : Put t (Scheduler.pushBack (Scheduler.withAllocator { t with
        responses := t.responses++[pushedResponse cache answer req], hasResp := true } out.1)
        .finish (out.2.withState .finished)) .finish (out.2.withState .finished) :=
      put_back t _ _ _ rfl rfl rfl
    exact moved_shut hpop hput hfree hrequest hfinish fun h => by cases h
  · have hput : Put t (Scheduler.pushBack { t with
        responses := t.responses++[pushedResponse cache answer req], hasResp := true }
        ready ((servedRequest cache answer req).withState .decodeReady)) ready
        ((servedRequest cache answer req).withState .decodeReady) :=
      put_back t _ _ _ rfl rfl rfl
    exact moved_shut hpop hput rfl hrequest hfinish fun h => absurd h hready

theorem victim_closed {before after : List Request} (hq : s.queues q = before++req::after)
    (hrequest : q ≠ .request) (hfinish : q ≠ .finish)
    (hput : Put (s.setQueue q (before++after)) u p req')
    (hid : req'.requestId = req.requestId) : Closed s u := by
  refine ⟨hput.popped,?_⟩
  rintro id ⟨o,horequest,hofinish,r,hr,rfl⟩
  rcases hput.held o r hr with hr | ⟨rfl,rfl⟩
  · refine ⟨o,horequest,hofinish,r,?_,rfl⟩
    rw [set_queue_queues] at hr
    split at hr
    · rename_i ho
      rw [ho, hq]
      rcases List.mem_append.mp hr with hr | hr
      · exact List.mem_append_left _ hr
      · exact List.mem_append_right _ (List.mem_cons_of_mem _ hr)
    · exact hr
  · refine ⟨q,hrequest,hfinish,req,?_,hid.symm⟩
    rw [hq]
    exact List.mem_append_right _ List.mem_cons_self

variable (kv) in
theorem try_from_gate (s : Scheduler A B) (q : Place) (hrequest : q ≠ .request)
    (hfinish : q ≠ .finish) (hswap : q ≠ .swapOut) :
    ((s.tryFrom kv q).1 = true ∧ Closed s (s.tryFrom kv q).2 ∧
      (s.tryFrom kv q).2.admissionPaused = true ∧
      (s.tryFrom kv q).2.queues .swapOut ≠ []) ∨
    ((s.tryFrom kv q).1 = false ∧ Shut s (s.tryFrom kv q).2) := by
  unfold tryFrom
  split
  · exact .inr ⟨rfl,shut_of_queues rfl rfl rfl⟩
  · rename_i before req after hv
    obtain ⟨hq,_,_⟩ := find_victim_some _ _ _ _ _ hv
    have hid := (kv.out_text s.kvAllocator req).requestId
    unfold swapOutVictim
    dsimp only
    split
    · left
      refine ⟨rfl,?_⟩
      have hput := put_back (s.setQueue q (before++after))
        ((s.setQueue q (before++after)).withAllocator (kv.swapOut s.kvAllocator req).alloc)
        .swapOut ((kv.swapOut s.kvAllocator req).req.withState .swappedOut) rfl rfl rfl
      have hclosed := victim_closed hq hrequest hfinish hput hid
      refine ⟨⟨hclosed.popped,hclosed.unfinished⟩,rfl,?_⟩
      dsimp only
      rw [push_back_queues, if_pos rfl]
      exact List.append_ne_nil_of_right_ne_nil _ (List.cons_ne_nil _ _)
    · right
      have hput := put_back (s.setQueue q (before++after))
        ((s.setQueue q (before++after)).withAllocator (kv.swapOut s.kvAllocator req).alloc)
        q ((kv.swapOut s.kvAllocator req).req.withState req.state) rfl rfl rfl
      refine ⟨rfl,victim_closed hq hrequest hfinish hput hid,rfl,fun hne => ?_⟩
      dsimp only at hne
      rwa [push_back_queues, if_neg (Ne.symm hswap), with_allocator_queues, set_queue_queues,
        if_neg (Ne.symm hswap)] at hne

variable (kv) in
theorem try_swap_out_gate (s : Scheduler A B) :
    ((s.trySwapOutVictim kv).1 = true ∧ Closed s (s.trySwapOutVictim kv).2 ∧
      (s.trySwapOutVictim kv).2.admissionPaused = true ∧
      (s.trySwapOutVictim kv).2.queues .swapOut ≠ []) ∨
    ((s.trySwapOutVictim kv).1 = false ∧ Shut s (s.trySwapOutVictim kv).2) := by
  have hfirst := try_from_gate kv s .deferredDecode (by decide) (by decide) (by decide)
  unfold trySwapOutVictim
  generalize s.tryFrom kv .deferredDecode = out at hfirst
  obtain ⟨ok,t⟩ := out
  cases ok with
  | true => exact .inl (hfirst.resolve_right (by simp))
  | false =>
    have hshut := (hfirst.resolve_left (by simp)).2
    rcases try_from_gate kv t .decode (by decide) (by decide) (by decide) with
      ⟨hok,hclosed,hout⟩ | ⟨hok,hnext⟩
    · exact .inl ⟨hok,hshut.toClosed.trans hclosed,hout⟩
    · exact .inr ⟨hok,hshut.trans hnext⟩

inductive GateCase (s t : Scheduler A B) : Prop
  | arrived (hp : t.popped = s.popped) (ha : t.admissionPaused = s.admissionPaused)
      (hq : ∀ p, p ≠ .request → t.queues p = s.queues p)
  | taken (hgate : s.admissionPaused = false ∨ s.Drained)
      (hs : t.queues .swapOut = s.queues .swapOut) (ha : t.admissionPaused = s.admissionPaused)
  | shut (h : Shut s t)
  | swapped (h : Closed s t) (ha : t.admissionPaused = true)
  | opened (hidle : s.Drained) (hp : t.popped = s.popped) (hq : t.queues = s.queues)

theorem enqueue_case (hpop : s.popFront .request = some (req,t))
    (hgate : s.admissionPaused = false ∨ s.Drained) : GateCase s (t.enqueueWaiting req) := by
  refine .taken hgate ?_ ?_
  · have hput : (t.enqueueWaiting req).queues .swapOut = t.queues .swapOut :=
      push_back_only _ .waitingPrefill req [.waitingPrefill] (by simp) _ (by simp)
    exact hput.trans (pop_front_other hpop _ (by decide))
  · rw [(pop_front_some hpop).2]
    rfl

theorem pushed_gate {a : A} (hpop : s.popFront p = some (req,t))
    (hid : req'.requestId = req.requestId) (hrequest : p ≠ .request) (hfinish : p ≠ .finish)
    (hswap : q = .swapOut → p = .swapOut) :
    GateCase s ((t.withAllocator a).pushBack q req') :=
  .shut (moved_shut hpop (put_back t _ _ _ rfl rfl rfl) hid hrequest hfinish hswap)

theorem step_gate (h : LoopStep kv be s t) : GateCase s t := by
  cases h with
  | submit req =>
    exact .arrived rfl rfl fun p hp => push_back_only s .request req [.request] (by simp) p
      (by simpa using hp)
  | stop | callDecode | callPrefill | enter => exact .shut (shut_of_queues rfl rfl rfl)
  | notify =>
    unfold notify
    split <;> exact .shut (shut_of_queues rfl rfl rfl)
  | drain t req hopen hpop => exact enqueue_case hpop (.inl hopen)
  | wait t hidle hwait =>
    unfold waitAndEnqueueOneRequest at hwait
    split at hwait
    · rename_i req u hpop
      obtain rfl := Option.some.inj hwait
      exact enqueue_case hpop (.inr hidle)
    · split at hwait
      · obtain rfl := Option.some.inj hwait
        exact .shut (shut_of_queues rfl rfl rfl)
      · cases hwait
  | swapIn t req hpop =>
    have hid := (kv.in_text t.kvAllocator req).requestId
    unfold swapInTurn
    dsimp only
    split
    · exact pushed_gate hpop hid (by decide) (by decide) fun _ => rfl
    · exact pushed_gate hpop hid (by decide) (by decide) fun _ => rfl
  | retryDecode t req hpop =>
    exact .shut (moved_shut hpop (put_back t t _ _ rfl rfl rfl) rfl (by decide) (by decide)
      fun h => by cases h)
  | admitDecode t req hpop =>
    have hid := (kv.decode_text t.kvAllocator req).requestId
    unfold admitDecodeTurn
    dsimp only
    split
    · exact pushed_gate hpop hid (by decide) (by decide) fun h => by cases h
    · exact pushed_gate hpop hid (by decide) (by decide) fun h => by cases h
  | respondDecode t req answer hpop =>
    exact .shut (respond_shut hpop (by decide) (by decide) (by decide))
  | flush t req hpop =>
    exact .shut (moved_shut hpop (put_back t t _ _ rfl rfl rfl) rfl (by decide) (by decide)
      fun h => by cases h)
  | retryPrefill t req hpop =>
    have hid := (kv.prefill_text t.kvAllocator req).requestId
    unfold retryPrefillTurn
    dsimp only
    split
    · exact .shut (moved_shut hpop (put_front t _ _ _ rfl rfl rfl) hid (by decide) (by decide)
        fun h => by cases h)
    · exact pushed_gate hpop hid (by decide) (by decide) fun h => by cases h
  | admitWaiting t req hpop =>
    have hid := (kv.prefill_text t.kvAllocator req).requestId
    unfold admitWaitingTurn
    dsimp only
    split
    · exact pushed_gate hpop hid (by decide) (by decide) fun h => by cases h
    · exact pushed_gate hpop hid (by decide) (by decide) fun h => by cases h
  | startPrefill t req hpop =>
    exact .shut (moved_shut hpop (put_back t t _ _ rfl rfl rfl) rfl (by decide) (by decide)
      fun h => by cases h)
  | respondPrefill t req answer hpop =>
    exact .shut (respond_shut hpop (by decide) (by decide) (by decide))
  | victim =>
    rcases try_swap_out_gate kv s with ⟨_,hclosed,hpaused,_⟩ | ⟨_,hshut⟩
    · exact .swapped hclosed hpaused
    · exact .shut hshut
  | resume hbatch =>
    unfold resumeAdmission
    split
    · rename_i hopen
      exact .opened ⟨(Bool.and_eq_true_iff.mp hopen).2,hbatch⟩ rfl rfl
    · exact .shut (shut_of_queues rfl rfl rfl)

theorem Scheduler.Drained.none_out (h : s.Drained) : s.queues .swapOut = [] := by
  have hwork := h.1
  unfold noInternalWork at hwork
  simp only [Bool.and_eq_true, List.isEmpty_iff] at hwork
  exact hwork.1.2

theorem step_gated (h : LoopStep kv be s t) (hs : s.Gated) : t.Gated := by
  intro hne
  cases step_gate h with
  | arrived _ ha hq =>
    rw [hq _ (by decide)] at hne
    rw [ha]
    exact hs hne
  | taken _ hq ha =>
    rw [hq] at hne
    rw [ha]
    exact hs hne
  | shut hshut =>
    rw [hshut.paused]
    exact hs (hshut.swapOut hne)
  | swapped _ ha => exact ha
  | opened hidle _ hq =>
    rw [hq] at hne
    exact absurd hidle.none_out hne

theorem steps_gated (h : LoopSteps kv be s t) (hs : s.Gated) : t.Gated := by
  induction h with
  | refl => exact hs
  | tail _ hstep ih => exact step_gated hstep ih

theorem step_closed (h : LoopStep kv be s t) (hpaused : s.admissionPaused = true)
    (hs : ¬s.Drained) : Closed s t ∧ t.admissionPaused = true := by
  cases step_gate h with
  | arrived hp ha hq =>
    refine ⟨⟨hp,?_⟩,ha.trans hpaused⟩
    rintro id ⟨p,hrequest,hfinish,hr⟩
    rw [hq p hrequest] at hr
    exact ⟨p,hrequest,hfinish,hr⟩
  | taken hgate =>
    rcases hgate with hopen | hidle
    · rw [hopen] at hpaused
      cases hpaused
    · exact absurd hidle hs
  | shut hshut => exact ⟨hshut.toClosed,hshut.paused.trans hpaused⟩
  | swapped hclosed ha => exact ⟨hclosed,ha⟩
  | opened hidle => exact absurd hidle hs

theorem busy_closed (h : BusySteps kv be s t) (hpaused : s.admissionPaused = true)
    (hs : ¬s.Drained) : Closed s t ∧ t.admissionPaused = true ∧ ¬t.Drained := by
  induction h with
  | refl => exact ⟨.refl s,hpaused,hs⟩
  | tail _ hstep ih =>
    obtain ⟨hclosed,hstill,hwork⟩ := ih
    obtain ⟨hnext,hafter⟩ := step_closed hstep.1 hstill hwork
    exact ⟨hclosed.trans hnext,hafter,hstep.2⟩

theorem swaps_out_closes (h : SwapsOut kv s t) : t.admissionPaused = true ∧ ¬t.Drained := by
  unfold SwapsOut at h
  have hgate := try_swap_out_gate kv s
  rw [h] at hgate
  obtain ⟨_,_,hpaused,hout⟩ := hgate.resolve_right fun hno => by cases hno.1
  exact ⟨hpaused,fun hidle => hout hidle.none_out⟩

end Gate

section Realized

variable {kv : KvAllocator A} {be : InferenceBackend B}

theorem serve_decode_loop (s : Scheduler A B) : LoopSteps kv be s (s.serveDecode kv be) :=
  .head (.callDecode s) (respond_loop_run Anything _ _
    (fun s t req answer h _ => .respondDecode s t req answer h)
    (fun answer req t => respond_only t kv _ _ answer req _ (by simp)) _ _ _
    fun _ _ _ _ _ => trivial)

theorem serve_prefill_loop (s : Scheduler A B) : LoopSteps kv be s (s.servePrefill kv be) :=
  .head (.callPrefill s) (respond_loop_run Anything _ _
    (fun s t req answer h _ => .respondPrefill s t req answer h)
    (fun answer req t => respond_only t kv _ _ answer req _ (by simp)) _ _ _
    fun _ _ _ _ _ => trivial)

theorem loop_turns : PhaseTurns kv be (LoopStep kv be) where
  swapIn := .swapIn
  retryDecode := .retryDecode
  admitDecode := .admitDecode
  flush := .flush
  retryPrefill := .retryPrefill
  admitWaiting := .admitWaiting
  startPrefill := .startPrefill
  enter := .enter
  leave := .notify
  serveDecode := serve_decode_loop
  servePrefill := serve_prefill_loop

theorem drain_loop (s : Scheduler A B) : LoopSteps kv be s s.drainUnlessPaused := by
  unfold drainUnlessPaused
  split
  · exact .refl
  · rename_i hopen
    let P (t : Scheduler A B) : Prop := LoopSteps kv be s t ∧ t.admissionPaused = false
    suffices hdrained : P s.drainNewRequests from hdrained.1
    apply for_front_keeps P
    · rintro req t u ⟨hrun,hstill⟩ hpop
      refine ⟨hrun.tail (.drain t u req hstill hpop),?_⟩
      rw [(pop_front_some hpop).2]
      exact hstill
    · exact ⟨.refl,Bool.not_eq_true _ ▸ hopen⟩

theorem Scheduler.Settled.no_batch {s : Scheduler A B} (h : s.Settled) : s.NoBatch :=
  ⟨h.decodeBatch,h.nextDecode,h.prefillBatch⟩

theorem body_loop (s : Scheduler A B) (h : s.Settled) :
    LoopSteps kv be s (s.workerLoopBody kv be) := by
  have hphases : LoopSteps kv be s (s.runPhases kv be).2 :=
    loop_turns.run_phases s (drain_loop s)
  have hsettled := s.run_phases_settled kv be h
  unfold workerLoopBody
  dsimp only
  split
  · have hvictim := hsettled.only (try_swap_out_only kv (s.runPhases kv be).2) (by simp)
    exact (hphases.tail (.victim _)).tail (.resume _ hvictim.no_batch)
  · exact hphases.tail (.resume _ hsettled.no_batch)

/-- Between two bodies the state is settled, and the thread sleeps with nothing to do only. -/
theorem reached_loop {admissible : (Request → Prop) → Request → Prop} {start s : Scheduler A B}
    {c : Control} (hstart : start.Settled) (h : Reached kv be admissible start c s) :
    LoopSteps kv be start s ∧ s.Settled ∧ (c = .waiting → s.noInternalWork = true) := by
  induction h with
  | start => exact ⟨.refl,hstart,fun hc => by cases hc⟩
  | submit c s req _ _ ih =>
    obtain ⟨hrun,hsettled,hidle⟩ := ih
    refine ⟨hrun.tail (.submit s req),submit_settled s req hsettled,fun hc => ?_⟩
    have hsame : (s.submitRequest req).noInternalWork = s.noInternalWork := rfl
    exact hsame.trans (hidle hc)
  | stop c s _ ih =>
    obtain ⟨hrun,hsettled,hidle⟩ := ih
    exact ⟨hrun.tail (.stop s),⟨hsettled.prefill,hsettled.cancel,hsettled.decodeBatch,
      hsettled.nextDecode,hsettled.prefillBatch⟩,hidle⟩
  | body s _ _ _ _ ih =>
    exact ⟨ih.1.trans (body_loop s ih.2.1),body_settled kv be s ih.2.1,fun hc => by cases hc⟩
  | idle s _ _ _ hw ih =>
    exact ⟨ih.1.trans (body_loop s ih.2.1),body_settled kv be s ih.2.1,fun _ => hw⟩
  | wake s t _ hw ih =>
    obtain ⟨hrun,hsettled,hidle⟩ := ih
    exact ⟨hrun.tail (.wait s t ⟨hidle rfl,hsettled.no_batch⟩ hw),wait_settled s t hw hsettled,
      fun hc => by cases hc⟩

/-- From a swap-out until nothing is left to do, no request is taken. -/
theorem admission_closed (kv : KvAllocator A) (be : InferenceBackend B) (a : A) (b : B)
    (async : Bool) :
    (∀ admissible c s, Reached kv be admissible (started a b async) c s →
      LoopSteps kv be (started a b async) s ∧ LoopSteps kv be s (s.workerLoopBody kv be)) ∧
    (∀ s, LoopSteps kv be (started a b async) s →
      s.queues .swapOut ≠ [] → s.admissionPaused = true) ∧
    ∀ s t, LoopSteps kv be (started a b async) s → SwapsOut kv s t →
      ∀ u v, BusySteps kv be t u → BusySteps kv be u v →
        v.popped = t.popped ∧ ∀ id, v.Unfinished id → u.Unfinished id := by
  have hstart := started_settled a b async
  refine ⟨fun admissible c s h => ?_,fun s h => ?_,fun s t _ hout u v hu hv => ?_⟩
  · obtain ⟨hrun,hsettled,_⟩ := reached_loop hstart h
    exact ⟨hrun,body_loop s hsettled⟩
  · exact steps_gated h fun hne => absurd rfl hne
  · obtain ⟨hpaused,hwork⟩ := swaps_out_closes hout
    obtain ⟨hbefore,hstill,hleft⟩ := busy_closed hu hpaused hwork
    have hafter := (busy_closed hv hstill hleft).1
    exact ⟨hafter.popped.trans hbefore.popped,hafter.unfinished⟩

def twoBlocks : RealKvAllocator ℤ :=
  { RealKvAllocator.new freshDevice with blockManager := BlockManager.new 24 24 }

def poolFilled : Scheduler (RealKvAllocator ℤ) Unit :=
  ((started twoBlocks () true).submitRequest (Request.new 1 (List.replicate 16 0) 8)).submitRequest
    (Request.new 2 (List.replicate 16 0) 8)

def poolStalled : Scheduler (RealKvAllocator ℤ) Unit :=
  ((poolFilled.workerLoopBody (realKvAllocator ℤ) mockBackend).runPhases (realKvAllocator ℤ)
    mockBackend).2

theorem pool_stalled_reached : LoopSteps (realKvAllocator ℤ) mockBackend
    (started twoBlocks () true) poolStalled := by
  have hreached : Reached (realKvAllocator ℤ) mockBackend (fun _ _ => True)
      (started twoBlocks () true) .top
      (poolFilled.workerLoopBody (realKvAllocator ℤ) mockBackend) :=
    .body _ (.submit _ _ _ (.submit _ _ _ .start trivial) trivial) rfl trivial (by decide +kernel)
  obtain ⟨hrun,_⟩ := reached_loop (started_settled twoBlocks () true) hreached
  exact hrun.trans (loop_turns.run_phases _ (drain_loop _))

/-- One is swapped out, and a request that comes then is not taken. -/
theorem pool_stalled_closed :
    let t := (poolStalled.trySwapOutVictim (realKvAllocator ℤ)).2
    let u := (t.submitRequest (Request.new 3 [5] 8)).resumeAdmission
    SwapsOut (realKvAllocator ℤ) poolStalled t ∧ u.queues .request ≠ [] ∧
    u.popped = t.popped ∧ ∀ id, u.Unfinished id → t.Unfinished id := by
  intro t u
  have hfacts : (poolStalled.trySwapOutVictim (realKvAllocator ℤ)).1 = true ∧
      (t.submitRequest (Request.new 3 [5] 8)).noInternalWork = false ∧
      u.noInternalWork = false ∧ u.queues .request ≠ [] := by decide +kernel
  obtain ⟨hfound,hwork,hwork',hwaits⟩ := hfacts
  have hout : SwapsOut (realKvAllocator ℤ) poolStalled t := Prod.ext hfound rfl
  have hbusy {v : Scheduler (RealKvAllocator ℤ) Unit} (hv : v.noInternalWork = false) :
      ¬v.Drained := fun h => by rw [h.1] at hv; cases hv
  have hbatch : (t.submitRequest (Request.new 3 [5] 8)).NoBatch := by
    refine ⟨?_,?_,?_⟩ <;> decide +kernel
  have hsteps : BusySteps (realKvAllocator ℤ) mockBackend t u :=
    .tail (.single ⟨.submit t _,hbusy hwork⟩) ⟨.resume _ hbatch,hbusy hwork'⟩
  obtain ⟨hpopped,hunfinished⟩ := (admission_closed (realKvAllocator ℤ) mockBackend twoBlocks ()
    true).2.2 poolStalled t pool_stalled_reached hout t u .refl hsteps
  exact ⟨hout,hwaits,hpopped,hunfinished⟩

end Realized

end MiniLlm

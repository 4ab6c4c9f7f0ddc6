import Mathlib.Logic.Relation
import MiniLlm.PhaseRecords

/-!
# The scheduler as a step relation

One step is one turn of one loop, one call of the backend, one submission or
a change of a flag. The steps may come in any order, except that a victim is
taken only once no request is ready to decode. The body of the worker loop
is a sequence of such steps, so every state the loop passes through is
visited by them. A run may be restricted by what holds of the allocator when
a victim is swapped out, or of the state a body starts in.
-/

set_option autoImplicit false

namespace MiniLlm

open Scheduler

variable {A B : Type*}

structure InferenceBackend.Answers (be : InferenceBackend B)
    (allowed : Request → Response → Prop) : Prop where
  prefill : ∀ b batch (i : ℕ) r resp, batch[i]? = some r →
    (be.prefill b batch).1[i]? = some resp → allowed r resp
  decode : ∀ b batch (i : ℕ) r resp, batch[i]? = some r →
    (be.decode b batch).1[i]? = some resp → allowed r resp

structure Scheduler.SameQueues (s t : Scheduler A B) : Prop where
  queues : t.queues = s.queues
  kvAllocator : t.kvAllocator = s.kvAllocator
  responses : t.responses = s.responses
  popped : t.popped = s.popped
  prefillCalls : t.prefillCalls = s.prefillCalls
  decodeCalls : t.decodeCalls = s.decodeCalls

def Scheduler.Holds (s : Scheduler A B) (r : Request) : Prop := ∃ p, r ∈ s.queues p

/-- A request as constructed, under an id that no request held has. -/
def NewRequest (holds : Request → Prop) (req : Request) : Prop :=
  Constructed req ∧ ∀ r, holds r → r.requestId ≠ req.requestId

section Steps

variable (mayOut : A → Request → Prop) (kv : KvAllocator A) (be : InferenceBackend B)
  (allowed : Request → Response → Prop) (admissible : (Request → Prop) → Request → Prop)

/-- One step of a run whose swap-outs all meet `mayOut`. -/
inductive StepUnder : Scheduler A B → Scheduler A B → Prop
  | submit (s : Scheduler A B) (req : Request) (h : admissible s.Holds req) :
      StepUnder s (s.submitRequest req)
  | enqueue (s t : Scheduler A B) (req : Request) (h : s.popFront .request = some (req,t)) :
      StepUnder s (t.enqueueWaiting req)
  | admitWaiting (s t : Scheduler A B) (req : Request)
      (h : s.popFront .waitingPrefill = some (req,t)) : StepUnder s (t.admitWaitingTurn kv req).2
  | retryPrefill (s t : Scheduler A B) (req : Request)
      (h : s.popFront .deferredPrefill = some (req,t)) : StepUnder s (t.retryPrefillTurn kv req).2
  | retryDecode (s t : Scheduler A B) (req : Request)
      (h : s.popFront .deferredDecode = some (req,t)) : StepUnder s (t.retryDecodeTurn req).2
  | swapIn (s t : Scheduler A B) (req : Request) (h : s.popFront .swapOut = some (req,t)) :
      StepUnder s (t.swapInTurn kv req).2
  | admitDecode (s t : Scheduler A B) (req : Request) (h : s.popFront .decode = some (req,t)) :
      StepUnder s (t.admitDecodeTurn kv req)
  | callDecode (s : Scheduler A B) : StepUnder s (s.callDecode be).2
  | respondDecode (s t : Scheduler A B) (req : Request) (answer : Option Response)
      (h : s.popFront .decodeBatch = some (req,t))
      (ha : ∀ resp, answer = some resp → allowed req resp) :
      StepUnder s (t.respondDecode kv answer req)
  | flush (s t : Scheduler A B) (req : Request) (h : s.popFront .nextDecode = some (req,t)) :
      StepUnder s (t.pushBack .decode req)
  | startPrefill (s t : Scheduler A B) (req : Request)
      (h : s.popFront .prefill = some (req,t)) : StepUnder s (t.startPrefillTurn req).2
  | callPrefill (s : Scheduler A B) : StepUnder s (s.callPrefill be).2
  | respondPrefill (s t : Scheduler A B) (req : Request) (answer : Option Response)
      (h : s.popFront .prefillBatch = some (req,t))
      (ha : ∀ resp, answer = some resp → allowed req resp) :
      StepUnder s (t.respondPrefill kv answer req)
  | victim (s : Scheduler A B) (before after : List Request) (req : Request)
      (hdecode : s.queues .decode = [])
      (hq : s.queues .deferredDecode = before++req::after) (hr : req.kvResidency = .gpu)
      (hs : kv.isSwapped s.kvAllocator req = false) (hout : mayOut s.kvAllocator req) :
      StepUnder s
        ((s.setQueue .deferredDecode (before++after)).swapOutVictim kv .deferredDecode req).2
  | control (s t : Scheduler A B) (h : s.SameQueues t) : StepUnder s t

abbrev StepsUnder : Scheduler A B → Scheduler A B → Prop :=
  Relation.ReflTransGen (StepUnder mayOut kv be allowed admissible)

def VisitedUnder (start s : Scheduler A B) : Prop :=
  StepsUnder mayOut kv be allowed admissible start s

abbrev Step : Scheduler A B → Scheduler A B → Prop :=
  StepUnder (fun _ _ => True) kv be allowed admissible

abbrev Steps : Scheduler A B → Scheduler A B → Prop :=
  Relation.ReflTransGen (Step kv be allowed admissible)

def Visited (start s : Scheduler A B) : Prop := Steps kv be allowed admissible start s

end Steps

theorem step_under_widen {mayOut mayOut' : A → Request → Prop} {kv : KvAllocator A}
    {be : InferenceBackend B} {allowed : Request → Response → Prop}
    {narrow wide : (Request → Prop) → Request → Prop} {s t : Scheduler A B}
    (h : StepUnder mayOut kv be allowed narrow s t)
    (ho : ∀ a r, mayOut a r → mayOut' a r) (hw : ∀ holds req, narrow holds req → wide holds req) :
    StepUnder mayOut' kv be allowed wide s t := by
  cases h with
  | submit req h => exact .submit s req (hw _ _ h)
  | enqueue t req h => exact .enqueue s t req h
  | admitWaiting t req h => exact .admitWaiting s t req h
  | retryPrefill t req h => exact .retryPrefill s t req h
  | retryDecode t req h => exact .retryDecode s t req h
  | swapIn t req h => exact .swapIn s t req h
  | admitDecode t req h => exact .admitDecode s t req h
  | callDecode => exact .callDecode s
  | respondDecode t req answer h ha => exact .respondDecode s t req answer h ha
  | flush t req h => exact .flush s t req h
  | startPrefill t req h => exact .startPrefill s t req h
  | callPrefill => exact .callPrefill s
  | respondPrefill t req answer h ha => exact .respondPrefill s t req answer h ha
  | victim before after req hdecode hq hr hs hout =>
    exact .victim s before after req hdecode hq hr hs (ho _ _ hout)
  | control _ h => exact .control s t h

theorem step_widen {kv : KvAllocator A} {be : InferenceBackend B}
    {allowed : Request → Response → Prop} {narrow wide : (Request → Prop) → Request → Prop}
    {s t : Scheduler A B} (h : Step kv be allowed narrow s t)
    (hw : ∀ holds req, narrow holds req → wide holds req) : Step kv be allowed wide s t :=
  step_under_widen h (fun _ _ => id) hw

theorem steps_widen {kv : KvAllocator A} {be : InferenceBackend B}
    {allowed : Request → Response → Prop} {narrow wide : (Request → Prop) → Request → Prop}
    {s t : Scheduler A B} (h : Steps kv be allowed narrow s t)
    (hw : ∀ holds req, narrow holds req → wide holds req) : Steps kv be allowed wide s t := by
  induction h with
  | refl => exact .refl
  | tail _ hstep ih => exact ih.tail (step_widen hstep hw)

section Phases

variable (kv : KvAllocator A) (be : InferenceBackend B) (R : Scheduler A B → Scheduler A B → Prop)

/-- What `R` has to allow for every phase of the loop body to be a run of it. -/
structure PhaseTurns : Prop where
  swapIn : ∀ s t req, s.popFront .swapOut = some (req,t) → R s (t.swapInTurn kv req).2
  retryDecode : ∀ s t req, s.popFront .deferredDecode = some (req,t) →
    R s (t.retryDecodeTurn req).2
  admitDecode : ∀ s t req, s.popFront .decode = some (req,t) → R s (t.admitDecodeTurn kv req)
  flush : ∀ s t req, s.popFront .nextDecode = some (req,t) → R s (t.pushBack .decode req)
  retryPrefill : ∀ s t req, s.popFront .deferredPrefill = some (req,t) →
    R s (t.retryPrefillTurn kv req).2
  admitWaiting : ∀ s t req, s.popFront .waitingPrefill = some (req,t) →
    R s (t.admitWaitingTurn kv req).2
  startPrefill : ∀ s t req, s.popFront .prefill = some (req,t) → R s (t.startPrefillTurn req).2
  enter : ∀ s, R s { s with hasResp := false }
  leave : ∀ s, R s s.notify
  serveDecode : ∀ s, Relation.ReflTransGen R s (s.serveDecode kv be)
  servePrefill : ∀ s, Relation.ReflTransGen R s (s.servePrefill kv be)

variable {kv be R}

theorem for_front_run (q : Place) (body : Request → Scheduler A B → Turn × Scheduler A B)
    (hbody : ∀ s t req, s.popFront q = some (req,t) → R s (body req t).2) (n : ℕ)
    (s : Scheduler A B) : Relation.ReflTransGen R s (s.forFront q body n).2 :=
  for_front_keeps (Relation.ReflTransGen R s) q body
    (fun req t u h hp => h.tail (hbody t u req hp)) n s .refl

theorem PhaseTurns.run_decode (h : PhaseTurns kv be R) (s : Scheduler A B) :
    Relation.ReflTransGen R s (s.runDecodeBatch kv be).2 := by
  have hrounds := decode_rounds_keeps kv be (Relation.ReflTransGen R s)
    (fun n t ht => ht.trans (admit_decode_keeps (Relation.ReflTransGen R t) kv
      (fun req u v hu hp => hu.tail (h.admitDecode u v req hp)) n t .refl))
    (fun t ht => ht.trans (h.serveDecode t)) (s.queues .decode).length
    (s.queues .decode).length _ (.single (h.enter s))
  have hflush (t : Scheduler A B) : Relation.ReflTransGen R t t.flushNextDecode :=
    for_front_run _ _ h.flush _ t
  exact (hrounds.trans (hflush _)).tail (h.leave _)

theorem PhaseTurns.run_prefill (h : PhaseTurns kv be R) (s : Scheduler A B) :
    Relation.ReflTransGen R s (s.runPrefillBatch kv be).2 := by
  have hbatch (t : Scheduler A B) : Relation.ReflTransGen R t t.startPrefill :=
    for_front_run _ _ h.startPrefill _ t
  have hrounds := prefill_rounds_keeps kv be (Relation.ReflTransGen R s)
    (fun t ht => ht.trans (hbatch t)) (fun t ht => ht.trans (h.servePrefill t))
    (s.queues .prefill).length _ (.single (h.enter s))
  exact hrounds.tail (h.leave _)

/-- Only the drain depends on the state it starts in. -/
theorem PhaseTurns.run_phases (h : PhaseTurns kv be R) (s : Scheduler A B)
    (hdrain : Relation.ReflTransGen R s s.drainUnlessPaused) :
    Relation.ReflTransGen R s (s.runPhases kv be).2 := by
  let P := Relation.ReflTransGen R s
  have hswap (t : Scheduler A B) (ht : P t) : P (t.retrySwapInRequests kv).2 :=
    ht.trans (for_front_run _ _ h.swapIn _ t)
  unfold runPhases
  refine then_run_keeps (P := P) ?_ hswap
  refine then_run_keeps (P := P) ?_ fun t ht => ht.trans (h.run_prefill t)
  refine then_run_keeps (P := P) ?_ fun t ht =>
    ht.trans (for_front_run _ _ h.admitWaiting _ t)
  refine then_run_keeps (P := P) ?_ fun t ht =>
    ht.trans (for_front_run _ _ h.retryPrefill _ t)
  refine then_run_keeps (P := P) ?_ hswap
  refine then_run_keeps (P := P) ?_ fun t ht => ht.trans (h.run_decode t)
  refine then_run_keeps (P := P) ?_ fun t ht =>
    ht.trans (for_front_run _ _ h.retryDecode _ t)
  exact then_run_keeps (P := P) hdrain hswap

end Phases

section Calls

variable (kv : KvAllocator A) (be : InferenceBackend B)

def TakenFrom (q : Place) (s t : Scheduler A B) (victim : Request) : Prop :=
  ∃ before after, findVictim kv s.kvAllocator (s.queues q) = some (before,victim,after) ∧
    t = s.setQueue q (before++after)

/-- The body of the worker loop that starts in `s` calls `swap_out` for `victim` in `t`. -/
inductive SwapOutCall (s t : Scheduler A B) (victim : Request) : Prop
  | deferred (hquiet : (s.runPhases kv be).1 = false)
      (hwork : (s.runPhases kv be).2.noInternalWork = false)
      (htaken : TakenFrom kv .deferredDecode (s.runPhases kv be).2 t victim)
  | decode (u : Scheduler A B) (hquiet : (s.runPhases kv be).1 = false)
      (hwork : (s.runPhases kv be).2.noInternalWork = false)
      (hfirst : (s.runPhases kv be).2.tryFrom kv .deferredDecode = (false,u))
      (htaken : TakenFrom kv .decode u t victim)

/-- Whomever the body starting in `s` tries to swap out, the call meets `mayOut`. -/
def Scheduler.SwapsOutOnly (mayOut : A → Request → Prop) (s : Scheduler A B) : Prop :=
  ∀ t victim, SwapOutCall kv be s t victim → mayOut t.kvAllocator victim

variable {kv be} {s t : Scheduler A B} {victim : Request}

theorem swap_out_call_deferred (hsettled : s.Settled) (h : SwapOutCall kv be s t victim) :
    (s.runPhases kv be).1 = false ∧
      TakenFrom kv .deferredDecode (s.runPhases kv be).2 t victim := by
  cases h with
  | deferred hquiet _ htaken => exact ⟨hquiet,htaken⟩
  | decode u hquiet _ hfirst htaken =>
    have hd := run_phases_quiet kv be s hsettled hquiet
    have hidle := try_from_only kv (s.runPhases kv be).2 .deferredDecode .decode (by simp)
    obtain ⟨before,after,hv,_⟩ := htaken
    rw [hfirst, hd] at hidle
    rw [hidle] at hv
    cases hv

end Calls

section Body

variable {mayOut : A → Request → Prop} {kv : KvAllocator A} {be : InferenceBackend B}
  {allowed : Request → Response → Prop} {admissible : (Request → Prop) → Request → Prop}

theorem control_steps {s t u : Scheduler A B} (h : StepsUnder mayOut kv be allowed admissible s t)
    (k : t.SameQueues u) : StepsUnder mayOut kv be allowed admissible s u := h.tail (.control t u k)

theorem drain_steps (s : Scheduler A B) :
    StepsUnder mayOut kv be allowed admissible s s.drainUnlessPaused := by
  unfold drainUnlessPaused
  split
  · exact .refl
  · exact for_front_run _ _ .enqueue _ s

theorem retry_swap_in_steps (s : Scheduler A B) :
    Steps kv be allowed admissible s (s.retrySwapInRequests kv).2 := for_front_run _ _ .swapIn _ s

theorem retry_deferred_decode_steps (s : Scheduler A B) :
    Steps kv be allowed admissible s s.retryDeferredDecode := for_front_run _ _ .retryDecode _ s

theorem retry_deferred_prefill_steps (s : Scheduler A B) :
    Steps kv be allowed admissible s (s.retryDeferredPrefill kv).2 :=
  for_front_run _ _ .retryPrefill _ s

theorem admit_waiting_steps (s : Scheduler A B) :
    Steps kv be allowed admissible s (s.admitWaitingPrefill kv).2 :=
  for_front_run _ _ .admitWaiting _ s

variable (allowed) in
theorem respond_loop_run {R : Scheduler A B → Scheduler A B → Prop} (q : Place)
    (turn : Option Response → Request → Scheduler A B → Scheduler A B)
    (hturn : ∀ s t req answer, s.popFront q = some (req,t) →
      (∀ resp, answer = some resp → allowed req resp) → R s (turn answer req t))
    (hkeep : ∀ answer req t, (turn answer req t).queues q = t.queues q) (n : ℕ)
    (answers : List Response) (s : Scheduler A B)
    (h : ∀ (i : ℕ) r resp, (s.queues q)[i]? = some r → answers[i]? = some resp → allowed r resp) :
    Relation.ReflTransGen R s (respondLoop q turn n answers s) := by
  induction n generalizing answers s with
  | zero => exact .refl
  | succ n ih =>
    unfold respondLoop
    cases hp : s.popFront q with
    | none => exact .refl
    | some popped =>
      obtain ⟨req,t⟩ := popped
      obtain ⟨hq,_⟩ := pop_front_some hp
      have hhead (resp : Response) (ha : answers.head? = some resp) : allowed req resp :=
        h 0 req resp (by rw [hq]; rfl) (by rw [← List.head?_eq_getElem?, ha])
      refine .head (hturn s t req _ hp hhead) (ih answers.tail _ ?_)
      intro i r resp hr ha
      rw [hkeep] at hr
      refine h (i+1) r resp (by rw [hq]; exact hr) ?_
      rwa [List.getElem?_tail] at ha

theorem serve_decode_steps (hbe : be.Answers allowed) (s : Scheduler A B) :
    StepsUnder mayOut kv be allowed admissible s (s.serveDecode kv be) :=
  .head (.callDecode s) (respond_loop_run allowed _ _
    (fun s t req answer h ha => .respondDecode s t req answer h ha)
    (fun answer req t => respond_only t kv _ _ answer req _ (by simp)) _ _ _
    fun i r resp hr ha => hbe.decode s.backend _ i r resp hr ha)

theorem serve_prefill_steps (hbe : be.Answers allowed) (s : Scheduler A B) :
    StepsUnder mayOut kv be allowed admissible s (s.servePrefill kv be) :=
  .head (.callPrefill s) (respond_loop_run allowed _ _
    (fun s t req answer h ha => .respondPrefill s t req answer h ha)
    (fun answer req t => respond_only t kv _ _ answer req _ (by simp)) _ _ _
    fun i r resp hr ha => hbe.prefill s.backend _ i r resp hr ha)

theorem notify_same (s : Scheduler A B) : s.SameQueues s.notify := by
  unfold notify
  split <;> exact ⟨rfl,rfl,rfl,rfl,rfl,rfl⟩

theorem step_turns (hbe : be.Answers allowed) :
    PhaseTurns kv be (StepUnder mayOut kv be allowed admissible) where
  swapIn := .swapIn
  retryDecode := .retryDecode
  admitDecode := .admitDecode
  flush := .flush
  retryPrefill := .retryPrefill
  admitWaiting := .admitWaiting
  startPrefill := .startPrefill
  enter s := .control s _ ⟨rfl,rfl,rfl,rfl,rfl,rfl⟩
  leave s := .control s _ (notify_same s)
  serveDecode := serve_decode_steps hbe
  servePrefill := serve_prefill_steps hbe

theorem find_victim_some (a : A) (reqs before after : List Request) (req : Request)
    (h : findVictim kv a reqs = some (before,req,after)) :
    reqs = before++req::after ∧ req.kvResidency = .gpu ∧ kv.isSwapped a req = false := by
  induction reqs generalizing before with
  | nil => cases h
  | cons first rest ih =>
    unfold findVictim at h
    split at h
    · obtain ⟨⟨front,tail⟩,hf,heq⟩ := Option.map_eq_some_iff.mp h
      obtain ⟨rfl,rfl⟩ := Prod.mk.inj heq
      obtain ⟨hrest,hr,hs⟩ := ih front hf
      exact ⟨by rw [hrest]; rfl,hr,hs⟩
    · rename_i hgpu
      rw [not_or, not_not, Bool.not_eq_true] at hgpu
      simp only [Option.some.injEq, Prod.mk.injEq] at h
      obtain ⟨rfl,rfl,rfl⟩ := h
      exact ⟨rfl,hgpu⟩

theorem try_swap_out_steps (s : Scheduler A B) (hdecode : s.queues .decode = [])
    (hout : ∀ t victim, TakenFrom kv .deferredDecode s t victim → mayOut t.kvAllocator victim) :
    StepsUnder mayOut kv be allowed admissible s (s.trySwapOutVictim kv).2 := by
  rw [try_swap_out_first kv hdecode]
  unfold tryFrom
  split
  · exact .refl
  · rename_i before req after hv
    obtain ⟨hq,hr,hs⟩ := find_victim_some _ _ _ _ _ hv
    have hmay := hout (s.setQueue .deferredDecode (before++after)) req ⟨before,after,hv,rfl⟩
    exact .single (.victim s before after req hdecode hq hr hs hmay)

theorem run_phases_steps (hbe : be.Answers allowed) (s : Scheduler A B) :
    StepsUnder mayOut kv be allowed admissible s (s.runPhases kv be).2 :=
  (step_turns hbe).run_phases s (drain_steps s)

/-- The body of the worker loop only takes steps. -/
theorem body_steps_under (hbe : be.Answers allowed) (s : Scheduler A B) (h : s.Settled)
    (hout : s.SwapsOutOnly kv be mayOut) :
    StepsUnder mayOut kv be allowed admissible s (s.workerLoopBody kv be) := by
  have hphases : StepsUnder mayOut kv be allowed admissible s (s.runPhases kv be).2 :=
    run_phases_steps hbe s
  have hresume (t : Scheduler A B) : t.SameQueues t.resumeAdmission := by
    unfold resumeAdmission
    split <;> exact ⟨rfl,rfl,rfl,rfl,rfl,rfl⟩
  refine control_steps ?_ (hresume _)
  split
  · rename_i hidle
    rw [Bool.and_eq_true, Bool.not_eq_true', Bool.not_eq_true'] at hidle
    exact hphases.trans (try_swap_out_steps _ (run_phases_quiet kv be s h hidle.1)
      fun t victim htaken => hout t victim (.deferred hidle.1 hidle.2 htaken))
  · exact hphases

theorem body_steps (hbe : be.Answers allowed) (s : Scheduler A B) (h : s.Settled) :
    Steps kv be allowed admissible s (s.workerLoopBody kv be) :=
  body_steps_under hbe s h fun _ _ _ => trivial

theorem step_calls {s t : Scheduler A B} (h : Step kv be allowed admissible s t) :
    (t.decodeCalls = s.decodeCalls ∨ t.decodeCalls = s.decodeCalls++[s.queues .decodeBatch]) ∧
    (t.prefillCalls = s.prefillCalls ∨
      t.prefillCalls = s.prefillCalls++[s.queues .prefillBatch]) := by
  suffices hkeep : t.decodeCalls = s.decodeCalls ∧ t.prefillCalls = s.prefillCalls ∨
      t = (s.callDecode be).2 ∨ t = (s.callPrefill be).2 by
    rcases hkeep with ⟨hd,hp⟩ | rfl | rfl
    · exact ⟨.inl hd,.inl hp⟩
    · exact ⟨.inr rfl,.inl rfl⟩
    · exact ⟨.inl rfl,.inr rfl⟩
  have hturn {t u : Scheduler A B} {q : Place} {req : Request}
      (hp : s.popFront q = some (req,t)) (h : t.SameRecords u) :
      u.decodeCalls = s.decodeCalls ∧ u.prefillCalls = s.prefillCalls :=
    have hsame := (pop_front_records hp).trans h
    ⟨hsame.decodeCalls,hsame.prefillCalls⟩
  have hrespond (ready : Place) (cache : Request → PagedKVCache → PagedKVCache)
      (answer : Option Response) {t : Scheduler A B} {q : Place} {req : Request}
      (hp : s.popFront q = some (req,t)) :
      (t.respond kv cache ready answer req).decodeCalls = s.decodeCalls ∧
        (t.respond kv cache ready answer req).prefillCalls = s.prefillCalls := by
    obtain ⟨hdecode,hprefill⟩ := hturn hp (.refl t)
    unfold respond
    dsimp only
    split <;> exact ⟨hdecode,hprefill⟩
  cases h with
  | submit => exact .inl ⟨rfl,rfl⟩
  | callDecode => exact .inr (.inl rfl)
  | callPrefill => exact .inr (.inr rfl)
  | enqueue t req hp | retryDecode t req hp | flush t req hp | startPrefill t req hp =>
    have ht := hturn hp (.refl t)
    exact .inl ht
  | admitWaiting t req hp => exact .inl (hturn hp (admit_waiting_turn_records kv t req))
  | retryPrefill t req hp => exact .inl (hturn hp (retry_prefill_turn_records kv t req))
  | swapIn t req hp => exact .inl (hturn hp (swap_in_turn_records kv t req))
  | admitDecode t req hp => exact .inl (hturn hp (admit_decode_turn_records kv t req))
  | respondDecode t req answer hp => exact .inl (hrespond _ _ answer hp)
  | respondPrefill t req answer hp => exact .inl (hrespond _ _ answer hp)
  | victim before after req =>
    left
    unfold swapOutVictim
    dsimp only
    split <;> exact ⟨rfl,rfl⟩
  | control _ hsame => exact .inl ⟨hsame.decodeCalls,hsame.prefillCalls⟩

theorem visited_each_call {P Q : List Request → Prop} {start s : Scheduler A B}
    (h : Visited kv be allowed admissible start s) (hp : start.prefillCalls = [])
    (hd : start.decodeCalls = []) (hbatch : ∀ t, Visited kv be allowed admissible start t →
      P (t.queues .prefillBatch) ∧ Q (t.queues .decodeBatch)) :
    (∀ batch ∈ s.prefillCalls, P batch) ∧ ∀ batch ∈ s.decodeCalls, Q batch := by
  induction h with
  | refl =>
    rw [hp, hd]
    exact ⟨nofun,nofun⟩
  | @tail s t hbefore hstep ih =>
    obtain ⟨hprefill,hdecode⟩ := hbatch s hbefore
    obtain ⟨hd,hp⟩ := step_calls hstep
    constructor
    · rcases hp with hsame | hcall
      · rw [hsame]
        exact ih.1
      · rw [hcall]
        intro batch hb
        rcases List.mem_append.mp hb with hb | hb
        · exact ih.1 batch hb
        · rw [List.mem_singleton.mp hb]
          exact hprefill
    · rcases hd with hsame | hcall
      · rw [hsame]
        exact ih.2
      · rw [hcall]
        intro batch hb
        rcases List.mem_append.mp hb with hb | hb
        · exact ih.2 batch hb
        · rw [List.mem_singleton.mp hb]
          exact hdecode

end Body

/-- Where the worker thread is: about to test `running_`, or asleep in `wait_pop`. -/
inductive Control where
  | top
  | waiting
  deriving DecidableEq, Repr

/-- The states between two bodies of the worker loop, when all bodies start in states that
meet a condition. Requests and the order to stop come from other threads at any time; what
arrives during a body is seen at its next look at the request queue. -/
inductive ReachedWhere (meets : Scheduler A B → Prop) (kv : KvAllocator A)
    (be : InferenceBackend B) (admissible : (Request → Prop) → Request → Prop)
    (start : Scheduler A B) : Control → Scheduler A B → Prop
  | start : ReachedWhere meets kv be admissible start .top start
  | submit (c : Control) (s : Scheduler A B) (req : Request)
      (h : ReachedWhere meets kv be admissible start c s) (ha : admissible s.Holds req) :
      ReachedWhere meets kv be admissible start c (s.submitRequest req)
  | stop (c : Control) (s : Scheduler A B) (h : ReachedWhere meets kv be admissible start c s) :
      ReachedWhere meets kv be admissible start c s.stop
  | body (s : Scheduler A B) (h : ReachedWhere meets kv be admissible start .top s)
      (hr : s.running = true) (hm : meets s)
      (hw : (s.workerLoopBody kv be).noInternalWork = false) :
      ReachedWhere meets kv be admissible start .top (s.workerLoopBody kv be)
  | idle (s : Scheduler A B) (h : ReachedWhere meets kv be admissible start .top s)
      (hr : s.running = true) (hm : meets s)
      (hw : (s.workerLoopBody kv be).noInternalWork = true) :
      ReachedWhere meets kv be admissible start .waiting (s.workerLoopBody kv be)
  | wake (s t : Scheduler A B) (h : ReachedWhere meets kv be admissible start .waiting s)
      (hw : s.waitAndEnqueueOneRequest = some t) : ReachedWhere meets kv be admissible start .top t

abbrev Reached (kv : KvAllocator A) (be : InferenceBackend B)
    (admissible : (Request → Prop) → Request → Prop) (start : Scheduler A B) :
    Control → Scheduler A B → Prop := ReachedWhere (fun _ => True) kv be admissible start

theorem submit_settled (s : Scheduler A B) (req : Request) (h : s.Settled) :
    (s.submitRequest req).Settled :=
  h.only (push_back_only s .request req [.request] (by simp)) (by simp)

theorem wait_settled (s t : Scheduler A B) (hw : s.waitAndEnqueueOneRequest = some t)
    (h : s.Settled) : t.Settled := by
  unfold waitAndEnqueueOneRequest at hw
  split at hw
  · rename_i req u hp
    obtain rfl := Option.some.inj hw
    have hpop := h.only (pop_front_only hp [.request] (by simp)) (by simp)
    exact hpop.only (push_back_only u .waitingPrefill req [.waitingPrefill] (by simp)) (by simp)
  · split at hw
    · obtain rfl := Option.some.inj hw
      exact ⟨h.prefill,h.cancel,h.decodeBatch,h.nextDecode,h.prefillBatch⟩
    · cases hw

section Between

variable {mayOut : A → Request → Prop} {kv : KvAllocator A} {be : InferenceBackend B}
  {allowed : Request → Response → Prop} {admissible : (Request → Prop) → Request → Prop}
  {meets : Scheduler A B → Prop} {start s : Scheduler A B} {c : Control}

theorem wait_steps (s t : Scheduler A B) (hw : s.waitAndEnqueueOneRequest = some t) :
    StepsUnder mayOut kv be allowed admissible s t := by
  unfold waitAndEnqueueOneRequest at hw
  split at hw
  · rename_i req u hp
    obtain rfl := Option.some.inj hw
    exact .single (.enqueue s u req hp)
  · split at hw
    · obtain rfl := Option.some.inj hw
      exact .single (.control s _ ⟨rfl,rfl,rfl,rfl,rfl,rfl⟩)
    · cases hw

theorem reached_visited_under (hbe : be.Answers allowed) (hstart : start.Settled)
    (hmeets : ∀ s, meets s → s.SwapsOutOnly kv be mayOut)
    (h : ReachedWhere meets kv be admissible start c s) :
    s.Settled ∧ VisitedUnder mayOut kv be allowed admissible start s := by
  have hbody (s : Scheduler A B) (hm : meets s)
      (ih : s.Settled ∧ VisitedUnder mayOut kv be allowed admissible start s) :
      (s.workerLoopBody kv be).Settled ∧
        VisitedUnder mayOut kv be allowed admissible start (s.workerLoopBody kv be) :=
    ⟨body_settled kv be s ih.1,ih.2.trans (body_steps_under hbe s ih.1 (hmeets s hm))⟩
  induction h with
  | start => exact ⟨hstart,.refl⟩
  | submit c s req _ ha ih => exact ⟨submit_settled s req ih.1,ih.2.tail (.submit s req ha)⟩
  | stop c s _ ih =>
    exact ⟨⟨ih.1.prefill,ih.1.cancel,ih.1.decodeBatch,ih.1.nextDecode,ih.1.prefillBatch⟩,
      control_steps ih.2 ⟨rfl,rfl,rfl,rfl,rfl,rfl⟩⟩
  | body s _ _ hm _ ih => exact hbody s hm ih
  | idle s _ _ hm _ ih => exact hbody s hm ih
  | wake s t _ hw ih => exact ⟨wait_settled s t hw ih.1,ih.2.trans (wait_steps s t hw)⟩

theorem reached_visited (hbe : be.Answers allowed) (hstart : start.Settled)
    (h : Reached kv be admissible start c s) :
    s.Settled ∧ Visited kv be allowed admissible start s :=
  reached_visited_under hbe hstart (fun _ _ _ _ _ => trivial) h

theorem ReachedWhere.reached (h : ReachedWhere meets kv be admissible start c s) :
    Reached kv be admissible start c s := by
  induction h with
  | start => exact .start
  | submit c s req _ ha ih => exact .submit c s req ih ha
  | stop c s _ ih => exact .stop c s ih
  | body s _ hr _ hw ih => exact .body s ih hr trivial hw
  | idle s _ hr _ hw ih => exact .idle s ih hr trivial hw
  | wake s t _ hw ih => exact .wake s t ih hw

theorem submit_all_reached (reqs : List Request) (s : Scheduler A B)
    (h : ReachedWhere meets kv be admissible start c s) (hreqs : ∀ r ∈ reqs, Constructed r)
    (hadmissible : ∀ holds, ∀ r ∈ reqs, NewRequest holds r → admissible holds r)
    (hids : (reqs.map Request.requestId).Nodup)
    (hfresh : ∀ r ∈ reqs, ∀ q, s.Holds q → q.requestId ≠ r.requestId) :
    ReachedWhere meets kv be admissible start c (reqs.foldl submitRequest s) := by
  induction reqs generalizing s with
  | nil => exact h
  | cons r reqs ih =>
    obtain ⟨hnew,hids⟩ := List.nodup_cons.mp hids
    apply ih
    · exact .submit c s r h (hadmissible _ r List.mem_cons_self
        ⟨hreqs r List.mem_cons_self,hfresh r List.mem_cons_self⟩)
    · exact fun q hq => hreqs q (List.mem_cons_of_mem r hq)
    · exact fun holds q hq => hadmissible holds q (List.mem_cons_of_mem r hq)
    · exact hids
    · rintro q hq o ⟨p,ho⟩
      rw [submitRequest, push_back_queues] at ho
      split at ho
      · rcases List.mem_append.mp ho with ho | ho
        · exact hfresh q (List.mem_cons_of_mem r hq) o ⟨_,ho⟩
        · rw [List.mem_singleton.mp ho]
          exact fun heq => hnew (List.mem_map.mpr ⟨q,hq,heq.symm⟩)
      · exact hfresh q (List.mem_cons_of_mem r hq) o ⟨_,ho⟩

end Between

theorem started_settled (a : A) (b : B) (async : Bool) : (started a b async).Settled :=
  ⟨rfl,rfl,rfl,rfl,rfl⟩

end MiniLlm

import MiniLlm.Capacity
import MiniLlm.ResponseStream
import MiniLlm.SwapCycle

/-!
# One token in each body

While the pool has room for everybody a body of the worker loop takes up to
sixteen requests from the request queue and gives every request that it has
taken one token, no more and no less. What each phase adds is told for each
place, by the tokens that are left to a request.
-/

set_option autoImplicit false

namespace MiniLlm

open RealKvAllocator Scheduler

variable {α B : Type*}

/-- A loop over all of a queue whose turns do not break under an invariant, and push elsewhere. -/
theorem for_front_drains {A : Type*} (P : Scheduler A B → Prop) (q : Place)
    (body : Request → Scheduler A B → Turn × Scheduler A B)
    (hbody : ∀ req s t, P s → s.popFront q = some (req,t) → P (body req t).2 ∧
      (body req t).1 ≠ .stopped ∧ (body req t).2.queues q = t.queues q)
    (n : ℕ) (s : Scheduler A B) (h : P s) (hn : (s.queues q).length ≤ n) :
    P (s.forFront q body n).2 ∧ (s.forFront q body n).2.queues q = [] := by
  induction n generalizing s with
  | zero => exact ⟨h,List.eq_nil_of_length_eq_zero (Nat.le_zero.mp hn)⟩
  | succ n ih =>
    unfold forFront
    cases hq : s.queues q with
    | nil =>
      rw [popFront, hq]
      exact ⟨h,hq⟩
    | cons req rest =>
      have hp := pop_front_cons s q req rest hq
      obtain ⟨hkeep,hgo,hsame⟩ := hbody req s _ h hp
      rw [set_queue_queues, if_pos rfl] at hsame
      rw [hq, List.length_cons] at hn
      rw [hp]
      dsimp only
      generalize body req (s.setQueue q rest) = out at hkeep hgo hsame ⊢
      obtain ⟨turn,u⟩ := out
      have hnext := ih u hkeep (by rw [hsame]; omega)
      cases turn with
      | progressed => exact hnext
      | continued => exact hnext
      | stopped => exact absurd rfl hgo

/-- A state in a body of the worker loop: since the body began the requests in each place have
got `extra` tokens, told by what is left to them. -/
structure InPhase (G : UInt64 → ℕ → Prop) (extra : Place → ℕ) (waiting : List Request)
    (s : Scheduler (RealKvAllocator α) B) : Prop where
  roomy : Roomy s.board
  admission : s.admissionPaused = false
  request : s.queues .request = waiting
  told : ∀ p, p ≠ .finish → ∀ r ∈ s.queues p, G r.requestId (r.left+extra p)

/-- In the decode phase those that wait for its end have got a token. -/
def midDecode : Place → ℕ
  | .nextDecode => 1
  | _ => 0

def afterDecode : Place → ℕ
  | .nextDecode | .decode => 1
  | _ => 0

section Frames

variable {G : UInt64 → ℕ → Prop} {extra : Place → ℕ} {waiting : List Request}
  {s t u : Scheduler (RealKvAllocator α) B} {p q : Place} {r r' : Request}

theorem Roomy.none_held (h : Roomy s.board) (hp : ¬p.Calm) : s.queues p = [] := by
  apply List.eq_nil_iff_forall_not_mem.mpr
  exact fun r hr => hp (h.calm (p,r) ((mem_held s p r).mpr hr))

theorem step_roomy {be : InferenceBackend B} (h : Roomy s.board)
    (hstep : Step (realKvAllocator α) be Anything NoRequest s t) : Roomy t.board := by
  rcases step_hop hstep with hop | hsame
  · exact hop_roomy h hop
  · rwa [hsame]

theorem InPhase.same (h : InPhase G extra waiting s) (hb : t.board = s.board)
    (hq : t.queues = s.queues) (hp : t.admissionPaused = s.admissionPaused) :
    InPhase G extra waiting t := by
  refine ⟨?_,hp.trans h.admission,?_,?_⟩
  · rw [hb]
    exact h.roomy
  · rw [hq]
    exact h.request
  · rw [hq]
    exact h.told

theorem InPhase.retold (h : InPhase G extra waiting s) {next : Place → ℕ}
    (hnext : ∀ p, next p = extra p ∨ s.queues p = []) : InPhase G next waiting s := by
  refine ⟨h.roomy,h.admission,h.request,fun p hp r hr => ?_⟩
  rcases hnext p with hsame | hnone
  · rw [hsame]
    exact h.told p hp r hr
  · rw [hnone] at hr
    cases hr

/-- A request taken from the front of one queue and pushed to the back of another. -/
theorem InPhase.turn (h : InPhase G extra waiting s) (hp : s.popFront p = some (r,t))
    (hroomy : Roomy (u.pushBack q r').board) (hqueues : u.queues = t.queues)
    (hadmission : u.admissionPaused = t.admissionPaused) (hrequest : p ≠ .request)
    (hq : q ≠ .request) (htold : q ≠ .finish → G r'.requestId (r'.left+extra q)) :
    InPhase G extra waiting (u.pushBack q r') := by
  obtain ⟨hfront,ht⟩ := pop_front_some hp
  have hback (o : Place) : (u.pushBack q r').queues o =
      if o = q then t.queues q++[r'] else t.queues o := by
    rw [push_back_queues, hqueues]
  refine ⟨hroomy,?_,?_,?_⟩
  · show u.admissionPaused = false
    rw [hadmission, ht]
    exact h.admission
  · rw [hback, if_neg hq.symm, pop_front_other hp _ hrequest.symm]
    exact h.request
  · intro o ho x hx
    have hrest (hx : x ∈ t.queues o) : G x.requestId (x.left+extra o) := by
      apply h.told o ho
      by_cases hop : o = p
      · subst hop
        rw [hfront]
        exact List.mem_cons_of_mem r hx
      · rwa [← pop_front_other hp o hop]
    rw [hback] at hx
    split at hx
    · rename_i hoq
      subst hoq
      rcases List.mem_append.mp hx with hx | hx
      · exact hrest hx
      · rw [List.mem_singleton.mp hx]
        exact htold ho
    · exact hrest hx

theorem InPhase.front (h : InPhase G extra waiting s) (hp : s.popFront p = some (r,t))
    (hfinish : p ≠ .finish) : G r.requestId (r.left+extra p) ∧ 0 < r.left := by
  have hm : r ∈ s.queues p := by
    rw [(pop_front_some hp).1]
    exact List.mem_cons_self
  exact ⟨h.told p hfinish r hm,h.roomy.unfinished (p,r) ((mem_held s p r).mpr hm) hfinish⟩

theorem InPhase.silent (h : InPhase G extra waiting s) (hp : s.popFront p = some (r,t))
    (hfinish : p ≠ .finish) (ht : r.SameText r') (hq : extra q = extra p) :
    G r'.requestId (r'.left+extra q) := by
  rw [same_text_left ht, ht.requestId, hq]
  exact (h.front hp hfinish).1

end Frames

section Turns

variable {G : UInt64 → ℕ → Prop} {extra : Place → ℕ} {waiting : List Request}
  {s t : Scheduler (RealKvAllocator α) B} {be : InferenceBackend B} {p : Place} {r : Request}

theorem InPhase.respond {ready : Place} {cache : Request → PagedKVCache → PagedKVCache}
    (h : InPhase G extra waiting s) (hp : s.popFront p = some (r,t))
    (hserving : Serving p cache ready) (hextra : extra ready = extra p+1)
    {answer : Option Response}
    (hstep : Step (realKvAllocator α) be Anything NoRequest s
      (t.respond (realKvAllocator α) cache ready answer r)) :
    InPhase G extra waiting (t.respond (realKvAllocator α) cache ready answer r) := by
  have hplaces : p ≠ .finish ∧ p ≠ .request ∧ ready ≠ .request := by
    cases hserving <;> exact ⟨by decide,by decide,by decide⟩
  obtain ⟨htold,hleft⟩ := h.front hp hplaces.1
  have hroomy := step_roomy h.roomy hstep
  unfold Scheduler.respond at hroomy ⊢
  dsimp only at hroomy ⊢
  split
  · rw [if_pos ‹_›] at hroomy
    exact h.turn hp hroomy rfl rfl hplaces.2.1 (by decide) (absurd rfl)
  · rw [if_neg ‹_›] at hroomy
    refine h.turn hp hroomy rfl rfl hplaces.2.1 hplaces.2.2 fun _ => ?_
    show G r.requestId ((servedRequest cache answer r).left+extra ready)
    have hone := served_left cache answer hleft
    rw [hextra, show (servedRequest cache answer r).left+(extra p+1) = r.left+extra p by omega]
    exact htold

theorem admit_decode_told (be : InferenceBackend B) (h : InPhase G midDecode waiting s)
    (hp : s.popFront .decode = some (r,t)) :
    InPhase G midDecode waiting (t.admitDecodeTurn (realKvAllocator α) r) := by
  have htext : r.SameText ((realKvAllocator α).allocateDecode t.kvAllocator r).req :=
    (realKvAllocator α).decode_text _ _
  have hstep : Step (realKvAllocator α) be Anything NoRequest s _ := .admitDecode s t r hp
  have hroomy := step_roomy h.roomy hstep
  unfold admitDecodeTurn at hroomy ⊢
  dsimp only at hroomy ⊢
  split
  · rw [if_pos ‹_›] at hroomy
    exact h.turn hp hroomy rfl rfl (by decide) (by decide)
      fun _ => h.silent hp (by decide) (same_text_state _ _ _ htext) rfl
  · rw [if_neg ‹_›] at hroomy
    exact h.turn hp hroomy rfl rfl (by decide) (by decide)
      fun _ => h.silent hp (by decide) (same_text_state _ _ _ htext) rfl

theorem serve_decode_told (h : InPhase G midDecode waiting s) :
    InPhase G midDecode waiting (s.serveDecode (realKvAllocator α) be) := by
  apply respond_loop_keeps (InPhase G midDecode waiting)
  · intro answer req s t hs hp
    have hstep : Step (realKvAllocator α) be Anything NoRequest s _ :=
      .respondDecode s t req answer hp fun _ _ => trivial
    exact hs.respond hp .decode rfl hstep
  · exact h.same rfl rfl rfl

theorem serve_prefill_told (h : InPhase G afterDecode waiting s) :
    InPhase G afterDecode waiting (s.servePrefill (realKvAllocator α) be) := by
  apply respond_loop_keeps (InPhase G afterDecode waiting)
  · intro answer req s t hs hp
    have hstep : Step (realKvAllocator α) be Anything NoRequest s _ :=
      .respondPrefill s t req answer hp fun _ _ => trivial
    exact hs.respond hp .prefill rfl hstep
  · exact h.same rfl rfl rfl

theorem notify_told (h : InPhase G extra waiting s) : InPhase G extra waiting s.notify := by
  unfold notify
  split
  · exact h.same rfl rfl rfl
  · exact h

end Turns

section Phases

variable {G : UInt64 → ℕ → Prop} {waiting : List Request} {s : Scheduler (RealKvAllocator α) B}

theorem drain_told (be : InferenceBackend B) (n : ℕ) (h : InPhase G (fun _ => 0) waiting s) :
    InPhase G (fun _ => 0) (waiting.drop n)
      (s.forFront .request (fun req s => (.continued,s.enqueueWaiting req)) n).2 := by
  induction n generalizing waiting s with
  | zero => exact h
  | succ n ih =>
    unfold forFront
    cases waiting with
    | nil =>
      rw [popFront, h.request]
      exact h
    | cons r rest =>
      have hp := pop_front_cons s .request r rest h.request
      rw [hp, List.drop_succ_cons]
      have hstep : Step (realKvAllocator α) be Anything NoRequest s _ := .enqueue s _ r hp
      apply ih
      refine ⟨step_roomy h.roomy hstep,h.admission,?_,fun p hfinish x hx => ?_⟩
      · rw [enqueueWaiting, push_back_queues, if_neg (by decide)]
        show (s.setQueue .request rest).queues .request = rest
        rw [set_queue_queues, if_pos rfl]
      · have hold : ∃ o, o ≠ .finish ∧ x ∈ s.queues o := by
          rw [enqueueWaiting, push_back_queues] at hx
          split at hx
          · rename_i hp'
            subst hp'
            rcases List.mem_append.mp hx with hx | hx
            · refine ⟨.waitingPrefill,by decide,?_⟩
              rwa [← pop_front_other hp .waitingPrefill (by decide)]
            · refine ⟨.request,by decide,?_⟩
              rw [h.request, List.mem_singleton.mp hx]
              exact List.mem_cons_self
          · refine ⟨p,hfinish,?_⟩
            change x ∈ (s.setQueue .request rest).queues p at hx
            rw [set_queue_queues] at hx
            split at hx
            · rename_i hp'
              rw [hp', h.request]
              exact List.mem_cons_of_mem r hx
            · exact hx
        obtain ⟨o,ho,hm⟩ := hold
        exact h.told o ho x hm

theorem retry_swap_in_none (h : s.queues .swapOut = []) :
    s.retrySwapInRequests (realKvAllocator α) = (false,s) := by
  rw [retrySwapInRequests, h]
  rfl

theorem retry_deferred_decode_none (h : s.queues .deferredDecode = []) :
    s.retryDeferredDecode = s := by
  rw [retryDeferredDecode, h]
  rfl

theorem retry_deferred_prefill_none (h : s.queues .deferredPrefill = []) :
    s.retryDeferredPrefill (realKvAllocator α) = (false,s) := by
  rw [retryDeferredPrefill, h]
  rfl

theorem run_decode_told (be : InferenceBackend B) (h : InPhase G (fun _ => 0) waiting s)
    (hsettled : s.Settled) :
    InPhase G afterDecode waiting (s.runDecodeBatch (realKvAllocator α) be).2 := by
  let t : Scheduler (RealKvAllocator α) B := { s with hasResp := false }
  have hstart : InPhase G midDecode waiting t := by
    have ht : InPhase G (fun _ => 0) waiting t := h.same rfl rfl rfl
    apply ht.retold
    intro p
    by_cases hp : p = .nextDecode
    · subst hp
      exact .inr hsettled.nextDecode
    · left
      cases p <;> first | rfl | exact absurd rfl hp
  let n := (s.queues .decode).length
  have hrounds := decode_rounds_keeps (realKvAllocator α) be (InPhase G midDecode waiting)
    (fun n t ht => admit_decode_keeps (InPhase G midDecode waiting) (realKvAllocator α)
      (fun req u v hu hp => admit_decode_told be hu hp) n t ht)
    (fun t ht => serve_decode_told ht) n n t hstart
  obtain ⟨hempty,_⟩ := decode_rounds_empties (realKvAllocator α) be n n t le_rfl rfl
    hsettled.decodeBatch
  have hafter : InPhase G afterDecode waiting
      (decodeRounds (realKvAllocator α) be n n t).2 := by
    apply hrounds.retold
    intro p
    by_cases hp : p = .decode
    · subst hp
      exact .inr hempty
    · left
      cases p <;> first | rfl | exact absurd rfl hp
  have hflush {u : Scheduler (RealKvAllocator α) B} (hu : InPhase G afterDecode waiting u) :
      InPhase G afterDecode waiting u.flushNextDecode := by
    apply for_front_keeps (InPhase G afterDecode waiting)
    · intro req v w hv hp
      have hstep : Step (realKvAllocator α) be Anything NoRequest v _ := .flush v w req hp
      exact hv.turn hp (step_roomy hv.roomy hstep) rfl rfl (by decide) (by decide)
        fun _ => hv.silent hp (by decide) (.refl req) rfl
    · exact hu
  exact notify_told (hflush hafter)

theorem admit_waiting_told (be : InferenceBackend B) (h : InPhase G afterDecode waiting s) :
    InPhase G afterDecode waiting (s.admitWaitingPrefill (realKvAllocator α)).2 ∧
      (s.admitWaitingPrefill (realKvAllocator α)).2.queues .waitingPrefill = [] := by
  apply for_front_drains (InPhase G afterDecode waiting)
  · intro req s t hs hp
    have hstep : Step (realKvAllocator α) be Anything NoRequest s _ := .admitWaiting s t req hp
    have hroomy := step_roomy hs.roomy hstep
    have hok : ((realKvAllocator α).allocatePrefill t.kvAllocator req).ok = true := by
      rw [(pop_front_frame hp).1]
      exact hs.roomy.prefill_granted (held_pop_front hp) (.inl rfl)
    unfold admitWaitingTurn at hroomy ⊢
    dsimp only at hroomy ⊢
    rw [if_pos hok] at hroomy ⊢
    refine ⟨?_,by simp,push_back_only _ .prefill _ [.prefill] (by simp) _ (by simp)⟩
    exact hs.turn hp hroomy rfl rfl (by decide) (by decide) fun _ => hs.silent hp (by decide)
      (same_text_state _ _ _ ((realKvAllocator α).prefill_text _ _)) rfl
  · exact h
  · exact le_rfl

theorem run_prefill_told (be : InferenceBackend B) (h : InPhase G afterDecode waiting s) :
    InPhase G afterDecode waiting (s.runPrefillBatch (realKvAllocator α) be).2 := by
  have hstart (t : Scheduler (RealKvAllocator α) B) (ht : InPhase G afterDecode waiting t) :
      InPhase G afterDecode waiting t.startPrefill := by
    apply for_front_keeps (InPhase G afterDecode waiting)
    · intro req v w hv hp
      have hstep : Step (realKvAllocator α) be Anything NoRequest v _ := .startPrefill v w req hp
      exact hv.turn hp (step_roomy hv.roomy hstep) rfl rfl (by decide) (by decide)
        fun _ => hv.silent hp (by decide) (same_text_state _ _ _ (.refl req)) rfl
    · exact ht
  have hrounds := prefill_rounds_keeps (realKvAllocator α) be (InPhase G afterDecode waiting)
    hstart (fun t ht => serve_prefill_told ht) (s.queues .prefill).length
    { s with hasResp := false } (h.same rfl rfl rfl)
  exact notify_told hrounds

/-- A state between two bodies in which there is room for everybody. -/
structure Attentive (s : Scheduler (RealKvAllocator α) B) : Prop where
  settled : s.Settled
  roomy : Roomy s.board
  admission : s.admissionPaused = false

theorem run_phases_told (be : InferenceBackend B) (hs : Attentive s)
    (hG : ∀ p, p ≠ .finish → ∀ r ∈ s.queues p, G r.requestId r.left) :
    InPhase G afterDecode ((s.queues .request).drop maxBatchNum)
        (s.runPhases (realKvAllocator α) be).2 ∧
      (s.runPhases (realKvAllocator α) be).2.queues .waitingPrefill = [] := by
  let rest := (s.queues .request).drop maxBatchNum
  let Early (t : Scheduler (RealKvAllocator α) B) : Prop :=
    InPhase G (fun _ => 0) rest t ∧ t.Settled
  let Late (t : Scheduler (RealKvAllocator α) B) : Prop := InPhase G afterDecode rest t
  let Done (t : Scheduler (RealKvAllocator α) B) : Prop :=
    InPhase G afterDecode rest t ∧ t.queues .waitingPrefill = []
  have hdrain : Early s.drainUnlessPaused := by
    refine ⟨?_,hs.settled.only s.drain_unless_paused_only (by simp)⟩
    unfold drainUnlessPaused
    rw [hs.admission, if_neg (by decide)]
    exact drain_told be maxBatchNum ⟨hs.roomy,hs.admission,rfl,hG⟩
  have hswap {e : Place → ℕ} {t : Scheduler (RealKvAllocator α) B} (ht : InPhase G e rest t) :
      t.retrySwapInRequests (realKvAllocator α) = (false,t) :=
    retry_swap_in_none (ht.roomy.none_held (by decide))
  unfold runPhases
  refine then_run_keeps (P := Done) (Q := Done) ?_ fun t ht => by rwa [hswap ht.1]
  refine then_run_keeps (P := Done) (Q := Done) ?_ fun t ht => ⟨run_prefill_told be ht.1,
    (t.run_prefill_only _ be .waitingPrefill (by simp)).trans ht.2⟩
  refine then_run_keeps (P := Late) (Q := Done) ?_ fun t ht => admit_waiting_told be ht
  refine then_run_keeps (P := Late) (Q := Late) ?_ fun t ht => by
    rwa [retry_deferred_prefill_none (ht.roomy.none_held (by decide))]
  refine then_run_keeps (P := Late) (Q := Late) ?_ fun t ht => by rwa [hswap ht]
  refine then_run_keeps (P := Early) (Q := Late) ?_ fun t ht => run_decode_told be ht.1 ht.2
  refine then_run_keeps (P := Early) (Q := Early) ?_ fun t ht => by
    rwa [retry_deferred_decode_none (ht.1.roomy.none_held (by decide))]
  exact then_run_keeps (P := Early) (Q := Early) hdrain fun t ht => by rwa [hswap ht.1]

end Phases

section Body

variable {G : UInt64 → ℕ → Prop} {s : Scheduler (RealKvAllocator α) B} (be : InferenceBackend B)

theorem no_victim_found {t : Scheduler (RealKvAllocator α) B} (hd : t.queues .decode = [])
    (hdeferred : t.queues .deferredDecode = []) :
    t.trySwapOutVictim (realKvAllocator α) = (false,t) := by
  rw [try_swap_out_first _ hd, tryFrom, hdeferred]
  rfl

theorem Attentive.no_victim (hs : Attentive s)
    (hquiet : (s.runPhases (realKvAllocator α) be).1 = false) :
    (s.runPhases (realKvAllocator α) be).2.trySwapOutVictim (realKvAllocator α) =
      (false,(s.runPhases (realKvAllocator α) be).2) := by
  obtain ⟨hphase,_⟩ := run_phases_told (G := fun _ _ => True) be hs fun _ _ _ _ => trivial
  exact no_victim_found (run_phases_quiet _ be s hs.settled hquiet)
    (hphase.roomy.none_held (by decide))

theorem Attentive.body_eq (hs : Attentive s) :
    s.workerLoopBody (realKvAllocator α) be = (s.runPhases (realKvAllocator α) be).2 := by
  obtain ⟨hphase,_⟩ := run_phases_told (G := fun _ _ => True) be hs fun _ _ _ _ => trivial
  have hvictim := hs.no_victim be
  have hadmission := hphase.admission
  unfold workerLoopBody
  generalize s.runPhases (realKvAllocator α) be = out at hvictim hadmission ⊢
  obtain ⟨ok,t⟩ := out
  have hresume : t.resumeAdmission = t := by
    unfold resumeAdmission
    rw [show t.admissionPaused = false from hadmission]
    rfl
  dsimp only at hvictim ⊢
  split
  · rename_i hidle
    rw [Bool.and_eq_true, Bool.not_eq_true'] at hidle
    rw [hvictim hidle.1]
    exact hresume
  · exact hresume

theorem Attentive.swaps_nobody (hs : Attentive s) :
    ¬s.SwapsOutVictim (realKvAllocator α) be := by
  rintro ⟨hquiet,_,hvictim⟩
  rw [hs.no_victim be hquiet] at hvictim
  cases hvictim

theorem Attentive.body (hs : Attentive s) :
    Attentive (s.workerLoopBody (realKvAllocator α) be) := by
  obtain ⟨hphase,_⟩ := run_phases_told (G := fun _ _ => True) be hs fun _ _ _ _ => trivial
  refine ⟨body_settled _ be s hs.settled,?_,?_⟩
  · rw [hs.body_eq]
    exact hphase.roomy
  · rw [hs.body_eq]
    exact hphase.admission

/-- After a body everybody is in the request queue, or has got one more token and is ready to
decode, or is finished. -/
theorem Attentive.body_told (hs : Attentive s)
    (hG : ∀ p, p ≠ .finish → ∀ r ∈ s.queues p, G r.requestId r.left) :
    (s.workerLoopBody (realKvAllocator α) be).queues .request =
      (s.queues .request).drop maxBatchNum ∧
    ∀ p, p ≠ .finish → p ≠ .request →
      ∀ r ∈ (s.workerLoopBody (realKvAllocator α) be).queues p,
        p = .decode ∧ G r.requestId (r.left+1) := by
  have hsettled := hs.settled
  obtain ⟨hphase,hwaiting⟩ := run_phases_told be hs hG
  have hafter := body_settled (realKvAllocator α) be s hsettled
  rw [hs.body_eq] at hafter ⊢
  refine ⟨hphase.request,fun p hfinish hrequest r hr => ?_⟩
  have hnone {o : Place} (ho : (s.runPhases (realKvAllocator α) be).2.queues o = []) : p ≠ o := by
    rintro rfl
    rw [ho] at hr
    cases hr
  have hp : p = .decode := by
    have hcalm {o : Place} (ho : ¬o.Calm) := hnone (hphase.roomy.none_held ho)
    cases p with
    | decode => rfl
    | request => exact absurd rfl hrequest
    | finish => exact absurd rfl hfinish
    | waitingPrefill => exact absurd rfl (hnone hwaiting)
    | deferredPrefill | deferredDecode | swapOut => exact absurd rfl (hcalm (by decide))
    | prefill => exact absurd rfl (hnone hafter.prefill)
    | cancel => exact absurd rfl (hnone hafter.cancel)
    | decodeBatch => exact absurd rfl (hnone hafter.decodeBatch)
    | nextDecode => exact absurd rfl (hnone hafter.nextDecode)
    | prefillBatch => exact absurd rfl (hnone hafter.prefillBatch)
  subst hp
  exact ⟨rfl,hphase.told .decode (by decide) r hr⟩

end Body

end MiniLlm

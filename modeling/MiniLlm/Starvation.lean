import MiniLlm.SwapInRoom

/-!
# A starved scheduler

With fewer free blocks than there are layers nothing that waits for blocks
gets any: every allocation and every swap-in of a pass is refused, nobody is
answered, and the pass ends where a victim is taken.
-/

set_option autoImplicit false

namespace MiniLlm

open RealKvAllocator Scheduler

section Loops

variable {A B : Type*} (P : Scheduler A B → Prop)

theorem for_front_idle (q : Place) (body : Request → Scheduler A B → Turn × Scheduler A B)
    (hbody : ∀ req s t, P s → s.popFront q = some (req,t) →
      (body req t).1 ≠ .progressed ∧ P (body req t).2)
    (n : ℕ) (s : Scheduler A B) (h : P s) :
    (s.forFront q body n).1 = false ∧ P (s.forFront q body n).2 := by
  induction n generalizing s with
  | zero => exact ⟨rfl,h⟩
  | succ n ih =>
    unfold forFront
    cases hp : s.popFront q with
    | none => exact ⟨rfl,h⟩
    | some popped =>
      obtain ⟨req,t⟩ := popped
      obtain ⟨hturn,hnext⟩ := hbody req s t h hp
      dsimp only
      generalize body req t = out at hturn hnext ⊢
      obtain ⟨turn,u⟩ := out
      cases turn with
      | progressed => exact absurd rfl hturn
      | continued => exact ih u hnext
      | stopped => exact ⟨rfl,hnext⟩

theorem decode_rounds_idle (kv : KvAllocator A) (be : InferenceBackend B)
    (hadmitted : ∀ (n : ℕ) (s : Scheduler A B), P s → P (s.admitDecodeLoop kv n).2)
    (hbatch : ∀ s, P s → s.queues .decodeBatch = []) (turns remaining : ℕ) (s : Scheduler A B)
    (h : P s) : (s.decodeRounds kv be turns remaining).1 = false ∧
      P (s.decodeRounds kv be turns remaining).2 := by
  induction turns generalizing remaining s with
  | zero => exact ⟨rfl,h⟩
  | succ turns ih =>
    unfold decodeRounds
    split
    · exact ⟨rfl,h⟩
    · have hnext := hadmitted remaining s h
      dsimp only
      rw [if_pos (hbatch _ hnext)]
      exact ih _ _ hnext

theorem then_run_idle {f : Scheduler A B → Bool × Scheduler A B} {out : Bool × Scheduler A B}
    (h : out.1 = false ∧ P out.2) (hf : ∀ s, P s → (f s).1 = false ∧ P (f s).2) :
    (thenRun f out).1 = false ∧ P (thenRun f out).2 := by
  obtain ⟨hquiet,hnext⟩ := hf out.2 h.2
  exact ⟨Bool.or_eq_false_iff.mpr ⟨h.1,hquiet⟩,hnext⟩

end Loops

variable {α B : Type*}

def BlockFull (r : Request) : Prop := r.layer0.numTokens%defaultKvBlockSize = 0

def Patient (Full : Request → Prop) : Place → Request → Prop
  | .request, r | .waitingPrefill, r | .deferredPrefill, r => 0 < r.promptsLen
  | .decode, r | .deferredDecode, r => Full r
  | .swapOut, _ | .finish, _ | .cancel, _ => True
  | .prefill, _ | .decodeBatch, _ | .nextDecode, _ | .prefillBatch, _ => False

def decoding : Place → ℕ
  | .decode | .deferredDecode => 1
  | _ => 0

def decoders {A : Type*} (s : Scheduler A B) : ℕ :=
  (s.queues .decode).length+(s.queues .deferredDecode).length

theorem decoders_push {A : Type*} (s : Scheduler A B) (q : Place) (r : Request) :
    decoders (s.pushBack q r) = decoders s+decoding q := by
  cases q <;> simp [decoders, decoding, push_back_queues] <;> omega

theorem decoders_pop {A : Type*} {s t : Scheduler A B} {p : Place} {r : Request}
    (h : s.popFront p = some (r,t)) : decoders s = decoders t+decoding p := by
  have hq := (pop_front_some h).1
  have hother := pop_front_other h
  cases p with
  | decode =>
    rw [decoders, decoders, hq, hother .deferredDecode (by decide), List.length_cons, decoding]
    omega
  | deferredDecode =>
    rw [decoders, decoders, hq, hother .decode (by decide), List.length_cons, decoding]
    omega
  | _ =>
    rw [decoders, decoders, hother .decode (by decide), hother .deferredDecode (by decide)]
    rfl

structure Waiting {A : Type*} (responses : List Response) (Full : Request → Prop)
    (s : Scheduler A B) : Prop where
  responses : s.responses = responses
  patient : ∀ p, ∀ r ∈ s.queues p, Patient Full p r

structure Starved {A : Type*} (a : A) (responses : List Response) (Full : Request → Prop) (n : ℕ)
    (s : Scheduler A B) : Prop extends Waiting responses Full s where
  allocator : s.kvAllocator = a
  decoders : decoders s = n

section Moves

variable {A : Type*} {responses : List Response} {Full : Request → Prop} {n : ℕ} {a : A}
  {s t u : Scheduler A B} {p q : Place} {r r' : Request}

theorem Waiting.push (h : Waiting responses Full s) (hp : s.popFront p = some (r,t))
    (hu : u.queues = t.queues) (hr : u.responses = t.responses) (hq : Patient Full q r') :
    Waiting responses Full (u.pushBack q r') := by
  obtain ⟨hfront,ht⟩ := pop_front_some hp
  constructor
  · show u.responses = _
    rw [hr, ht]
    exact h.responses
  · intro o x hx
    have hrest (hx : x ∈ t.queues o) : Patient Full o x := by
      apply h.patient
      by_cases ho : o = p
      · subst ho
        rw [hfront]
        exact List.mem_cons_of_mem r hx
      · rwa [← pop_front_other hp o ho]
    rw [push_back_queues, hu] at hx
    split at hx
    · rename_i ho
      subst ho
      rcases List.mem_append.mp hx with hx | hx
      · exact hrest hx
      · rw [List.mem_singleton.mp hx]
        exact hq
    · exact hrest hx

theorem Waiting.front (h : Waiting responses Full s) (hp : s.popFront p = some (r,t)) :
    Patient Full p r := by
  apply h.patient
  rw [(pop_front_some hp).1]
  exact List.mem_cons_self

theorem Waiting.same (h : Waiting responses Full s) (hq : t.queues = s.queues)
    (hr : t.responses = s.responses) : Waiting responses Full t :=
  ⟨hr.trans h.responses,fun p r hm => h.patient p r (hq ▸ hm)⟩

theorem Waiting.empty (h : Waiting responses Full s) (hp : ∀ r, ¬ Patient Full p r) :
    s.queues p = [] := by
  apply List.eq_nil_iff_forall_not_mem.mpr
  exact fun r hr => hp r (h.patient p r hr)

theorem Starved.push (h : Starved a responses Full n s) (hp : s.popFront p = some (r,t))
    (hq : Patient Full q r') (hc : decoding q = decoding p) :
    Starved a responses Full n (t.pushBack q r') := by
  refine ⟨h.toWaiting.push hp rfl rfl hq,?_,?_⟩
  · exact (pop_front_frame hp).1.trans h.allocator
  · rw [decoders_push, hc, ← decoders_pop hp]
    exact h.decoders

theorem Starved.popped (h : Starved a responses Full n s) (hp : s.popFront p = some (r,t)) :
    t.kvAllocator = a := (pop_front_frame hp).1.trans h.allocator

theorem Starved.same (h : Starved a responses Full n s) (hq : t.queues = s.queues)
    (hr : t.responses = s.responses) (ha : t.kvAllocator = s.kvAllocator) :
    Starved a responses Full n t := by
  refine ⟨h.toWaiting.same hq hr,ha.trans h.allocator,?_⟩
  unfold MiniLlm.decoders
  rw [hq]
  exact h.decoders

end Moves

/-- Fewer free blocks than layers, and entries that ask for one a layer at least. -/
structure Exhausted (a : RealKvAllocator α) : Prop where
  room : a.blockManager.gpu.ids.length < gpt2NLayers
  entries : ∀ id swapped, a.swappedRequests.lookup id = some swapped → 0 < expected swapped

section Refusals

variable {a : RealKvAllocator α} {r : Request}

theorem Exhausted.allocate (h : Exhausted a) {need : ℕ} (hn : 0 < need) :
    a.allocateLayers r need = ⟨false,a,r⟩ := by
  rcases allocate_layers_cases a r need with ⟨_,ho⟩ | ⟨bm,hd,_⟩
  · exact ho
  · have hroom := hd.enough.trans_lt h.room
    simp only [gpt2NLayers] at hroom
    omega

theorem Exhausted.prefill (h : Exhausted a) (hr : 0 < r.promptsLen) :
    a.allocatePrefill r = ⟨false,a,r⟩ := by
  apply h.allocate
  rw [prefillNeed]
  simp only [defaultKvBlockSize]
  omega

theorem Exhausted.decode (h : Exhausted a) (hr : BlockFull r) :
    a.allocateDecode r = ⟨false,a,r⟩ := by
  apply h.allocate
  unfold BlockFull at hr
  rw [decodeNeed, if_pos hr]
  exact Nat.one_pos

theorem Exhausted.swapIn (h : Exhausted a) : a.swapIn r = ⟨false,a,r⟩ := by
  have hfew (swapped : SwappedRequest)
      (hl : a.swappedRequests.lookup r.requestId = some swapped) : ¬ a.Ready swapped := by
    intro hready
    have hpos := h.entries _ swapped hl
    have hroom := hready.room.trans_lt h.room
    simp only [expected, gpt2NLayers] at hpos hroom
    omega
  have hcase := swap_in_case a r
  generalize a.swapIn r = out at hcase
  cases hcase with
  | refused => rfl
  | undone swapped _ _ hl hready => exact absurd hready (hfew swapped hl)
  | done swapped _ hl hready => exact absurd hready (hfew swapped hl)

end Refusals

section Phases

variable {a : RealKvAllocator α} {be : InferenceBackend B} {responses : List Response}
  {Full : Request → Prop} {n : ℕ} {s : Scheduler (RealKvAllocator α) B}

structure Starves (a : RealKvAllocator α) (Full : Request → Prop) : Prop where
  exhausted : Exhausted a
  full : ∀ r, Full r → BlockFull r
  state : ∀ r state, Full r → Full (r.withState state)

theorem refused_same {A : Type*} {s : Scheduler A B} {a : A} (h : s.kvAllocator = a) :
    s.withAllocator a = s := by
  rw [← h]
  rfl

theorem drain_starved (h : Starved a responses Full n s) :
    Starved a responses Full n s.drainUnlessPaused := by
  unfold drainUnlessPaused
  split
  · exact h
  · apply for_front_keeps
    · intro req t u ht hp
      have hprompt : 0 < req.promptsLen := ht.front hp
      have hpush : Starved a responses Full n (u.pushBack .waitingPrefill req) :=
        ht.push hp hprompt rfl
      exact hpush.same rfl rfl rfl
    · exact h

theorem retry_swap_in_starved (hs : Starves a Full) (h : Starved a responses Full n s) :
    (s.retrySwapInRequests (realKvAllocator α)).1 = false ∧
      Starved a responses Full n (s.retrySwapInRequests (realKvAllocator α)).2 := by
  apply for_front_idle (Starved a responses Full n)
  · intro req t u ht hp
    have hout : (realKvAllocator α).swapIn u.kvAllocator req = ⟨false,u.kvAllocator,req⟩ := by
      rw [ht.popped hp]
      exact hs.exhausted.swapIn
    rw [swap_in_turn_refused u req hout]
    exact ⟨nofun,ht.push hp trivial rfl⟩
  · exact h

theorem retry_deferred_decode_starved (hs : Starves a Full) (h : Starved a responses Full n s) :
    Starved a responses Full n s.retryDeferredDecode := by
  apply for_front_keeps
  · intro req t u ht hp
    exact ht.push hp (hs.state req _ (ht.front hp)) rfl
  · exact h

theorem admit_decode_starved (hs : Starves a Full) (remaining : ℕ)
    (h : Starved a responses Full n s) :
    Starved a responses Full n (s.admitDecodeLoop (realKvAllocator α) remaining).2 := by
  apply admit_decode_keeps (Starved a responses Full n)
  · intro req t u ht hp
    have hfull : Full req := ht.front hp
    have hout : (realKvAllocator α).allocateDecode u.kvAllocator req = ⟨false,a,req⟩ := by
      rw [ht.popped hp]
      exact hs.exhausted.decode (hs.full req hfull)
    unfold admitDecodeTurn
    dsimp only
    rw [hout, if_neg (by simp), refused_same (ht.popped hp)]
    exact ht.push hp (hs.state req _ hfull) rfl
  · exact h

theorem run_decode_starved (hs : Starves a Full) (h : Starved a responses Full n s) :
    (s.runDecodeBatch (realKvAllocator α) be).1 = false ∧
      Starved a responses Full n (s.runDecodeBatch (realKvAllocator α) be).2 := by
  obtain ⟨hquiet,hrounds⟩ := decode_rounds_idle (Starved a responses Full n) (realKvAllocator α) be
    (fun remaining t ht => admit_decode_starved hs remaining ht)
    (fun t ht => ht.empty fun r hr => hr) (s.queues .decode).length (s.queues .decode).length
    { s with hasResp := false } (h.same rfl rfl rfl)
  refine ⟨hquiet,?_⟩
  have hnext := hrounds.empty (p := .nextDecode) fun r hr => hr
  have hflush {t : Scheduler (RealKvAllocator α) B} (ht : t.queues .nextDecode = []) :
      t.flushNextDecode = t := by
    unfold flushNextDecode
    rw [ht]
    rfl
  have hsame (t : Scheduler (RealKvAllocator α) B) := notify_same t
  unfold runDecodeBatch
  dsimp only
  rw [hflush hnext]
  exact hrounds.same (hsame _).queues (hsame _).responses (hsame _).kvAllocator

theorem retry_prefill_starved (hs : Starves a Full) (h : Starved a responses Full n s) :
    (s.retryDeferredPrefill (realKvAllocator α)).1 = false ∧
      Starved a responses Full n (s.retryDeferredPrefill (realKvAllocator α)).2 := by
  apply for_front_idle (Starved a responses Full n)
  · intro req t u ht hp
    have hprompt : 0 < req.promptsLen := ht.front hp
    have hout : (realKvAllocator α).allocatePrefill u.kvAllocator req = ⟨false,a,req⟩ := by
      rw [ht.popped hp]
      exact hs.exhausted.prefill hprompt
    unfold retryPrefillTurn
    dsimp only
    rw [hout, if_neg (by simp), refused_same (ht.popped hp)]
    exact ⟨nofun,ht.push hp hprompt rfl⟩
  · exact h

theorem admit_waiting_starved (hs : Starves a Full) (h : Starved a responses Full n s) :
    (s.admitWaitingPrefill (realKvAllocator α)).1 = false ∧
      Starved a responses Full n (s.admitWaitingPrefill (realKvAllocator α)).2 := by
  apply for_front_idle (Starved a responses Full n)
  · intro req t u ht hp
    have hprompt : 0 < req.promptsLen := ht.front hp
    have hout : (realKvAllocator α).allocatePrefill u.kvAllocator req = ⟨false,a,req⟩ := by
      rw [ht.popped hp]
      exact hs.exhausted.prefill hprompt
    unfold admitWaitingTurn
    dsimp only
    rw [hout, if_neg (by simp), refused_same (ht.popped hp)]
    exact ⟨nofun,ht.push hp hprompt rfl⟩
  · exact h

theorem run_prefill_starved (h : Starved a responses Full n s) :
    (s.runPrefillBatch (realKvAllocator α) be).1 = false ∧
      Starved a responses Full n (s.runPrefillBatch (realKvAllocator α) be).2 := by
  have hempty : s.queues .prefill = [] := h.empty fun r hr => hr
  have hsame (t : Scheduler (RealKvAllocator α) B) := notify_same t
  unfold runPrefillBatch
  dsimp only
  rw [hempty]
  exact ⟨rfl,h.same (hsame _).queues (hsame _).responses (hsame _).kvAllocator⟩

def laterPhases (be : InferenceBackend B) (out : Bool × Scheduler (RealKvAllocator α) B) :
    Bool × Scheduler (RealKvAllocator α) B :=
  out
  |> thenRun (fun s => (false,s.retryDeferredDecode))
  |> thenRun (runDecodeBatch (realKvAllocator α) be)
  |> thenRun (retrySwapInRequests (realKvAllocator α))
  |> thenRun (retryDeferredPrefill (realKvAllocator α))
  |> thenRun (admitWaitingPrefill (realKvAllocator α))
  |> thenRun (runPrefillBatch (realKvAllocator α) be)
  |> thenRun (retrySwapInRequests (realKvAllocator α))

theorem phases_split (s : Scheduler (RealKvAllocator α) B) :
    s.runPhases (realKvAllocator α) be = laterPhases be
      (thenRun (retrySwapInRequests (realKvAllocator α)) (false,s.drainUnlessPaused)) := rfl

theorem later_starved (be : InferenceBackend B) (hs : Starves a Full)
    (out : Bool × Scheduler (RealKvAllocator α) B) (h : Starved a responses Full n out.2) :
    (laterPhases be out).1 = out.1 ∧ Starved a responses Full n (laterPhases be out).2 := by
  obtain ⟨ok,s⟩ := out
  have hidle : (laterPhases be (false,s)).1 = false ∧
      Starved a responses Full n (laterPhases be (false,s)).2 := by
    refine then_run_idle _ ?_ fun t ht => retry_swap_in_starved hs ht
    refine then_run_idle _ ?_ fun t ht => run_prefill_starved ht
    refine then_run_idle _ ?_ fun t ht => admit_waiting_starved hs ht
    refine then_run_idle _ ?_ fun t ht => retry_prefill_starved hs ht
    refine then_run_idle _ ?_ fun t ht => retry_swap_in_starved hs ht
    refine then_run_idle _ ?_ fun t ht => run_decode_starved hs ht
    exact then_run_idle _ ⟨rfl,h⟩ fun t ht => ⟨rfl,retry_deferred_decode_starved hs ht⟩
  cases ok with
  | false => exact hidle
  | true =>
    refine ⟨?_,hidle.2⟩
    simp [laterPhases, thenRun]

theorem phases_starved (be : InferenceBackend B) (hs : Starves a Full)
    (h : Starved a responses Full n s) :
    (s.runPhases (realKvAllocator α) be).1 = false ∧
      Starved a responses Full n (s.runPhases (realKvAllocator α) be).2 := by
  have hdrained : ((false,s.drainUnlessPaused) : Bool × Scheduler (RealKvAllocator α) B).1 = false ∧
      Starved a responses Full n s.drainUnlessPaused := ⟨rfl,drain_starved h⟩
  have hfirst := then_run_idle _ hdrained fun t ht => retry_swap_in_starved hs ht
  obtain ⟨hquiet,hlater⟩ := later_starved be hs _ hfirst.2
  rw [phases_split]
  exact ⟨hquiet.trans hfirst.1,hlater⟩

end Phases

end MiniLlm

import MiniLlm.Scheduler

/-!
# The loops of the scheduler

Each loop repeats one turn, so whatever every turn preserves the loop
preserves. From this come the queues a loop leaves alone, and the queues the
body of the worker loop leaves empty.
-/

set_option autoImplicit false

namespace MiniLlm.Scheduler

variable {A B : Type*}

section Queues

variable (s : Scheduler A B) (p q : Place) (req : Request)

theorem set_queue_queues (reqs : List Request) :
    (s.setQueue q reqs).queues p = if p = q then reqs else s.queues p := by
  by_cases h : p = q
  · subst h
    simp [setQueue]
  · simp [setQueue, h]

theorem push_back_queues :
    (s.pushBack q req).queues p = if p = q then s.queues q++[req] else s.queues p :=
  set_queue_queues s p q _

theorem push_front_queues :
    (s.pushFront q req).queues p = if p = q then req::s.queues q else s.queues p :=
  set_queue_queues s p q _

@[simp] theorem with_allocator_queues (a : A) : (s.withAllocator a).queues p = s.queues p := rfl
@[simp] theorem push_back_allocator : (s.pushBack q req).kvAllocator = s.kvAllocator := rfl
@[simp] theorem with_allocator_allocator (a : A) : (s.withAllocator a).kvAllocator = a := rfl
@[simp] theorem push_back_responses : (s.pushBack q req).responses = s.responses := rfl
@[simp] theorem with_allocator_responses (a : A) :
    (s.withAllocator a).responses = s.responses := rfl

theorem pop_front_some {s t : Scheduler A B} {q : Place} {req : Request}
    (h : s.popFront q = some (req,t)) :
    s.queues q = req::t.queues q ∧ t = s.setQueue q (t.queues q) := by
  unfold popFront at h
  split at h
  · cases h
  · rename_i first rest hq
    obtain ⟨rfl,rfl⟩ := Prod.mk.inj (Option.some.inj h)
    simp [hq, set_queue_queues]

theorem pop_front_other {s t : Scheduler A B} {q : Place} {req : Request}
    (h : s.popFront q = some (req,t)) (p : Place) (hp : p ≠ q) : t.queues p = s.queues p := by
  rw [(pop_front_some h).2, set_queue_queues, if_neg hp]

theorem pop_front_frame {s t : Scheduler A B} {q : Place} {req : Request}
    (h : s.popFront q = some (req,t)) :
    t.kvAllocator = s.kvAllocator ∧ t.responses = s.responses ∧ t.popped = s.popped := by
  rw [(pop_front_some h).2]
  exact ⟨rfl,rfl,rfl⟩

theorem pop_front_cons (rest : List Request) (h : s.queues q = req::rest) :
    s.popFront q = some (req,s.setQueue q rest) := by
  unfold popFront
  rw [h]

end Queues

section Keeps

variable (P : Scheduler A B → Prop)

theorem for_front_keeps (q : Place) (body : Request → Scheduler A B → Turn × Scheduler A B)
    (hbody : ∀ req s t, P s → s.popFront q = some (req,t) → P (body req t).2)
    (n : ℕ) (s : Scheduler A B) (h : P s) : P (s.forFront q body n).2 := by
  induction n generalizing s with
  | zero => exact h
  | succ n ih =>
    unfold forFront
    cases hp : s.popFront q with
    | none => exact h
    | some popped =>
      obtain ⟨req,t⟩ := popped
      have hnext := hbody req s t h hp
      dsimp only
      generalize body req t = out at hnext ⊢
      obtain ⟨turn,u⟩ := out
      cases turn with
      | progressed => exact ih u hnext
      | continued => exact ih u hnext
      | stopped => exact hnext

/-- A loop that reports no progress keeps what its turns without progress keep. -/
theorem for_front_quiet (q : Place) (body : Request → Scheduler A B → Turn × Scheduler A B)
    (hbody : ∀ req s t, P s → s.popFront q = some (req,t) → (body req t).1 ≠ .progressed →
      P (body req t).2)
    (n : ℕ) (s : Scheduler A B) (hquiet : (s.forFront q body n).1 = false) (h : P s) :
    P (s.forFront q body n).2 := by
  induction n generalizing s with
  | zero => exact h
  | succ n ih =>
    unfold forFront at hquiet ⊢
    cases hp : s.popFront q with
    | none => exact h
    | some popped =>
      obtain ⟨req,t⟩ := popped
      have hnext := hbody req s t h hp
      simp only [hp] at hquiet
      dsimp only
      generalize body req t = out at hnext hquiet ⊢
      obtain ⟨turn,u⟩ := out
      cases turn with
      | progressed => exact absurd hquiet (by simp)
      | continued => exact ih u hquiet (hnext (by simp))
      | stopped => exact hnext (by simp)

theorem admit_decode_keeps (kv : KvAllocator A)
    (hturn : ∀ req s t, P s → s.popFront .decode = some (req,t) → P (t.admitDecodeTurn kv req))
    (n : ℕ) (s : Scheduler A B) (h : P s) : P (s.admitDecodeLoop kv n).2 := by
  induction n generalizing s with
  | zero => exact h
  | succ n ih =>
    unfold admitDecodeLoop
    split
    · exact h
    · cases hp : s.popFront .decode with
      | none => exact h
      | some popped => exact ih _ (hturn popped.1 s popped.2 h hp)

theorem respond_loop_keeps (q : Place)
    (turn : Option Response → Request → Scheduler A B → Scheduler A B)
    (hturn : ∀ answer req s t, P s → s.popFront q = some (req,t) → P (turn answer req t))
    (n : ℕ) (answers : List Response) (s : Scheduler A B) (h : P s) :
    P (respondLoop q turn n answers s) := by
  induction n generalizing answers s with
  | zero => exact h
  | succ n ih =>
    unfold respondLoop
    cases hp : s.popFront q with
    | none => exact h
    | some popped => exact ih _ _ (hturn _ popped.1 s popped.2 h hp)

end Keeps

def Only (ps : List Place) (s t : Scheduler A B) : Prop := ∀ p, p ∉ ps → t.queues p = s.queues p

theorem Only.refl (ps : List Place) (s : Scheduler A B) : Only ps s s := fun _ _ => rfl

theorem Only.trans {ps : List Place} {s t u : Scheduler A B} (h : Only ps s t)
    (k : Only ps t u) : Only ps s u := fun p hp => (k p hp).trans (h p hp)

theorem Only.mono {ps qs : List Place} {s t : Scheduler A B} (h : Only ps s t) (hs : ps ⊆ qs) :
    Only qs s t := fun p hp => h p fun hm => hp (hs hm)

theorem push_back_only (s : Scheduler A B) (q : Place) (req : Request) (ps : List Place)
    (hq : q ∈ ps) : Only ps s (s.pushBack q req) := by
  intro p hp
  rw [push_back_queues, if_neg]
  rintro rfl
  exact hp hq

theorem push_front_only (s : Scheduler A B) (q : Place) (req : Request) (ps : List Place)
    (hq : q ∈ ps) : Only ps s (s.pushFront q req) := by
  intro p hp
  rw [push_front_queues, if_neg]
  rintro rfl
  exact hp hq

theorem pop_front_only {s t : Scheduler A B} {q : Place} {req : Request}
    (h : s.popFront q = some (req,t)) (ps : List Place) (hq : q ∈ ps) : Only ps s t := by
  intro p hp
  refine pop_front_other h p ?_
  rintro rfl
  exact hp hq

theorem for_front_only (q : Place) (body : Request → Scheduler A B → Turn × Scheduler A B)
    (ps : List Place) (hq : q ∈ ps) (hbody : ∀ req s, Only ps s (body req s).2) (n : ℕ)
    (s : Scheduler A B) : Only ps s (s.forFront q body n).2 :=
  for_front_keeps (Only ps s) q body
    (fun req _ t h hp => (h.trans (pop_front_only hp ps hq)).trans (hbody req t)) n s (.refl ps s)

section Frames

variable (s : Scheduler A B) (kv : KvAllocator A) (be : InferenceBackend B)

theorem drain_only : Only [.request,.waitingPrefill] s s.drainNewRequests :=
  for_front_only _ _ _ (by simp) (fun req s => push_back_only _ _ _ _ (by simp)) _ s

theorem admit_waiting_turn_only (req : Request) :
    Only [.prefill,.deferredPrefill] s (s.admitWaitingTurn kv req).2 := by
  unfold admitWaitingTurn
  dsimp only
  split <;> exact push_back_only _ _ _ _ (by simp)

theorem admit_waiting_only :
    Only [.waitingPrefill,.prefill,.deferredPrefill] s (s.admitWaitingPrefill kv).2 :=
  for_front_only _ _ _ (by simp)
    (fun req s => (s.admit_waiting_turn_only kv req).mono (by simp)) _ s

theorem retry_prefill_turn_only (req : Request) :
    Only [.prefill,.deferredPrefill] s (s.retryPrefillTurn kv req).2 := by
  unfold retryPrefillTurn
  dsimp only
  split
  · exact push_front_only _ _ _ _ (by simp)
  · exact push_back_only _ _ _ _ (by simp)

theorem retry_deferred_prefill_only :
    Only [.prefill,.deferredPrefill] s (s.retryDeferredPrefill kv).2 :=
  for_front_only _ _ _ (by simp) (fun req s => s.retry_prefill_turn_only kv req) _ s

theorem retry_deferred_decode_only :
    Only [.deferredDecode,.decode] s s.retryDeferredDecode :=
  for_front_only _ _ _ (by simp) (fun req s => push_back_only _ _ _ _ (by simp)) _ s

theorem swap_in_turn_only (req : Request) :
    Only [.decode,.swapOut] s (s.swapInTurn kv req).2 := by
  unfold swapInTurn
  dsimp only
  split <;> exact push_back_only _ _ _ _ (by simp)

theorem retry_swap_in_only : Only [.decode,.swapOut] s (s.retrySwapInRequests kv).2 :=
  for_front_only _ _ _ (by simp) (fun req s => s.swap_in_turn_only kv req) _ s

theorem admit_decode_turn_only (req : Request) :
    Only [.decodeBatch,.deferredDecode] s (s.admitDecodeTurn kv req) := by
  unfold admitDecodeTurn
  dsimp only
  split <;> exact push_back_only _ _ _ _ (by simp)

theorem admit_decode_only (n : ℕ) :
    Only [.decode,.decodeBatch,.deferredDecode] s (s.admitDecodeLoop kv n).2 :=
  admit_decode_keeps (Only [.decode,.decodeBatch,.deferredDecode] s) kv
    (fun req _ t h hp => (h.trans (pop_front_only hp _ (by simp))).trans
      ((t.admit_decode_turn_only kv req).mono (by simp))) n s (.refl _ s)

theorem respond_only (cache : Request → PagedKVCache → PagedKVCache) (ready : Place)
    (answer : Option Response) (req : Request) :
    Only [ready,.finish] s (s.respond kv cache ready answer req) := by
  unfold respond
  dsimp only
  split
  · exact push_back_only _ _ _ _ (by simp)
  · exact push_back_only _ _ _ _ List.mem_cons_self

theorem respond_loop_only (q : Place) (ready : Place)
    (cache : Request → PagedKVCache → PagedKVCache) (n : ℕ) (answers : List Response) :
    Only [q,ready,.finish] s (respondLoop q (respond kv cache ready) n answers s) :=
  respond_loop_keeps (Only [q,ready,.finish] s) q _ (fun answer req _ t h hp =>
    (h.trans (pop_front_only hp _ List.mem_cons_self)).trans
      ((t.respond_only kv cache ready answer req).mono (List.subset_cons_self _ _))) n answers s
    (.refl _ s)

theorem flush_only : Only [.nextDecode,.decode] s s.flushNextDecode :=
  for_front_only _ _ _ (by simp) (fun req s => push_back_only _ _ _ _ (by simp)) _ s

theorem notify_queues (p : Place) : s.notify.queues p = s.queues p := by
  unfold notify
  split <;> rfl

end Frames

section Rounds

variable (kv : KvAllocator A) (be : InferenceBackend B)

theorem serve_decode_only (s : Scheduler A B) :
    Only [.decodeBatch,.nextDecode,.finish] s (s.serveDecode kv be) :=
  fun p hp => respond_loop_only (s.callDecode be).2 kv _ _ _ _ _ p hp

theorem serve_prefill_only (s : Scheduler A B) :
    Only [.prefillBatch,.decode,.finish] s (s.servePrefill kv be) :=
  fun p hp => respond_loop_only (s.callPrefill be).2 kv _ _ _ _ _ p hp

variable (P : Scheduler A B → Prop)

theorem decode_rounds_serve
    (hadmitted : ∀ (n : ℕ) (s : Scheduler A B), P s → P (s.admitDecodeLoop kv n).2)
    (hserve : ∀ s, P s → s.queues .decodeBatch ≠ [] → P (s.serveDecode kv be))
    (turns remaining : ℕ) (s : Scheduler A B) (h : P s) :
    P (s.decodeRounds kv be turns remaining).2 := by
  induction turns generalizing remaining s with
  | zero => exact h
  | succ turns ih =>
    unfold decodeRounds
    split
    · exact h
    · dsimp only
      split
      · exact ih _ _ (hadmitted _ s h)
      · exact ih _ _ (hserve _ (hadmitted _ s h) ‹_›)

theorem decode_rounds_keeps
    (hadmitted : ∀ (n : ℕ) (s : Scheduler A B), P s → P (s.admitDecodeLoop kv n).2)
    (hserve : ∀ s, P s → P (s.serveDecode kv be)) (turns remaining : ℕ) (s : Scheduler A B)
    (h : P s) : P (s.decodeRounds kv be turns remaining).2 :=
  decode_rounds_serve kv be P hadmitted (fun s h _ => hserve s h) turns remaining s h

theorem decode_rounds_quiet
    (hadmitted : ∀ (n : ℕ) (s : Scheduler A B), P s →
      (s.admitDecodeLoop kv n).2.queues .decodeBatch = [] → P (s.admitDecodeLoop kv n).2)
    (turns remaining : ℕ) (s : Scheduler A B)
    (hquiet : (s.decodeRounds kv be turns remaining).1 = false) (h : P s) :
    P (s.decodeRounds kv be turns remaining).2 := by
  induction turns generalizing remaining s with
  | zero => exact h
  | succ turns ih =>
    unfold decodeRounds at hquiet ⊢
    split at hquiet
    · rw [if_pos ‹_›]
      exact h
    · rw [if_neg ‹_›]
      dsimp only at hquiet ⊢
      split at hquiet
      · rw [if_pos ‹_›]
        exact ih _ _ hquiet (hadmitted _ s h ‹_›)
      · cases hquiet

theorem prefill_rounds_serve {Q : Scheduler A B → Prop} (hstart : ∀ s, P s → Q s.startPrefill)
    (hnone : ∀ s, Q s → s.queues .prefillBatch = [] → P s)
    (hserve : ∀ s, Q s → s.queues .prefillBatch ≠ [] → P (s.servePrefill kv be)) (turns : ℕ)
    (s : Scheduler A B) (h : P s) : P (s.prefillRounds kv be turns).2 := by
  induction turns generalizing s with
  | zero => exact h
  | succ turns ih =>
    unfold prefillRounds
    split
    · exact h
    · dsimp only
      split
      · exact hnone _ (hstart s h) ‹_›
      · exact ih _ (hserve _ (hstart s h) ‹_›)

theorem prefill_rounds_keeps (hstart : ∀ s, P s → P s.startPrefill)
    (hserve : ∀ s, P s → P (s.servePrefill kv be)) (turns : ℕ) (s : Scheduler A B) (h : P s) :
    P (s.prefillRounds kv be turns).2 :=
  prefill_rounds_serve kv be P hstart (fun _ h _ => h) (fun s h _ => hserve s h) turns s h

end Rounds

section Empties

variable (kv : KvAllocator A) (be : InferenceBackend B)

theorem for_front_empties (q : Place) (body : Request → Scheduler A B → Turn × Scheduler A B)
    (hgo : ∀ req s, (body req s).1 ≠ .stopped)
    (hq : ∀ req s, (body req s).2.queues q = s.queues q) (n : ℕ) (s : Scheduler A B)
    (hn : (s.queues q).length ≤ n) : (s.forFront q body n).2.queues q = [] := by
  induction n generalizing s with
  | zero => exact List.eq_nil_of_length_eq_zero (Nat.le_zero.mp hn)
  | succ n ih =>
    unfold forFront
    cases hp : s.popFront q with
    | none =>
      unfold popFront at hp
      split at hp
      · assumption
      · cases hp
    | some popped =>
      obtain ⟨req,t⟩ := popped
      have hlen : (t.queues q).length ≤ n := by
        rw [(pop_front_some hp).1, List.length_cons] at hn
        omega
      have hturn := hq req t
      have hstop := hgo req t
      dsimp only
      generalize body req t = out at hturn hstop ⊢
      obtain ⟨turn,u⟩ := out
      have hnext := ih u (by rw [hturn]; exact hlen)
      cases turn with
      | progressed => exact hnext
      | continued => exact hnext
      | stopped => exact absurd rfl hstop

theorem respond_loop_empties (q ready : Place)
    (cache : Request → PagedKVCache → PagedKVCache) (hr : q ≠ ready) (hf : q ≠ .finish) (n : ℕ)
    (answers : List Response) (s : Scheduler A B) (hn : (s.queues q).length = n) :
    (respondLoop q (respond kv cache ready) n answers s).queues q = [] := by
  induction n generalizing answers s with
  | zero => exact List.eq_nil_of_length_eq_zero hn
  | succ n ih =>
    obtain ⟨req,rest,hq⟩ := List.exists_cons_of_length_eq_add_one hn
    have hkeep :
        (respond kv cache ready answers.head? req (s.setQueue q rest)).queues q = rest := by
      rw [respond_only _ kv cache ready answers.head? req q (by simp [hr, hf]), set_queue_queues,
        if_pos rfl]
    unfold respondLoop
    rw [pop_front_cons s q req rest hq]
    refine ih answers.tail _ ?_
    rw [hkeep]
    simpa [hq] using hn

theorem admit_decode_le (n : ℕ) (s : Scheduler A B) : (s.admitDecodeLoop kv n).1 ≤ n := by
  induction n generalizing s with
  | zero => exact le_refl _
  | succ n ih =>
    unfold admitDecodeLoop
    split
    · exact le_refl _
    · split
      · exact Nat.zero_le _
      · exact (ih _).trans (Nat.le_succ n)

theorem admit_decode_lt (n : ℕ) (s : Scheduler A B) (hn : n ≠ 0)
    (hb : s.queues .decodeBatch = []) : (s.admitDecodeLoop kv n).1 < n := by
  obtain ⟨n,rfl⟩ := Nat.exists_eq_succ_of_ne_zero hn
  unfold admitDecodeLoop
  rw [hb, if_neg (by decide)]
  split
  · exact Nat.succ_pos n
  · exact Nat.lt_succ_of_le (admit_decode_le kv n _)

theorem admit_decode_remaining (n : ℕ) (s : Scheduler A B)
    (h : (s.queues .decode).length = n) :
    ((s.admitDecodeLoop kv n).2.queues .decode).length = (s.admitDecodeLoop kv n).1 := by
  induction n generalizing s with
  | zero => exact h
  | succ n ih =>
    obtain ⟨req,rest,hq⟩ := List.exists_cons_of_length_eq_add_one h
    unfold admitDecodeLoop
    split
    · exact h
    · rw [pop_front_cons s .decode req rest hq]
      refine ih _ ?_
      rw [admit_decode_turn_only _ kv req .decode (by simp), set_queue_queues, if_pos rfl]
      simpa [hq] using h

theorem decode_rounds_empties (turns remaining : ℕ) (s : Scheduler A B)
    (ht : remaining ≤ turns) (hr : (s.queues .decode).length = remaining)
    (hb : s.queues .decodeBatch = []) :
    (s.decodeRounds kv be turns remaining).2.queues .decode = [] ∧
      (s.decodeRounds kv be turns remaining).2.queues .decodeBatch = [] := by
  induction turns generalizing remaining s with
  | zero =>
    obtain rfl := Nat.le_zero.mp ht
    exact ⟨List.eq_nil_of_length_eq_zero hr,hb⟩
  | succ turns ih =>
    unfold decodeRounds
    split
    · rename_i h0
      exact ⟨List.eq_nil_of_length_eq_zero (hr.trans h0),hb⟩
    · rename_i h0
      have hlt := admit_decode_lt kv remaining s h0 hb
      have hrem := admit_decode_remaining kv remaining s hr
      dsimp only
      split
      · exact ih _ _ (by omega) hrem ‹_›
      · refine ih _ _ (by omega) ?_ (respond_loop_empties kv _ _ _ (by simp) (by simp) _ _ _ rfl)
        rw [serve_decode_only kv be _ .decode (by simp)]
        exact hrem

theorem flush_empties (s : Scheduler A B) : s.flushNextDecode.queues .nextDecode = [] :=
  for_front_empties _ _ (by simp) (fun req s => push_back_only s .decode req [.decode] (by simp) _
    (by simp)) _ _ (le_refl _)

theorem retry_deferred_decode_empties (s : Scheduler A B) :
    s.retryDeferredDecode.queues .deferredDecode = [] :=
  for_front_empties _ _ (by simp [retryDecodeTurn]) (fun req s =>
    push_back_only s .decode _ [.decode] (by simp) _ (by simp)) _ _ (le_refl _)

theorem start_prefill_only (s : Scheduler A B) : Only [.prefill,.prefillBatch] s s.startPrefill :=
  for_front_only _ _ _ (by simp) (fun req s => push_back_only _ _ _ _ (by simp)) _ s

theorem start_prefill_takes (s : Scheduler A B) (h : s.queues .prefill ≠ []) :
    (s.startPrefill.queues .prefill).length < (s.queues .prefill).length ∧
      s.startPrefill.queues .prefillBatch ≠ [] := by
  obtain ⟨req,rest,hq⟩ := List.exists_cons_of_ne_nil h
  unfold startPrefill
  rw [show maxBatchNum = 15+1 from rfl, forFront, pop_front_cons s .prefill req rest hq]
  refine for_front_keeps (fun t => (t.queues .prefill).length < (s.queues .prefill).length ∧
    t.queues .prefillBatch ≠ []) _ _ ?_ _ _ ?_
  · rintro req t u ⟨hlen,hne⟩ hp
    rw [(pop_front_some hp).1, List.length_cons] at hlen
    simp only [startPrefillTurn, push_back_queues]
    refine ⟨by simp; omega,by simp⟩
  · simp [push_back_queues, set_queue_queues, hq]

theorem prefill_rounds_empties (turns : ℕ) (s : Scheduler A B)
    (ht : (s.queues .prefill).length ≤ turns) (hb : s.queues .prefillBatch = []) :
    (s.prefillRounds kv be turns).2.queues .prefill = [] ∧
      (s.prefillRounds kv be turns).2.queues .prefillBatch = [] := by
  induction turns generalizing s with
  | zero => exact ⟨List.eq_nil_of_length_eq_zero (Nat.le_zero.mp ht),hb⟩
  | succ turns ih =>
    unfold prefillRounds
    split
    · exact ⟨‹_›,hb⟩
    · obtain ⟨hlen,hne⟩ := s.start_prefill_takes ‹_›
      dsimp only
      rw [if_neg hne]
      refine ih _ ?_ (respond_loop_empties kv _ _ _ (by simp) (by simp) _ _ _ rfl)
      rw [serve_prefill_only kv be _ .prefill (by simp)]
      exact Nat.le_of_lt_succ (lt_of_lt_of_le hlen ht)

theorem prefill_rounds_quiet (turns : ℕ) (s : Scheduler A B)
    (hquiet : (s.prefillRounds kv be turns).1 = false) : (s.prefillRounds kv be turns).2 = s := by
  cases turns with
  | zero => rfl
  | succ turns =>
    unfold prefillRounds at hquiet ⊢
    split
    · rfl
    · rename_i h
      rw [if_neg h] at hquiet
      dsimp only at hquiet
      rw [if_neg (s.start_prefill_takes h).2] at hquiet
      cases hquiet

end Empties

section Body

variable (kv : KvAllocator A) (be : InferenceBackend B)

theorem run_decode_only (s : Scheduler A B) :
    Only [.decode,.decodeBatch,.deferredDecode,.nextDecode,.finish] s
      (s.runDecodeBatch kv be).2 := by
  intro p hp
  unfold runDecodeBatch
  dsimp only
  rw [notify_queues, flush_only _ p (by simp at hp ⊢; tauto)]
  refine decode_rounds_keeps kv be (fun t => t.queues p = s.queues p) ?_ ?_ _ _ _ rfl
  · intro n t h
    rw [admit_decode_only t kv n p (by simp at hp ⊢; tauto), h]
  · intro t h
    rw [serve_decode_only kv be t p (by simp at hp ⊢; tauto), h]

theorem run_prefill_only (s : Scheduler A B) :
    Only [.prefill,.prefillBatch,.decode,.finish] s (s.runPrefillBatch kv be).2 := by
  intro p hp
  unfold runPrefillBatch
  dsimp only
  rw [notify_queues]
  refine prefill_rounds_keeps kv be (fun t => t.queues p = s.queues p) ?_ ?_ _ _ rfl
  · intro t h
    rw [start_prefill_only t p (by simp at hp ⊢; tauto), h]
  · intro t h
    rw [serve_prefill_only kv be t p (by simp at hp ⊢; tauto), h]

theorem try_from_only (s : Scheduler A B) (q : Place) : Only [q,.swapOut] s (s.tryFrom kv q).2 := by
  unfold tryFrom
  split
  · exact .refl _ _
  · rename_i before req after _
    have hset : Only [q,.swapOut] s (s.setQueue q (before++after)) := by
      intro p hp
      rw [set_queue_queues, if_neg (by rintro rfl; simp at hp)]
    refine hset.trans ?_
    unfold swapOutVictim
    dsimp only
    split
    · exact fun p hp => push_back_only _ .swapOut _ _ (by simp) p hp
    · exact push_back_only _ q _ _ List.mem_cons_self

theorem try_swap_out_keeps (P : Scheduler A B → Prop) (s : Scheduler A B)
    (hfirst : P (s.tryFrom kv .deferredDecode).2) (hnext : ∀ t, P t → P (t.tryFrom kv .decode).2) :
    P (s.trySwapOutVictim kv).2 := by
  unfold trySwapOutVictim
  generalize s.tryFrom kv .deferredDecode = out at hfirst
  obtain ⟨ok,t⟩ := out
  cases ok with
  | true => exact hfirst
  | false => exact hnext t hfirst

theorem try_swap_out_only (s : Scheduler A B) :
    Only [.deferredDecode,.decode,.swapOut] s (s.trySwapOutVictim kv).2 := by
  apply try_swap_out_keeps kv (Only [.deferredDecode,.decode,.swapOut] s)
  · exact (s.try_from_only kv .deferredDecode).mono (by simp)
  · exact fun t ht => ht.trans ((t.try_from_only kv .decode).mono (by simp))

theorem try_swap_out_first {s : Scheduler A B} (hd : s.queues .decode = []) :
    s.trySwapOutVictim kv = s.tryFrom kv .deferredDecode := by
  have hidle := (s.try_from_only kv .deferredDecode .decode (by simp)).trans hd
  unfold trySwapOutVictim
  generalize s.tryFrom kv .deferredDecode = out at hidle
  obtain ⟨ok,t⟩ := out
  cases ok with
  | true => rfl
  | false =>
    dsimp only at hidle ⊢
    unfold tryFrom
    rw [hidle]
    rfl

/-- The queues that are empty whenever the worker loop starts its body. -/
structure Settled (s : Scheduler A B) : Prop where
  prefill : s.queues .prefill = []
  cancel : s.queues .cancel = []
  decodeBatch : s.queues .decodeBatch = []
  nextDecode : s.queues .nextDecode = []
  prefillBatch : s.queues .prefillBatch = []

theorem Settled.only {s t : Scheduler A B} (h : s.Settled) {ps : List Place} (k : Only ps s t)
    (hps : ∀ p ∈ ps, p ≠ .prefill ∧ p ≠ .cancel ∧ p ≠ .decodeBatch ∧ p ≠ .nextDecode ∧
      p ≠ .prefillBatch) : t.Settled where
  prefill := (k _ fun hm => (hps _ hm).1 rfl).trans h.prefill
  cancel := (k _ fun hm => (hps _ hm).2.1 rfl).trans h.cancel
  decodeBatch := (k _ fun hm => (hps _ hm).2.2.1 rfl).trans h.decodeBatch
  nextDecode := (k _ fun hm => (hps _ hm).2.2.2.1 rfl).trans h.nextDecode
  prefillBatch := (k _ fun hm => (hps _ hm).2.2.2.2 rfl).trans h.prefillBatch

theorem run_decode_settled (s : Scheduler A B) (h : s.Settled) :
    (s.runDecodeBatch kv be).2.Settled := by
  have hkeep := s.run_decode_only kv be
  obtain ⟨_,hbatch⟩ := decode_rounds_empties kv be (s.queues .decode).length
    (s.queues .decode).length { s with hasResp := false } (le_refl _) rfl h.decodeBatch
  refine ⟨(hkeep _ (by simp)).trans h.prefill,(hkeep _ (by simp)).trans h.cancel,?_,?_,
    (hkeep _ (by simp)).trans h.prefillBatch⟩
  · unfold runDecodeBatch
    dsimp only
    rw [notify_queues, flush_only _ _ (by simp)]
    exact hbatch
  · unfold runDecodeBatch
    dsimp only
    rw [notify_queues]
    exact flush_empties _

/-- Between two bodies the queues of the prefill phase are empty again. -/
theorem run_prefill_settled (s : Scheduler A B) (hc : s.queues .cancel = [])
    (hd : s.queues .decodeBatch = []) (hn : s.queues .nextDecode = [])
    (hb : s.queues .prefillBatch = []) : (s.runPrefillBatch kv be).2.Settled := by
  have hkeep := s.run_prefill_only kv be
  obtain ⟨hprefill,hbatch⟩ := prefill_rounds_empties kv be (s.queues .prefill).length
    { s with hasResp := false } (le_refl _) hb
  refine ⟨?_,(hkeep _ (by simp)).trans hc,(hkeep _ (by simp)).trans hd,
    (hkeep _ (by simp)).trans hn,?_⟩
  · unfold runPrefillBatch
    dsimp only
    rw [notify_queues]
    exact hprefill
  · unfold runPrefillBatch
    dsimp only
    rw [notify_queues]
    exact hbatch

theorem run_decode_quiet (s : Scheduler A B) (h : s.Settled)
    (hquiet : (s.runDecodeBatch kv be).1 = false) :
    (s.runDecodeBatch kv be).2.queues .decode = [] := by
  have hnext := decode_rounds_quiet kv be (fun t => t.queues .nextDecode = [])
    (fun n t ht _ => (t.admit_decode_only kv n _ (by simp)).trans ht) _ _
    { s with hasResp := false } hquiet h.nextDecode
  obtain ⟨hdecode,_⟩ := decode_rounds_empties kv be (s.queues .decode).length
    (s.queues .decode).length { s with hasResp := false } (le_refl _) rfl h.decodeBatch
  unfold runDecodeBatch
  dsimp only
  rw [notify_queues, flushNextDecode, hnext]
  exact hdecode

theorem retry_swap_in_quiet (s : Scheduler A B)
    (hquiet : (s.retrySwapInRequests kv).1 = false) :
    (s.retrySwapInRequests kv).2.queues .decode = s.queues .decode := by
  refine for_front_quiet (fun t => t.queues .decode = s.queues .decode) _ _ ?_ _ s hquiet rfl
  intro req t u ht hp hturn
  unfold swapInTurn at hturn ⊢
  dsimp only at hturn ⊢
  split at hturn
  · exact absurd rfl hturn
  · rw [if_neg ‹_›, push_back_queues, if_neg (by simp), with_allocator_queues,
      pop_front_other hp _ (by simp), ht]

theorem then_run_keeps {P Q : Scheduler A B → Prop} {f : Scheduler A B → Bool × Scheduler A B}
    {out : Bool × Scheduler A B} (h : P out.2) (hf : ∀ s, P s → Q (f s).2) :
    Q (thenRun f out).2 := hf out.2 h

theorem then_run_quiet {P Q : Scheduler A B → Prop} {f : Scheduler A B → Bool × Scheduler A B}
    {out : Bool × Scheduler A B} (h : out.1 = false → P out.2)
    (hf : ∀ s, P s → (f s).1 = false → Q (f s).2) (hquiet : (thenRun f out).1 = false) :
    Q (thenRun f out).2 := by
  obtain ⟨ho,hf'⟩ := Bool.or_eq_false_iff.mp hquiet
  exact hf out.2 (h ho) hf'

/-- `Settled` but for the queue of admitted prompts. -/
structure Unbatched (s : Scheduler A B) : Prop where
  cancel : s.queues .cancel = []
  decodeBatch : s.queues .decodeBatch = []
  nextDecode : s.queues .nextDecode = []
  prefillBatch : s.queues .prefillBatch = []

theorem Unbatched.only {s t : Scheduler A B} (h : s.Unbatched) {ps : List Place} (k : Only ps s t)
    (hps : ∀ p ∈ ps, p ≠ .cancel ∧ p ≠ .decodeBatch ∧ p ≠ .nextDecode ∧ p ≠ .prefillBatch) :
    t.Unbatched where
  cancel := (k _ fun hm => (hps _ hm).1 rfl).trans h.cancel
  decodeBatch := (k _ fun hm => (hps _ hm).2.1 rfl).trans h.decodeBatch
  nextDecode := (k _ fun hm => (hps _ hm).2.2.1 rfl).trans h.nextDecode
  prefillBatch := (k _ fun hm => (hps _ hm).2.2.2 rfl).trans h.prefillBatch

theorem drain_unless_paused_only (s : Scheduler A B) :
    Only [.request,.waitingPrefill] s s.drainUnlessPaused := by
  unfold drainUnlessPaused
  split
  · exact .refl _ s
  · exact s.drain_only

theorem run_phases_settled (s : Scheduler A B) (h : s.Settled) : (s.runPhases kv be).2.Settled := by
  have hswap (t : Scheduler A B) (ht : t.Settled) : (t.retrySwapInRequests kv).2.Settled :=
    ht.only (t.retry_swap_in_only kv) (by simp)
  have hdrain : s.drainUnlessPaused.Settled := h.only s.drain_unless_paused_only (by simp)
  unfold runPhases
  refine then_run_keeps (P := Settled) ?_ hswap
  refine then_run_keeps (P := Unbatched) ?_
    fun t ht => run_prefill_settled kv be t ht.cancel ht.decodeBatch ht.nextDecode ht.prefillBatch
  refine then_run_keeps (P := Unbatched) ?_ fun t ht => ht.only (t.admit_waiting_only kv) (by simp)
  refine then_run_keeps (P := Unbatched) ?_
    fun t ht => ht.only (t.retry_deferred_prefill_only kv) (by simp)
  refine then_run_keeps (P := Settled) ?_ fun t ht =>
    ⟨(hswap t ht).cancel,(hswap t ht).decodeBatch,(hswap t ht).nextDecode,(hswap t ht).prefillBatch⟩
  refine then_run_keeps (P := Settled) ?_ (run_decode_settled kv be)
  refine then_run_keeps (P := Settled) ?_
    fun t ht => ht.only t.retry_deferred_decode_only (by simp)
  exact then_run_keeps (P := Settled) hdrain hswap

theorem run_phases_quiet (s : Scheduler A B) (h : s.Settled)
    (hquiet : (s.runPhases kv be).1 = false) : (s.runPhases kv be).2.queues .decode = [] := by
  let Idle (t : Scheduler A B) : Prop := t.queues .decode = []
  have hdrain : s.drainUnlessPaused.Settled := h.only s.drain_unless_paused_only (by simp)
  have hswap (t : Scheduler A B) (ht : Idle t) (hq : (t.retrySwapInRequests kv).1 = false) :
      Idle (t.retrySwapInRequests kv).2 := (retry_swap_in_quiet kv t hq).trans ht
  unfold runPhases at hquiet ⊢
  refine then_run_quiet (P := Idle) ?_ hswap hquiet
  refine then_run_quiet (P := Idle) ?_ ?_
  · refine then_run_quiet (P := Idle) ?_
      fun t ht _ => (t.admit_waiting_only kv _ (by simp)).trans ht
    refine then_run_quiet (P := Idle) ?_
      fun t ht _ => (t.retry_deferred_prefill_only kv _ (by simp)).trans ht
    refine then_run_quiet (P := Idle) ?_ hswap
    refine then_run_quiet (P := Settled) ?_ (run_decode_quiet kv be)
    intro _
    refine then_run_keeps (P := Settled) ?_
      fun t ht => ht.only t.retry_deferred_decode_only (by simp)
    exact then_run_keeps (P := Settled) hdrain
      fun t ht => ht.only (t.retry_swap_in_only kv) (by simp)
  · intro t ht hq
    unfold runPrefillBatch at hq ⊢
    dsimp only [Idle] at hq ⊢
    rw [notify_queues, prefill_rounds_quiet kv be _ _ hq]
    exact ht

theorem resume_queues (s : Scheduler A B) (p : Place) :
    s.resumeAdmission.queues p = s.queues p := by
  unfold resumeAdmission
  split <;> rfl

theorem body_settled (s : Scheduler A B) (h : s.Settled) : (s.workerLoopBody kv be).Settled := by
  have hphases := s.run_phases_settled kv be h
  have hvictim : (if !(s.runPhases kv be).1 && !(s.runPhases kv be).2.noInternalWork then
      ((s.runPhases kv be).2.trySwapOutVictim kv).2 else (s.runPhases kv be).2).Settled := by
    split
    · exact hphases.only (try_swap_out_only kv _) (by simp)
    · exact hphases
  have hresume (t : Scheduler A B) : Only [] t t.resumeAdmission := fun p _ => resume_queues t p
  exact hvictim.only (hresume _) (by simp)

end Body

end MiniLlm.Scheduler

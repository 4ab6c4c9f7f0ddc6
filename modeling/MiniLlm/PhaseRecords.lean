import MiniLlm.SchedulerLoops

/-!
# What the phases leave on record

The responses, the notifications and the calls of the backend are recorded
by the two batch functions. Every other loop of the scheduler, and the loops
around the calls, leave the records alone.
-/

set_option autoImplicit false

namespace MiniLlm

open Scheduler

variable {A B : Type*}

structure Scheduler.SameAsync (s t : Scheduler A B) : Prop where
  responses : t.responses = s.responses
  responseAsync : t.responseAsync = s.responseAsync
  asyncSends : t.asyncSends = s.asyncSends
  hasResp : t.hasResp = s.hasResp

structure Scheduler.SameRecords (s t : Scheduler A B) : Prop extends s.SameAsync t where
  prefillCalls : t.prefillCalls = s.prefillCalls
  decodeCalls : t.decodeCalls = s.decodeCalls

section Records

variable {s t u : Scheduler A B}

theorem Scheduler.SameAsync.trans (h : s.SameAsync t) (k : t.SameAsync u) : s.SameAsync u :=
  ⟨k.responses.trans h.responses,k.responseAsync.trans h.responseAsync,
    k.asyncSends.trans h.asyncSends,k.hasResp.trans h.hasResp⟩

theorem Scheduler.SameRecords.refl (s : Scheduler A B) : s.SameRecords s :=
  ⟨⟨rfl,rfl,rfl,rfl⟩,rfl,rfl⟩

theorem Scheduler.SameRecords.trans (h : s.SameRecords t) (k : t.SameRecords u) :
    s.SameRecords u :=
  ⟨h.toSameAsync.trans k.toSameAsync,k.prefillCalls.trans h.prefillCalls,
    k.decodeCalls.trans h.decodeCalls⟩

theorem pop_front_records {q : Place} {r : Request} (h : s.popFront q = some (r,t)) :
    s.SameRecords t := by
  rw [(pop_front_some h).2]
  exact ⟨⟨rfl,rfl,rfl,rfl⟩,rfl,rfl⟩

theorem push_back_records (s : Scheduler A B) (a : A) (q : Place) (r : Request) :
    s.SameRecords ((s.withAllocator a).pushBack q r) := ⟨⟨rfl,rfl,rfl,rfl⟩,rfl,rfl⟩

theorem for_front_records (q : Place) (body : Request → Scheduler A B → Turn × Scheduler A B)
    (hbody : ∀ r t, SameRecords t (body r t).2) (n : ℕ) (s : Scheduler A B) :
    s.SameRecords (s.forFront q body n).2 := by
  apply for_front_keeps (SameRecords s)
  · exact fun r t u h hp => (h.trans (pop_front_records hp)).trans (hbody r u)
  · exact .refl s

end Records

section Turns

variable (kv : KvAllocator A) (s : Scheduler A B) (r : Request)

theorem enqueue_records : s.SameRecords (s.enqueueWaiting r) := ⟨⟨rfl,rfl,rfl,rfl⟩,rfl,rfl⟩

theorem swap_in_turn_records : s.SameRecords (s.swapInTurn kv r).2 := by
  unfold swapInTurn
  dsimp only
  split <;> exact push_back_records s _ _ _

theorem retry_prefill_turn_records : s.SameRecords (s.retryPrefillTurn kv r).2 := by
  unfold retryPrefillTurn
  dsimp only
  split
  · exact ⟨⟨rfl,rfl,rfl,rfl⟩,rfl,rfl⟩
  · exact push_back_records s _ _ _

theorem admit_waiting_turn_records : s.SameRecords (s.admitWaitingTurn kv r).2 := by
  unfold admitWaitingTurn
  dsimp only
  split <;> exact push_back_records s _ _ _

theorem admit_decode_turn_records : s.SameRecords (s.admitDecodeTurn kv r) := by
  unfold admitDecodeTurn
  dsimp only
  split <;> exact push_back_records s _ _ _

end Turns

section Phases

variable (kv : KvAllocator A) (s : Scheduler A B)

theorem drain_records : s.SameRecords s.drainUnlessPaused := by
  unfold drainUnlessPaused
  split
  · exact .refl s
  · exact for_front_records _ _ (fun r t => enqueue_records t r) _ s

theorem retry_swap_in_records : s.SameRecords (s.retrySwapInRequests kv).2 :=
  for_front_records _ _ (fun r t => swap_in_turn_records kv t r) _ s

theorem retry_deferred_decode_records : s.SameRecords s.retryDeferredDecode :=
  for_front_records _ _ (fun _ _ => ⟨⟨rfl,rfl,rfl,rfl⟩,rfl,rfl⟩) _ s

theorem retry_deferred_prefill_records : s.SameRecords (s.retryDeferredPrefill kv).2 :=
  for_front_records _ _ (fun r t => retry_prefill_turn_records kv t r) _ s

theorem admit_waiting_records : s.SameRecords (s.admitWaitingPrefill kv).2 :=
  for_front_records _ _ (fun r t => admit_waiting_turn_records kv t r) _ s

theorem flush_records : s.SameRecords s.flushNextDecode :=
  for_front_records _ _ (fun _ _ => ⟨⟨rfl,rfl,rfl,rfl⟩,rfl,rfl⟩) _ s

theorem start_prefill_records : s.SameRecords s.startPrefill :=
  for_front_records _ _ (fun _ _ => ⟨⟨rfl,rfl,rfl,rfl⟩,rfl,rfl⟩) _ s

theorem admit_decode_records (n : ℕ) : s.SameRecords (s.admitDecodeLoop kv n).2 := by
  apply admit_decode_keeps (SameRecords s)
  · exact fun r t u h hp =>
      (h.trans (pop_front_records hp)).trans (admit_decode_turn_records kv u r)
  · exact .refl s

theorem try_from_records (q : Place) : s.SameRecords (s.tryFrom kv q).2 := by
  unfold tryFrom
  split
  · exact .refl s
  · unfold swapOutVictim
    dsimp only
    split <;> exact ⟨⟨rfl,rfl,rfl,rfl⟩,rfl,rfl⟩

theorem victim_records : s.SameRecords (s.trySwapOutVictim kv).2 := by
  apply try_swap_out_keeps kv (SameRecords s)
  · exact try_from_records kv s .deferredDecode
  · exact fun t ht => ht.trans (try_from_records kv t .decode)

theorem resume_records : s.SameRecords s.resumeAdmission := by
  unfold resumeAdmission
  split <;> exact ⟨⟨rfl,rfl,rfl,rfl⟩,rfl,rfl⟩

end Phases

end MiniLlm

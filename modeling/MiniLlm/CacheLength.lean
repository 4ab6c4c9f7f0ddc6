import MiniLlm.Gpt2Model
import MiniLlm.RangedSwaps

/-!
# Cache length, position and block table

Every request handed to the decode call of the backend has one cached token
less than it has tokens, in every layer, and exactly the blocks it needs for
the next one. While a request is swapped out its entry remembers the number.
All this is so until a swap-in stores past the end of its vector.
-/

set_option autoImplicit false

namespace MiniLlm

open RealKvAllocator Scheduler

variable {α A B : Type*}

structure InStep (r : Request) : Prop where
  layers : r.layerKv.length = gpt2NLayers
  cached : ∀ kv ∈ r.layerKv, kv.numTokens+1 = r.tokens.length
  blocks : ∀ kv ∈ r.layerKv, kv.numBlocks = kv.numTokens/defaultKvBlockSize+1
  position : ∀ kv ∈ r.layerKv, decodePosition r = (kv.numTokens : ℤ)
  slot : ∀ kv ∈ r.layerKv, ∃ physical,
    kv.physicalBlockId (kv.numTokens/defaultKvBlockSize) = some physical ∧
      appendSlot kv = some (physical,kv.numTokens%defaultKvBlockSize)

theorem placed_in_step {entry : Option SwappedRequest} {r : Request}
    (h : Placed entry r .decodeBatch) : InStep r := by
  obtain ⟨n,htokens,hshape,_⟩ := h
  refine ⟨r.layers,?_,?_,?_,?_⟩
  · intro kv hkv
    rw [hshape.cached kv hkv, htokens]
  · intro kv hkv
    rw [hshape.tables kv hkv, hshape.cached kv hkv]
  · intro kv hkv
    rw [decodePosition, htokens, hshape.cached kv hkv]
    omega
  · intro kv hkv
    have hlt : kv.numTokens/defaultKvBlockSize < kv.blockTable.length := by
      have hlen : kv.blockTable.length = n/defaultKvBlockSize+1 := hshape.tables kv hkv
      rw [hlen, hshape.cached kv hkv]
      exact Nat.lt_succ_self _
    have hsome := List.getElem?_eq_getElem hlt
    refine ⟨_,hsome,?_⟩
    rw [appendSlot, tokenSlot, PagedKVCache.physicalBlockId, hsome]
    rfl

structure EntryInStep (entry : Option SwappedRequest) (r : Request) : Prop where
  recorded : ∀ swapped, entry = some swapped →
    ((swapped.cpuBlocks.take swapped.blocksPerLayer).map SwappedBlock.validTokens).sum+1 =
      r.tokens.length

theorem placed_entry_in_step {entry : Option SwappedRequest} {r : Request} {p : Place}
    (h : Placed entry r p) : EntryInStep entry r := by
  refine ⟨fun swapped hswapped => ?_⟩
  rcases placed_entry h with hnone | rfl
  · rw [hnone] at hswapped
    cases hswapped
  · obtain ⟨n,_,htokens,_,other,hother,hfits⟩ := h
    obtain rfl := Option.some.inj (hother.symm.trans hswapped)
    rw [htokens]
    exact congrArg (·+1) hfits.tokens

section Runs

variable {be : InferenceBackend B} {allowed : Request → Response → Prop}

theorem visited_in_step {device : Device α} {b : B} {async : Bool}
    {s : Scheduler (RealKvAllocator α) B}
    (h : Visited (realKvAllocator α) be allowed NewRequest (startedReal device b async) s) :
    ∀ batch ∈ s.decodeCalls, ∀ r ∈ batch, InStep r := by
  induction h with
  | refl => exact fun batch hb => absurd hb List.not_mem_nil
  | @tail s t hbefore hstep ih =>
    rcases (step_calls hstep).1 with hsame | hcall
    · rwa [hsame]
    · rw [hcall]
      intro batch hb r hr
      rcases List.mem_append.mp hb with hb | hb
      · exact ih batch hb r hr
      · obtain rfl := List.mem_singleton.mp hb
        exact placed_in_step ((visited_custody hbefore).placed (.decodeBatch,r)
          ((mem_held s .decodeBatch r).mpr hr))

end Runs

/-- What cache length, position and block table have to do with one another. -/
structure CachesInStep (s : Scheduler (RealKvAllocator α) B) : Prop where
  decoded : ∀ batch ∈ s.decodeCalls, ∀ r ∈ batch, InStep r
  recorded : ∀ r ∈ s.queues .swapOut, ∃ swapped,
    s.kvAllocator.swappedRequests.lookup r.requestId = some swapped
  entries : ∀ p, ∀ r ∈ s.queues p,
    EntryInStep (s.kvAllocator.swappedRequests.lookup r.requestId) r

/-- In runs whose swap-outs all take ranges no store goes astray, every request ever handed to
decode was in step, and every swapped-out request still is. -/
theorem cache_in_step (be : InferenceBackend B) (device : Device α) (b : B) (async : Bool) :
    (∀ c s, ReachedRanged be device b async c s → VisitedRanged be device b async s) ∧
    ∀ s, VisitedRanged be device b async s →
      s.kvAllocator.device.faulted = false ∧ CachesInStep s := by
  refine ⟨fun _ _ h => (reached_ranged h).2,fun s h => ⟨(visited_ranged h).unmarked,?_⟩⟩
  have hcustody := visited_custody h.visited
  refine ⟨visited_in_step h.visited,fun r hr => ?_,fun p r hr => ?_⟩
  · obtain ⟨_,_,_,_,swapped,hentry,_⟩ :=
      hcustody.placed (.swapOut,r) ((mem_held s .swapOut r).mpr hr)
    exact ⟨swapped,hentry⟩
  · exact placed_entry_in_step (hcustody.placed (p,r) ((mem_held s p r).mpr hr))

theorem one_decoded_ranged : VisitedRanged mockBackend freshDevice () true oneDecoded := by
  have hsubmitted : ReachedRanged mockBackend freshDevice () true .top oneSubmitted :=
    .submit _ _ _ .start one_request_new
  have hserved : ReachedRanged mockBackend freshDevice () true .top oneServed :=
    .body _ hsubmitted rfl
      (swaps_out_only_busy (reached_ranged hsubmitted).1 (by decide +kernel)) (by decide +kernel)
  obtain ⟨hsettled,hvisited⟩ := reached_ranged hserved
  exact hvisited.trans (body_steps_under (answers_anything mockBackend) _ hsettled
    (swaps_out_only_busy hsettled (by decide +kernel)))

/-- One request that is decoded, and one that is swapped out. -/
theorem one_decoded_in_step :
    oneDecoded.decodeCalls.map (List.map Request.requestId) = [[1]] ∧ CachesInStep oneDecoded ∧
    ((calmRun 2).queues .swapOut).map Request.requestId = [4] ∧ CachesInStep (calmRun 2) := by
  obtain ⟨hvisited,hsound⟩ := cache_in_step mockBackend freshDevice () true
  exact ⟨by decide +kernel,(hsound _ one_decoded_ranged).2,calm_runs.2.2.2.2.1,
    (hsound _ (hvisited _ _ (calm_reached 2 (by decide)))).2⟩

theorem eight_not_in_step : ¬ ∀ c s, Reached (realKvAllocator ℤ) mockBackend NewRequest
    (startedReal balkyDevice () true) c s →
      s.kvAllocator.device.faulted = false ∧ CachesInStep s := by
  intro h
  obtain ⟨hreached,hmark⟩ := eight_overrun
  exact absurd ((h _ _ hreached).1.symm.trans hmark) Bool.false_ne_true

end MiniLlm

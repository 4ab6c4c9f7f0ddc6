import MiniLlm.CacheLength

/-!
# One place for every request

At the top of the worker loop each request that was ever taken from the
request queue is in one of six queues, and the queue tells its state and its
residency. Only requests in the swap-out queue have an entry.
-/

set_option autoImplicit false

namespace MiniLlm

open RealKvAllocator Scheduler

variable {α A B : Type*}

def AllPopped (b : Board A) : Prop :=
  (b.popped : Multiset UInt64) =
    (b.requests.filter (fun x => x.1 ≠ .request)).map (fun x => x.2.requestId)

theorem hop_popped {kv : KvAllocator A} {allowed : Request → Response → Prop}
    {admissible : (Request → Prop) → Request → Prop} {b c : Board A} (h : AllPopped b)
    (hop : Hop kv allowed admissible b c) : AllPopped c := by
  unfold AllPopped at h ⊢
  cases hop with
  | submit req hreq =>
    rw [h]
    exact congrArg _ (Multiset.filter_cons_of_neg b.requests (by simp)).symm
  | move a p q r r' resps rest hb m =>
    rw [hb] at h
    rw [Multiset.filter_cons_of_pos (p := fun x : Place × Request => x.1 ≠ .request) _ m.target,
      Multiset.map_cons, m.requestId, ← Multiset.coe_add, h]
    by_cases hp : p = .request
    · subst hp
      rw [Multiset.filter_cons_of_neg _ (by simp)]
      exact (Multiset.add_comm _ _).trans (Multiset.singleton_add _ _)
    · have hnone : entered p r = [] := by
        cases p <;> first | rfl | exact absurd rfl hp
      rw [hnone, Multiset.filter_cons_of_pos (p := fun x : Place × Request => x.1 ≠ .request) _ hp,
        Multiset.map_cons]
      exact Multiset.add_zero _

theorem visited_popped {kv : KvAllocator A} {be : InferenceBackend B}
    {allowed : Request → Response → Prop} {admissible : (Request → Prop) → Request → Prop}
    {a : A} {b : B} {async : Bool} {s : Scheduler A B}
    (h : Visited kv be allowed admissible (started a b async) s) : AllPopped s.board :=
  visited_board AllPopped (fun _ _ => hop_popped) h rfl

def Scheduler.six (s : Scheduler A B) : List Request :=
  s.queues .waitingPrefill++s.queues .decode++s.queues .finish++s.queues .deferredPrefill++
    s.queues .deferredDecode++s.queues .swapOut

theorem filter_flat_map (keys : List Place) (f : Place → List Request) (k : Place) :
    (keys.flatMap fun p => (f p).map (Prod.mk p)).filter (fun x => x.1 ≠ k) =
      (keys.filter (· ≠ k)).flatMap fun p => (f p).map (Prod.mk p) := by
  induction keys with
  | nil => rfl
  | cons p keys ih =>
    rw [List.flatMap_cons, List.filter_append, ih]
    by_cases hp : p = k
    · subst hp
      rw [List.filter_eq_nil_iff.mpr (by simp), List.filter_cons_of_neg (by simp), List.nil_append]
    · rw [List.filter_eq_self.mpr (by simp [hp]), List.filter_cons_of_pos (by simp [hp]),
        List.flatMap_cons]

theorem settled_six (s : Scheduler A B) (h : s.Settled) :
    (s.held.filter (fun x => x.1 ≠ .request)).map (fun x => x.2.requestId) =
      (s.six.map Request.requestId : List UInt64) := by
  have hplaces : Place.all.filter (· ≠ .request) =
      [.waitingPrefill,.prefill,.decode,.finish,.deferredPrefill,.deferredDecode,.cancel,.swapOut,
        .decodeBatch,.nextDecode,.prefillBatch] := rfl
  unfold held six
  rw [Multiset.filter_coe, Multiset.map_coe, filter_flat_map, hplaces]
  simp [h.prefill, h.cancel, h.decodeBatch, h.nextDecode, h.prefillBatch, Function.comp_def]

def EmptyTables (r : Request) : Prop := ∀ kv ∈ r.layerKv, kv.blockTable = []

theorem Shaped.empty_tables {r : Request} {residency : KvCacheResidency} {state : RequestState}
    {tokens : ℕ} (h : Shaped r residency state 0 tokens) : EmptyTables r :=
  fun kv hkv => List.eq_nil_of_length_eq_zero (h.tables kv hkv)

structure PlacesAgree (s : Scheduler (RealKvAllocator α) B) : Prop where
  once : s.popped.Perm (s.six.map Request.requestId)
  distinct : s.popped.Nodup
  prefill : s.queues .prefill = []
  cancel : s.queues .cancel = []
  decode : ∀ r ∈ s.queues .decode, r.state = .decodeReady ∧ r.kvResidency = .gpu
  deferredDecode : ∀ r ∈ s.queues .deferredDecode,
    r.state = .deferredDecodeKV ∧ r.kvResidency = .gpu
  swapOut : ∀ r ∈ s.queues .swapOut,
    r.state = .swappedOut ∧ r.kvResidency = .cpu ∧ EmptyTables r
  waitingPrefill : ∀ r ∈ s.queues .waitingPrefill, r.kvResidency = .none ∧ EmptyTables r
  deferredPrefill : ∀ r ∈ s.queues .deferredPrefill, r.kvResidency = .none ∧ EmptyTables r
  finish : ∀ r ∈ s.queues .finish,
    r.state = .finished ∧ r.kvResidency = .none ∧ EmptyTables r
  entries : ∀ id, (∃ swapped, s.kvAllocator.swappedRequests.lookup id = some swapped) ↔
    ∃ r ∈ s.queues .swapOut, r.requestId = id

theorem Custody.places {totalBlocks totalCpuBlocks : ℕ} {s : Scheduler (RealKvAllocator α) B}
    (h : Custody totalBlocks totalCpuBlocks s.board) (hpopped : AllPopped s.board)
    (hsettled : s.Settled) : PlacesAgree s := by
  have hplaced (p : Place) (r : Request) (hr : r ∈ s.queues p) :
      Placed (s.kvAllocator.swappedRequests.lookup r.requestId) r p :=
    h.placed (p,r) ((mem_held s p r).mpr hr)
  refine ⟨?_,?_,hsettled.prefill,hsettled.cancel,?_,?_,?_,?_,?_,?_,?_⟩
  · exact Multiset.coe_eq_coe.mp (hpopped.trans (settled_six s hsettled))
  · rw [← Multiset.coe_nodup, show (s.popped : Multiset UInt64) = _ from hpopped]
    exact Multiset.nodup_of_le (Multiset.map_le_map (Multiset.filter_le _ _)) h.distinct
  · intro r hr
    obtain ⟨_,_,hshape,_⟩ := hplaced _ r hr
    exact ⟨hshape.state,hshape.residency⟩
  · intro r hr
    obtain ⟨_,_,_,hshape,_⟩ := hplaced _ r hr
    exact ⟨hshape.state,hshape.residency⟩
  · intro r hr
    obtain ⟨_,_,_,hshape,_⟩ := hplaced _ r hr
    exact ⟨hshape.state,hshape.residency,hshape.empty_tables⟩
  · intro r hr
    obtain ⟨_,hshape,_⟩ := hplaced _ r hr
    exact ⟨hshape.residency,hshape.empty_tables⟩
  · intro r hr
    obtain ⟨_,hshape,_⟩ := hplaced _ r hr
    exact ⟨hshape.residency,hshape.empty_tables⟩
  · intro r hr
    obtain ⟨hshape,_⟩ := hplaced _ r hr
    exact ⟨hshape.state,hshape.residency,hshape.empty_tables⟩
  · intro id
    constructor
    · rintro ⟨swapped,hswapped⟩
      have hne : s.board.kvAllocator.swappedRequests.lookup id ≠ none := by
        change s.kvAllocator.swappedRequests.lookup id ≠ none
        rw [hswapped]
        exact Option.some_ne_none swapped
      obtain ⟨x,hx,rfl⟩ := h.entries id hne
      rcases placed_entry (h.placed x hx) with hnone | hp
      · exact absurd hnone hne
      · exact ⟨x.2,hp ▸ (mem_held s x.1 x.2).mp hx,rfl⟩
    · rintro ⟨r,hr,rfl⟩
      obtain ⟨_,_,_,_,swapped,hentry,_⟩ := hplaced _ r hr
      exact ⟨swapped,hentry⟩

/-- In runs whose swap-outs all take ranges no store goes astray, and at the top of the worker
loop every request is in one place, and looks as it should there. -/
theorem places_agree (be : InferenceBackend B) (device : Device α) (b : B) (async : Bool)
    (s : Scheduler (RealKvAllocator α) B) (h : ReachedRanged be device b async .top s) :
    s.kvAllocator.device.faulted = false ∧ PlacesAgree s := by
  obtain ⟨hsettled,hvisited⟩ := reached_ranged h
  exact ⟨(visited_ranged hvisited).unmarked,
    (visited_custody hvisited.visited).places (visited_popped hvisited.visited) hsettled⟩

/-- One request is swapped out, the others are deferred. -/
theorem calm_agrees : (calmRun 2).popped = [4,5,6,7,8,1,2,3] ∧
    (calmRun 2).six.map Request.requestId = [5,6,7,8,1,2,3,4] ∧ PlacesAgree (calmRun 2) :=
  ⟨by decide +kernel,by decide +kernel,
    (places_agree mockBackend freshDevice () true _ (calm_reached 2 (by decide))).2⟩

theorem eight_not_agreeing : ¬ ∀ s, Reached (realKvAllocator ℤ) mockBackend NewRequest
    (startedReal balkyDevice () true) .top s →
      s.kvAllocator.device.faulted = false ∧ PlacesAgree s := by
  intro h
  obtain ⟨hreached,hmark⟩ := eight_overrun
  exact absurd ((h _ hreached).1.symm.trans hmark) Bool.false_ne_true

end MiniLlm

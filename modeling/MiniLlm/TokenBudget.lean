import MiniLlm.Server

/-!
# How many tokens a request of the server can get

The server asks for eight new tokens. A request is closed as soon as it has
them, so one that is still served has at most seven. One whose prompt does
not fit the pool never gets any.
-/

set_option autoImplicit false

namespace MiniLlm

open RealKvAllocator Scheduler

variable {A : Type*}

structure Budget (p : Place) (r : Request) : Prop where
  limit : r.maxNewTokens = ServerContext.defaultMaxNewTokens
  lower : r.promptsLen+answered p ≤ r.tokens.length
  upper : r.tokens.length < r.promptsLen+8

theorem new_budget (reqId : Int32) (t : List ℤ) :
    Budget .request (Request.new reqId t ServerContext.defaultMaxNewTokens) :=
  ⟨rfl,Nat.le_refl _,Nat.lt_add_of_pos_right (by decide)⟩

section Moves

variable {kv : KvAllocator A} {allowed : Request → Response → Prop} {a a' : A} {p q : Place}
  {r r' : Request} {resps : List Response}

theorem Budget.text (h : Budget p r) (ht : r.SameText r') (hq : answered q ≤ answered p) :
    Budget q r' := by
  refine ⟨ht.maxNewTokens.trans h.limit,?_,?_⟩
  · rw [ht.promptsLen, ht.tokens]
    exact (Nat.add_le_add_left hq _).trans h.lower
  · rw [ht.promptsLen, ht.tokens]
    exact h.upper

theorem served_fields (cache : Request → PagedKVCache → PagedKVCache) (answer : Option Response) :
    (servedRequest cache answer r).tokens = r.tokens++[(receivedResponse answer r).token] ∧
    (servedRequest cache answer r).promptsLen = r.promptsLen ∧
    (servedRequest cache answer r).maxNewTokens = r.maxNewTokens := ⟨rfl,rfl,rfl⟩

theorem unfinished_room {cache : Request → PagedKVCache → PagedKVCache}
    {answer : Option Response} (hf : (pushedResponse cache answer r).finished = false) :
    (receivedResponse answer r).finished = false ∧
      (r.tokens.length+1 : ℤ)-r.promptsLen < r.maxNewTokens := by
  unfold pushedResponse at hf
  split at hf
  · cases hf
  · rename_i hopen
    refine ⟨hf,?_⟩
    simp only [Request.isfinish, Request.generatedTokens, served_fields, decide_eq_true_eq,
      List.length_append, List.length_singleton, Nat.cast_add, Nat.cast_one, not_le] at hopen
    exact hopen

theorem unfinished_answer {answer : Option Response}
    (hf : (receivedResponse answer r).finished = false) :
    answer = some (receivedResponse answer r) := by
  cases answer with
  | none => cases hf
  | some resp => rfl

theorem move_text (m : Move kv allowed a p r a' q r' resps) : q = .finish ∨
    (r.SameText r' ∧ answered q ≤ answered p) ∨
    ∃ cache answer, Serving p cache q ∧ (∀ resp, answer = some resp → allowed r resp) ∧
      (pushedResponse cache answer r).finished = false ∧ a' = a ∧
      r' = (servedRequest cache answer r).withState .decodeReady := by
  cases m with
  | enqueued | decodeRetried | prefillStarted | flushed =>
    exact .inr (.inl ⟨⟨rfl,rfl,rfl,rfl⟩,by decide⟩)
  | prefillGranted _ _ hp =>
    refine .inr (.inl ⟨(kv.prefill_text a r).trans ⟨rfl,rfl,rfl,rfl⟩,?_⟩)
    rcases hp with rfl | rfl <;> decide
  | prefillRefused | prefillRefusedAgain =>
    exact .inr (.inl ⟨(kv.prefill_text a r).trans ⟨rfl,rfl,rfl,rfl⟩,by decide⟩)
  | swappedIn | swapInRefused =>
    exact .inr (.inl ⟨(kv.in_text a r).trans ⟨rfl,rfl,rfl,rfl⟩,by decide⟩)
  | decodeGranted | decodeRefused =>
    exact .inr (.inl ⟨(kv.decode_text a r).trans ⟨rfl,rfl,rfl,rfl⟩,by decide⟩)
  | victimOut | victimKept =>
    exact .inr (.inl ⟨(kv.out_text a r).trans ⟨rfl,rfl,rfl,rfl⟩,by decide⟩)
  | closed => exact .inl rfl
  | served _ _ cache _ answer hp ha hf => exact .inr (.inr ⟨cache,answer,hp,ha,hf,rfl,rfl⟩)

theorem Budget.served (h : Budget p r) {cache : Request → PagedKVCache → PagedKVCache}
    {answer : Option Response} (hp : Serving p cache q)
    (hf : (pushedResponse cache answer r).finished = false) :
    Budget q ((servedRequest cache answer r).withState .decodeReady) := by
  obtain ⟨_,hroom⟩ := unfinished_room hf
  have hlower := h.lower
  rw [h.limit, ServerContext.defaultMaxNewTokens] at hroom
  have hq : answered q = 1 := by cases hp <;> rfl
  refine ⟨h.limit,?_,?_⟩
  · rw [hq]
    show r.promptsLen+1 ≤ (r.tokens++[_]).length
    rw [List.length_append]
    exact Nat.add_le_add_right ((Nat.le_add_right _ _).trans hlower) 1
  · show (r.tokens++[_]).length < r.promptsLen+8
    rw [List.length_append, List.length_singleton]
    omega

end Moves

/-- A prompt that needs more blocks than the pool has. -/
def NeverAdmitted (promptsLen : ℕ) : Prop :=
  defaultTotalKvBlocks < prefillNeed promptsLen*gpt2NLayers

theorem never_admitted_refused {α : Type*} (a : RealKvAllocator α) (r : Request)
    (ha : a.blockManager.gpu.total = defaultTotalKvBlocks) (h : NeverAdmitted r.promptsLen) :
    a.allocatePrefill r = ⟨false,a,r⟩ := by
  rcases allocate_layers_cases a r (prefillNeed r.promptsLen) with ⟨_,ho⟩ | ⟨bm,hd,_⟩
  · exact ho
  · have hfree := hd.enough.trans a.blockManager.gpu.ids_length_le
    rw [ha] at hfree
    exact absurd h (Nat.not_lt.mpr hfree)

end MiniLlm

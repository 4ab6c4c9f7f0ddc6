import MiniLlm.CachedCounts
import MiniLlm.Gpt2Backend
import MiniLlm.SchedulerInvariant
import MiniLlm.TokenBudget

/-!
# Token ids and positions inside the tables

No function on the way from a line to the embedding kernel compares a token
with the vocabulary or a length with `MAX_SEQ`. What keeps the kernels inside
their tables is that the lines are short enough for eight answers and name
tokens of the vocabulary, or so long that no prefill is ever granted.
-/

set_option autoImplicit false

namespace MiniLlm

open RealKvAllocator Scheduler

variable {α : Type*}

def InSequence (pos : ℤ) : Prop := 0 ≤ pos ∧ pos < maxSeq

structure PrefillWithin (batch : List Request) : Prop where
  tokens : ∀ token ∈ prefillTokens batch, InVocabulary token
  positions : ∀ pos ∈ prefillPositions batch, InSequence pos

structure DecodeWithin (batch : List Request) : Prop where
  answered : ∀ r ∈ batch, r.tokens ≠ []
  tokens : ∀ token ∈ decodeTokens batch, InVocabulary token
  positions : ∀ pos ∈ decodePositions batch, InSequence pos
  scores : ∀ r ∈ batch, ∀ kv ∈ r.layerKv, kv.numTokens+1 ≤ maxSeq

structure CallsWithin {A B : Type*} (s : Scheduler A B) : Prop where
  prefill : ∀ batch ∈ s.prefillCalls, PrefillWithin batch
  decode : ∀ batch ∈ s.decodeCalls, DecodeWithin batch

/-- A prompt that is never admitted, or that names tokens of the vocabulary and leaves seven
positions free. -/
def PromptWithin (prompt : List ℤ) : Prop := NeverAdmitted prompt.length ∨
  ((∀ token ∈ prompt, InVocabulary token) ∧ prompt.length+7 ≤ maxSeq)

def LineWithin (line : List UInt8) : Prop :=
  parseRequest line = [] ∨ PromptWithin (parseRequest line)

structure Within (p : Place) (r : Request) : Prop where
  budget : Budget p r
  tokens : ∀ token ∈ r.tokens, InVocabulary token
  prompt : r.promptsLen+7 ≤ maxSeq
  cached : ∀ kv ∈ r.layerKv, kv.numTokens+r.promptsLen+8 ≤ maxSeq+r.tokens.length
  paused : p = .deferredDecode → r.layer0.numTokens%defaultKvBlockSize = 0

def Unadmitted (p : Place) (r : Request) : Prop :=
  NeverAdmitted r.promptsLen ∧ (p = .request ∨ p = .waitingPrefill ∨ p = .deferredPrefill)

def Sheltered (p : Place) (r : Request) : Prop := p = .finish ∨ Unadmitted p r ∨ Within p r

structure EntriesWithin (a : RealKvAllocator α) : Prop where
  total : a.blockManager.gpu.total = defaultTotalKvBlocks
  restored : ∀ id swapped, a.swappedRequests.lookup id = some swapped →
    restoredNumTokens swapped+8 ≤ maxSeq

section Moves

variable {a a' : RealKvAllocator α} {p q : Place} {r r' : Request} {resps : List Response}
  {limit : ℕ}

theorem EntriesWithin.call (h : EntriesWithin a) (hc : CountsFrom a r limit a' r')
    (hlimit : limit+8 ≤ maxSeq) : EntriesWithin a' := by
  refine ⟨hc.total.trans h.total,fun id swapped hl => ?_⟩
  rcases hc.recorded id swapped hl with hold | hnew
  · exact h.restored id swapped hold
  · exact (Nat.add_le_add_right hnew 8).trans hlimit

theorem Within.call (h : Within p r) (ha : EntriesWithin a) (hc : CountsFrom a r limit a' r')
    (ht : r.SameText r') (hq : answered q ≤ answered p)
    (hp : q = .deferredDecode → r'.layer0.numTokens%defaultKvBlockSize = 0) : Within q r' := by
  have hlower := h.budget.lower
  have hprompt := h.prompt
  refine ⟨h.budget.text ht hq,ht.tokens ▸ h.tokens,ht.promptsLen ▸ hprompt,?_,hp⟩
  intro kv hkv
  rw [ht.promptsLen, ht.tokens]
  simp only [maxSeq] at hprompt ⊢
  rcases hc.cached kv hkv with hzero | ⟨old,hold,hsame⟩ | ⟨id,swapped,hl,hback⟩
  · omega
  · rw [hsame]
    exact h.cached old hold
  · have hrestored := ha.restored id swapped hl
    simp only [maxSeq] at hrestored
    omega

theorem Within.paused_low (h : Within .deferredDecode r) : r.layer0.numTokens+8 ≤ maxSeq := by
  have hmod := h.paused rfl
  have hcached := h.cached _ r.layer0_mem
  have hupper := h.budget.upper
  simp only [defaultKvBlockSize, maxSeq] at hmod hcached ⊢
  omega

theorem Within.served (h : Within p r) {cache : Request → PagedKVCache → PagedKVCache}
    {answer : Option Response} (hp : Serving p cache q)
    (ha : ∀ resp, answer = some resp → VocabularyAnswer r resp)
    (hf : (pushedResponse cache answer r).finished = false) :
    Within q ((servedRequest cache answer r).withState .decodeReady) := by
  have hanswer := unfinished_answer (unfinished_room hf).1
  have htokens : ((servedRequest cache answer r).withState .decodeReady).tokens =
      r.tokens++[(receivedResponse answer r).token] := rfl
  refine ⟨h.budget.served hp hf,?_,h.prompt,?_,?_⟩
  · intro token htoken
    rw [htokens] at htoken
    rcases List.mem_append.mp htoken with htoken | htoken
    · exact h.tokens token htoken
    · rw [List.mem_singleton.mp htoken]
      exact ha _ hanswer
  · intro kv hkv
    obtain ⟨old,hold,rfl⟩ := List.mem_map.mp hkv
    rw [htokens, List.length_append, List.length_singleton]
    have hcached := h.cached old hold
    have hlower := h.budget.lower
    have hprompt := h.prompt
    cases hp with
    | decode =>
      show old.numTokens+1+r.promptsLen+8 ≤ _
      omega
    | prefill =>
      show r.promptsLen+r.promptsLen+8 ≤ _
      omega
  · rintro rfl
    cases hp

theorem move_within (h : Within p r) (ha : EntriesWithin a)
    (m : Move (realKvAllocator α) VocabularyAnswer a p r a' q r' resps) :
    EntriesWithin a' ∧ Sheltered q r' := by
  have hcall {limit : ℕ} {q : Place} {b : RealKvAllocator α} {u v : Request}
      (hc : CountsFrom a r limit b u) (ht : r.SameText u) (hl : limit+8 ≤ maxSeq)
      (hv : v.layerKv = u.layerKv) (hu : u.SameText v) (hq : answered q ≤ answered p)
      (hpaused : q = .deferredDecode → v.layer0.numTokens%defaultKvBlockSize = 0) :
      EntriesWithin b ∧ Sheltered q v :=
    ⟨ha.call hc hl,.inr (.inr (h.call ha (hc.request _ _ hv) (ht.trans hu) hq hpaused))⟩
  have hsame {r' : Request} : r'.SameText r' := .refl r'
  cases m with
  | enqueued | decodeRetried | prefillStarted | flushed =>
    exact hcall (.unchanged a r rfl) hsame (by decide) rfl ⟨rfl,rfl,rfl,rfl⟩ (by decide) nofun
  | prefillGranted _ _ hp =>
    have hq : answered .prefill ≤ answered p := by rcases hp with rfl | rfl <;> decide
    exact hcall (allocate_counts a r _) (allocate_text a r _) (by decide) rfl
      ⟨rfl,rfl,rfl,rfl⟩ hq nofun
  | prefillRefused | prefillRefusedAgain =>
    exact hcall (allocate_counts a r _) (allocate_text a r _) (by decide) rfl
      ⟨rfl,rfl,rfl,rfl⟩ (by decide) nofun
  | swappedIn | swapInRefused =>
    exact hcall (swap_in_counts a r) (swap_in_text a r) (by decide) rfl
      ⟨rfl,rfl,rfl,rfl⟩ (by decide) nofun
  | decodeGranted =>
    exact hcall (allocate_counts a r _) (allocate_text a r _) (by decide) rfl
      ⟨rfl,rfl,rfl,rfl⟩ (by decide) nofun
  | decodeRefused _ hok =>
    -- a refused request asked for a block, so its last one is full
    obtain ⟨hfew,hout⟩ := allocate_refused a r _ hok
    refine hcall (allocate_counts a r _) (allocate_text a r _) (by decide) rfl
      ⟨rfl,rfl,rfl,rfl⟩ (by decide) fun _ => ?_
    show (a.allocateLayers r (decodeNeed r.layer0.numTokens)).req.layer0.numTokens%_ = 0
    rw [hout]
    by_contra hne
    rw [decodeNeed, if_neg hne] at hfew
    omega
  | victimOut =>
    exact hcall (swap_out_counts a r) (swap_out_text a r) h.paused_low rfl
      ⟨rfl,rfl,rfl,rfl⟩ (by decide) nofun
  | victimKept _ _ _ hok =>
    refine hcall (swap_out_counts a r) (swap_out_text a r) h.paused_low rfl
      ⟨rfl,rfl,rfl,rfl⟩ (by decide) fun _ => ?_
    have hcase := swap_out_case a r
    change (a.swapOut r).ok = false at hok
    show (a.swapOut r).req.layer0.numTokens%_ = 0
    generalize a.swapOut r = out at hcase hok
    cases hcase with
    | refused => exact h.paused rfl
    | undone => exact h.paused rfl
    | done => cases hok
  | served _ _ _ _ _ hp hans hf => exact ⟨ha,.inr (.inr (h.served hp hans hf))⟩
  | closed _ _ cache _ answer =>
    exact ⟨ha.call (free_counts a (servedRequest cache answer r)) (by decide),.inl rfl⟩

theorem move_unadmitted (h : Unadmitted p r) (ha : EntriesWithin a)
    (m : Move (realKvAllocator α) VocabularyAnswer a p r a' q r' resps) :
    EntriesWithin a' ∧ Sheltered q r' := by
  obtain ⟨hlong,hp⟩ := h
  have hout : ((realKvAllocator α).allocatePrefill a r) = ⟨false,a,r⟩ :=
    never_admitted_refused a r ha.total hlong
  cases m with
  | enqueued => exact ⟨ha,.inr (.inl ⟨hlong,.inr (.inl rfl)⟩)⟩
  | prefillGranted _ _ _ hok =>
    rw [hout] at hok
    cases hok
  | prefillRefused =>
    rw [hout]
    exact ⟨ha,.inr (.inl ⟨hlong,.inr (.inr rfl)⟩)⟩
  | prefillRefusedAgain =>
    rw [hout]
    exact ⟨ha,.inr (.inl ⟨hlong,.inr (.inr rfl)⟩)⟩
  | served _ _ _ _ _ hserving => cases hserving <;> simp at hp
  | closed _ _ _ _ _ hserving => cases hserving <;> simp at hp
  | _ => simp at hp

theorem move_sheltered (h : Sheltered p r) (ha : EntriesWithin a)
    (m : Move (realKvAllocator α) VocabularyAnswer a p r a' q r' resps) :
    EntriesWithin a' ∧ Sheltered q r' := by
  rcases h with rfl | h | h
  · cases m with
    | prefillGranted _ _ hp => simp at hp
    | served _ _ _ _ _ hserving => cases hserving
    | closed _ _ _ _ _ hserving => cases hserving
  · exact move_unadmitted h ha m
  · exact move_within h ha m

end Moves

section Runs

variable {B C F : Type*} {be : InferenceBackend B}

def PromptAdmissible (_ : Request → Prop) (req : Request) : Prop :=
  ∃ reqId prompt, PromptWithin prompt ∧
    req = Request.new reqId prompt ServerContext.defaultMaxNewTokens

theorem submit_sheltered (holds : Request → Prop) (req : Request)
    (h : PromptAdmissible holds req) : Sheltered .request req := by
  obtain ⟨reqId,prompt,hprompt,rfl⟩ := h
  rcases hprompt with hlong | ⟨htokens,hshort⟩
  · exact .inr (.inl ⟨hlong,.inl rfl⟩)
  · refine .inr (.inr ⟨new_budget reqId prompt,htokens,hshort,?_,nofun⟩)
    intro kv hkv
    have hnew := (constructed_caches ⟨reqId,prompt,_,rfl⟩ kv hkv).2
    show kv.numTokens+prompt.length+8 ≤ maxSeq+prompt.length
    rw [hnew]
    simp only [maxSeq]
    omega

theorem new_entries (device : Device α) : EntriesWithin (RealKvAllocator.new device) := by
  obtain ⟨hbm,hentries⟩ := new_allocator device
  constructor
  · rw [hbm]
    rfl
  · intro id swapped hl
    rw [hentries, AList.lookup_empty] at hl
    cases hl

theorem batch_prefill_within {batch : List Request}
    (h : ∀ r ∈ batch, Sheltered .prefillBatch r) : PrefillWithin batch := by
  have hwithin (r : Request) (hr : r ∈ batch) : Within .prefillBatch r := by
    rcases h r hr with hp | ⟨_,hp⟩ | hw
    · cases hp
    · simp at hp
    · exact hw
  constructor
  · intro token htoken
    obtain ⟨r,hr,htoken⟩ := List.mem_flatMap.mp htoken
    exact (hwithin r hr).tokens token (List.mem_of_mem_take htoken)
  · intro pos hpos
    obtain ⟨r,hr,hpos⟩ := List.mem_flatMap.mp hpos
    obtain ⟨i,hi,rfl⟩ := List.mem_map.mp hpos
    have hlt := List.mem_range.mp hi
    have hprompt := (hwithin r hr).prompt
    exact ⟨Int.natCast_nonneg i,Int.ofNat_lt.mpr (by omega)⟩

theorem batch_decode_within {batch : List Request}
    (h : ∀ r ∈ batch, Sheltered .decodeBatch r) : DecodeWithin batch := by
  have hwithin (r : Request) (hr : r ∈ batch) : Within .decodeBatch r := by
    rcases h r hr with hp | ⟨_,hp⟩ | hw
    · cases hp
    · simp at hp
    · exact hw
  have hlength (r : Request) (hr : r ∈ batch) :
      0 < r.tokens.length ∧ r.tokens.length ≤ maxSeq := by
    have hw := hwithin r hr
    have hlower : r.promptsLen+1 ≤ r.tokens.length := hw.budget.lower
    have hupper := hw.budget.upper
    have hprompt := hw.prompt
    omega
  refine ⟨fun r hr => List.ne_nil_of_length_pos (hlength r hr).1,?_,?_,?_⟩
  · intro token htoken
    obtain ⟨r,hr,hlast⟩ := List.mem_filterMap.mp htoken
    exact (hwithin r hr).tokens token (List.mem_of_getLast? hlast)
  · intro pos hpos
    obtain ⟨r,hr,rfl⟩ := List.mem_map.mp hpos
    have hr := hlength r hr
    unfold decodePosition InSequence
    omega
  · intro r hr kv hkv
    have hw := hwithin r hr
    have hcached := hw.cached kv hkv
    have hupper := hw.budget.upper
    omega

theorem visited_calls_within (be : InferenceBackend B) {device : Device α} {b : B} {async : Bool}
    {s : Scheduler (RealKvAllocator α) B}
    (h : Visited (realKvAllocator α) be VocabularyAnswer PromptAdmissible
      (startedReal device b async) s) : CallsWithin s := by
  obtain ⟨hprefill,hdecode⟩ := visited_each_call h rfl rfl (P := PrefillWithin)
    (Q := DecodeWithin) fun t ht => by
      have hplaces := (visited_each EntriesWithin Sheltered submit_sheltered
        (fun _ _ _ _ _ _ _ ha hp m => (move_sheltered hp ha m)) ht (new_entries device)).2
      exact ⟨batch_prefill_within (hplaces .prefillBatch),
        batch_decode_within (hplaces .decodeBatch)⟩
  exact ⟨hprefill,hdecode⟩

variable [DecidableEq C]

/-- In every run whose lines are within the tables and that makes no stray store, so is every
batch. -/
theorem calls_within (cmp : FloatComparison F) (forward : Gpt2Forward F B) (device : Device α)
    (b : B) (async : Bool) (s : ServerContext C (RealKvAllocator α) B)
    (h : ServerContext.Reached (realKvAllocator α) (gpt2Backend cmp forward) VocabularyAnswer
      (fun _ line => LineWithin line) (listeningReal C device b async) s)
    (_ : s.scheduler.kvAllocator.device.faulted = false) : CallsWithin s.scheduler := by
  have hsteps : True ∧ Steps (realKvAllocator α) (gpt2Backend cmp forward) VocabularyAnswer
      PromptAdmissible (startedReal device b async) s.scheduler := by
    refine ServerContext.reached_steps (fun _ => True) (fun _ _ _ _ => trivial) ?_
      (fun _ _ _ _ => trivial) trivial h
    intro s client line _ hline
    refine ⟨trivial,ServerContext.on_line_steps client line s fun hne => ?_⟩
    exact ⟨_,_,hline.resolve_left hne,rfl⟩
  exact visited_calls_within _ hsteps.2

theorem loop_calls_within (cmp : FloatComparison F) (forward : Gpt2Forward F B)
    {device : Device α} {b : B} {async : Bool} {c : Control}
    {s : Scheduler (RealKvAllocator α) B}
    (h : Reached (realKvAllocator α) (gpt2Backend cmp forward) PromptAdmissible
      (startedReal device b async) c s) : CallsWithin s :=
  visited_calls_within _
    (reached_visited (gpt2_answers cmp forward) (started_settled _ b async) h).2

end Runs

section OneLine

/-- Logits without rounding; `none` is minus infinity. -/
def exceeds : Option ℤ → Option ℤ → Bool
  | some x, some y => decide (y < x)
  | some _, none => true
  | none, _ => false

def wholeComparison : FloatComparison (Option ℤ) := ⟨exceeds,fun x y => x == y,none⟩

def zeroForward : Gpt2Forward (Option ℤ) Unit where
  prefill := fun b _ => (b,fun _ _ => some 0)
  decode := fun b _ => (b,fun _ _ => some 0)

def zeroBackend : InferenceBackend Unit := gpt2Backend wholeComparison zeroForward

/-- The first body of the worker loop after some bytes, up to its call of the backend. -/
def calledAfter (bytes : List UInt8) : Scheduler (RealKvAllocator ℤ) Unit :=
  let s := (oneClient.onRead () bytes).scheduler.drainNewRequests
  ((s.admitWaitingPrefill (realKvAllocator ℤ)).2.startPrefill.callPrefill zeroBackend).2

theorem called_after_steps {admissible : (Request → Prop) → Request → Prop}
    (bytes : List UInt8) :
    Steps (realKvAllocator ℤ) zeroBackend VocabularyAnswer admissible
      (oneClient.onRead () bytes).scheduler (calledAfter bytes) := by
  have hdrain (s : Scheduler (RealKvAllocator ℤ) Unit) :
      Steps (realKvAllocator ℤ) zeroBackend VocabularyAnswer admissible s s.drainNewRequests :=
    for_front_run _ _ .enqueue _ s
  have hstart (s : Scheduler (RealKvAllocator ℤ) Unit) :
      Steps (realKvAllocator ℤ) zeroBackend VocabularyAnswer admissible s s.startPrefill :=
    for_front_run _ _ .startPrefill _ s
  exact (((hdrain _).trans (admit_waiting_steps _)).trans (hstart _)).tail (.callPrefill _)

theorem one_line_within :
    (calledAfter [53,32,49,55,10]).prefillCalls.map (List.map Request.tokens) = [[[5,17]]] ∧
      CallsWithin (calledAfter [53,32,49,55,10]) := by
  have hparse : parseRequest [53,32,49,55] = [5,17] := by decide +kernel
  have hline : LineWithin [53,32,49,55] := by
    unfold LineWithin
    rw [hparse]
    exact .inr (.inr ⟨by decide,by decide⟩)
  have hread : oneClient.ReadMeets (fun _ line => LineWithin line) () [53,32,49,55,10] :=
    ⟨hline,trivial⟩
  have hwithin := calls_within wholeComparison zeroForward freshDevice () true _
    ((ServerContext.Reached.start.read oneClient () _ hread).works (called_after_steps _))
    (by decide +kernel)
  exact ⟨by decide +kernel,hwithin⟩

/-- The line `50257` is taken for a prompt and handed to the model. -/
theorem one_line_outside : ¬ ∀ s, ServerContext.Reached (realKvAllocator ℤ) zeroBackend
    VocabularyAnswer (fun _ _ => True) oneClient s →
    s.scheduler.kvAllocator.device.faulted = false → CallsWithin s.scheduler := by
  intro h
  have hread : oneClient.ReadMeets (fun _ _ => True) () [53,48,50,53,55,10] :=
    ⟨trivial,trivial⟩
  have hreached := (ServerContext.Reached.start.read oneClient () _ hread).works
    (called_after_steps _)
  have hcall : (calledAfter [53,48,50,53,55,10]).prefillCalls.map prefillTokens = [[50257]] := by
    decide +kernel
  have hwithin : ∀ tokens ∈ (calledAfter [53,48,50,53,55,10]).prefillCalls.map prefillTokens,
      ∀ token ∈ tokens, InVocabulary token := by
    intro tokens ht
    obtain ⟨batch,hb,rfl⟩ := List.mem_map.mp ht
    exact ((h _ hreached (by decide +kernel)).prefill batch hb).tokens
  rw [hcall] at hwithin
  exact absurd (hwithin [50257] (by simp) 50257 (by simp)) (by decide)

end OneLine

end MiniLlm

import MiniLlm.CachedBoard
import MiniLlm.Capacity
import MiniLlm.SwapCycle

/-!
# Serving is greedy decoding

The scheduler, the block allocator and the model together, from the start of
the worker on: whatever is submitted, deferred and batched with whatever
else, each request is answered with the tokens that greedy decoding of the
model without a cache gives for its prompt, as long as no victim has been
swapped out.
-/

set_option autoImplicit false

namespace MiniLlm

open RealKvAllocator Scheduler Gpt2Weights

variable {α : Type*}

/-- `GPT2Model` as a backend that owns its buffers. Where an assertion of it fails it answers
nobody. -/
noncomputable def Gpt2Weights.backend (W : Gpt2Weights) (attend : PrefillAttention)
    (shared : FlatMemory.Memory ℝ) : InferenceBackend Buffers where
  prefill b reqs := (W.prefill attend reqs b).getD ([],b)
  decode b reqs := (W.decode shared reqs b).getD ([],b)

noncomputable def Gpt2Weights.referenceAnswers (W : Gpt2Weights) (f : RowAttention) :
    TextAnswers where
  prefill tokens n _ :=
    some (W.nextToken f n tokens,decide (W.nextToken f n tokens = gpt2EosTokenId))
  decode tokens n _ :=
    some (W.nextToken f n tokens,decide (W.nextToken f n tokens = gpt2EosTokenId))

abbrev ReachedUnswapped {A B : Type*} (kv : KvAllocator A) (be : InferenceBackend B)
    (start : Scheduler A B) : Control → Scheduler A B → Prop :=
  ReachedWhere (fun s => ¬s.SwapsOutVictim kv be) kv be PromptedRequest start

section Passes

variable {s : Scheduler (RealKvAllocator α) Buffers}

def Scheduler.elsewhere {A B : Type*} (s : Scheduler A B) (q : Place) : List Request :=
  (Place.all.erase q).flatMap s.queues

theorem requests_elsewhere {A B : Type*} (s : Scheduler A B) (q : Place) :
    s.requests.Perm (s.queues q++s.elsewhere q) :=
  (List.perm_cons_erase q.mem_all).flatMap_right s.queues

theorem mem_elsewhere {A B : Type*} {s : Scheduler A B} {p q : Place} {r : Request} (hp : p ≠ q)
    (hr : r ∈ s.queues p) : r ∈ s.elsewhere q :=
  List.mem_flatMap.mpr ⟨p,(List.mem_erase_of_ne hp).mpr p.mem_all,hr⟩

theorem Custody.batch_apart {B : Type*} {s : Scheduler (RealKvAllocator α) B}
    (h : Custody defaultTotalKvBlocks defaultTotalCpuBlocks s.board) (q : Place) :
    BlocksApart (s.queues q++s.elsewhere q) := by
  have howners := h.gpu_owners
  have hall := (requests_elsewhere s q).flatMap_right Request.blocks
  have hrange : (s.kvAllocator.blockManager.gpu.ids++
      (s.queues q++s.elsewhere q).flatMap Request.blocks).Perm
        (List.range defaultTotalKvBlocks) := by
    refine ((List.Perm.refl _).append hall.symm).trans ?_
    rw [show defaultTotalKvBlocks = s.kvAllocator.blockManager.gpu.total from h.gpuTotal.symm]
    exact howners
  refine ⟨(List.nodup_append'.mp (hrange.nodup_iff.mpr List.nodup_range)).2.1,fun p hp => ?_⟩
  exact List.mem_range.mp (hrange.mem_iff.mp (List.mem_append_right _ hp))

/-- In a batch for decoding there is room for one more token. -/
theorem Custody.token_ready {B : Type*} {s : Scheduler (RealKvAllocator α) B}
    (h : Custody defaultTotalKvBlocks defaultTotalCpuBlocks s.board) {r : Request}
    (hr : r ∈ s.queues .decodeBatch) : TokenReady r := by
  have hplaced : Placed _ r .decodeBatch :=
    h.placed (.decodeBatch,r) ((mem_held s .decodeBatch r).mpr hr)
  obtain ⟨n,htokens,hshape,_⟩ := hplaced
  refine ⟨List.ne_nil_of_length_pos (by omega),fun layer => ?_⟩
  rw [hshape.tables _ (r.cache_mem layer), hshape.cached _ (r.cache_mem layer)]
  simp only [defaultKvBlockSize]
  omega

variable {P : Place → Request → Prop} (h : BoardHolds P s.board) {r : Request}

include h

theorem BoardHolds.placed {p : Place} (hr : r ∈ s.queues p) :
    Placed (s.kvAllocator.swappedRequests.lookup r.requestId) r p :=
  h.custody.placed (p,r) ((mem_held s p r).mpr hr)

theorem BoardHolds.spoken {p : Place} (hp : p ≠ .finish) (hr : r ∈ s.queues p) : Prompted p r :=
  (h.prompted (p,r) ((mem_held s p r).mpr hr)).resolve_left hp

theorem BoardHolds.prompt_ready (hr : r ∈ s.queues .prefillBatch) :
    PromptReady r ∧ r.tokens.length = r.promptsLen := by
  obtain ⟨htokens,hshape,_⟩ := h.placed hr
  refine ⟨⟨(h.spoken (by decide) hr).prompt,htokens.ge,fun layer => ?_⟩,htokens⟩
  rw [hshape.tables _ (r.cache_mem layer), prefillNeed]
  simp only [defaultKvBlockSize]
  omega

theorem BoardHolds.token_ready (hr : r ∈ s.queues .decodeBatch) :
    TokenReady r ∧ MidSequence r := by
  obtain ⟨n,htokens,hshape,_⟩ := h.placed hr
  have hlower : r.promptsLen+1 ≤ r.tokens.length := (h.spoken (by decide) hr).lower
  refine ⟨h.custody.token_ready hr,hlower,fun layer => ?_⟩
  rw [hshape.cached _ (r.cache_mem layer), htokens]

end Passes

section Runs

variable (W : Gpt2Weights) (f : RowAttention) (attend : PrefillAttention)
  (shared : FlatMemory.Memory ℝ)

structure ServesGreedily (start s : Scheduler (RealKvAllocator α) Buffers) : Prop where
  run : TextRun (realKvAllocator α) (W.backend attend shared) (W.referenceAnswers f) start s
  board : BoardHolds (Between W f s.backend.pool) s.board

variable {W f attend shared} {start s t u : Scheduler (RealKvAllocator α) Buffers}

theorem ServesGreedily.unswapped (h : ServesGreedily W f attend shared start s) :
    s.queues .swapOut = [] := by
  apply List.eq_nil_iff_forall_not_mem.mpr
  exact fun r hr => h.board.unswapped (.swapOut,r) ((mem_held s .swapOut r).mpr hr) rfl

theorem ServesGreedily.quiet (h : ServesGreedily W f attend shared start s)
    (hstep : Step (realKvAllocator α) (W.backend attend shared) SameId PromptedRequest s t)
    (hr : t.responses = s.responses) (hb : t.backend = s.backend)
    (hs : t.queues .swapOut = []) : ServesGreedily W f attend shared start t := by
  refine ⟨h.run.tail (.quiet s t (step_widen hstep fun _ _ hreq => hreq.1) hr),?_⟩
  rw [hb]
  rcases step_hop hstep with hop | hsame
  · refine quiet_board h.board hop hr fun x hx hp => ?_
    obtain ⟨p,r⟩ := x
    obtain rfl : p = .swapOut := hp
    have hmem := (mem_held t .swapOut r).mp hx
    rw [hs] at hmem
    cases hmem
  · rw [hsame]
    exact h.board

theorem ServesGreedily.turn (h : ServesGreedily W f attend shared start s) {q : Place}
    {req : Request} (hp : s.popFront q = some (req,t)) (hq : q ≠ .swapOut)
    (hstep : Step (realKvAllocator α) (W.backend attend shared) SameId PromptedRequest s u)
    (hr : t.SameRecords u) (hb : u.backend = t.backend)
    (hs : u.queues .swapOut = t.queues .swapOut) : ServesGreedily W f attend shared start u := by
  apply h.quiet hstep (hr.responses.trans (pop_front_records hp).responses)
  · rw [hb, (pop_front_some hp).2]
    rfl
  · rw [hs, pop_front_other hp .swapOut hq.symm]
    exact h.unswapped

theorem reference_step {q ready : Place} {cache : Request → PagedKVCache → PagedKVCache}
    (hp : Serving q cache ready) {req : Request} (h : s.popFront q = some (req,t)) :
    TextStep (realKvAllocator α) (W.backend attend shared) (W.referenceAnswers f) s
      (t.respond (realKvAllocator α) cache ready (some (referenceAnswer W f req)) req) := by
  cases hp with
  | decode => exact .decode s t req h
  | prefill => exact .prefill s t req h

theorem reference_same_id (r : Request) : ∀ resp, some (referenceAnswer W f r) = some resp →
    SameId r resp :=
  fun resp hresp => answer_same_id (W.referenceAnswers f).decode r resp hresp

theorem respond_backend {q ready : Place} {cache : Request → PagedKVCache → PagedKVCache}
    {req : Request} (resp : Option Response) (h : s.popFront q = some (req,t)) :
    (t.respond (realKvAllocator α) cache ready resp req).backend = s.backend := by
  have hrespond : (t.respond (realKvAllocator α) cache ready resp req).backend = t.backend := by
    unfold respond
    dsimp only
    split <;> rfl
  rw [hrespond, (pop_front_some h).2]
  rfl

theorem answer_keeps {q ready : Place} {cache : Request → PagedKVCache → PagedKVCache}
    (hp : Serving q cache ready) {req : Request} (hpop : s.popFront q = some (req,t))
    {pool : FlatMemory.Memory ℝ} (hboard : BoardHolds (During W f pool q) s.board) :
    BoardHolds (During W f pool q) (t.respond (realKvAllocator α) cache ready
      (some (referenceAnswer W f req)) req).board := by
  obtain ⟨a',p',r',hreplied⟩ := respond_replied (realKvAllocator α) hp hpop
    (reference_same_id (W := W) (f := f) req)
  have hown : (q,req) ∈ s.board.requests := hreplied.held ▸ Multiset.mem_cons_self _ _
  have hreq : req ∈ s.queues q := (mem_held s q req).mp hown
  have hprompt : req.promptsLen ≤ req.tokens.length :=
    (Nat.le_add_right _ _).trans (hboard.spoken (by cases hp <;> decide) hreq).lower
  obtain ⟨hleft,hswap,hcached⟩ := answered_cached (hboard.placed hreq) hprompt
    ((hboard.each _ hown).1 rfl) hreplied.move
  have hmoved := hboard.move hreplied.held hreplied.move hswap
    ⟨fun he => absurd he hleft,fun _ => hcached⟩
  have hentered : entered q req = [] := by cases hp <;> rfl
  rw [hentered, List.append_nil] at hmoved
  rw [hreplied.board]
  exact hmoved

theorem answer_loop {q ready : Place} {cache : Request → PagedKVCache → PagedKVCache}
    (hp : Serving q cache ready) {pool : FlatMemory.Memory ℝ} (n : ℕ) (answers : List Response)
    (u : Scheduler (RealKvAllocator α) Buffers)
    (hrun : TextRun (realKvAllocator α) (W.backend attend shared) (W.referenceAnswers f) start u)
    (hboard : BoardHolds (During W f pool q) u.board)
    (hans : answers = (u.queues q).map (referenceAnswer W f)) :
    let v := respondLoop q (respond (realKvAllocator α) cache ready) n answers u
    TextRun (realKvAllocator α) (W.backend attend shared) (W.referenceAnswers f) start v ∧
      BoardHolds (During W f pool q) v.board ∧ v.backend = u.backend := by
  induction n generalizing answers u with
  | zero => exact ⟨hrun,hboard,rfl⟩
  | succ n ih =>
    intro v
    rcases hpop : u.popFront q with _ | ⟨req,t⟩
    · have hv : v = u := by
        show respondLoop q _ (n+1) answers u = u
        rw [respondLoop, hpop]
      rw [hv]
      exact ⟨hrun,hboard,rfl⟩
    rw [(pop_front_some hpop).1, List.map_cons] at hans
    let w := t.respond (realKvAllocator α) cache ready (some (referenceAnswer W f req)) req
    have hv : v = respondLoop q (respond (realKvAllocator α) cache ready) n
        ((t.queues q).map (referenceAnswer W f)) w := by
      show respondLoop q _ (n+1) answers u = _
      rw [respondLoop, hpop, hans]
      rfl
    have hqueue : w.queues q = t.queues q :=
      respond_only t _ cache ready _ req q (by cases hp <;> decide)
    obtain ⟨hrun',hboard',hback⟩ := ih _ w (hrun.tail (reference_step hp hpop))
      (answer_keeps hp hpop hboard) (by rw [hqueue])
    rw [hv]
    exact ⟨hrun',hboard',hback.trans (respond_backend _ hpop)⟩

/-- A pass over a batch, and the responses to it. -/
theorem ServesGreedily.serve (h : ServesGreedily W f attend shared start s) {q ready : Place}
    {cache : Request → PagedKVCache → PagedKVCache} (hp : Serving q cache ready)
    {resps : List Response} {c : Buffers}
    (hpass : ReferencePass W f (s.queues q) (s.elsewhere q) s.backend resps c)
    (hq : u.queues = s.queues) (hb : u.board = s.board) (hc : u.backend = c)
    (hrun : TextRun (realKvAllocator α) (W.backend attend shared) (W.referenceAnswers f) start u) :
    ServesGreedily W f attend shared start
      (respondLoop q (respond (realKvAllocator α) cache ready) (s.queues q).length resps u) := by
  have hduring : BoardHolds (During W f c.pool q) u.board := by
    rw [hb]
    refine h.board.mono fun x hx hbetween => ?_
    obtain ⟨p,r⟩ := x
    have hr := (mem_held s p r).mp hx
    constructor
    · rintro rfl layer
      exact hpass.caches r hr layer
    · exact fun hne hresident layer =>
        (hpass.others r (mem_elsewhere hne hr)).caches (hbetween hresident layer)
  have hresps : resps = (u.queues q).map (referenceAnswer W f) := by
    rw [hq]
    exact hpass.answers
  obtain ⟨hrun',hboard,hback⟩ := answer_loop hp (s.queues q).length resps u hrun hduring hresps
  have hempty := respond_loop_empties (realKvAllocator α) q ready cache
    (by cases hp <;> decide) (by cases hp <;> decide) (s.queues q).length resps u (by rw [hq])
  refine ⟨hrun',?_⟩
  rw [hback, hc]
  refine hboard.mono fun x hx hx' => hx'.2 fun he => ?_
  obtain ⟨p,r⟩ := x
  obtain rfl : p = q := he
  have hmem := (mem_held _ p r).mp hx
  rw [hempty] at hmem
  cases hmem

theorem ServesGreedily.serve_prefill (hattend : AttendsRows attend f)
    (h : ServesGreedily W f attend shared start s) :
    ServesGreedily W f attend shared start
      (s.servePrefill (realKvAllocator α) (W.backend attend shared)) := by
  obtain ⟨resps,c,hpass,hresult⟩ := prefill_pass W hattend
    (h.board.custody.batch_apart .prefillBatch) (fun _ hr => h.board.prompt_ready hr) s.backend
  have hcall : (W.backend attend shared).prefill s.backend (s.queues .prefillBatch) =
      (resps,c) := by
    show (W.prefill attend _ _).getD _ = _
    rw [hpass]
    rfl
  have hloop := h.serve .prefill hresult
    (u := (s.callPrefill (W.backend attend shared)).2) rfl rfl (by rw [callPrefill, hcall])
    (h.run.tail (.quiet s _ (.callPrefill s) rfl))
  rw [servePrefill]
  show ServesGreedily W f attend shared start (respondLoop _ _ _ (Prod.fst _) _)
  rw [show (s.callPrefill (W.backend attend shared)).1 = resps from congrArg Prod.fst hcall]
  exact hloop

theorem ServesGreedily.serve_decode (h : ServesGreedily W f attend shared start s) :
    ServesGreedily W f attend shared start
      (s.serveDecode (realKvAllocator α) (W.backend attend shared)) := by
  obtain ⟨resps,c,hpass,hresult⟩ := decode_pass W
    (h.board.custody.batch_apart .decodeBatch) (fun _ hr => h.board.token_ready hr) shared
    s.backend fun r hr => h.board.each (.decodeBatch,r) ((mem_held s _ r).mpr hr) trivial
  have hcall : (W.backend attend shared).decode s.backend (s.queues .decodeBatch) =
      (resps,c) := by
    show (W.decode shared _ _).getD _ = _
    rw [hpass]
    rfl
  have hloop := h.serve .decode hresult
    (u := (s.callDecode (W.backend attend shared)).2) rfl rfl (by rw [callDecode, hcall])
    (h.run.tail (.quiet s _ (.callDecode s) rfl))
  rw [serveDecode]
  show ServesGreedily W f attend shared start (respondLoop _ _ _ (Prod.fst _) _)
  rw [show (s.callDecode (W.backend attend shared)).1 = resps from congrArg Prod.fst hcall]
  exact hloop

theorem greedy_turns (hattend : AttendsRows attend f)
    (start : Scheduler (RealKvAllocator α) Buffers) :
    PhaseTurns (realKvAllocator α) (W.backend attend shared) fun s t =>
      ServesGreedily W f attend shared start s → ServesGreedily W f attend shared start t where
  swapIn s t req hp h := by
    have hq := (pop_front_some hp).1
    rw [h.unswapped] at hq
    cases hq
  retryDecode s t req hp h := h.turn hp (by decide) (.retryDecode s t req hp)
    ⟨⟨rfl,rfl,rfl,rfl⟩,rfl,rfl⟩ rfl (push_back_only t .decode _ [.decode] (by simp) _ (by simp))
  admitDecode s t req hp h := by
    apply h.turn hp (by decide) (.admitDecode s t req hp) (admit_decode_turn_records _ t req)
    · unfold admitDecodeTurn
      dsimp only
      split <;> rfl
    · exact t.admit_decode_turn_only _ req .swapOut (by simp)
  flush s t req hp h := h.turn hp (by decide) (.flush s t req hp) ⟨⟨rfl,rfl,rfl,rfl⟩,rfl,rfl⟩ rfl
    (push_back_only t .decode _ [.decode] (by simp) _ (by simp))
  retryPrefill s t req hp h := by
    apply h.turn hp (by decide) (.retryPrefill s t req hp) (retry_prefill_turn_records _ t req)
    · unfold retryPrefillTurn
      dsimp only
      split <;> rfl
    · exact t.retry_prefill_turn_only _ req .swapOut (by simp)
  admitWaiting s t req hp h := by
    apply h.turn hp (by decide) (.admitWaiting s t req hp) (admit_waiting_turn_records _ t req)
    · unfold admitWaitingTurn
      dsimp only
      split <;> rfl
    · exact t.admit_waiting_turn_only _ req .swapOut (by simp)
  startPrefill s t req hp h := h.turn hp (by decide) (.startPrefill s t req hp)
    ⟨⟨rfl,rfl,rfl,rfl⟩,rfl,rfl⟩ rfl
    (push_back_only t .prefillBatch _ [.prefillBatch] (by simp) _ (by simp))
  enter s h := h.quiet (.control s _ ⟨rfl,rfl,rfl,rfl,rfl,rfl⟩) rfl rfl h.unswapped
  leave s h := by
    have hsame := notify_same s
    apply h.quiet (.control s _ hsame) hsame.responses
    · unfold notify
      split <;> rfl
    · rw [hsame.queues]
      exact h.unswapped
  serveDecode s := .single fun h => h.serve_decode
  servePrefill s := .single fun h => h.serve_prefill hattend

theorem kept_along {P : Scheduler (RealKvAllocator α) Buffers → Prop}
    (h : Relation.ReflTransGen (fun s t => P s → P t) s t) (hs : P s) : P t := by
  induction h with
  | refl => exact hs
  | tail _ hstep ih => exact hstep ih

theorem ServesGreedily.phases (hattend : AttendsRows attend f)
    (h : ServesGreedily W f attend shared start s) : ServesGreedily W f attend shared start
      (s.runPhases (realKvAllocator α) (W.backend attend shared)).2 := by
  apply kept_along ((greedy_turns hattend start).run_phases s _) h
  unfold drainUnlessPaused
  split
  · exact .refl
  · exact for_front_run _ _ (fun s t req hp h => h.turn hp (by decide) (.enqueue s t req hp)
      (enqueue_records t req) rfl
      (push_back_only _ .waitingPrefill _ [.waitingPrefill] (by simp) _ (by simp))) _ s

theorem ServesGreedily.no_victim (h : ServesGreedily W f attend shared start s)
    (hdecode : s.queues .decode = [])
    (hnone : (s.tryFrom (realKvAllocator α) .deferredDecode).1 = false) :
    ServesGreedily W f attend shared start
      (s.tryFrom (realKvAllocator α) .deferredDecode).2 := by
  have hrecords := try_from_records (realKvAllocator α) s .deferredDecode
  unfold tryFrom at hnone hrecords ⊢
  rcases hv : findVictim (realKvAllocator α) s.kvAllocator (s.queues .deferredDecode) with
    _ | ⟨before,req,after⟩
  · exact h
  rw [hv] at hnone hrecords
  obtain ⟨hq,hgpu,hswapped⟩ := find_victim_some _ _ _ _ _ hv
  apply h.quiet (.victim s before after req hdecode hq hgpu hswapped trivial) hrecords.responses
  all_goals
    unfold swapOutVictim at hnone ⊢
    dsimp only at hnone ⊢
    split at hnone
  · cases hnone
  · rw [if_neg ‹_›]
    rfl
  · cases hnone
  · rw [if_neg ‹_›, push_back_queues, if_neg (by decide), with_allocator_queues,
      set_queue_queues, if_neg (by decide)]
    exact h.unswapped

/-- A body that swaps out no victim. -/
theorem ServesGreedily.body (hattend : AttendsRows attend f)
    (h : ServesGreedily W f attend shared start s) (hsettled : s.Settled)
    (hvictim : ¬s.SwapsOutVictim (realKvAllocator α) (W.backend attend shared)) :
    ServesGreedily W f attend shared start
      (s.workerLoopBody (realKvAllocator α) (W.backend attend shared)) := by
  have hphases := h.phases hattend
  have hresume (t : Scheduler (RealKvAllocator α) Buffers)
      (ht : ServesGreedily W f attend shared start t) :
      ServesGreedily W f attend shared start t.resumeAdmission := by
    unfold resumeAdmission
    split
    · exact ht.quiet (.control t _ ⟨rfl,rfl,rfl,rfl,rfl,rfl⟩) rfl rfl ht.unswapped
    · exact ht
  unfold workerLoopBody
  apply hresume
  split
  · rename_i hidle
    rw [Bool.and_eq_true, Bool.not_eq_true', Bool.not_eq_true'] at hidle
    have hdecode := run_phases_quiet _ _ s hsettled hidle.1
    have hfirst := try_swap_out_first (realKvAllocator α) hdecode
    rw [hfirst]
    apply hphases.no_victim hdecode
    rw [← hfirst, ← Bool.not_eq_true]
    exact fun hfound => hvictim ⟨hidle.1,hidle.2,hfound⟩
  · exact hphases

theorem reached_greedily (hattend : AttendsRows attend f) (device : Device α) (b : Buffers)
    (async : Bool) {c : Control} (h : ReachedUnswapped (realKvAllocator α)
      (W.backend attend shared) (startedReal device b async) c s) :
    s.Settled ∧ ServesGreedily W f attend shared (startedReal device b async) s := by
  induction h with
  | start =>
    refine ⟨started_settled _ b async,.refl,started_custody device b async,?_,?_,?_⟩
    all_goals exact fun x hx => absurd hx (Multiset.notMem_zero x)
  | submit c s req _ ha ih =>
    refine ⟨submit_settled s req ih.1,ih.2.quiet (.submit s req ha) rfl rfl ?_⟩
    exact (push_back_only s .request req [.request] (by simp) _ (by simp)).trans ih.2.unswapped
  | stop c s _ ih =>
    exact ⟨⟨ih.1.prefill,ih.1.cancel,ih.1.decodeBatch,ih.1.nextDecode,ih.1.prefillBatch⟩,
      ih.2.quiet (.control s _ ⟨rfl,rfl,rfl,rfl,rfl,rfl⟩) rfl rfl ih.2.unswapped⟩
  | body s _ _ hv _ ih | idle s _ _ hv _ ih =>
    exact ⟨body_settled _ _ s ih.1,ih.2.body hattend ih.1 hv⟩
  | wake s t _ hw ih =>
    refine ⟨wait_settled s t hw ih.1,?_⟩
    unfold waitAndEnqueueOneRequest at hw
    split at hw
    · rename_i req u hp
      obtain rfl := Option.some.inj hw
      exact ih.2.turn hp (by decide) (.enqueue s u req hp) (enqueue_records u req) rfl
        (push_back_only _ .waitingPrefill _ [.waitingPrefill] (by simp) _ (by simp))
    · split at hw
      · obtain rfl := Option.some.inj hw
        exact ih.2.quiet (.control s _ ⟨rfl,rfl,rfl,rfl,rfl,rfl⟩) rfl rfl ih.2.unswapped
      · cases hw

end Runs

section Outputs

variable {W : Gpt2Weights} {f : RowAttention} {prompt : List ℤ} {maxNewTokens : ℤ}

theorem next_output_reference (said : List (ℤ × Bool)) :
    nextOutput (W.referenceAnswers f) prompt maxNewTokens said =
      let token := W.nextToken f prompt.length (prompt++said.map Prod.fst)
      ((token : ℤ),decide (token = gpt2EosTokenId) ||
        decide (maxNewTokens ≤ (said.length : ℤ)+1)) := by
  unfold nextOutput
  split <;> rfl

theorem determined_greedy {outputs : List (ℤ × Bool)}
    (h : DeterminedBy (nextOutput (W.referenceAnswers f) prompt maxNewTokens) outputs) (k : ℕ)
    (hk : k ≤ outputs.length) :
    (outputs.take k).map Prod.fst = W.greedyTokens f prompt k := by
  induction k with
  | zero => rfl
  | succ k ih =>
    have hnext := h k outputs[k] (List.getElem?_eq_getElem hk)
    rw [next_output_reference] at hnext
    rw [List.take_succ_eq_append_getElem hk, List.map_append, ih (Nat.le_of_succ_le hk),
      List.map_singleton, hnext, ih (Nat.le_of_succ_le hk)]
    rfl

theorem determined_flag {outputs : List (ℤ × Bool)}
    (h : DeterminedBy (nextOutput (W.referenceAnswers f) prompt maxNewTokens) outputs) {i : ℕ}
    {x : ℤ × Bool} (hi : outputs[i]? = some x) :
    x.2 = true ↔ x.1 = gpt2EosTokenId ∨ maxNewTokens ≤ i+1 := by
  have hlt := (List.getElem?_eq_some_iff.mp hi).1
  have hnext := h i x hi
  rw [next_output_reference] at hnext
  rw [hnext, List.length_take_of_le hlt.le, Bool.or_eq_true, decide_eq_true_iff,
    decide_eq_true_iff, Nat.cast_inj]

end Outputs

/-- The outputs of a request: greedy decoding of its prompt, as far as it has got. -/
structure GreedyOutputs (W : Gpt2Weights) (f : RowAttention) (p : Place) (r : Request)
    (outputs : List (ℤ × Bool)) : Prop where
  tokens : outputs.map Prod.fst = W.greedyTokens f r.prompt outputs.length
  flags : ∀ (i : ℕ) x, outputs[i]? = some x →
    (x.2 = true ↔ x.1 = gpt2EosTokenId ∨ r.maxNewTokens ≤ i+1)
  earlier : ∀ x ∈ outputs.dropLast, x.2 = false
  complete : (∃ x ∈ outputs.getLast?, x.2 = true) ↔ p = .finish

theorem ServesGreedily.outputs {W : Gpt2Weights} {f : RowAttention} {attend : PrefillAttention}
    {shared : FlatMemory.Memory ℝ} {device : Device α} {b : Buffers} {async : Bool}
    {s : Scheduler (RealKvAllocator α) Buffers}
    (h : ServesGreedily W f attend shared (startedReal device b async) s) {p : Place}
    {r : Request} (hr : r ∈ s.queues p) :
    GreedyOutputs W f p r (outputsOf s.responses r.requestId) := by
  have hinv := text_run_inv h.run
  have hmem : (p,r) ∈ s.board.requests := (mem_held s p r).mpr hr
  have hdetermined := (hinv.spelled _ hmem).determined
  have hstream := hinv.stream.streams _ hmem
  have htokens := determined_greedy hdetermined _ le_rfl
  rw [List.take_length] at htokens
  exact ⟨htokens,fun i x hi => determined_flag hdetermined hi,hstream.outputs_earlier,
    hstream.outputs_last⟩

/-- In every state between two bodies, each request has been answered with the tokens of greedy
decoding, whatever was submitted, batched and deferred with it. -/
theorem serving_is_greedy (W : Gpt2Weights) {attend : PrefillAttention} {f : RowAttention}
    (hattend : AttendsRows attend f) (shared : FlatMemory.Memory ℝ) (device : Device α)
    (b : Buffers) (async : Bool) {c : Control} {s : Scheduler (RealKvAllocator α) Buffers}
    (h : ReachedUnswapped (realKvAllocator α) (W.backend attend shared)
      (startedReal device b async) c s) (p : Place) (r : Request) (hr : r ∈ s.queues p) :
    GreedyOutputs W f p r (outputsOf s.responses r.requestId) :=
  (reached_greedily hattend device b async h).2.outputs hr

section Witness

noncomputable def copyModel : InferenceBackend Buffers :=
  copyWeights.backend FlashAttention.promptLaunch fun _ => 0

noncomputable def promptSubmitted : Scheduler (RealKvAllocator ℤ) Buffers :=
  (startedReal freshDevice zeroBuffers true).submitRequest (Request.new 1 [5] 8)

theorem prompt_submitted_reached : ReachedUnswapped (realKvAllocator ℤ) copyModel
    (startedReal freshDevice zeroBuffers true) .top promptSubmitted :=
  .submit _ _ _ .start ⟨⟨⟨1,[5],8,rfl⟩,fun _ ⟨_,hr⟩ => absurd hr List.not_mem_nil⟩,by decide⟩

theorem prompt_progresses :
    (promptSubmitted.runPhases (realKvAllocator ℤ) copyModel).1 = true := by
  decide +kernel

theorem prompt_served_greedily : ∃ p, ∃ r ∈ (promptSubmitted.workerLoopBody (realKvAllocator ℤ)
    copyModel).queues p, GreedyOutputs copyWeights FlashAttention.launchedRows p r
      (outputsOf (promptSubmitted.workerLoopBody (realKvAllocator ℤ) copyModel).responses
        r.requestId) := by
  have hvictim : ¬promptSubmitted.SwapsOutVictim (realKvAllocator ℤ) copyModel := by
    rintro ⟨hquiet,_⟩
    rw [prompt_progresses] at hquiet
    cases hquiet
  have hreached : ∃ c, ReachedUnswapped (realKvAllocator ℤ) copyModel
      (startedReal freshDevice zeroBuffers true) c
      (promptSubmitted.workerLoopBody (realKvAllocator ℤ) copyModel) := by
    cases hw : (promptSubmitted.workerLoopBody (realKvAllocator ℤ) copyModel).noInternalWork with
    | true => exact ⟨_,.idle _ prompt_submitted_reached rfl hvictim hw⟩
    | false => exact ⟨_,.body _ prompt_submitted_reached rfl hvictim hw⟩
  obtain ⟨c,hc⟩ := hreached
  have hsteps : Steps (realKvAllocator ℤ) copyModel Anything NoRequest promptSubmitted _ :=
    body_steps (answers_anything copyModel) promptSubmitted
      (submit_settled _ _ (started_settled _ zeroBuffers true))
  have hheld : (Place.request,Request.new 1 [5] 8) ∈ promptSubmitted.board.requests :=
    (mem_held _ _ _).mpr (List.mem_singleton.mpr rfl)
  obtain ⟨⟨p,r⟩,hx,_⟩ := steps_asked hsteps ⟨_,hheld,.refl _⟩
  exact ⟨p,r,(mem_held _ p r).mp hx,serving_is_greedy copyWeights FlashAttention.prompt_launch_rows
    (fun _ => 0) freshDevice zeroBuffers true hc p r ((mem_held _ p r).mp hx)⟩

end Witness

end MiniLlm

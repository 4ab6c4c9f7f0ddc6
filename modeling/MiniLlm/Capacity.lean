import MiniLlm.Serviceable

/-!
# Requests that the pool has room for

A request never has more blocks than its prompt and the tokens it may still
get fill. While the sum of these demands over the unfinished requests stays
within the pool every allocation is granted, so nobody is deferred and nobody
is swapped out.
-/

set_option autoImplicit false

namespace MiniLlm

open RealKvAllocator Scheduler

variable {α A B : Type*}

/-- The most tokens a request is answered with: as many as it asks for, and one at least. -/
def Request.limit (r : Request) : ℕ := (max r.maxNewTokens 1).toNat

def Request.left (r : Request) : ℕ := r.promptsLen+r.limit-r.tokens.length

/-- The blocks of all layers for its prompt and every token but the last. -/
def Request.demand (r : Request) : ℕ := prefillNeed (r.promptsLen+r.limit-1)*gpt2NLayers

def demanded : Place × Request → ℕ
  | (.finish,_) => 0
  | (_,r) => r.demand

def Scheduler.demand (s : Scheduler A B) : ℕ := (s.held.map demanded).sum

structure SameAsk (r r' : Request) : Prop where
  requestId : r'.requestId = r.requestId
  promptsLen : r'.promptsLen = r.promptsLen
  maxNewTokens : r'.maxNewTokens = r.maxNewTokens
  tokens : r.tokens <+: r'.tokens

section Asks

variable {r q o : Request}

theorem SameAsk.refl (r : Request) : SameAsk r r := ⟨rfl,rfl,rfl,List.prefix_rfl⟩

theorem SameAsk.trans (h : SameAsk r q) (k : SameAsk q o) : SameAsk r o :=
  ⟨k.requestId.trans h.requestId,k.promptsLen.trans h.promptsLen,
    k.maxNewTokens.trans h.maxNewTokens,h.tokens.trans k.tokens⟩

theorem Request.SameText.ask (h : r.SameText q) : SameAsk r q :=
  ⟨h.requestId,h.promptsLen,h.maxNewTokens,h.tokens ▸ List.prefix_rfl⟩

theorem served_ask (cache : Request → PagedKVCache → PagedKVCache) (answer : Option Response)
    (r : Request) : SameAsk r (servedRequest cache answer r) :=
  ⟨rfl,rfl,rfl,List.prefix_append _ _⟩

theorem SameAsk.limit (h : SameAsk r q) : q.limit = r.limit := by
  rw [Request.limit, Request.limit, h.maxNewTokens]

theorem SameAsk.demand (h : SameAsk r q) : q.demand = r.demand := by
  rw [Request.demand, Request.demand, h.limit, h.promptsLen]

theorem SameAsk.demanded {p : Place} (h : SameAsk r q) : demanded (p,q) = demanded (p,r) := by
  cases p <;> first | rfl | exact h.demand

theorem demanded_open {p : Place} (hp : p ≠ .finish) : demanded (p,r) = r.demand := by
  cases p <;> first | rfl | exact absurd rfl hp

theorem limit_pos (r : Request) : 0 < r.limit := by
  unfold Request.limit
  omega

theorem same_text_left (h : r.SameText q) : q.left = r.left := by
  rw [Request.left, Request.left, h.ask.limit, h.promptsLen, h.tokens]

theorem served_left (cache : Request → PagedKVCache → PagedKVCache) (answer : Option Response)
    (hr : 0 < r.left) : (servedRequest cache answer r).left+1 = r.left := by
  have hask := (served_ask cache answer r).limit
  unfold Request.left at hr ⊢
  rw [hask, (served_fields cache answer).1, (served_fields cache answer).2.1, List.length_append,
    List.length_singleton]
  omega

theorem unfinished_left {cache : Request → PagedKVCache → PagedKVCache}
    {answer : Option Response} (hf : (pushedResponse cache answer r).finished = false) :
    0 < (servedRequest cache answer r).left := by
  obtain ⟨_,hroom⟩ := unfinished_room hf
  have hask := (served_ask cache answer r).limit
  unfold Request.left
  rw [hask, (served_fields cache answer).1, (served_fields cache answer).2.1, List.length_append,
    List.length_singleton, Request.limit]
  omega

theorem move_ask {kv : KvAllocator A} {allowed : Request → Response → Prop} {a a' : A}
    {p p' : Place} {resps : List Response} (m : Move kv allowed a p r a' p' q resps) :
    p ≠ .finish ∧ SameAsk r q := by
  have hsame (state : RequestState) {o : Request} (h : r.SameText o) :
      SameAsk r (o.withState state) := h.ask.trans ⟨rfl,rfl,rfl,List.prefix_rfl⟩
  cases m with
  | enqueued | flushed => exact ⟨by decide,.refl r⟩
  | decodeRetried | prefillStarted => exact ⟨by decide,hsame _ (.refl r)⟩
  | prefillGranted _ _ hp =>
    refine ⟨?_,hsame _ (kv.prefill_text a r)⟩
    rcases hp with rfl | rfl <;> decide
  | prefillRefused => exact ⟨by decide,hsame _ (kv.prefill_text a r)⟩
  | prefillRefusedAgain => exact ⟨by decide,(kv.prefill_text a r).ask⟩
  | swappedIn | swapInRefused => exact ⟨by decide,hsame _ (kv.in_text a r)⟩
  | decodeGranted | decodeRefused => exact ⟨by decide,hsame _ (kv.decode_text a r)⟩
  | victimOut | victimKept => exact ⟨by decide,hsame _ (kv.out_text a r)⟩
  | served _ _ cache _ answer hp =>
    refine ⟨by cases hp <;> decide,(served_ask cache answer r).trans ?_⟩
    exact ⟨rfl,rfl,rfl,List.prefix_rfl⟩
  | closed _ _ cache _ answer hp =>
    refine ⟨by cases hp <;> decide,(served_ask cache answer r).trans ?_⟩
    exact ((kv.free_text a _).ask).trans ⟨rfl,rfl,rfl,List.prefix_rfl⟩

end Asks

theorem prefill_need_mono {m n : ℕ} (h : m ≤ n) : prefillNeed m ≤ prefillNeed n := by
  unfold prefillNeed
  exact Nat.div_le_div_right (by omega)

section Room

variable {b c : Board (RealKvAllocator α)} {entry : Option SwappedRequest} {p : Place}
  {r : Request}

/-- A request that is placed and may get another token has no more blocks than its demand. -/
theorem placed_within (h : Placed entry r p) (hleft : p ≠ .finish → 0 < r.left) :
    r.blocks.length ≤ demanded (p,r) := by
  have hdemand {n : ℕ} {residency : KvCacheResidency} {state : RequestState} {tokens : ℕ}
      (hshape : Shaped r residency state (prefillNeed n) tokens) (hp : p ≠ .finish)
      (hn : n+1 ≤ r.promptsLen+r.limit) : r.blocks.length ≤ demanded (p,r) := by
    rw [blocks_length r _ hshape.tables, demanded_open hp, Request.demand]
    exact Nat.mul_le_mul_right _ (prefill_need_mono (Nat.le_sub_of_add_le hn))
  have hempty {residency : KvCacheResidency} {state : RequestState} {tokens : ℕ}
      (hshape : Shaped r residency state 0 tokens) : r.blocks.length ≤ demanded (p,r) := by
    rw [hshape.blocks_empty]
    exact Nat.zero_le _
  have hlimit := limit_pos r
  unfold Request.left at hleft
  cases p with
  | request | waitingPrefill | deferredPrefill => exact hempty h.2.1
  | prefill | prefillBatch => exact hdemand h.2.1 (by decide) (by omega)
  | decode | nextDecode =>
    obtain ⟨n,htokens,hshape,_⟩ := h
    have hopen := hleft (by decide)
    exact hdemand hshape (by decide) (by omega)
  | deferredDecode =>
    obtain ⟨n,_,htokens,hshape,_⟩ := h
    have hopen := hleft (by decide)
    exact hdemand hshape (by decide) (by omega)
  | decodeBatch =>
    obtain ⟨n,htokens,hshape,_⟩ := h
    have hopen := hleft (by decide)
    dsimp only at hshape
    rw [← need_next] at hshape
    exact hdemand hshape (by decide) (by omega)
  | swapOut =>
    obtain ⟨_,_,_,hshape,_⟩ := h
    exact hempty hshape
  | finish => exact hempty h.1
  | cancel => exact h.elim

/-- The places of requests that have not been refused blocks. -/
def Place.Calm (p : Place) : Prop := p ∉ [.deferredPrefill,.deferredDecode,.swapOut]

instance (p : Place) : Decidable p.Calm := inferInstanceAs (Decidable (p ∉ _))

structure Roomy (b : Board (RealKvAllocator α)) : Prop where
  custody : Custody defaultTotalKvBlocks defaultTotalCpuBlocks b
  room : (b.requests.map demanded).sum ≤ defaultTotalKvBlocks
  calm : ∀ x ∈ b.requests, x.1.Calm
  unfinished : ∀ x ∈ b.requests, x.1 ≠ .finish → 0 < x.2.left

variable {rest : Multiset (Place × Request)}

theorem Roomy.covers (h : Roomy b) (hb : b.requests = (p,r) ::ₘ rest) :
    demanded (p,r) ≤ b.kvAllocator.blockManager.gpu.ids.length+r.blocks.length := by
  have htables : (tables rest).card ≤ (rest.map demanded).sum := by
    rw [tables, Multiset.card_bind]
    apply Multiset.sum_map_le_sum_map
    intro x hx
    have hm : x ∈ b.requests := hb ▸ Multiset.mem_cons_of_mem hx
    exact placed_within (h.custody.placed x hm) (h.unfinished x hm)
  have hgpu := congrArg Multiset.card h.custody.gpu
  have hroom := h.room
  rw [hb, tables_cons, Multiset.card_add, Multiset.card_add, Multiset.coe_card, Multiset.coe_card,
    Multiset.card_range] at hgpu
  rw [hb, Multiset.map_cons, Multiset.sum_cons] at hroom
  dsimp only at hgpu
  omega

theorem Roomy.prefill_granted (h : Roomy b) (hb : b.requests = (p,r) ::ₘ rest)
    (hp : p = .waitingPrefill ∨ p = .deferredPrefill) :
    (b.kvAllocator.allocatePrefill r).ok = true := by
  have hcovers := h.covers hb
  have hplaced := h.custody.placed (p,r) (hb ▸ Multiset.mem_cons_self _ _)
  have hempty : r.blocks = [] := by
    rcases hp with rfl | rfl <;> exact hplaced.2.1.blocks_empty
  rw [hempty, demanded_open (by rcases hp with rfl | rfl <;> decide)] at hcovers
  have hlimit := limit_pos r
  apply (allocate_ok_iff _ r _).mpr
  refine le_trans (Nat.mul_le_mul_right _ (prefill_need_mono ?_)) hcovers
  omega

theorem Roomy.decode_granted (h : Roomy b) (hb : b.requests = (.decode,r) ::ₘ rest) :
    (b.kvAllocator.allocateDecode r).ok = true := by
  have hcovers := h.covers hb
  have hm : (.decode,r) ∈ b.requests := hb ▸ Multiset.mem_cons_self _ _
  have hplaced : Placed _ r .decode := h.custody.placed (.decode,r) hm
  obtain ⟨n,htokens,hshape,_⟩ := hplaced
  have hopen : 0 < r.left := h.unfinished (.decode,r) hm nofun
  unfold Request.left at hopen
  have hneed : prefillNeed n+decodeNeed n ≤ prefillNeed (r.promptsLen+r.limit-1) := by
    rw [need_decode, ← need_next]
    exact prefill_need_mono (by omega)
  rw [demanded_open (by decide), blocks_length r _ hshape.tables, Request.demand] at hcovers
  have hrows := Nat.mul_le_mul_right gpt2NLayers hneed
  rw [Nat.add_mul] at hrows
  apply (allocate_ok_iff _ r _).mpr
  rw [hshape.layer0.2]
  omega

theorem move_roomy {a : RealKvAllocator α} {q : Place} {r' : Request} {resps : List Response}
    {allowed : Request → Response → Prop} (h : Roomy b) (hb : b.requests = (p,r) ::ₘ rest)
    (m : Move (realKvAllocator α) allowed b.kvAllocator p r a q r' resps) :
    Roomy ⟨a,(q,r') ::ₘ rest,b.responses++resps,b.popped++entered p r⟩ := by
  have hown : (p,r) ∈ b.requests := hb ▸ Multiset.mem_cons_self _ _
  have hrest (x : Place × Request) (hx : x ∈ rest) : x ∈ b.requests :=
    hb ▸ Multiset.mem_cons_of_mem hx
  obtain ⟨hp,hask⟩ := move_ask m
  refine ⟨move_custody h.custody hb m,?_,fun x hx => ?_,fun x hx hq => ?_⟩
  · have hless : demanded (q,r') ≤ demanded (p,r) := by
      by_cases hq : q = .finish
      · subst hq
        exact Nat.zero_le _
      · rw [demanded_open hq, demanded_open hp, hask.demand]
    have hroom := h.room
    rw [hb, Multiset.map_cons, Multiset.sum_cons] at hroom
    rw [Multiset.map_cons, Multiset.sum_cons]
    omega
  · rcases Multiset.mem_cons.mp hx with rfl | hx
    · have hcalm : p.Calm := h.calm _ hown
      show q.Calm
      cases m with
      | prefillRefused _ hok =>
        have hgranted := h.prefill_granted hb (.inl rfl)
        exact absurd (hok.symm.trans hgranted) (by decide)
      | decodeRefused _ hok =>
        exact absurd (hok.symm.trans (h.decode_granted hb)) (by decide)
      | prefillRefusedAgain | swapInRefused | victimOut | victimKept =>
        exact absurd hcalm (by decide)
      | served _ _ _ _ _ hp => cases hp <;> decide
      | _ => decide
    · exact h.calm x (hrest x hx)
  · rcases Multiset.mem_cons.mp hx with rfl | hx
    · rcases move_text m with hfinish | ⟨htext,_⟩ | ⟨cache,answer,_,_,hf,_,rfl⟩
      · exact absurd hfinish hq
      · dsimp only
        rw [same_text_left htext]
        exact h.unfinished _ hown hp
      · have hopen : 0 < (servedRequest cache answer r).left := unfinished_left hf
        exact hopen
    · exact h.unfinished x (hrest x hx) hq

structure RoomFor {B : Type*} (s : Scheduler (RealKvAllocator α) B) (req : Request) : Prop where
  fresh : NewRequest s.Holds req
  room : s.demand+req.demand ≤ defaultTotalKvBlocks

theorem submit_roomy {B : Type*} {s : Scheduler (RealKvAllocator α) B} {req : Request}
    (h : Roomy s.board) (hreq : RoomFor s req) : Roomy (s.submitRequest req).board := by
  rw [submit_board]
  have hfresh : NewRequest s.board.Holds req := by
    rw [board_holds]
    exact hreq.fresh
  refine ⟨submit_custody h.custody hfresh,?_,fun x hx => ?_,fun x hx hq => ?_⟩
  · have hroom := hreq.room
    rw [Multiset.map_cons, Multiset.sum_cons, add_comm]
    exact hroom
  · rcases Multiset.mem_cons.mp (show x ∈ (.request,req) ::ₘ s.board.requests from hx) with rfl | hx
    · show Place.request.Calm
      decide
    · exact h.calm x hx
  · rcases Multiset.mem_cons.mp (show x ∈ (.request,req) ::ₘ s.board.requests from hx) with rfl | hx
    · obtain ⟨reqId,t,maxTokens,rfl⟩ := hreq.fresh.1
      have hlimit := limit_pos (Request.new reqId t maxTokens)
      show 0 < t.length+(Request.new reqId t maxTokens).limit-t.length
      omega
    · exact h.unfinished x hx hq

def NoRequest (_ : Request → Prop) (_ : Request) : Prop := False

theorem hop_roomy {allowed : Request → Response → Prop} (h : Roomy b)
    (hop : Hop (realKvAllocator α) allowed NoRequest b c) : Roomy c := by
  cases hop with
  | submit _ hreq => exact hreq.elim
  | move a p q r r' resps rest hb m => exact move_roomy h hb m

end Room

section Asked

variable {b c : Board A} {r : Request}

def Board.Asked (b : Board A) (r : Request) : Prop := ∃ x ∈ b.requests, SameAsk r x.2

theorem hop_asked {kv : KvAllocator A} {allowed : Request → Response → Prop}
    {admissible : (Request → Prop) → Request → Prop} (h : b.Asked r)
    (hop : Hop kv allowed admissible b c) : c.Asked r := by
  obtain ⟨x,hx,hask⟩ := h
  cases hop with
  | submit req => exact ⟨x,Multiset.mem_cons_of_mem hx,hask⟩
  | move a p q o o' resps rest hb m =>
    rw [hb] at hx
    rcases Multiset.mem_cons.mp hx with rfl | hx
    · exact ⟨_,Multiset.mem_cons_self _ _,hask.trans (move_ask m).2⟩
    · exact ⟨x,Multiset.mem_cons_of_mem hx,hask⟩

theorem steps_asked {kv : KvAllocator A} {be : InferenceBackend B}
    {allowed : Request → Response → Prop} {admissible : (Request → Prop) → Request → Prop}
    {s t : Scheduler A B} (h : Steps kv be allowed admissible s t) (hs : s.board.Asked r) :
    t.board.Asked r :=
  visited_board (fun b => b.Asked r) (fun _ _ => hop_asked) h hs

end Asked

end MiniLlm

import MiniLlm.DecodeReference
import MiniLlm.ExclusiveBlocks
import MiniLlm.OutputRuns
import MiniLlm.PagedCache
import MiniLlm.VictimRoom

/-!
# What the pool holds for each request

While nobody is swapped out the allocator never touches the pool, so what it
holds for a request is changed by the forward passes only. A move that
answers nobody keeps the cached rows; an answer makes one row more, which the
pass has cached.
-/

set_option autoImplicit false

namespace MiniLlm

open RealKvAllocator Scheduler Gpt2Weights

variable {α : Type*}

def Resident : Place → Prop
  | .decode | .nextDecode | .decodeBatch | .deferredDecode => True
  | _ => False

section Rows

variable (W : Gpt2Weights) (f : RowAttention)

/-- The pool holds as many rows of the reference for a request as its caches count. -/
def CachedSoFar (pool : FlatMemory.Memory ℝ) (r : Request) : Prop :=
  ∀ layer, CachesRows pool (r.cache layer) (W.qkvRows f r.promptsLen r.tokens layer)
    (r.cache layer).numTokens

def CachedWhole (pool : FlatMemory.Memory ℝ) (r : Request) : Prop :=
  ∀ layer, CachesRows pool (r.cache layer) (W.qkvRows f r.promptsLen r.tokens layer)
    r.tokens.length

variable {W f} {pool : FlatMemory.Memory ℝ} {r q : Request}

theorem grant_cache (r : Request) (need : ℕ) (ids : List ℕ) (layer : Fin gpt2NLayers) :
    ∃ more, (r.grant need ids).cache layer =
      { r.cache layer with blockTable := (r.cache layer).blockTable++more } := by
  obtain ⟨more,hmore⟩ := extended_get need r.layerKv ids layer.val _ (r.cache_get layer)
  have hget := (r.grant need ids).cache_get layer
  exact ⟨more,Option.some.inj (hget.symm.trans hmore)⟩

theorem CachesRows.grow {kv : PagedKVCache} {row : ℕ → QkvRow} {n : ℕ}
    (h : CachesRows pool kv row n) (more : List ℕ) :
    CachesRows pool { kv with blockTable := kv.blockTable++more } row n := by
  intro t ht
  obtain ⟨slot,hslot,hrow⟩ := h t ht
  refine ⟨slot,?_,hrow⟩
  obtain ⟨p,hp,rfl⟩ := Option.map_eq_some_iff.mp hslot
  have hlt := (List.getElem?_eq_some_iff.mp hp).1
  rw [tokenSlot, PagedKVCache.physicalBlockId, List.getElem?_append_left hlt]
  exact congrArg (Option.map _) hp

theorem CachedSoFar.grant (h : CachedSoFar W f pool r) (need : ℕ) (ids : List ℕ) :
    CachedSoFar W f pool (r.grant need ids) := by
  intro layer
  obtain ⟨more,hmore⟩ := grant_cache r need ids layer
  rw [hmore]
  exact (h layer).grow more

/-- After its answer a request counts all rows that the pass has cached. -/
theorem CachedWhole.served {p ready : Place} {cache : Request → PagedKVCache → PagedKVCache}
    (hp : Serving p cache ready) {entry : Option SwappedRequest} (hplaced : Placed entry r p)
    (hprompt : r.promptsLen ≤ r.tokens.length) (h : CachedWhole W f pool r)
    (answer : Option Response) : CachedSoFar W f pool (servedRequest cache answer r) := by
  intro layer
  have hcache : (servedRequest cache answer r).cache layer = cache r (r.cache layer) :=
    r.map_caches_cache (cache r) layer
  have hkept : (cache r (r.cache layer)).blockTable = (r.cache layer).blockTable ∧
      (cache r (r.cache layer)).numTokens = r.tokens.length := by
    cases hp with
    | decode =>
      obtain ⟨n,htokens,hshape,_⟩ := hplaced
      refine ⟨rfl,?_⟩
      rw [PagedKVCache.increment_tokens_tokens, hshape.cached _ (r.cache_mem layer), htokens]
    | prefill => exact ⟨rfl,hplaced.1.symm⟩
  rw [hcache, hkept.2]
  intro t ht
  obtain ⟨slot,hslot,hrow⟩ := h layer t ht
  refine ⟨slot,?_,?_⟩
  · rw [tokenSlot, PagedKVCache.physicalBlockId, hkept.1]
    exact hslot
  · show HoldsRow pool slot (W.qkvRows f r.promptsLen (r.tokens++[_]) layer t)
    rwa [qkv_rows_append W f _ _ layer hprompt ht]

end Rows

section Moves

variable {W : Gpt2Weights} {f : RowAttention} {pool : FlatMemory.Memory ℝ}
  {a a' : RealKvAllocator α} {p q : Place} {r r' : Request} {resps : List Response}
  {allowed : Request → Response → Prop}

theorem move_cached (h : Resident p → CachedSoFar W f pool r) (hp : p ≠ .swapOut)
    (hq : q ≠ .swapOut) (m : Move (realKvAllocator α) allowed a p r a' q r' []) :
    Resident q → CachedSoFar W f pool r' := by
  intro hresident
  cases m with
  | enqueued | prefillRefused | prefillRefusedAgain | prefillStarted => exact hresident.elim
  | prefillGranted => exact hresident.elim
  | swappedIn | swapInRefused => exact absurd rfl hp
  | victimOut => exact absurd rfl hq
  | decodeRetried | flushed => exact h trivial
  | decodeGranted _ hok =>
    obtain ⟨_,hreq,_⟩ := allocate_granted a r _ hok
    show CachedSoFar W f pool (a.allocateLayers r (decodeNeed r.layer0.numTokens)).req
    rw [hreq]
    exact (h trivial).grant _ _
  | decodeRefused _ hok =>
    obtain ⟨_,hout⟩ := allocate_refused a r _ hok
    show CachedSoFar W f pool (a.allocateLayers r (decodeNeed r.layer0.numTokens)).req
    rw [hout]
    exact h trivial
  | victimKept _ hr hs hok =>
    have hcase := swap_out_case a r
    show CachedSoFar W f pool (a.swapOut r).req
    replace hok : (a.swapOut r).ok = false := hok
    generalize a.swapOut r = out at hcase hok
    cases hcase with
    | refused | undone => exact h trivial
    | done => cases hok

theorem answered_cached {resp : Response}
    (hplaced : Placed (a.swappedRequests.lookup r.requestId) r p)
    (hprompt : r.promptsLen ≤ r.tokens.length) (h : CachedWhole W f pool r)
    (m : Move (realKvAllocator α) allowed a p r a' q r' [resp]) :
    q ≠ p ∧ q ≠ .swapOut ∧ (Resident q → CachedSoFar W f pool r') := by
  cases m with
  | served _ _ cache _ answer hp =>
    refine ⟨?_,?_,fun _ => h.served hp hplaced hprompt answer⟩
    all_goals cases hp <;> decide
  | closed _ _ _ _ _ hp =>
    refine ⟨?_,by decide,fun hresident => hresident.elim⟩
    cases hp <;> decide

end Moves

section Boards

variable {P : Place → Request → Prop} {b c : Board (RealKvAllocator α)}
  {allowed : Request → Response → Prop}

structure BoardHolds (P : Place → Request → Prop) (b : Board (RealKvAllocator α)) : Prop where
  custody : Custody defaultTotalKvBlocks defaultTotalCpuBlocks b
  prompted : ∀ x ∈ b.requests, x.1 = .finish ∨ Prompted x.1 x.2
  unswapped : ∀ x ∈ b.requests, x.1 ≠ .swapOut
  each : ∀ x ∈ b.requests, P x.1 x.2

theorem BoardHolds.move (h : BoardHolds P b) {a : RealKvAllocator α} {p q : Place}
    {r r' : Request} {resps : List Response} {rest : Multiset (Place × Request)}
    (hb : b.requests = (p,r) ::ₘ rest)
    (m : Move (realKvAllocator α) allowed b.kvAllocator p r a q r' resps) (hq : q ≠ .swapOut)
    (hP : P q r') :
    BoardHolds P ⟨a,(q,r') ::ₘ rest,b.responses++resps,b.popped++entered p r⟩ := by
  have hown : (p,r) ∈ b.requests := hb ▸ Multiset.mem_cons_self _ _
  have hrest (x : Place × Request) (hx : x ∈ rest) : x ∈ b.requests :=
    hb ▸ Multiset.mem_cons_of_mem hx
  refine ⟨move_custody h.custody hb m,?_,?_,?_⟩
  all_goals
    intro x hx
    rcases Multiset.mem_cons.mp hx with rfl | hx
  · exact move_prompted (h.prompted _ hown) m
  · exact h.prompted x (hrest x hx)
  · exact hq
  · exact h.unswapped x (hrest x hx)
  · exact hP
  · exact h.each x (hrest x hx)

theorem BoardHolds.mono {P' : Place → Request → Prop} (h : BoardHolds P b)
    (hP : ∀ x ∈ b.requests, P x.1 x.2 → P' x.1 x.2) : BoardHolds P' b :=
  ⟨h.custody,h.prompted,h.unswapped,fun x hx => hP x hx (h.each x hx)⟩

variable (W : Gpt2Weights) (f : RowAttention) (pool : FlatMemory.Memory ℝ)

def Between (p : Place) (r : Request) : Prop := Resident p → CachedSoFar W f pool r

def During (batch : Place) (p : Place) (r : Request) : Prop :=
  (p = batch → CachedWhole W f pool r) ∧ (p ≠ batch → Between W f pool p r)

variable {W f pool}

theorem quiet_board (h : BoardHolds (Between W f pool) b)
    (hop : Hop (realKvAllocator α) allowed PromptedRequest b c)
    (hr : c.responses = b.responses) (hs : ∀ x ∈ c.requests, x.1 ≠ .swapOut) :
    BoardHolds (Between W f pool) c := by
  cases hop with
  | submit req hreq =>
    refine ⟨submit_custody h.custody hreq.1,?_,hs,?_⟩
    all_goals
      intro x hx
      rcases Multiset.mem_cons.mp hx with rfl | hx
    · exact .inr (submit_prompted hreq)
    · exact h.prompted x hx
    · exact fun hresident => hresident.elim
    · exact h.each x hx
  | move a p q r r' resps rest hb m =>
    have hown : (p,r) ∈ b.requests := hb ▸ Multiset.mem_cons_self _ _
    obtain rfl : resps = [] := List.append_right_eq_self.mp hr
    have hq : q ≠ .swapOut := hs (q,r') (Multiset.mem_cons_self _ _)
    exact h.move hb m hq (move_cached (h.each _ hown) (h.unswapped _ hown) hq m)

end Boards

end MiniLlm

import MiniLlm.DecodeRows
import MiniLlm.FlashRows
import MiniLlm.PrefillRows

/-!
# Batching is transparent

A request gets the same answer and the same K and V in every batch as it
does alone. Its rows, slots, tables and its last token are found from five
separate running offsets, which agree.
-/

set_option autoImplicit false

namespace MiniLlm

open FlatMemory RowBuffers

section Attend

variable (attend : ℕ → Memory ℝ → Memory ℝ → Memory ℝ) (qkv : Memory ℝ)

theorem attend_requests_before (reqs : List Request) {before r : ℕ} (out : Memory ℝ)
    (hr : r < before) : rowAt gpt2DModel (attendRequests attend qkv reqs before out) r =
      rowAt gpt2DModel out r := by
  induction reqs generalizing before out with
  | nil => rfl
  | cons first reqs ih =>
    rw [attendRequests, ih _ (by omega), write_back_before out _ hr]

theorem attend_requests_get {attend : PrefillAttention} {f : RowAttention}
    (hattend : AttendsRows attend f) (layer : Fin gpt2NLayers) (reqs : List Request)
    (before j : ℕ) {r : Request} (hj : reqs[j]? = some r) (out : Memory ℝ) (t : Fin r.promptsLen) :
    rowAt gpt2DModel (attendRequests (attend layer) qkv reqs before out)
        (before+startOf Request.promptsLen reqs j+t) =
      f layer r.promptsLen
        (fun s => rowAt (3*gpt2DModel) qkv (before+startOf Request.promptsLen reqs j+s)) t := by
  induction reqs generalizing before j out with
  | nil => simp at hj
  | cons first reqs ih =>
    rw [attendRequests]
    cases j with
    | zero =>
      obtain rfl := Option.some.inj hj
      have hlt : before+(t:ℕ) < before+first.promptsLen := Nat.add_lt_add_left t.isLt before
      rw [start_of_zero, Nat.add_zero, attend_requests_before _ _ _ _ hlt, write_back_row, hattend]
      simp only [advance_row]
    | succ j =>
      rw [start_of_succ, ← Nat.add_assoc]
      exact ih _ _ hj _

end Attend

section Gather

variable (x : Memory ℝ)

theorem copy_row (source target : ℕ) (m : Memory ℝ) :
    rowAt gpt2DModel (copy x (source*gpt2DModel) (target*gpt2DModel) gpt2DModel m) target =
      rowAt gpt2DModel x source := by
  ext c
  exact copy_inside x m _ _ _ _ c.isLt

theorem copy_row_before (source : ℕ) {target r : ℕ} (m : Memory ℝ) (hr : r < target) :
    rowAt gpt2DModel (copy x (source*gpt2DModel) (target*gpt2DModel) gpt2DModel m) r =
      rowAt gpt2DModel m r := by
  ext c
  exact copy_outside x m _ _ _ _ (.inl (row_cell_lt hr c.isLt))

theorem gather_before (reqs : List Request) {idx r : ℕ} (offset : ℕ) (xLast : Memory ℝ)
    (hr : r < idx) : rowAt gpt2DModel (gatherLastTokens x reqs idx offset xLast) r =
      rowAt gpt2DModel xLast r := by
  induction reqs generalizing idx offset xLast with
  | nil => rfl
  | cons first reqs ih =>
    rw [gatherLastTokens, ih _ _ (Nat.lt_succ_of_lt hr), copy_row_before x _ _ hr]

theorem gather_get (reqs : List Request) {j : ℕ} {r : Request} (hj : reqs[j]? = some r)
    (idx offset : ℕ) (xLast : Memory ℝ) :
    rowAt gpt2DModel (gatherLastTokens x reqs idx offset xLast) (idx+j) =
      rowAt gpt2DModel x (offset+startOf Request.promptsLen reqs j+(r.promptsLen-1)) := by
  induction reqs generalizing idx offset j xLast with
  | nil => simp at hj
  | cons first reqs ih =>
    rw [gatherLastTokens]
    cases j with
    | zero =>
      obtain rfl := Option.some.inj hj
      simp only [start_of_zero, Nat.add_zero]
      rw [gather_before x _ _ _ (Nat.lt_add_one idx), copy_row]
    | succ j =>
      rw [start_of_succ, show idx+(j+1) = idx+1+j by omega, ← Nat.add_assoc]
      exact ih hj _ _ _

end Gather

section Lists

def placed (reqs : List Request) (j : ℕ) : Request := reqs[j]?.getD (Request.new 0 [] 0)

theorem placed_get {reqs : List Request} {j : ℕ} {r : Request} (hj : reqs[j]? = some r) :
    placed reqs j = r := by
  rw [placed, hj]
  rfl

theorem map_placed (reqs : List Request) : (List.range reqs.length).map (placed reqs) = reqs := by
  apply List.ext_getElem?
  intro j
  by_cases hj : j < reqs.length
  · simp [placed, hj]
  · simp [hj]

theorem new_blocks (reqId : Int32) (t : List ℤ) (maxTokens : ℤ) :
    (Request.new reqId t maxTokens).blocks = [] := by
  simp [Request.blocks, Request.new, PagedKVCache.new]

theorem placed_blocks {reqs : List Request} {j p : ℕ} (hp : p ∈ (placed reqs j).blocks) :
    reqs[j]? = some (placed reqs j) := by
  rcases hj : reqs[j]? with _ | r
  · rw [placed, hj, Option.getD_none, new_blocks] at hp
    exact absurd hp List.not_mem_nil
  · rw [placed_get hj]

structure BlocksApart (reqs : List Request) : Prop where
  nodup : (reqs.flatMap Request.blocks).Nodup
  inPool : ∀ p ∈ reqs.flatMap Request.blocks, p < defaultTotalKvBlocks

theorem BlocksApart.tables {reqs : List Request} (h : BlocksApart reqs) :
    TablesApart (placed reqs) where
  nodup j := by
    by_cases hj : j < reqs.length
    · have hget := placed_get (List.getElem?_eq_getElem hj)
      rw [hget]
      exact (List.nodup_flatMap.mp h.nodup).1 _ (List.getElem_mem hj)
    · have hget : reqs[j]? = none := List.getElem?_eq_none (Nat.not_lt.mp hj)
      rw [placed, hget, Option.getD_none, new_blocks]
      exact List.nodup_nil
  apart j k hjk p hp hp' := hjk (flat_map_index Request.blocks reqs h.nodup j k _ _ p
    (placed_blocks hp) (placed_blocks hp') hp hp')
  inPool j p hp := h.inPool p
    (List.mem_flatMap.mpr ⟨_,List.mem_of_getElem? (placed_blocks hp),hp⟩)

theorem BlocksApart.single {reqs : List Request} (h : BlocksApart reqs) {r : Request}
    (hr : r ∈ reqs) : BlocksApart [r] where
  nodup := by
    rw [List.flatMap_singleton]
    exact (List.nodup_flatMap.mp h.nodup).1 r hr
  inPool p hp := by
    rw [List.flatMap_singleton] at hp
    exact h.inPool p (List.mem_flatMap.mpr ⟨r,hr,hp⟩)

structure PromptReady (r : Request) : Prop where
  nonempty : 0 < r.promptsLen
  prompt : r.promptsLen ≤ r.tokens.length
  room : ∀ layer, r.promptsLen ≤ (r.cache layer).numBlocks*defaultKvBlockSize

structure TokenReady (r : Request) : Prop where
  tokens : r.tokens ≠ []
  room : ∀ layer, (r.cache layer).numTokens+1 ≤ (r.cache layer).numBlocks*defaultKvBlockSize

theorem placed_mem {reqs : List Request} {j : ℕ} (hj : j ∈ List.range reqs.length) :
    placed reqs j ∈ reqs := by
  have hlt := List.mem_range.mp hj
  rw [placed_get (List.getElem?_eq_getElem hlt)]
  exact List.getElem_mem hlt

theorem range_get {reqs : List Request} {j : ℕ} {r : Request} (hj : reqs[j]? = some r) :
    (List.range reqs.length)[j]? = some j :=
  List.getElem?_range (List.getElem?_eq_some_iff.mp hj).1

theorem first_row_placed (reqs : List Request) (j : ℕ) :
    firstRow (placed reqs) (List.range reqs.length) j = 0+startOf Request.promptsLen reqs j := by
  rw [Nat.zero_add, ← first_row_map, map_placed]

theorem single_get (r : Request) : [r][0]? = some r := rfl

theorem BlocksApart.prefill {reqs : List Request} (h : BlocksApart reqs)
    (hready : ∀ r ∈ reqs, PromptReady r) :
    PrefillBatch (placed reqs) (List.range reqs.length) where
  apart := h.tables
  distinct := List.nodup_range
  prompt _ hj := (hready _ (placed_mem hj)).prompt
  room _ hj := (hready _ (placed_mem hj)).room

theorem BlocksApart.decode {reqs : List Request} (h : BlocksApart reqs)
    (hready : ∀ r ∈ reqs, TokenReady r) :
    DecodeBatch (placed reqs) (List.range reqs.length) where
  apart := h.tables
  distinct := List.nodup_range
  tokens _ hj := (hready _ (placed_mem hj)).tokens
  room _ hj := (hready _ (placed_mem hj)).room

end Lists

section Transparent

variable (W : Gpt2Weights) {reqs : List Request} {j : ℕ} {r : Request}
  (hj : reqs[j]? = some r) (h : BlocksApart reqs)

theorem model_answers_length (cmp : FloatComparison (WithBot ℝ)) (logits : ℕ → ℕ → WithBot ℝ)
    (reqs : List Request) : (modelAnswers cmp logits reqs).length = reqs.length := by
  rw [modelAnswers, List.length_map, List.length_zipIdx]

theorem answer_alone {src src' : Memory ℝ} (b b' : Buffers)
    (hj : reqs[j]? = some r) (hrow : rowAt gpt2DModel src j = rowAt gpt2DModel src' 0) :
    ∃ resp, (answerRows W reqs src b).1[j]? = some resp ∧
      (answerRows W [r] src' b').1 = [resp] := by
  obtain ⟨resp,hresp,halone⟩ := answer_rows_same W b b' hj (single_get r) hrow
  refine ⟨resp,hresp,?_⟩
  have hone : (answerRows W [r] src' b').1.length = 1 := model_answers_length _ _ _
  obtain ⟨only,hlist⟩ := List.length_eq_one_iff.mp hone
  rw [hlist] at halone ⊢
  rw [Option.some.inj halone]

include hj

theorem attends_alike {attend : PrefillAttention} {f : RowAttention}
    (hattend : AttendsRows attend f) (layer : Fin gpt2NLayers) :
    AttendsAlike (attend layer) (attend layer) (placed reqs) (placed [r])
      (List.range reqs.length) (List.range [r].length) j 0 r.promptsLen := by
  intro qkv qkv' out out' hrows t ht
  rw [map_placed, map_placed]
  rw [first_row_placed, first_row_placed] at hrows ⊢
  have hget := attend_requests_get qkv hattend layer reqs 0 j hj out ⟨t,ht⟩
  have hget' := attend_requests_get qkv' hattend layer [r] 0 0 (single_get r) out' ⟨t,ht⟩
  rw [hget, hget']
  congr 1
  funext s
  exact hrows s s.isLt

include h

/-- A request is prefilled in a batch as it is alone. -/
theorem prefill_transparent {attend : PrefillAttention} {f : RowAttention}
    (hattend : AttendsRows attend f) (hready : ∀ q ∈ reqs, PromptReady q) (b b' : Buffers) :
    ∃ resps resp c c', W.prefill attend reqs b = some (resps,c) ∧
      W.prefill attend [r] b' = some ([resp],c') ∧ resps[j]? = some resp ∧
      ∀ layer, SameCached c.pool c'.pool (r.cache layer) (r.cache layer) r.promptsLen := by
  have hmem := List.mem_of_getElem? hj
  have hbatch := h.prefill hready
  have halone := (h.single hmem).prefill (by simpa using hready r hmem)
  have hr : placed reqs j = r := placed_get hj
  have hr' : placed [r] 0 = r := placed_get (single_get r)
  obtain ⟨c,c',hc,hc',hx,hcached⟩ := prefill_layers_same hbatch halone (range_get hj)
    (range_get (single_get r)) (hr ▸ le_refl r.promptsLen) (hr' ▸ le_refl r.promptsLen) True
    (row_weights_alike W _ _ _ _) (fun layer _ => attends_alike hj hattend layer)
    (fun t _ => by rw [hr, hr']) b b'
  rw [map_placed] at hc hc'
  rw [hr, hr'] at hcached
  have hnonempty := (hready r hmem).nonempty
  have hlast := hx trivial (r.promptsLen-1) (by omega)
  rw [first_row_placed, first_row_placed] at hlast
  have hrow := gather_get c.x reqs hj 0 0 c.xLast
  have hrow' := gather_get c'.x [r] (single_get r) 0 0 c'.xLast
  rw [Nat.zero_add] at hrow hrow'
  obtain ⟨resp,hresp,hone⟩ := answer_alone W
    { c with xLast := gatherLastTokens c.x reqs 0 0 c.xLast }
    { c' with xLast := gatherLastTokens c'.x [r] 0 0 c'.xLast } hj
    (hrow.trans (hlast.trans hrow'.symm))
  refine ⟨(W.answerLast reqs c).1,resp,(W.answerLast reqs c).2,(W.answerLast [r] c').2,
    by rw [Gpt2Weights.prefill, Gpt2Launches.prefill, hc]; rfl,?_,hresp,hcached⟩
  rw [Gpt2Weights.prefill, Gpt2Launches.prefill, hc', ← hone]
  rfl

/-- A request is decoded in a batch as it is alone. -/
theorem decode_transparent (hready : ∀ q ∈ reqs, TokenReady q) (shared shared' : Memory ℝ)
    (b b' : Buffers) (hcached : ∀ layer, SameCached b.pool b'.pool (r.cache layer) (r.cache layer)
      (r.cache layer).numTokens) :
    ∃ resps resp c c', W.decode shared reqs b = some (resps,c) ∧
      W.decode shared' [r] b' = some ([resp],c') ∧ resps[j]? = some resp ∧
      ∀ layer, SameCached c.pool c'.pool (r.cache layer) (r.cache layer)
        ((r.cache layer).numTokens+1) := by
  have hmem := List.mem_of_getElem? hj
  have hbatch := h.decode hready
  have halone := (h.single hmem).decode (by simpa using hready r hmem)
  have hr : placed reqs j = r := placed_get hj
  have hr' : placed [r] 0 = r := placed_get (single_get r)
  obtain ⟨c,c',hc,hc',hx,hlast⟩ := decode_layers_same hbatch halone (range_get hj)
    (range_get (single_get r)) (hr'.trans hr.symm) W shared shared' b b' (by rwa [hr])
  rw [map_placed] at hc hc'
  rw [hr] at hlast
  have hnonempty : ¬reqs.isEmpty = true := by
    rw [List.isEmpty_iff]
    exact List.ne_nil_of_mem hmem
  obtain ⟨resp,hresp,hone⟩ := answer_alone W c c' hj (hx 0 one_pos)
  refine ⟨_,resp,(answerRows W reqs c.x c).2,(answerRows W [r] c'.x c').2,
    by rw [Gpt2Weights.decode, if_neg hnonempty, hc]; rfl,?_,hresp,hlast⟩
  rw [Gpt2Weights.decode, if_neg (by simp), hc', ← hone]
  rfl

end Transparent

/-- Batching is transparent, if the attention of a request is a function of its rows. -/
theorem batching_transparent (W : Gpt2Weights) {attend : PrefillAttention} {f : RowAttention}
    (hattend : AttendsRows attend f) {reqs : List Request} {j : ℕ} {r : Request}
    (hj : reqs[j]? = some r) (h : BlocksApart reqs) :
    ((∀ q ∈ reqs, PromptReady q) → ∀ b b', ∃ resps resp c c',
      W.prefill attend reqs b = some (resps,c) ∧ W.prefill attend [r] b' = some ([resp],c') ∧
      resps[j]? = some resp ∧
      ∀ layer, SameCached c.pool c'.pool (r.cache layer) (r.cache layer) r.promptsLen) ∧
    ((∀ q ∈ reqs, TokenReady q) → ∀ shared shared' b b',
      (∀ layer, SameCached b.pool b'.pool (r.cache layer) (r.cache layer)
        (r.cache layer).numTokens) →
      ∃ resps resp c c', W.decode shared reqs b = some (resps,c) ∧
        W.decode shared' [r] b' = some ([resp],c') ∧ resps[j]? = some resp ∧
        ∀ layer, SameCached c.pool c'.pool (r.cache layer) (r.cache layer)
          ((r.cache layer).numTokens+1)) :=
  ⟨prefill_transparent W hj h hattend,decode_transparent W hj h⟩

def twoTokens (reqId : Int32) (firstBlock : ℕ) : Request :=
  { Request.new reqId [1,2] 4 with
    layerKv := (List.range gpt2NLayers).map fun l => ⟨reqId,[firstBlock+l],0⟩
    layers := by simp }

noncomputable def copyWeights : Gpt2Weights :=
  let copy {v w : ℕ} (hv : 0 < v) (row : Row v) : Row w := fun c => row ⟨c%v,Nat.mod_lt c hv⟩
  { wte := fun i => i
    wpe := fun i => i
    layer := fun _ => ⟨id,copy (by decide),id,id,copy (by decide),copy (by decide)⟩
    lnF := id
    logits := copy (by decide) }

def zeroBuffers : Buffers where
  x := fun _ => 0
  ln := fun _ => 0
  qkv := fun _ => 0
  attnOut := fun _ => 0
  ff := fun _ => 0
  xLast := fun _ => 0
  logits := fun _ => 0
  pool := fun _ => 0
  blockTable := fun _ => 0
  blockOffsets := fun _ => 0
  numTokens := fun _ => 0

def twoCached (reqId : Int32) (firstBlock : ℕ) : Request :=
  (twoTokens reqId firstBlock).mapCaches (·.setNumTokens 2)

theorem two_requests_apart : BlocksApart [twoTokens 1 0,twoTokens 2 12] := by
  constructor <;> decide

theorem two_cached_apart : BlocksApart [twoCached 1 0,twoCached 2 12] := by
  constructor <;> decide

theorem two_requests_transparent :
    let attend := FlashAttention.promptLaunch
    let shared : Memory ℝ := fun _ => 0
    (∃ resps resp c c', copyWeights.prefill attend [twoTokens 1 0,twoTokens 2 12] zeroBuffers =
        some (resps,c) ∧
      copyWeights.prefill attend [twoTokens 2 12] zeroBuffers = some ([resp],c') ∧
      resps[1]? = some resp ∧ ∀ layer, SameCached c.pool c'.pool ((twoTokens 2 12).cache layer)
        ((twoTokens 2 12).cache layer) 2) ∧
    ∃ resps resp c c', copyWeights.decode shared [twoCached 1 0,twoCached 2 12] zeroBuffers =
        some (resps,c) ∧
      copyWeights.decode shared [twoCached 2 12] zeroBuffers = some ([resp],c') ∧
      resps[1]? = some resp ∧ ∀ layer, SameCached c.pool c'.pool ((twoCached 2 12).cache layer)
        ((twoCached 2 12).cache layer) (((twoCached 2 12).cache layer).numTokens+1) := by
  intro attend shared
  have hattend := FlashAttention.prompt_launch_rows
  have hprompt : ∀ q ∈ [twoTokens 1 0,twoTokens 2 12], PromptReady q := by
    intro q hq
    rcases List.mem_cons.mp hq with rfl | hq
    · exact ⟨by decide,by decide,by decide⟩
    · obtain rfl := List.mem_singleton.mp hq
      exact ⟨by decide,by decide,by decide⟩
  have htoken : ∀ q ∈ [twoCached 1 0,twoCached 2 12], TokenReady q := by
    intro q hq
    rcases List.mem_cons.mp hq with rfl | hq
    · exact ⟨by decide,by decide⟩
    · obtain rfl := List.mem_singleton.mp hq
      exact ⟨by decide,by decide⟩
  have hcached (layer : Fin gpt2NLayers) : SameCached zeroBuffers.pool zeroBuffers.pool
      ((twoCached 2 12).cache layer) ((twoCached 2 12).cache layer)
      ((twoCached 2 12).cache layer).numTokens := by
    intro t ht
    have hroom := (htoken (twoCached 2 12) (by simp)).room layer
    obtain ⟨slot,hslot⟩ := token_slot_exists hroom (ht.trans (Nat.lt_succ_self _))
    exact ⟨slot,slot,hslot,hslot,fun _ _ => ⟨rfl,rfl⟩⟩
  exact ⟨(batching_transparent copyWeights hattend rfl two_requests_apart).1 hprompt zeroBuffers
      zeroBuffers,
    (batching_transparent copyWeights hattend rfl two_cached_apart).2 htoken shared shared
      zeroBuffers zeroBuffers hcached⟩

end MiniLlm

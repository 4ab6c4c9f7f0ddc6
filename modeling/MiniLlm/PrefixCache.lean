import MiniLlm.Batching
import MiniLlm.ProbeWeights

/-!
# Prefill is causal

What is cached for a prompt does not depend on what follows it: two prefills
leave the same K and V in every layer, if their layer norms and the reductions
of attention went alike up to there. Where they did not, some weights show it.
-/

set_option autoImplicit false

namespace MiniLlm

open FlatMemory RowBuffers OnlineSoftmax BlockReduction FlashAttention LayernormKernel

structure Prefills (r : Request) (prompt : List ℤ) : Prop where
  tokens : r.tokens = prompt
  length : r.promptsLen = prompt.length
  apart : BlocksApart [r]
  room : ∀ layer, prompt.length ≤ (r.cache layer).numBlocks*defaultKvBlockSize

/-- Prefill leaves the same K and V for a prompt alone and for the prompt with what follows it,
whatever the weights, the buffers and the block tables are. -/
def CachesPrompt (norms norms' : PassNorms) (order order' : Fin gpt2NLayers → LaneOrders)
    (prompt extension : List ℤ) : Prop :=
  ∀ (W : LoadedWeights) (block block' : BlockState) (b b' : Buffers) (r r' : Request),
    Prefills r prompt → Prefills r' (prompt++extension) →
    ∃ resps resps' c c',
      (W.launches norms).prefill (launch order block) [r] b = some (resps,c) ∧
      (W.launches norms').prefill (launch order' block') [r'] b' = some (resps',c') ∧
      ∀ layer, SameCached c.pool c'.pool (r.cache layer) (r'.cache layer) prompt.length

/-- What decides about the K and V of the first `n` rows went alike in two prefills: the first
layer norms, and in all layers but the last what follows the appending. -/
structure PrefillAlike (norms norms' : PassNorms) (order order' : Fin gpt2NLayers → LaneOrders)
    (n : ℕ) : Prop where
  ln1 : ∀ layer, ∀ t < n, NormAlike (norms.ln1 layer t) (norms'.ln1 layer t)
  attention : ∀ layer : Fin gpt2NLayers, (layer:ℕ)+1 < gpt2NLayers → ∀ t < n,
    RowAlike (order layer) (order' layer) t
  ln2 : ∀ layer : Fin gpt2NLayers, (layer:ℕ)+1 < gpt2NLayers → ∀ t < n,
    NormAlike (norms.ln2 layer t) (norms'.ln2 layer t)

section Alone

variable {r : Request} {prompt : List ℤ} (h : Prefills r prompt)

theorem advance_zero (m : Memory ℝ) (w : ℕ) : advance m (0*w) = m := by
  ext a
  rw [advance, Nat.zero_mul, Nat.zero_add]

theorem attend_alone (attend : ℕ → Memory ℝ → Memory ℝ → Memory ℝ) (qkv out : Memory ℝ)
    (r : Request) (t : ℕ) : rowAt gpt2DModel (attendRequests attend qkv [r] 0 out) t =
      rowAt gpt2DModel (attend r.promptsLen qkv out) t := by
  have hrow := write_back_row out (attend r.promptsLen qkv out) 0 t (w := gpt2DModel)
  rw [Nat.zero_add] at hrow
  rw [attendRequests, attendRequests, advance_zero, advance_zero, hrow]

theorem first_row_alone (r : Request) :
    firstRow (placed [r]) (List.range [r].length) 0 = 0 := rfl

theorem Prefills.batch (h : Prefills r prompt) :
    PrefillBatch (placed [r]) (List.range [r].length) where
  apart := h.apart.tables
  distinct := List.nodup_range
  prompt i hi := by
    obtain rfl := Nat.lt_one_iff.mp (List.mem_range.mp hi)
    show r.promptsLen ≤ r.tokens.length
    rw [h.length, h.tokens]
  room i hi layer := by
    obtain rfl := Nat.lt_one_iff.mp (List.mem_range.mp hi)
    show r.promptsLen ≤ _
    rw [h.length]
    exact h.room layer

end Alone

/-- A turn of the loop over the layers for one request: the rows of `buf_qkv`, what is appended
and what becomes of the rows. -/
structure LayerTurn (W : Gpt2Launches) (attend : PrefillAttention) (r : Request) (n : ℕ)
    (layer : Fin gpt2NLayers) (b c : Buffers) (slots : List (ℕ × ℕ)) (qkv out : Memory ℝ) :
    Prop where
  slotsAt : SlotsAt (placed [r]) layer (promptRows (placed [r]) (List.range [r].length)) slots
  projected : ∀ t < n, rowAt (3*gpt2DModel) qkv t =
    (W.layer layer).qkv ((W.layer layer).ln1 t (rowAt gpt2DModel b.x t))
  pool : c.pool = launchAppend slots qkv b.pool
  x : ∀ t < n, rowAt gpt2DModel c.x t =
    (W.layer layer).after (rowAt gpt2DModel (attend layer n qkv out) t) (rowAt gpt2DModel b.x t) t

theorem block_prefill_alone {r : Request} {prompt : List ℤ} (h : Prefills r prompt)
    (W : Gpt2Launches) (attend : PrefillAttention) (layer : Fin gpt2NLayers) (b : Buffers) :
    ∃ c slots qkv out, blockPrefill W attend [r] (total Request.promptsLen [r]) layer b = some c ∧
      LayerTurn W attend r prompt.length layer b c slots qkv out := by
  have htotal : total Request.promptsLen [r] = prompt.length := h.length
  obtain ⟨slots,hslots⟩ := make_tables_exist h.batch layer
  have hat := make_tables_slots hslots
  rw [map_placed] at hslots
  rw [htotal]
  refine ⟨_,slots,(projectAppend W layer prompt.length slots b).qkv,b.attnOut,
    by rw [blockPrefill, hslots]; rfl,hat,?_,rfl,?_⟩
  · exact fun t ht => launches_append_row layer ht b W slots
  · intro t ht
    rw [launches_forward_row layer ht, attend_alone, h.length]
    rfl

section Turn

variable {r : Request} {prompt : List ℤ} (h : Prefills r prompt) {W : Gpt2Launches}
  {attend : PrefillAttention} {layer : Fin gpt2NLayers} {b c : Buffers} {slots : List (ℕ × ℕ)}
  {qkv out : Memory ℝ} (hturn : LayerTurn W attend r prompt.length layer b c slots qkv out)

include h hturn

theorem turn_stores {t : ℕ} (ht : t < prompt.length) :
    ∃ slot, tokenSlot (r.cache layer) t = some slot ∧ ∀ d (hd : gpt2DModel+d < 3*gpt2DModel),
      d < gpt2DModel → c.pool (dstBase slot+d) =
        rowAt (3*gpt2DModel) qkv t ⟨gpt2DModel+d,hd⟩ := by
  have hfirst : (List.range [r].length)[0]? = some 0 := rfl
  have hlt : t < (placed [r] 0).promptsLen := h.length.symm ▸ ht
  have hrow := prompt_rows_get hfirst hlt
  rw [first_row_alone, Nat.zero_add] at hrow
  obtain ⟨slot,_,hkey⟩ := hturn.slotsAt.at hrow
  refine ⟨slot,hkey,fun d hd hlt => ?_⟩
  have hstored := (append_row_stored h.batch.apart hturn.slotsAt qkv b.pool
    (prompt_rows_nodup h.batch.distinct) hrow hkey hlt).1
  rw [hturn.pool, hstored, keySource, rowAt, Nat.mul_assoc, Nat.add_assoc]

theorem turn_spares {next : Fin gpt2NLayers} (hnext : next ≠ layer) {t d : ℕ} {slot : ℕ × ℕ}
    (hslot : tokenSlot (r.cache next) t = some slot) (hd : d < gpt2DModel) :
    c.pool (dstBase slot+d) = b.pool (dstBase slot+d) := by
  have hkey : keySlot (placed [r]) (0,next,t) = some slot := hslot
  rw [hturn.pool]
  refine (append_row_spared h.batch.apart hturn.slotsAt qkv b.pool ?_ hkey hd).1
  exact fun row _ he => hnext (congrArg (fun key : TokenKey ℕ => key.2.1) he)

end Turn

/-- The condition is enough. -/
theorem prompt_cached {norms norms' : PassNorms} {order order' : Fin gpt2NLayers → LaneOrders}
    {prompt extension : List ℤ} (halike : PrefillAlike norms norms' order order' prompt.length) :
    CachesPrompt norms norms' order order' prompt extension := by
  intro W block block' b b' r r' h h'
  have hle : prompt.length ≤ (prompt++extension).length := by simp
  have hinner {layer : Fin gpt2NLayers} (hlayer : (layer:ℕ)+1 = gpt2NLayers → False) :
      (layer:ℕ)+1 < gpt2NLayers := lt_of_le_of_ne layer.isLt hlayer
  have hattend (layer : Fin gpt2NLayers) (hlayer : (layer:ℕ)+1 = gpt2NLayers → False) :
      AttendsAlike (launch order block layer) (launch order' block' layer) (placed [r])
        (placed [r']) (List.range [r].length) (List.range [r'].length) 0 0 prompt.length := by
    intro qkv qkv' out out' hrows t ht
    rw [first_row_alone, first_row_alone] at hrows ⊢
    rw [map_placed, map_placed, Nat.zero_add, attend_alone, attend_alone]
    exact flash_row_same hrows ht (h.length ▸ ht) (h'.length ▸ ht.trans_le hle)
      (halike.attention layer (hinner hlayer) t ht) _ _ _ _ _
  have hlaunches : (W.launches norms).Alike (W.launches norms') prompt.length 0 0 False := by
    refine ⟨rfl,rfl,fun layer => ⟨fun t ht => ?_,rfl,rfl,fun hlayer t ht => ?_,rfl,rfl⟩⟩
    · rw [Nat.zero_add]
      show NormCalls.row _ _ _ = NormCalls.row _ _ _
      rw [alike_row (halike.ln1 layer t ht)]
    · rw [Nat.zero_add]
      show NormCalls.row _ _ _ = NormCalls.row _ _ _
      rw [alike_row (halike.ln2 layer (hinner hlayer) t ht)]
  have htokens (t : ℕ) (ht : t < prompt.length) :
      (placed [r] 0).tokens[t]? = (placed [r'] 0).tokens[t]? := by
    show r.tokens[t]? = r'.tokens[t]?
    rw [h.tokens, h'.tokens, List.getElem?_append_left ht]
  have hn : prompt.length ≤ (placed [r] 0).promptsLen := h.length.ge
  have hn' : prompt.length ≤ (placed [r'] 0).promptsLen := hle.trans h'.length.ge
  obtain ⟨c,c',hc,hc',_,hcached⟩ := prefill_layers_same h.batch h'.batch rfl rfl hn hn' False
    hlaunches hattend htokens b b'
  rw [map_placed] at hc hc'
  refine ⟨_,_,_,_,by rw [Gpt2Launches.prefill, hc]; rfl,by rw [Gpt2Launches.prefill, hc']; rfl,?_⟩
  exact hcached

def ShowsKey (W : Gpt2Launches) (attend : PrefillAttention) (r : Request) (b : Buffers)
    (layer : Fin gpt2NLayers) (q : ℕ) (key : ℝ) : Prop :=
  ∃ resps c slot, W.prefill attend [r] b = some (resps,c) ∧
    tokenSlot (r.cache layer) q = some slot ∧ c.pool (dstBase slot) = key

theorem shows_differ {W W' : Gpt2Launches} {attend attend' : PrefillAttention} {r r' : Request}
    {b b' : Buffers} {layer : Fin gpt2NLayers} {q n : ℕ} {key key' : ℝ} (hq : q < n)
    (hne : key ≠ key') (h : ShowsKey W attend r b layer q key)
    (h' : ShowsKey W' attend' r' b' layer q key') :
    ∃ resps resps' c c', W.prefill attend [r] b = some (resps,c) ∧
      W'.prefill attend' [r'] b' = some (resps',c') ∧
      ¬SameCached c.pool c'.pool (r.cache layer) (r'.cache layer) n := by
  obtain ⟨resps,c,slot,hc,hslot,hkey⟩ := h
  obtain ⟨resps',c',slot',hc',hslot',hkey'⟩ := h'
  refine ⟨resps,resps',c,c',hc,hc',fun hsame => hne ?_⟩
  obtain ⟨at1,at2,hat1,hat2,hslots⟩ := hsame q hq
  obtain rfl := Option.some.inj (hat1.symm.trans hslot)
  obtain rfl := Option.some.inj (hat2.symm.trans hslot')
  have hkeys := (hslots 0 (by decide)).1
  rwa [Nat.add_zero, Nat.add_zero, hkey, hkey'] at hkeys

section Shown

open ProbeWeights

variable {r : Request} {prompt : List ℤ} (h : Prefills r prompt) {q : ℕ}
  (hq : q < prompt.length) {layer next : Fin gpt2NLayers} {norms : PassNorms}

include h hq

/-- A prefill caches for a position what its row comes to in a layer. -/
theorem prefill_caches (W : Gpt2Launches) (attend : PrefillAttention) {R : ℕ → Buffers → Prop}
    {key : ℝ} (b : Buffers)
    (hstart : ∀ e : Buffers, (∀ t (ht : t < r.tokens.length), t < prompt.length →
      rowAt gpt2DModel e.x t = embeddingRow W r.tokens[t] t) → R 0 e)
    (hstep : ∀ (l : Fin gpt2NLayers) e c slots qkv out, l < next → R l e →
      LayerTurn W attend r prompt.length l e c slots qkv out → R (l+1) c)
    (hkey : ∀ e, R next e → (W.layer next).qkv ((W.layer next).ln1 q (rowAt gpt2DModel e.x q))
      ⟨gpt2DModel,by decide⟩ = key) : ShowsKey W attend r b next q key := by
  let S (l : ℕ) (e : Buffers) : Prop := (l ≤ next → R l e) ∧ ((next:ℕ) < l → ∃ slot,
    tokenSlot (r.cache next) q = some slot ∧ e.pool (dstBase slot) = key)
  have hturn (l : Fin gpt2NLayers) (e : Buffers) (he : S l e) :
      ∃ c, blockPrefill W attend [r] (total Request.promptsLen [r]) l e = some c ∧ S (l+1) c := by
    obtain ⟨c,slots,qkv,out,hc,hturn⟩ := block_prefill_alone h W attend l e
    refine ⟨c,hc,fun hl => hstep l e c slots qkv out hl (he.1 (Nat.le_of_succ_le hl)) hturn,?_⟩
    intro hl
    by_cases hlast : next = l
    · subst hlast
      obtain ⟨slot,hslot,hkeys⟩ := turn_stores h hturn hq
      refine ⟨slot,hslot,?_⟩
      have hstored := hkeys 0 (by decide) (by decide)
      rw [Nat.add_zero, hturn.projected q hq] at hstored
      exact hstored.trans (hkey e (he.1 le_rfl))
    · have hbefore : (next:ℕ) < l :=
        lt_of_le_of_ne (Nat.le_of_lt_succ hl) fun heq => hlast (Fin.ext heq)
      obtain ⟨slot,hslot,hvalue⟩ := he.2 hbefore
      have hspared := turn_spares h hturn hlast hslot (d := 0) (by decide)
      rw [Nat.add_zero] at hspared
      exact ⟨slot,hslot,hspared.trans hvalue⟩
  let x := embeddingLookup W (prefillTokens [r]) (prefillPositions [r]) b.x
  have hzero : S 0 { b with x := x } := by
    refine ⟨fun _ => hstart _ fun t hin ht => ?_,fun hl => absurd hl (Nat.not_lt_zero _)⟩
    have hfirst : (List.range [r].length)[0]? = some 0 := rfl
    have hlt : t < (placed [r] 0).promptsLen := h.length.symm ▸ ht
    have htoken := prefill_tokens_get h.batch hfirst hlt
    have hposition := prefill_positions_get hfirst hlt
    rw [first_row_alone, Nat.zero_add, map_placed] at htoken hposition
    exact embedding_row_get W _ _ _ (htoken.trans (List.getElem?_eq_getElem hin)) hposition
  obtain ⟨c,hc,hS⟩ := over_layers_keep (R := S) hturn hzero
  obtain ⟨slot,hslot,hvalue⟩ := hS.2 next.isLt
  have hlayers : W.prefillLayers attend [r] b = some c := hc
  refine ⟨(W.answerLast [r] c).1,(W.answerLast [r] c).2,slot,?_,hslot,hvalue⟩
  rw [Gpt2Launches.prefill, hlayers]
  rfl

variable (hmax : prompt.length ≤ maxSeq)

include hmax

theorem first_norm_shown (column : Fin gpt2DModel) (attend : PrefillAttention) (b : Buffers) :
    ShowsKey ((weights (fun _ => pairs 1 0 0) fun _ => idleLayer column).launches norms) attend
      r b layer q (plain (norms.ln1 layer q) (pairs 1 0 0) column) := by
  let W := (weights (fun _ => pairs 1 0 0) fun _ => idleLayer column).launches norms
  refine prefill_caches h hq W attend (R := fun _ e => rowAt gpt2DModel e.x q = pairs 1 0 0) b
    (fun e he => ?_) (fun l e c slots qkv out _ he hturn => ?_) fun e he => ?_
  · rw [he q (h.tokens ▸ hq) hq]
    exact embedding_row _ _ norms _ (hq.trans_le hmax)
  · rw [hturn.x q hq, he]
    exact idle_after column _ _ _ _ q
  · rw [he]
    exact key_shown column _ _ _

theorem second_norm_shown (hnext : (next:ℕ) = layer+1) (column : Fin gpt2DModel)
    (attend : PrefillAttention) (b : Buffers) :
    ShowsKey ((weights (fun _ => pairs 1 0 0) fun l => if l = layer then normLayer 4 column
      else idleLayer 4).launches norms) attend r b next q (plain (norms.ln1 next q)
        (pairs 1 0 (geluOne (plain (norms.ln2 layer q) (pairs 1 0 0) column))) 4) := by
  let loaded (l : Fin gpt2NLayers) := if l = layer then normLayer 4 column else idleLayer 4
  let W := (weights (fun _ => pairs 1 0 0) loaded).launches norms
  let w := geluOne (plain (norms.ln2 layer q) (pairs 1 0 0) column)
  refine prefill_caches h hq W attend (R := fun l e => rowAt gpt2DModel e.x q =
    if l ≤ layer then pairs 1 0 0 else pairs 1 0 w) b
    (fun e he => ?_) (fun l e c slots qkv out hl he hturn => ?_) fun e he => ?_
  · rw [he q (h.tokens ▸ hq) hq, if_pos (Nat.zero_le _)]
    exact embedding_row _ _ norms _ (hq.trans_le hmax)
  · have hle : (l:ℕ) ≤ layer := by
      have hlt : (l:ℕ) < next := hl
      omega
    rw [hturn.x q hq, he, if_pos hle]
    by_cases hlayer : l = layer
    · subst hlayer
      have hloaded : W.layer l =
          (normLayer 4 column).launches (norms.ln1 l) (norms.ln2 l) :=
        congrArg (LoadedLayer.launches · (norms.ln1 l) (norms.ln2 l)) (if_pos rfl)
      rw [hloaded, norm_after, if_neg (Nat.not_succ_le_self _), pairs_add, zero_add]
    · have hloaded : W.layer l = (idleLayer 4).launches (norms.ln1 l) (norms.ln2 l) :=
        congrArg (LoadedLayer.launches · (norms.ln1 l) (norms.ln2 l)) (if_neg hlayer)
      have hlt : (l:ℕ) < layer := lt_of_le_of_ne hle fun he => hlayer (Fin.ext he)
      rw [hloaded, idle_after, if_pos (Nat.succ_le_of_lt hlt)]
  · have hne : next ≠ layer := fun he => by rw [he] at hnext; omega
    have hloaded : W.layer next = (idleLayer 4).launches (norms.ln1 next) (norms.ln2 next) :=
      congrArg (LoadedLayer.launches · (norms.ln1 next) (norms.ln2 next)) (if_neg hne)
    rw [he, if_neg (by omega), hloaded, key_shown]
    rfl

variable {hid k : ℕ} (hhid : hid < gpt2NHeads) (hk : k ≤ q)

include hhid hk

/-- So can what attention comes to for a query and a key, by what the next layer norm divides
the row by. -/
theorem attention_shown (hnext : (next:ℕ) = layer+1) {query key : ℝ}
    (hquery : query = positionSpread q k (norms.ln1 layer q) q)
    (hkey : key = positionSpread q k (norms.ln1 layer k) k)
    (order : Fin gpt2NLayers → LaneOrders) (block : BlockState) (b : Buffers) :
    ShowsKey ((weights (positionRow q k · 0) fun l => if l = layer then
      attentionLayer hid query key else idleLayer 0).launches norms) (launch order block) r b
      next q (spread (norms.ln1 next q) 1 (one (q = k))
        (shownWeight q (order layer hid q k)))⁻¹ := by
  let loaded (l : Fin gpt2NLayers) :=
    if l = layer then attentionLayer hid query key else idleLayer 0
  let W := (weights (positionRow q k · 0) loaded).launches norms
  let w := shownWeight q (order layer hid q k)
  refine prefill_caches h hq W (launch order block) (R := fun l e =>
    (l ≤ layer → ∀ t < prompt.length, rowAt gpt2DModel e.x t = positionRow q k t 0) ∧
    (l = layer+1 → rowAt gpt2DModel e.x q = positionRow q k q w)) b
    (fun e he => ?_) (fun l e c slots qkv out hl he hturn => ?_) fun e he => ?_
  · refine ⟨fun _ t ht => ?_,fun hzero => absurd hzero (Nat.succ_ne_zero _).symm⟩
    rw [he t (h.tokens ▸ ht) ht]
    exact embedding_row _ _ norms _ (ht.trans_le hmax)
  · have hle : (l:ℕ) ≤ layer := by
      have hlt : (l:ℕ) < next := hl
      omega
    have hx := he.1 hle
    by_cases hlayer : l = layer
    · subst hlayer
      have hloaded : W.layer l =
          (attentionLayer hid query key).launches (norms.ln1 l) (norms.ln2 l) :=
        congrArg (LoadedLayer.launches · (norms.ln1 l) (norms.ln2 l)) (if_pos rfl)
      have hrows : SameRows (3*gpt2DModel) prompt.length qkv 0
          (probe PagedAttention.headScale hid q k) 0 := by
        intro t ht
        rw [Nat.zero_add, hturn.projected t ht, hx t ht, hloaded, hquery, hkey]
        exact probe_rows q k hhid _ _ t
      refine ⟨fun hl => absurd hl (Nat.not_succ_le_self _),fun _ => ?_⟩
      rw [hturn.x q hq, hx q hq, hloaded, attention_after _ _ _ _ _ _ _ hhid,
        probe_attention q k hhid hq hk order block l hrows, positionRow,
        pairs_add, zero_add]
      rfl
    · have hloaded : W.layer l = (idleLayer 0).launches (norms.ln1 l) (norms.ln2 l) :=
        congrArg (LoadedLayer.launches · (norms.ln1 l) (norms.ln2 l)) (if_neg hlayer)
      have hne : (l:ℕ) ≠ layer := fun he => hlayer (Fin.ext he)
      refine ⟨fun _ t ht => ?_,fun hl => absurd (Nat.succ_injective hl) hne⟩
      rw [hturn.x t ht, hx t ht, hloaded, idle_after]
  · have hne : next ≠ layer := fun he => by rw [he] at hnext; omega
    have hloaded : W.layer next = (idleLayer 0).launches (norms.ln1 next) (norms.ln2 next) :=
      congrArg (LoadedLayer.launches · (norms.ln1 next) (norms.ln2 next)) (if_neg hne)
    rw [he.2 hnext, hloaded, key_shown]
    show plain (norms.ln1 next q) (pairs (one (q = q)) (one (q = k)) w) 0 = _
    rw [plain_first _ _ _ _ (by decide), one, if_pos rfl]
    exact one_mul _

end Shown

def promptRequest (prompt : List ℤ) : Request :=
  { Request.new 0 prompt 1 with
    layerKv := (List.range gpt2NLayers).map fun l => ⟨0,List.range' (l*64) 64,0⟩
    layers := by simp }

theorem prompt_request_block {prompt : List ℤ} {p : ℕ} (hp : p ∈ (promptRequest prompt).blocks) :
    ∃ l < gpt2NLayers, p ∈ List.range' (l*64) 64 := by
  obtain ⟨kv,hkv,hp⟩ := List.mem_flatMap.mp hp
  obtain ⟨l,hl,rfl⟩ := List.mem_map.mp hkv
  exact ⟨l,List.mem_range.mp hl,hp⟩

theorem prompt_request_nodup (prompt : List ℤ) : (promptRequest prompt).blocks.Nodup := by
  rw [Request.blocks, promptRequest, List.flatMap_map]
  apply List.nodup_flatMap.mpr
  constructor
  · exact fun l _ => List.nodup_range'
  · apply List.nodup_range.imp
    intro l l' hne p hp hp'
    have hplace := List.mem_range'_1.mp hp
    have hplace' := List.mem_range'_1.mp hp'
    omega

theorem prompt_request_room (prompt : List ℤ) (layer : Fin gpt2NLayers) :
    ((promptRequest prompt).cache layer).numBlocks = 64 := by
  obtain ⟨l,_,hl⟩ := List.mem_map.mp ((promptRequest prompt).cache_mem layer)
  rw [← hl, PagedKVCache.numBlocks, List.length_range']

theorem prompt_request_prefills {prompt : List ℤ} (h : prompt.length ≤ maxSeq) :
    Prefills (promptRequest prompt) prompt where
  tokens := rfl
  length := rfl
  apart := by
    constructor
    · rw [List.flatMap_singleton]
      exact prompt_request_nodup prompt
    · intro p hp
      rw [List.flatMap_singleton] at hp
      obtain ⟨l,hl,hp⟩ := prompt_request_block hp
      have hplace := List.mem_range'_1.mp hp
      simp only [gpt2NLayers, defaultTotalKvBlocks] at *
      omega
  room layer := by
    rw [prompt_request_room]
    exact h

section Needed

open ProbeWeights

variable {norms norms' : PassNorms} {order order' : Fin gpt2NLayers → LaneOrders}
  {prompt extension : List ℤ} (hcaches : CachesPrompt norms norms' order order' prompt extension)
  (hmax : (prompt++extension).length ≤ maxSeq)

include hcaches hmax

theorem shown_same (W : LoadedWeights) (layer : Fin gpt2NLayers) {q : ℕ} {key key' : ℝ}
    (hq : q < prompt.length)
    (h : ShowsKey (W.launches norms) (launch order zeroBlock) (promptRequest prompt) zeroBuffers
      layer q key)
    (h' : ShowsKey (W.launches norms') (launch order' zeroBlock)
      (promptRequest (prompt++extension)) zeroBuffers layer q key') : key = key' := by
  by_contra hne
  have hle : prompt.length ≤ (prompt++extension).length := by simp
  obtain ⟨resps,resps',c,c',hc,hc',hdiffers⟩ := shows_differ hq hne h h'
  obtain ⟨_,_,e,e',he,he',hsame⟩ := hcaches W zeroBlock zeroBlock zeroBuffers zeroBuffers _ _
    (prompt_request_prefills (hle.trans hmax)) (prompt_request_prefills hmax)
  obtain ⟨rfl,rfl⟩ := Prod.mk.inj (Option.some.inj (he.symm.trans hc))
  obtain ⟨rfl,rfl⟩ := Prod.mk.inj (Option.some.inj (he'.symm.trans hc'))
  exact hdiffers (hsame layer)

variable {q : ℕ} (hq : q < prompt.length) {layer next : Fin gpt2NLayers}

include hq

theorem first_norm_alike (layer : Fin gpt2NLayers) :
    NormAlike (norms.ln1 layer q) (norms'.ln1 layer q) := by
  have hle : prompt.length ≤ (prompt++extension).length := by simp
  refine alike_of_plain fun column => ?_
  have hkeys := shown_same hcaches hmax _ layer hq
    (first_norm_shown (prompt_request_prefills (hle.trans hmax)) hq (hle.trans hmax) column _ _)
    (first_norm_shown (prompt_request_prefills hmax) (hq.trans_le hle) hmax column _ _)
  rw [hkeys]

theorem second_norm_alike (hnext : (next:ℕ) = layer+1) :
    NormAlike (norms.ln2 layer q) (norms'.ln2 layer q) := by
  have hle : prompt.length ≤ (prompt++extension).length := by simp
  refine alike_of_plain fun column => ?_
  have hkeys := shown_same hcaches hmax _ next hq
    (second_norm_shown (prompt_request_prefills (hle.trans hmax)) hq (hle.trans hmax) hnext
      column _ _)
    (second_norm_shown (prompt_request_prefills hmax) (hq.trans_le hle) hmax hnext column _ _)
  rw [← gelu_one_zero, ← plain_added (norms.ln1 next q), hkeys, plain_added, gelu_one_zero]

theorem attention_alike (hnext : (next:ℕ) = layer+1) :
    RowAlike (order layer) (order' layer) q := by
  intro hid hhid hpos k hk
  by_contra hapart
  have hle : prompt.length ≤ (prompt++extension).length := by simp
  have hnorm (l : Fin gpt2NLayers) {t : ℕ} (ht : t ≤ q) :
      NormAlike (norms.ln1 l t) (norms'.ln1 l t) :=
    first_norm_alike hcaches hmax (ht.trans_lt hq) l
  have hkeys := shown_same hcaches hmax _ next hq
    (attention_shown (prompt_request_prefills (hle.trans hmax)) hq (hle.trans hmax) hhid hk hnext
      rfl rfl order zeroBlock _)
    (attention_shown (prompt_request_prefills hmax) (hq.trans_le hle) hmax hhid hk hnext
      (spread_alike _ _ _ (hnorm layer le_rfl)) (spread_alike _ _ _ (hnorm layer hk)) order'
      zeroBlock _)
  rw [spread_alike _ _ _ (hnorm next le_rfl)] at hkeys
  exact shown_weight_differs q hpos hapart (spread_injective _ _ _ (shown_weight_pos q _)
    (shown_weight_pos q _) (inv_injective hkeys))

end Needed

/-- The K and V of a prompt do not depend on what follows it if the same threads are late in the
first layer norms of the prompt's rows in both prefills, and in every layer but the last in the
second ones, and the lanes of each reduction of attention are together in both or in neither; and
only then. -/
theorem caches_prompt_iff (prompt extension : List ℤ)
    (hmax : (prompt++extension).length ≤ maxSeq) (norms norms' : PassNorms)
    (order order' : Fin gpt2NLayers → LaneOrders) :
    CachesPrompt norms norms' order order' prompt extension ↔
      PrefillAlike norms norms' order order' prompt.length := by
  constructor
  · intro hcaches
    refine ⟨fun layer t ht => first_norm_alike hcaches hmax ht layer,fun layer hlayer t ht => ?_,
      fun layer hlayer t ht => ?_⟩
    · have hnext : ((⟨layer+1,hlayer⟩ : Fin gpt2NLayers):ℕ) = layer+1 := rfl
      exact attention_alike hcaches hmax ht hnext
    · have hnext : ((⟨layer+1,hlayer⟩ : Fin gpt2NLayers):ℕ) = layer+1 := rfl
      exact second_norm_alike hcaches hmax ht hnext
  · exact prompt_cached

/-- Threads that are late in both prefills do not matter, nor does what goes differently in the
last layer when its K and V are cached. -/
theorem last_layer_free :
    CachesPrompt ⟨fun _ _ => lateCalls,fun _ _ => promptCalls,fun _ => promptCalls⟩
      ⟨fun _ _ => lateCalls,fun layer _ => if (layer:ℕ) = 11 then lateCalls else promptCalls,
        fun _ => lateCalls⟩
      (fun _ _ _ _ => PagedAttention.promptLanes)
      (fun layer _ _ _ => if (layer:ℕ) = 11 then lateLane else PagedAttention.promptLanes)
      [5,6] [7] := by
  refine (caches_prompt_iff [5,6] [7] (by decide) _ _ _ _).mpr ?_
  have hinner {layer : Fin gpt2NLayers} (hlayer : (layer:ℕ)+1 < gpt2NLayers) :
      (layer:ℕ) ≠ 11 := fun he => absurd (he ▸ hlayer) (lt_irrefl 12)
  refine ⟨fun _ _ _ _ _ => Iff.rfl,fun layer hlayer q _ hid _ _ k _ => ?_,
    fun layer hlayer t _ tid _ => ?_⟩
  · rw [if_neg (hinner hlayer)]
  · dsimp only
    rw [if_neg (hinner hlayer)]

/-- A late lane in the first layer, while the longer prompt is prefilled, changes the key that the
second layer caches for the second token. -/
theorem late_lane_changes_key :
    let norms : PassNorms := ⟨fun _ _ => promptCalls,fun _ _ => promptCalls,fun _ => promptCalls⟩
    let undo := ProbeWeights.spread promptCalls 1 0 0
    let W := (ProbeWeights.weights (ProbeWeights.positionRow 1 0 · 0) fun l => if l = 0 then
      ProbeWeights.attentionLayer 0 undo undo else ProbeWeights.idleLayer 0).launches norms
    ∃ resps resps' c c', W.prefill (launch (fun _ _ _ _ => PagedAttention.promptLanes) zeroBlock)
        [promptRequest [5,6]] zeroBuffers = some (resps,c) ∧
      W.prefill (launch (fun _ _ _ _ => lateLane) zeroBlock) [promptRequest [5,6,7]] zeroBuffers =
        some (resps',c') ∧
      ¬SameCached c.pool c'.pool ((promptRequest [5,6]).cache 1) ((promptRequest [5,6,7]).cache 1)
        2 := by
  intro norms undo W
  have hnext : ((1 : Fin gpt2NLayers):ℕ) = (0 : Fin gpt2NLayers)+1 := rfl
  have hquery : undo = ProbeWeights.positionSpread 1 0 (norms.ln1 0 1) 1 := rfl
  have hkey : undo = ProbeWeights.positionSpread 1 0 (norms.ln1 0 0) 0 := by
    simp [undo, norms, ProbeWeights.positionSpread, ProbeWeights.spread, ProbeWeights.one]
  have hhid : 0 < gpt2NHeads := by decide
  have htogether : PagedAttention.promptLanes.Together := by decide
  have hapart : ¬(PagedAttention.promptLanes.Together ↔ lateLane.Together) :=
    fun h => late_lane_apart (h.mp htogether)
  have hshown (prompt : List ℤ) (hlength : 1 < prompt.length) (hmax : prompt.length ≤ maxSeq) :=
    attention_shown (prompt_request_prefills hmax) hlength hmax hhid (Nat.zero_le 1) hnext hquery
      hkey
  refine shows_differ one_lt_two (fun he => ?_) (hshown [5,6] (by decide) (by decide) _ _ _)
    (hshown [5,6,7] (by decide) (by decide) _ _ _)
  exact ProbeWeights.shown_weight_differs 1 one_pos hapart
    (ProbeWeights.spread_injective _ _ _ (ProbeWeights.shown_weight_pos 1 _)
      (ProbeWeights.shown_weight_pos 1 _) (inv_injective he))

end MiniLlm

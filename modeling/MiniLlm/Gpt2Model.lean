import MiniLlm.RealKvAllocator

/-!
# The index computations of the model

What `GPT2Model::prefill` and `GPT2Model::decode` put into the small integer
tables that steer the kernels: token ids, positions, the slot each row is
appended to, and the flattened block tables. A failed assertion of
`physical_block_id` is the `none` case; the tables are as long as they need
to be.
-/

set_option autoImplicit false

namespace MiniLlm

/-- The tokens a prefill reads: `tokens[i]` for `i` below `prompts_len`. -/
def prefillTokens (reqs : List Request) : List ℤ :=
  reqs.flatMap fun r => r.tokens.take r.promptsLen

def prefillPositions (reqs : List Request) : List ℤ :=
  reqs.flatMap fun r => (List.range r.promptsLen).map Int.ofNat

/-- `tokens.back()` of each request, when it has one. -/
def decodeTokens (reqs : List Request) : List ℤ := reqs.filterMap fun r => r.tokens.getLast?

def decodePosition (r : Request) : ℤ := (r.tokens.length : ℤ)-1

def decodePositions (reqs : List Request) : List ℤ := reqs.map decodePosition

def tokenSlot (kv : PagedKVCache) (t : ℕ) : Option (ℕ × ℕ) :=
  (kv.physicalBlockId (t/defaultKvBlockSize)).map fun p => (p,t%defaultKvBlockSize)

/-- `make_tables`: the slots of all prompt tokens, request after request. -/
def makeTables (layer : Fin gpt2NLayers) (reqs : List Request) : Option (List (ℕ × ℕ)) :=
  (reqs.flatMap fun r => (List.range r.promptsLen).map (Prod.mk (r.cache layer))).mapM
    fun row => tokenSlot row.1 row.2

/-- The slot `decode` appends to: the one after the cached tokens. -/
def appendSlot (kv : PagedKVCache) : Option (ℕ × ℕ) := tokenSlot kv kv.numTokens

def decodeTables (layer : Fin gpt2NLayers) (reqs : List Request) : Option (List (ℕ × ℕ)) :=
  reqs.mapM fun r => appendSlot (r.cache layer)

/-- The loop that fills `h_flat_block_table` and `h_block_offsets`. -/
def flattenTables : List PagedKVCache → List ℕ → List ℕ → List ℕ × List ℕ
  | [], flat, offsets => (flat,offsets)
  | kv::kvs, flat, offsets => flattenTables kvs (flat++kv.blockTable) (offsets++[flat.length])

def layerCaches (layer : Fin gpt2NLayers) (reqs : List Request) : List PagedKVCache :=
  reqs.map fun r => r.cache layer

def flatBlockTable (layer : Fin gpt2NLayers) (reqs : List Request) : List ℕ :=
  (flattenTables (layerCaches layer reqs) [] []).1

def blockOffsets (layer : Fin gpt2NLayers) (reqs : List Request) : List ℕ :=
  (flattenTables (layerCaches layer reqs) [] []).2

/-- `h_num_tokens`: how many positions attention goes over. -/
def attendedTokens (layer : Fin gpt2NLayers) (reqs : List Request) : List ℕ :=
  (layerCaches layer reqs).map fun kv => kv.numTokens+1

theorem map_some {β γ : Type*} (f : β → Option γ) (xs : List β) (ys : List γ)
    (h : xs.mapM f = some ys) : List.Forall₂ (fun x y => f x = some y) xs ys := by
  induction xs generalizing ys with
  | nil =>
    obtain rfl : ys = [] := by simpa [eq_comm] using h
    exact .nil
  | cons x xs ih =>
    rw [List.mapM_cons] at h
    obtain ⟨y,hy,h⟩ := Option.bind_eq_some_iff.mp h
    obtain ⟨rest,hrest,h⟩ := Option.bind_eq_some_iff.mp h
    obtain rfl := Option.some.inj h
    exact .cons hy (ih rest hrest)

theorem map_is_some {β γ : Type*} (f : β → Option γ) (xs : List β)
    (h : ∀ x ∈ xs, ∃ y, f x = some y) : ∃ ys, xs.mapM f = some ys := by
  induction xs with
  | nil => exact ⟨[],rfl⟩
  | cons x xs ih =>
    obtain ⟨y,hy⟩ := h x List.mem_cons_self
    obtain ⟨ys,hys⟩ := ih fun z hz => h z (List.mem_cons_of_mem x hz)
    refine ⟨y::ys,?_⟩
    rw [List.mapM_cons, hy, hys]
    rfl

theorem token_slot_exists {kv : PagedKVCache} {n t : ℕ}
    (hroom : n ≤ kv.numBlocks*defaultKvBlockSize) (ht : t < n) :
    ∃ slot, tokenSlot kv t = some slot := by
  have hlt : t/defaultKvBlockSize < kv.blockTable.length :=
    Nat.div_lt_of_lt_mul (Nat.mul_comm _ defaultKvBlockSize ▸ ht.trans_le hroom)
  refine ⟨(kv.blockTable[t/defaultKvBlockSize],t%defaultKvBlockSize),?_⟩
  rw [tokenSlot, PagedKVCache.physicalBlockId, List.getElem?_eq_getElem hlt]
  rfl

theorem flatten_tables_eq (kvs : List PagedKVCache) (flat offsets : List ℕ) :
    flattenTables kvs flat offsets = (flat++kvs.flatMap PagedKVCache.blockTable,
      offsets++(List.range kvs.length).map fun j =>
        flat.length+((kvs.take j).flatMap PagedKVCache.blockTable).length) := by
  induction kvs generalizing flat offsets with
  | nil => simp [flattenTables]
  | cons kv kvs ih =>
    rw [flattenTables, ih]
    simp [List.range_succ_eq_map, Function.comp_def, Nat.add_assoc]

theorem flat_table_get (layer : Fin gpt2NLayers) (reqs : List Request) (j : ℕ) (r : Request)
    (hj : reqs[j]? = some r) : ∃ off, (blockOffsets layer reqs)[j]? = some off ∧
      ∀ b p, (r.cache layer).blockTable[b]? = some p →
        (flatBlockTable layer reqs)[off+b]? = some p := by
  have hcache : (layerCaches layer reqs)[j]? = some (r.cache layer) := by
    rw [layerCaches, List.getElem?_map, hj]
    rfl
  obtain ⟨hlt,hget⟩ := List.getElem?_eq_some_iff.mp hcache
  refine ⟨(((layerCaches layer reqs).take j).flatMap PagedKVCache.blockTable).length,?_,?_⟩
  · rw [blockOffsets, flatten_tables_eq]
    simp [hlt]
  · intro b p hb
    have hsplit : layerCaches layer reqs = (layerCaches layer reqs).take j++
        r.cache layer::(layerCaches layer reqs).drop (j+1) := by
      rw [← hget, List.cons_getElem_drop_succ, List.take_append_drop]
    have htables := congrArg (List.flatMap PagedKVCache.blockTable) hsplit
    rw [List.flatMap_append, List.flatMap_cons] at htables
    rw [flatBlockTable, flatten_tables_eq, List.nil_append, htables,
      List.getElem?_append_right (Nat.le_add_right _ b), Nat.add_sub_cancel_left,
      List.getElem?_append_left (List.getElem?_eq_some_iff.mp hb).1, hb]

end MiniLlm

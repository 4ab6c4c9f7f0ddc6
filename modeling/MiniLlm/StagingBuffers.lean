import MiniLlm.BatchSizes
import MiniLlm.Gpt2Model
import MiniLlm.SchedulerInvariant

/-!
# Batches that fit the staging buffers

The buffers of the model have room for sixteen requests of 1024 tokens, and
nobody checks the length of a prompt. The requests of a batch hold their
blocks in all twelve layers at the same time, so the pool is what bounds them
together.
-/

set_option autoImplicit false

namespace MiniLlm

open RealKvAllocator Scheduler

variable {α A B : Type*}

/-- The rows of the buffers, and the entries of `h_tokens` and its like. -/
def stagingRows : ℕ := maxBatchNum*maxSeq

/-- `max_blocks`, the entries of `d_block_table`. -/
def maxBlocks : ℕ := maxBatchNum*maxSeq/defaultKvBlockSize+1

/-- `seq_len` of a prefill. -/
def seqLen (batch : List Request) : ℕ := (batch.map Request.promptsLen).sum

def fillStores {β : Type*} (values : List β) : List (ℕ × β) := values.zipIdx.map Prod.swap

structure PrefillFits (batch : List Request) : Prop where
  nonempty : batch ≠ []
  requests : batch.length ≤ maxBatchNum
  total : seqLen batch ≤ maxBatchNum*maxSeq
  tokens : ∀ w ∈ fillStores (prefillTokens batch), w.1 < stagingRows
  positions : ∀ w ∈ fillStores (prefillPositions batch), w.1 < stagingRows
  tables : ∀ layer, ∃ slots, makeTables layer batch = some slots ∧
    ∀ w ∈ fillStores slots, w.1 < stagingRows
  bufX : ∀ row < seqLen batch, ∀ c < gpt2DModel, row*gpt2DModel+c < stagingRows*gpt2DModel
  bufQkv : ∀ row < seqLen batch, ∀ c < 3*gpt2DModel,
    row*(3*gpt2DModel)+c < stagingRows*gpt2DModel*3

structure DecodeFits (batch : List Request) : Prop where
  nonempty : batch ≠ []
  requests : batch.length ≤ maxBatchNum
  blockTable : ∀ layer, (flatBlockTable layer batch).length ≤ maxBlocks

/-- A new request with a prompt, `prompts_len + 15` of which is an `int`. -/
def IntPrompt (holds : Request → Prop) (req : Request) : Prop :=
  NewRequest holds req ∧ 0 < req.promptsLen ∧ req.promptsLen+15 < 2^31

section Pool

variable {totalBlocks totalCpuBlocks : ℕ}

theorem Custody.queue_blocks {s : Scheduler (RealKvAllocator α) B}
    (h : Custody totalBlocks totalCpuBlocks s.board) (p : Place) :
    ((s.queues p).map fun r => r.blocks.length).sum ≤ totalBlocks := by
  let own : Multiset (Place × Request) := (s.queues p).map (Prod.mk p)
  have hle : own ≤ s.held := by
    apply Multiset.coe_le.mpr
    apply List.Sublist.subperm
    rw [List.flatMap_def]
    exact List.sublist_flatten_of_mem (List.mem_map_of_mem p.mem_all)
  obtain ⟨others,hothers⟩ := Multiset.le_iff_exists_add.mp hle
  have hcard := congrArg Multiset.card h.gpu
  have htables : tables s.board.requests = tables own+tables others := by
    show tables s.held = _
    rw [hothers, tables, Multiset.add_bind]
    rfl
  have hown : Multiset.card (tables own) = ((s.queues p).map fun r => r.blocks.length).sum := by
    rw [tables, Multiset.card_bind]
    simp [own, Function.comp_def]
  rw [htables, Multiset.card_add, Multiset.card_add, Multiset.card_range, hown] at hcard
  omega

theorem held_by_batch (batch : List Request) (bpl : Request → ℕ)
    (h : ∀ r ∈ batch, ∀ kv ∈ r.layerKv, kv.numBlocks = bpl r) :
    (batch.map fun r => r.blocks.length).sum = (batch.map bpl).sum*gpt2NLayers := by
  rw [← List.sum_map_mul_right]
  congr 1
  exact List.map_congr_left fun r hr => blocks_length r (bpl r) (h r hr)

structure PrefillHeld (batch : List Request) : Prop where
  tokens : ∀ r ∈ batch, r.tokens.length = r.promptsLen
  blocks : ∀ r ∈ batch, ∀ kv ∈ r.layerKv, kv.numBlocks = prefillNeed r.promptsLen
  room : (batch.map fun r => prefillNeed r.promptsLen).sum*gpt2NLayers ≤ defaultTotalKvBlocks

structure DecodeHeld (batch : List Request) : Prop where
  room : ∀ layer, (flatBlockTable layer batch).length*gpt2NLayers ≤ defaultTotalKvBlocks

theorem flat_table_length (layer : Fin gpt2NLayers) (batch : List Request) :
    (flatBlockTable layer batch).length = (batch.map fun r => (r.cache layer).numBlocks).sum := by
  rw [flatBlockTable, flatten_tables_eq, List.nil_append, List.length_flatMap, layerCaches,
    List.map_map]
  rfl

theorem batch_prefill_held {s : Scheduler (RealKvAllocator α) B}
    (h : Custody defaultTotalKvBlocks defaultTotalCpuBlocks s.board) :
    PrefillHeld (s.queues .prefillBatch) := by
  have hplaced (r : Request) (hr : r ∈ s.queues .prefillBatch) :=
    h.placed (.prefillBatch,r) ((mem_held s .prefillBatch r).mpr hr)
  have hblocks (r : Request) (hr : r ∈ s.queues .prefillBatch) := (hplaced r hr).2.1.tables
  refine ⟨fun r hr => (hplaced r hr).1,hblocks,?_⟩
  have hqueue := h.queue_blocks .prefillBatch
  rwa [held_by_batch _ _ hblocks] at hqueue

theorem batch_decode_held {s : Scheduler (RealKvAllocator α) B}
    (h : Custody defaultTotalKvBlocks defaultTotalCpuBlocks s.board) :
    DecodeHeld (s.queues .decodeBatch) := by
  constructor
  intro layer
  have hblocks (r : Request) (hr : r ∈ s.queues .decodeBatch) (kv : PagedKVCache)
      (hkv : kv ∈ r.layerKv) : kv.numBlocks = (r.cache layer).numBlocks := by
    obtain ⟨n,_,hshape,_⟩ := h.placed (.decodeBatch,r) ((mem_held s .decodeBatch r).mpr hr)
    rw [hshape.tables kv hkv, hshape.tables _ (r.cache_mem layer)]
  have hqueue := h.queue_blocks .decodeBatch
  rwa [held_by_batch _ _ hblocks, ← flat_table_length] at hqueue

end Pool

section Fits

variable {batch : List Request}

theorem seq_len_le (batch : List Request) :
    seqLen batch ≤ (batch.map fun r => prefillNeed r.promptsLen).sum*defaultKvBlockSize := by
  rw [seqLen, ← List.sum_map_mul_right]
  apply List.sum_le_sum
  intro r _
  simp only [prefillNeed, defaultKvBlockSize]
  omega

theorem fill_stores_bound {β : Type*} (values : List β) (w : ℕ × β) (h : w ∈ fillStores values) :
    w.1 < values.length := by
  obtain ⟨x,hx,rfl⟩ := List.mem_map.mp h
  exact (List.mem_zipIdx' hx).1

theorem prefill_tokens_length (h : PrefillHeld batch) :
    (prefillTokens batch).length = seqLen batch := by
  rw [prefillTokens, List.length_flatMap, seqLen]
  congr 1
  apply List.map_congr_left
  intro r hr
  rw [List.length_take, h.tokens r hr, Nat.min_self]

theorem prefill_positions_length (batch : List Request) :
    (prefillPositions batch).length = seqLen batch := by
  simp [prefillPositions, List.length_flatMap, seqLen]

theorem make_tables_some (h : PrefillHeld batch) (layer : Fin gpt2NLayers) :
    ∃ slots, makeTables layer batch = some slots ∧ slots.length = seqLen batch := by
  have hlen : (batch.flatMap fun r =>
      (List.range r.promptsLen).map (Prod.mk (r.cache layer))).length = seqLen batch := by
    simp [List.length_flatMap, seqLen]
  have hrows : ∀ row ∈ batch.flatMap fun r =>
      (List.range r.promptsLen).map (Prod.mk (r.cache layer)),
      ∃ slot, tokenSlot row.1 row.2 = some slot := by
    intro row hrow
    obtain ⟨r,hr,hrow⟩ := List.mem_flatMap.mp hrow
    obtain ⟨t,ht,rfl⟩ := List.mem_map.mp hrow
    have hblocks := h.blocks r hr _ (r.cache_mem layer)
    have hroom : r.promptsLen ≤ (r.cache layer).numBlocks*defaultKvBlockSize := by
      rw [hblocks]
      simp only [prefillNeed, defaultKvBlockSize]
      omega
    exact token_slot_exists hroom (List.mem_range.mp ht)
  obtain ⟨slots,hslots⟩ := map_is_some _ _ hrows
  exact ⟨slots,hslots,(map_some _ _ _ hslots).length_eq.symm.trans hlen⟩

theorem prefill_fits (h : PrefillHeld batch) (hsized : BatchSized batch) : PrefillFits batch := by
  have hseq : seqLen batch ≤ stagingRows := by
    have hle := seq_len_le batch
    have hroom := h.room
    simp only [stagingRows, maxBatchNum, maxSeq, gpt2NLayers, defaultTotalKvBlocks,
      defaultKvBlockSize] at *
    omega
  have hstores {β : Type} (values : List β) (hlen : values.length = seqLen batch) :
      ∀ w ∈ fillStores values, w.1 < stagingRows :=
    fun w hw => lt_of_lt_of_le (hlen ▸ fill_stores_bound values w hw) hseq
  refine ⟨hsized.nonempty,hsized.requests,hseq,hstores _ (prefill_tokens_length h),
    hstores _ (prefill_positions_length batch),fun layer => ?_,?_,?_⟩
  · obtain ⟨slots,hslots,hlen⟩ := make_tables_some h layer
    exact ⟨slots,hslots,hstores slots hlen⟩
  · intro row hrow c hc
    simp only [gpt2DModel] at *
    omega
  · intro row hrow c hc
    simp only [gpt2DModel] at *
    omega

theorem decode_fits (h : DecodeHeld batch) (hsized : BatchSized batch) : DecodeFits batch := by
  refine ⟨hsized.nonempty,hsized.requests,fun layer => ?_⟩
  have hroom := h.room layer
  simp only [maxBlocks, maxBatchNum, maxSeq, gpt2NLayers, defaultTotalKvBlocks,
    defaultKvBlockSize] at *
  omega

end Fits

section Runs

variable {B : Type*}

theorem calls_held (be : InferenceBackend B) {device : Device α} {b : B} {async : Bool}
    {s : Scheduler (RealKvAllocator α) B}
    (h : Visited (realKvAllocator α) be Anything NewRequest (startedReal device b async) s) :
    (∀ batch ∈ s.prefillCalls, PrefillHeld batch) ∧
      ∀ batch ∈ s.decodeCalls, DecodeHeld batch := by
  apply visited_each_call h rfl rfl
  intro t ht
  have hcustody := visited_custody ht
  exact ⟨batch_prefill_held hcustody,batch_decode_held hcustody⟩

/-- Whenever the model is called in a run without a stray store, its buffers are long enough for
the batch. -/
theorem batches_fit (be : InferenceBackend B) (device : Device α) (b : B) (async : Bool)
    (c : Control) (s : Scheduler (RealKvAllocator α) B)
    (h : Reached (realKvAllocator α) be IntPrompt (startedReal device b async) c s)
    (_ : s.kvAllocator.device.faulted = false) :
    (∀ batch ∈ s.prefillCalls, PrefillFits batch) ∧
      ∀ batch ∈ s.decodeCalls, DecodeFits batch := by
  have hsettled : (startedReal device b async : Scheduler (RealKvAllocator α) B).Settled :=
    started_settled _ b async
  have hvisited := (reached_visited (answers_anything be) hsettled h).2
  obtain ⟨hprefill,hdecode⟩ := calls_held be (steps_widen hvisited fun _ _ => And.left)
  obtain ⟨_,hsized⟩ := reached_sized hsettled ⟨nofun,nofun⟩ h
  exact ⟨fun batch hb => prefill_fits (hprefill batch hb) (hsized.1 batch hb),
    fun batch hb => decode_fits (hdecode batch hb) (hsized.2 batch hb)⟩

theorem one_decoded_fits : oneDecoded.prefillCalls.length = 1 ∧
    oneDecoded.decodeCalls.length = 1 ∧
    (∀ batch ∈ oneDecoded.prefillCalls, PrefillFits batch) ∧
      ∀ batch ∈ oneDecoded.decodeCalls, DecodeFits batch := by
  refine ⟨by decide +kernel,by decide +kernel,?_⟩
  refine batches_fit mockBackend freshDevice () true .top oneDecoded ?_ (by decide +kernel)
  refine .body oneServed (.body oneSubmitted ?_ rfl trivial ?_) ?_ trivial ?_
  · exact .submit _ _ _ .start ⟨one_request_new,by decide,by decide⟩
  · decide +kernel
  · decide +kernel
  · decide +kernel

end Runs

end MiniLlm

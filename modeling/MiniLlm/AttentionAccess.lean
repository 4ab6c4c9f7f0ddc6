import MiniLlm.CausalAttention
import MiniLlm.DeviceServing

/-!
# What the attention kernels touch

The append kernel and the two attention kernels check no index. The pool is
addressed through block tables that the host copies to the device, and the
scores of a decode are in shared memory of a fixed size. Here every access of
the three is placed: in its buffer, in the rows or the blocks of the request
that it is made for, and no two threads store to one address.
-/

set_option autoImplicit false

namespace MiniLlm

open FlatMemory BlockReduction RealKvAllocator Scheduler Gpt2Weights

section Append

def poolFloats : ℕ := defaultTotalKvBlocks*blockSlotSize

/-- The accesses of a launch of `append_prefill_kv`. -/
structure AppendInside (slots : List (ℕ × ℕ)) : Prop where
  pool : ∀ s ∈ appendStores 0 slots, s.1 < poolFloats
  rows : ∀ s ∈ appendStores 0 slots, s.2 < stagingRows*(3*gpt2DModel)
  /-- The vectors of a thread start at multiples of four floats. -/
  vectors : ∀ row slot col, (4 ∣ dstBase slot+col*4 ∧ 4 ∣ keySource row (col*4)) ∧
    4 ∣ vPool+(dstBase slot+col*4) ∧ 4 ∣ valueSource row (col*4)
  /-- No two threads store to one address. -/
  apart : ∀ (row row' : ℕ) slot slot', slots[row]? = some slot → slots[row']? = some slot' →
    ∀ col < vecPerToken, ∀ col' < vecPerToken, ∀ s ∈ appendThread row slot col,
      ∀ s' ∈ appendThread row' slot' col', s.1 = s'.1 → row = row' ∧ col = col'

theorem append_thread_mem {row col : ℕ} {slot s : ℕ × ℕ} (h : s ∈ appendThread row slot col) :
    ∃ i < 4, s = (dstBase slot+(col*4+i),keySource row (col*4+i)) ∨
      s = (vPool+(dstBase slot+(col*4+i)),valueSource row (col*4+i)) := by
  rcases List.mem_append.mp h with h | h
  · obtain ⟨i,hi,rfl⟩ := List.mem_map.mp h
    exact ⟨i,List.mem_range.mp hi,.inl rfl⟩
  · obtain ⟨i,hi,rfl⟩ := List.mem_map.mp h
    exact ⟨i,List.mem_range.mp hi,.inr rfl⟩

theorem append_vectors (row : ℕ) (slot : ℕ × ℕ) (col : ℕ) :
    (4 ∣ dstBase slot+col*4 ∧ 4 ∣ keySource row (col*4)) ∧
      4 ∣ vPool+(dstBase slot+col*4) ∧ 4 ∣ valueSource row (col*4) := by
  simp only [dstBase, keySource, valueSource, vPool, defaultTotalKvBlocks, defaultKvBlockSize,
    gpt2DModel]
  omega

theorem append_inside {slots : List (ℕ × ℕ)} (hpool : ∀ slot ∈ slots, InPool slot)
    (hd : slots.Nodup) (hrows : slots.length ≤ stagingRows) : AppendInside slots where
  pool s hs := by
    obtain ⟨k,slot,hk,c,hc,rfl | rfl⟩ := (append_stores_mem 0 slots s).mp hs
    · have hin := hpool slot (List.mem_of_getElem? hk)
      have hkey := key_below_values hin hc
      have hvalue := value_below_end hin hc
      exact hkey.trans ((Nat.le_add_right _ _).trans_lt hvalue)
    · exact value_below_end (hpool slot (List.mem_of_getElem? hk)) hc
  rows s hs := by
    obtain ⟨k,slot,hk,c,hc,hs⟩ := (append_stores_mem 0 slots s).mp hs
    have hlt : k < stagingRows := (List.getElem?_eq_some_iff.mp hk).1.trans_le hrows
    rcases hs with rfl | rfl
    · simp only [keySource, gpt2DModel] at *
      omega
    · simp only [valueSource, gpt2DModel] at *
      omega
  vectors := append_vectors
  apart row row' slot slot' hrow hrow' col hcol col' hcol' s hs s' hs' he := by
    have hin := hpool slot (List.mem_of_getElem? hrow)
    have hin' := hpool slot' (List.mem_of_getElem? hrow')
    obtain ⟨i,hi,hs⟩ := append_thread_mem hs
    obtain ⟨i',hi',hs'⟩ := append_thread_mem hs'
    have hc : col*4+i < gpt2DModel := by
      simp only [vecPerToken, gpt2DModel] at *
      omega
    have hc' : col'*4+i' < gpt2DModel := by
      simp only [vecPerToken, gpt2DModel] at *
      omega
    have hkey := key_below_values hin hc
    have hkey' := key_below_values hin' hc'
    have hsame (ha : dstBase slot+(col*4+i) = dstBase slot'+(col'*4+i')) :
        row = row' ∧ col = col' := by
      obtain ⟨rfl,hcell⟩ := key_address_injective hin hin' hc hc' ha
      have hlt := (List.getElem?_eq_some_iff.mp hrow).1
      exact ⟨(List.getElem?_inj hlt hd).mp (hrow.trans hrow'.symm),by omega⟩
    rcases hs with rfl | rfl <;> rcases hs' with rfl | rfl
    · exact hsame he
    · exact absurd he (by dsimp only; omega)
    · exact absurd he (by dsimp only; omega)
    · exact hsame (Nat.add_left_cancel he)

end Append

section Prefill

def promptLaunches : List Request → ℕ → List (ℕ × ℕ)
  | [], _ => []
  | r::reqs, before => (before,r.promptsLen)::promptLaunches reqs (before+r.promptsLen)

theorem prompt_launches_bound {reqs : List Request} {before : ℕ} {launch : ℕ × ℕ}
    (h : launch ∈ promptLaunches reqs before) :
    before ≤ launch.1 ∧ launch.1+launch.2 ≤ before+seqLen reqs := by
  induction reqs generalizing before with
  | nil => exact absurd h List.not_mem_nil
  | cons r reqs ih =>
    have htotal : seqLen (r::reqs) = r.promptsLen+seqLen reqs := by
      simp [seqLen]
    rcases List.mem_cons.mp h with rfl | h
    · dsimp only
      omega
    · have hlater := ih h
      omega

def InRows (w before n address : ℕ) : Prop := before ≤ address/w ∧ address/w < before+n

theorem in_rows_behind {w n a : ℕ} (hw : 0 < w) (h : a/w < n) (before : ℕ) :
    InRows w before n (before*w+a) := by
  have hdiv : (before*w+a)/w = before+a/w := by
    rw [Nat.add_comm, Nat.add_mul_div_right _ _ hw, Nat.add_comm]
  rw [InRows, hdiv]
  exact ⟨Nat.le_add_right _ _,Nat.add_lt_add_left h _⟩

/-- Where `K_shared` starts in shared memory, in floats. -/
def keyTile : ℕ := FlashAttention.br*gpt2DHead

def valueTile : ℕ := keyTile+FlashAttention.bc*gpt2DHead

/-- One vector of shared memory, filled with one of `buf_qkv` or with zeros, both aligned. -/
def VectorLoad (tile before : ℕ) (loads : List (ℕ × Option ℕ)) : Prop :=
  ∃ dst src, 4 ∣ tile+dst ∧ 4 ∣ before*(3*gpt2DModel)+src ∧
    (loads = (List.range 4).map (fun j => (dst+j,some (src+j))) ∨
      loads = (List.range 4).map fun j => (dst+j,none))

/-- The accesses of a launch of `flashattention_prefill` for `n` rows behind others. -/
structure PromptInside (before n : ℕ) : Prop where
  rows : before+n ≤ stagingRows
  reads : ∀ a ∈ FlashAttention.gridReads n,
    InRows (3*gpt2DModel) before n (before*(3*gpt2DModel)+a)
  stores : ∀ qkv scale order shared, ∀ w ∈ FlashAttention.gridStores qkv n scale order shared,
    InRows gpt2DModel before n (before*gpt2DModel+w.1)
  /-- The tiles in shared memory. -/
  tiles : ∀ address kStart, ∀ w ∈ FlashAttention.tileLoads address kStart,
    w.1 < FlashAttention.bc*gpt2DHead
  /-- The four floats that a turn of a thread loads and stores at once. -/
  vectors : ∀ hid kStart i,
    VectorLoad keyTile before
        (FlashAttention.vectorLoads (FlashAttention.keyAddress n hid) kStart i) ∧
      VectorLoad valueTile before
        (FlashAttention.vectorLoads (FlashAttention.valueAddress n hid) kStart i)

theorem tile_load_inside {address : ℕ → ℕ → Option ℕ} {kStart : ℕ} {w : ℕ × Option ℕ}
    (h : w ∈ FlashAttention.tileLoads address kStart) : w.1 < FlashAttention.bc*gpt2DHead := by
  obtain ⟨tid,_,h⟩ := List.mem_flatMap.mp h
  obtain ⟨i,hi,h⟩ := List.mem_flatMap.mp h
  obtain ⟨j,hj,rfl⟩ := List.mem_map.mp h
  have hj4 := List.mem_range.mp hj
  have hlt := ((mem_strided _ tid i (by decide) (Nat.le_add_left _ tid)).mp hi).1
  simp only [FlashAttention.kvVecElems, FlashAttention.dHeadVec4, FlashAttention.bc, gpt2DHead,
    gpt2DModel, gpt2NHeads] at *
  omega

/-- A row of `buf_qkv` starts at a multiple of four floats, and so does a head in it. -/
theorem vector_load {tile before n col kStart : ℕ} {address : ℕ → ℕ → Option ℕ}
    (htile : 4 ∣ tile) (hcol : 4 ∣ col)
    (haddress : ∀ row d, address row d = if row < n then some (row*3*gpt2DModel+col+d) else none)
    (i : ℕ) : VectorLoad tile before (FlashAttention.vectorLoads address kStart i) := by
  let row := kStart+i/FlashAttention.dHeadVec4
  let dd := i%FlashAttention.dHeadVec4*4
  refine ⟨i/FlashAttention.dHeadVec4*gpt2DHead+dd,row*3*gpt2DModel+col+dd,?_,?_,?_⟩
  · simp only [dd, gpt2DHead, gpt2DModel, gpt2NHeads]
    omega
  · simp only [dd, gpt2DModel]
    omega
  · rw [FlashAttention.vectorLoads]
    by_cases hrow : row < n
    · left
      simp only [haddress, row, dd, if_pos hrow, Nat.add_assoc]
    · right
      simp only [haddress, row, dd, if_neg hrow, Nat.add_assoc]

theorem prompt_inside {before n : ℕ} (h : before+n ≤ stagingRows) : PromptInside before n where
  rows := h
  reads _ ha := in_rows_behind (by decide) (FlashAttention.grid_reads_rows ha) before
  stores qkv scale order shared _ hw :=
    in_rows_behind (by decide) (FlashAttention.grid_stores_rows qkv n scale order shared hw) before
  tiles _ _ _ hw := tile_load_inside hw
  vectors hid kStart i := by
    have hkey (row d : ℕ) : FlashAttention.keyAddress n hid row d =
        if row < n then some (row*3*gpt2DModel+(gpt2DModel+hid*gpt2DHead)+d) else none := by
      rw [FlashAttention.keyAddress, ← Nat.add_assoc]
    have hvalue (row d : ℕ) : FlashAttention.valueAddress n hid row d =
        if row < n then some (row*3*gpt2DModel+(2*gpt2DModel+hid*gpt2DHead)+d) else none := by
      rw [FlashAttention.valueAddress, ← Nat.add_assoc]
    have hhead : 4 ∣ hid*gpt2DHead := Dvd.dvd.mul_left (by decide) hid
    exact ⟨vector_load (by decide) (Nat.dvd_add (by decide) hhead) hkey i,
      vector_load (by decide) (Nat.dvd_add (by decide) hhead) hvalue i⟩

/-- What a prefill touches for a batch. -/
structure PrefillAccess (reqs : List Request) : Prop where
  append : ∀ layer, ∃ slots, makeTables layer reqs = some slots ∧ AppendInside slots
  attention : ∀ launch ∈ promptLaunches reqs 0, PromptInside launch.1 launch.2

theorem prefill_access {reqs : List Request} (hapart : BlocksApart reqs) (hheld : PrefillHeld reqs)
    (hsized : BatchSized reqs) : PrefillAccess reqs where
  append layer := by
    have htotal := (prefill_fits hheld hsized).total
    obtain ⟨slots,hslots,hlength⟩ := make_tables_some hheld layer
    have hat : SlotsAt (placed reqs) layer (promptRows (placed reqs) (List.range reqs.length))
        slots := by
      apply make_tables_slots
      rw [map_placed]
      exact hslots
    have hrows : slots.length ≤ stagingRows := hlength.trans_le htotal
    exact ⟨slots,hslots,append_inside (slots_in_pool hapart.tables hat)
      (slots_nodup hapart.tables hat (prompt_rows_nodup List.nodup_range)) hrows⟩
  attention launch hlaunch := by
    have htotal := (prefill_fits hheld hsized).total
    have hbound := (prompt_launches_bound hlaunch).2
    rw [Nat.zero_add] at hbound
    exact prompt_inside (hbound.trans htotal)

end Prefill

section Decode

/-- The accesses of a block of `paged_decode_attention` for a head of the request `r`, which is
the `j`th of the batch. -/
structure TokenInside (reqs : List Request) (layer : Fin gpt2NLayers) (j head : ℕ) (r : Request)
    (req : PagedAttention.Pointers) : Prop where
  /-- As many tokens as the request has cached, with the one that was just appended. -/
  tokens : req.numTokens = (r.cache layer).numTokens+1
  /-- The scores in shared memory. -/
  scores : req.numTokens ≤ maxSeq
  /-- The entries of `d_block_table` are behind the offset and name blocks of the request. -/
  table : ∃ off, (blockOffsets layer reqs)[j]? = some off ∧ ∀ t < req.numTokens,
    off+t/defaultKvBlockSize < (flatBlockTable layer reqs).length ∧
    req.table (t/defaultKvBlockSize) ∈ (r.cache layer).blockTable
  keys : ∀ t < req.numTokens, ∀ d < gpt2DHead, PagedAttention.keyPointer req head t+d < vPool
  values : ∀ t < req.numTokens, ∀ d < gpt2DHead,
    vPool ≤ PagedAttention.valuePointer req head t+d ∧
      PagedAttention.valuePointer req head t+d < poolFloats
  query : ∀ d < gpt2DHead, InRows (3*gpt2DModel) j 1 (req.query+d)
  out : ∀ d < gpt2DHead, InRows gpt2DModel j 1 (req.out+d)

variable {reqs : List Request} {layer : Fin gpt2NLayers} {j head : ℕ} {r : Request}

theorem token_inside (hapart : BlocksApart reqs) (hready : TokenReady r)
    (hscores : (r.cache layer).numTokens+1 ≤ maxSeq) (hj : reqs[j]? = some r)
    (hhead : head < gpt2NHeads) (blockTable offsets numTokens : Memory ℕ) :
    TokenInside reqs layer j head r
      (pointersOf reqs layer blockTable offsets numTokens j head) := by
  have htokens := pointers_tokens layer blockTable offsets numTokens head hj
  have hslot {t : ℕ} (ht : t < (r.cache layer).numTokens+1) :
      ∃ slot, tokenSlot (r.cache layer) t = some slot ∧ InPool slot := by
    obtain ⟨slot,hslot⟩ := token_slot_exists (hready.room layer) ht
    have hkey : keySlot (placed reqs) (j,layer,t) = some slot := by
      rw [keySlot, placed_get hj]
      exact hslot
    exact ⟨slot,hslot,key_slot_in_pool hapart.tables hkey⟩
  refine ⟨htokens,htokens ▸ hscores,?_,?_,?_,?_,?_⟩
  · obtain ⟨off,hoff,htable⟩ := flat_table_get layer reqs j r hj
    refine ⟨off,hoff,fun t ht => ?_⟩
    obtain ⟨slot,hslot,_⟩ := hslot (htokens ▸ ht)
    obtain ⟨hblock,_⟩ := token_slot_some hslot
    have hentry := htable _ _ hblock
    rw [pointers_table layer blockTable offsets numTokens head hoff hentry]
    exact ⟨(List.getElem?_eq_some_iff.mp hentry).1,List.mem_of_getElem? hblock⟩
  · intro t ht d hd
    obtain ⟨slot,hslot,hin⟩ := hslot (htokens ▸ ht)
    rw [(pointers_slot layer blockTable offsets numTokens head hj hslot d).1]
    exact key_below_values hin (component_lt _ _ hhead hd)
  · intro t ht d hd
    obtain ⟨slot,hslot,hin⟩ := hslot (htokens ▸ ht)
    rw [(pointers_slot layer blockTable offsets numTokens head hj hslot d).2]
    exact ⟨Nat.le_add_right _ _,value_below_end hin (component_lt _ _ hhead hd)⟩
  · intro d hd
    have hcell := component_lt head d hhead hd
    show j ≤ (j*3*gpt2DModel+head*gpt2DHead+d)/(3*gpt2DModel) ∧
      (j*3*gpt2DModel+head*gpt2DHead+d)/(3*gpt2DModel) < j+1
    simp only [gpt2DHead, gpt2DModel, gpt2NHeads] at *
    omega
  · intro d hd
    have hcell := component_lt head d hhead hd
    show j ≤ (j*gpt2DModel+head*gpt2DHead+d)/gpt2DModel ∧
      (j*gpt2DModel+head*gpt2DHead+d)/gpt2DModel < j+1
    simp only [gpt2DHead, gpt2DModel, gpt2NHeads] at *
    omega

/-- What a decode touches for a batch, whatever the tables on the device held before. -/
structure DecodeAccess (reqs : List Request) : Prop where
  append : ∀ layer, ∃ slots, decodeTables layer reqs = some slots ∧ AppendInside slots
  table : ∀ layer, (flatBlockTable layer reqs).length ≤ maxBlocks
  attention : ∀ layer j r head, reqs[j]? = some r → head < gpt2NHeads →
    ∀ blockTable offsets numTokens, TokenInside reqs layer j head r
      (pointersOf reqs layer blockTable offsets numTokens j head)

theorem decode_access (hapart : BlocksApart reqs) (hready : ∀ r ∈ reqs, TokenReady r)
    (hheld : DecodeHeld reqs) (hwithin : DecodeWithin reqs) (hsized : BatchSized reqs) :
    DecodeAccess reqs where
  append layer := by
    have hslots : ∃ slots, decodeTables layer reqs = some slots := map_is_some _ _ fun r hr =>
      token_slot_exists ((hready r hr).room layer) (Nat.lt_succ_self _)
    obtain ⟨slots,hslots⟩ := hslots
    have hat : SlotsAt (placed reqs) layer
        (nextRows (placed reqs) (List.range reqs.length) layer) slots := by
      apply decode_tables_slots
      rw [map_placed]
      exact hslots
    have hlength : slots.length = reqs.length := by
      rw [← hat.length_eq, nextRows, List.length_map, List.length_range]
    have hrows : slots.length ≤ stagingRows :=
      hlength.trans_le (Kernels.DeviceModel.batch_rows hsized)
    exact ⟨slots,hslots,append_inside (slots_in_pool hapart.tables hat)
      (slots_nodup hapart.tables hat (next_rows_nodup List.nodup_range)) hrows⟩
  table := (decode_fits hheld hsized).blockTable
  attention layer _ r _ hj hhead := by
    have hr := List.mem_of_getElem? hj
    exact token_inside hapart (hready r hr) (hwithin.scores r hr _ (r.cache_mem layer)) hj hhead

end Decode

section Runs

variable {α B : Type*}

theorem BlocksApart.left {reqs others : List Request} (h : BlocksApart (reqs++others)) :
    BlocksApart reqs where
  nodup := by
    have hnodup := h.nodup
    rw [List.flatMap_append] at hnodup
    exact hnodup.of_append_left
  inPool p hp := by
    apply h.inPool
    rw [List.flatMap_append]
    exact List.mem_append_left _ hp

/-- In every run whose lines are within the tables and whose copies all went where they should,
with any backend that answers with tokens, whatever the append kernel and the attention kernels
touch is where it should be. -/
theorem attention_inside {be : InferenceBackend B} (hbe : be.Answers VocabularyAnswer)
    (device : Device α) (b : B) (async : Bool) {c : Control}
    {s : Scheduler (RealKvAllocator α) B}
    (h : Reached (realKvAllocator α) be BoundedRequest (startedReal device b async) c s)
    (_ : s.kvAllocator.device.faulted = false) :
    (∀ batch ∈ s.prefillCalls, PrefillAccess batch) ∧
      ∀ batch ∈ s.decodeCalls, DecodeAccess batch := by
  have hsettled : (startedReal device b async : Scheduler (RealKvAllocator α) B).Settled :=
    started_settled _ b async
  obtain ⟨_,hvisited⟩ := reached_visited hbe hsettled h
  obtain ⟨_,hsized⟩ := reached_sized hsettled ⟨nofun,nofun⟩ h
  obtain ⟨hprefill,hdecode⟩ := visited_each_call hvisited rfl rfl
    (P := fun batch => BatchSized batch → PrefillAccess batch)
    (Q := fun batch => BatchSized batch → DecodeAccess batch) fun t ht => by
      have hcustody := visited_custody (steps_widen ht fun _ _ hreq => hreq.1.1)
      have hplaces := (visited_each EntriesWithin Sheltered submit_sheltered
        (fun _ _ _ _ _ _ _ ha hp m => move_sheltered hp ha m)
        (steps_widen ht fun _ _ hreq => hreq.2) (new_entries device)).2
      exact ⟨prefill_access (hcustody.batch_apart .prefillBatch).left
          (batch_prefill_held hcustody),
        decode_access (hcustody.batch_apart .decodeBatch).left
          (fun r hr => hcustody.token_ready hr) (batch_decode_held hcustody)
          (batch_decode_within (hplaces .decodeBatch))⟩
  exact ⟨fun batch hbatch => hprefill batch hbatch (hsized.1 batch hbatch),
    fun batch hbatch => hdecode batch hbatch (hsized.2 batch hbatch)⟩

end Runs

section Witness

def constantBackend : InferenceBackend Unit where
  prefill b reqs := (reqs.map fun r => ⟨r.requestId,7,false⟩,b)
  decode b reqs := (reqs.map fun r => ⟨r.requestId,7,false⟩,b)

theorem constant_answers : constantBackend.Answers VocabularyAnswer := by
  have hseven (batch : List Request) (i : ℕ) (r : Request) (resp : Response)
      (hresp : (batch.map fun r => (⟨r.requestId,7,false⟩ : Response))[i]? = some resp) :
      VocabularyAnswer r resp := by
    obtain ⟨q,_,rfl⟩ := List.mem_map.mp (List.mem_of_getElem? hresp)
    show (0:ℤ) ≤ 7 ∧ (7:ℤ) < gpt2VocabSize
    decide
  constructor
  · exact fun _ batch i r resp _ hresp => hseven batch i r resp hresp
  · exact fun _ batch i r resp _ hresp => hseven batch i r resp hresp

def constantServed : Scheduler (RealKvAllocator ℤ) Unit :=
  oneSubmitted.workerLoopBody (realKvAllocator ℤ) constantBackend

def constantDecoded : Scheduler (RealKvAllocator ℤ) Unit :=
  constantServed.workerLoopBody (realKvAllocator ℤ) constantBackend

theorem constant_inside : constantDecoded.prefillCalls.length = 1 ∧
    constantDecoded.decodeCalls.length = 1 ∧
    (∀ batch ∈ constantDecoded.prefillCalls, PrefillAccess batch) ∧
      ∀ batch ∈ constantDecoded.decodeCalls, DecodeAccess batch := by
  have hsubmitted : Reached (realKvAllocator ℤ) constantBackend BoundedRequest
      (startedReal freshDevice () true) .top oneSubmitted :=
    .submit _ _ _ .start ⟨⟨one_request_new,by decide⟩,1,[5],.inr ⟨by decide,by decide⟩,rfl⟩
  have hserved := hsubmitted.body oneSubmitted rfl trivial (by decide +kernel)
  have hdecoded := hserved.body constantServed (by decide +kernel) trivial
    (by decide +kernel)
  exact ⟨by decide +kernel,by decide +kernel,
    attention_inside constant_answers freshDevice () true hdecoded (by decide +kernel)⟩

end Witness

end MiniLlm

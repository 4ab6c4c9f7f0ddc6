import MiniLlm.StagedScatter

/-!
# Swap-ins after a history of calls

`swap_in` takes its request's CPU storage for one contiguous range. The CPU
free list is a stack which every swap-in permutes, so whether it is depends
on all earlier calls. The history keeps, for each completed swap-out, the
request and the GPU pool as they were when it started.
-/

set_option autoImplicit false

namespace MiniLlm

open FlatMemory RealKvAllocator

variable {ι α : Type*}

structure SwapHistory (ι α : Type*) where
  alloc : RealKvAllocator α
  request : ι → Request
  swappedFrom : UInt64 → Option (Request × Memory α)

inductive AllocatorCall (ι α : Type*) where
  | allocatePrefill (i : ι)
  | allocateDecode (i : ι)
  | freeRequest (i : ι)
  | swapOut (i : ι)
  | swapIn (i : ι)
  /-- The cached token count of a request changes between calls. -/
  | setNumTokens (i : ι) (n : ℕ)
  /-- So does the GPU pool, which the kernels write. -/
  | writePool (pool : Memory α)

variable [DecidableEq ι]

namespace SwapHistory

def answer (w : SwapHistory ι α) (i : ι) (out : Outcome (RealKvAllocator α)) : SwapHistory ι α :=
  { w with alloc := out.alloc, request := Function.update w.request i out.req }

def call (w : SwapHistory ι α) : AllocatorCall ι α → SwapHistory ι α
  | .allocatePrefill i => w.answer i (w.alloc.allocatePrefill (w.request i))
  | .allocateDecode i => w.answer i (w.alloc.allocateDecode (w.request i))
  | .freeRequest i =>
    let out := w.alloc.freeRequest (w.request i)
    { w with alloc := out.1, request := Function.update w.request i out.2 }
  | .swapOut i =>
    let out := w.alloc.swapOut (w.request i)
    { w.answer i out with
      swappedFrom := if out.ok then
          Function.update w.swappedFrom (w.request i).requestId
            (some (w.request i,w.alloc.device.pool))
        else w.swappedFrom }
  | .swapIn i => w.answer i (w.alloc.swapIn (w.request i))
  | .setNumTokens i n =>
    let q := (w.request i).mapCaches (·.setNumTokens n)
    { w with request := Function.update w.request i q }
  | .writePool pool =>
    { w with alloc := { w.alloc with device := { w.alloc.device with pool := pool } } }

def Allowed (w : SwapHistory ι α) : AllocatorCall ι α → Prop
  | .swapOut i => (w.request i).kvResidency = .gpu
  | .swapIn i => w.alloc.isSwapped (w.request i) = true
  | _ => True

instance (w : SwapHistory ι α) (c : AllocatorCall ι α) : Decidable (w.Allowed c) := by
  cases c <;> unfold Allowed <;> infer_instance

def AllAllowed : SwapHistory ι α → List (AllocatorCall ι α) → Prop
  | _, [] => True
  | w, c::cs => w.Allowed c ∧ (w.call c).AllAllowed cs

instance decidableAllAllowed (w : SwapHistory ι α) (cs : List (AllocatorCall ι α)) :
    Decidable (w.AllAllowed cs) :=
  match cs with
  | [] => isTrue trivial
  | c::cs => @instDecidableAnd _ _ _ (decidableAllAllowed (w.call c) cs)

structure Fresh (w : SwapHistory ι α) : Prop where
  blockManager : ∃ total totalCpu, w.alloc.blockManager = BlockManager.new total totalCpu
  swappedRequests : w.alloc.swappedRequests = ∅
  distinct : ∀ i j, (w.request i).requestId = (w.request j).requestId → i = j

inductive Reached (condition : SwapHistory ι α → AllocatorCall ι α → Prop) : SwapHistory ι α → Prop
  | start (w : SwapHistory ι α) (h : w.Fresh) : Reached condition w
  | next (w : SwapHistory ι α) (c : AllocatorCall ι α) (h : Reached condition w) (ha : w.Allowed c)
      (hc : condition w c) : Reached condition (w.call c)

end SwapHistory

/-- The ids are those of one contiguous range, in some order. -/
def Consecutive (ids : List ℕ) : Prop := ∃ first, ids.Perm (List.range' first ids.length)

/-- If the CPU stack is deep enough to swap the request out, its upper end is one range. -/
def TopIsRange (a : RealKvAllocator α) (r : Request) : Prop :=
  neededCpuBlocks r ≤ a.blockManager.cpu.ids.length → Consecutive (a.cpuTaken r)

/-- Whenever the CPU stack is deep enough for a swap-out, its upper end is one range. -/
def TakesRange (w : SwapHistory ι α) : AllocatorCall ι α → Prop
  | .swapOut i => TopIsRange w.alloc (w.request i)
  | _ => True

structure StagingSound (a : RealKvAllocator α) (swapped : SwappedRequest) (s : Restore) :
    Prop where
  offsets : ∀ b ∈ swapped.cpuBlocks, cpuStart swapped.cpuBlocks ≤ b.cpuBlockId ∧
    b.cpuBlockId-cpuStart swapped.cpuBlocks < expected swapped
  filled : (-1 : ℤ) ∉ s.dstBlockByCpuOffset
  distinct : s.restoredGpuBlocks.Nodup
  bijection : s.dstBlockByCpuOffset.Perm (s.restoredGpuBlocks.map (fun g : ℕ => (g : ℤ)))
  inside : cpuStart swapped.cpuBlocks+expected swapped ≤ a.blockManager.cpu.total
  exact : ∀ c, c ∈ swapped.ids ↔ cpuStart swapped.cpuBlocks ≤ c ∧
    c < cpuStart swapped.cpuBlocks+expected swapped

/-- Every slot of the request holds what it held before the request was swapped out. -/
def FloatsBack (r : Request) (pool : Memory α) (back : Request) (now : Memory α) : Prop :=
  ∀ (l : ℕ) (kv kv' : PagedKVCache), r.layerKv[l]? = some kv → back.layerKv[l]? = some kv' →
    kv'.numBlocks = kv.numBlocks ∧
    ∀ b p p' : ℕ, kv.blockTable[b]? = some p → kv'.blockTable[b]? = some p' →
      ∀ off < blockSlotSize, now (blockPtr p'+off) = pool (blockPtr p+off)

/-- A swap-in that gets as far as copying addresses its staging area correctly, and if it
succeeds it brings back the floats that were copied out. -/
def SwapInSound (w : SwapHistory ι α) (i : ι) : Prop :=
  ∀ (swapped : SwappedRequest) (kvs : List PagedKVCache) (s : Restore),
    w.alloc.swappedRequests.lookup (w.request i).requestId = some swapped →
    w.alloc.swapInReady swapped = true →
    restoreLayers (cpuStart swapped.cpuBlocks) swapped.blocksPerLayer
      (restoredNumTokens swapped) (w.request i).layerKv swapped.cpuBlocks
      ⟨w.alloc.blockManager,[],List.replicate (expected swapped) (-1),false⟩ = .ok (kvs,s) →
    StagingSound w.alloc swapped s ∧
    ((w.alloc.swapIn (w.request i)).ok = true →
      ∃ r pool, w.swappedFrom (w.request i).requestId = some (r,pool) ∧
        FloatsBack r pool (w.alloc.swapIn (w.request i)).req
          (w.alloc.swapIn (w.request i)).alloc.device.pool)

structure EntrySound (cpuPool : Memory α) (swapped : SwappedRequest) (r : Request)
    (pool : Memory α) : Prop where
  uniform : ∀ kv ∈ r.layerKv, kv.numBlocks = swapped.blocksPerLayer
  range : Consecutive swapped.ids
  floats : ∀ i c p : ℕ, swapped.ids[i]? = some c → r.blocks[i]? = some p →
    ∀ off < blockSlotSize, cpuPool (c*blockSlotSize+off) = pool (p*blockSlotSize+off)

structure SwapHistory.Sound (w : SwapHistory ι α) : Prop where
  distinct : ∀ i j, (w.request i).requestId = (w.request j).requestId → i = j
  ledger : (recordedIds w.alloc.swappedRequests++w.alloc.blockManager.cpu.ids).Nodup
  bounded : ∀ c ∈ recordedIds w.alloc.swappedRequests, c < w.alloc.blockManager.cpu.total
  entries : ∀ id swapped, w.alloc.swappedRequests.lookup id = some swapped →
    ∃ r pool, w.swappedFrom id = some (r,pool) ∧
      EntrySound w.alloc.device.cpuPool swapped r pool

structure EntriesKept (w v : SwapHistory ι α) : Prop where
  ids : ∀ i, (v.request i).requestId = (w.request i).requestId
  swappedRequests : v.alloc.swappedRequests = w.alloc.swappedRequests
  swappedFrom : v.swappedFrom = w.swappedFrom
  cpu : v.alloc.blockManager.cpu.ids.Perm w.alloc.blockManager.cpu.ids
  total : v.alloc.blockManager.cpu.total = w.alloc.blockManager.cpu.total
  cpuPool : ∀ address, address/blockSlotSize ∉ w.alloc.blockManager.cpu.ids →
    v.alloc.device.cpuPool address = w.alloc.device.cpuPool address

theorem EntrySound.keep {m n : Memory α} {swapped : SwappedRequest} {r : Request}
    {pool : Memory α} (h : EntrySound m swapped r pool)
    (hk : ∀ c ∈ swapped.ids, ∀ off < blockSlotSize,
      n (c*blockSlotSize+off) = m (c*blockSlotSize+off)) : EntrySound n swapped r pool where
  uniform := h.uniform
  range := h.range
  floats := fun i c p hc hp off hoff =>
    (hk c (List.mem_of_getElem? hc) off hoff).trans (h.floats i c p hc hp off hoff)

omit [DecidableEq ι] in
theorem SwapHistory.Sound.keep {w v : SwapHistory ι α} (h : w.Sound) (k : EntriesKept w v) :
    v.Sound where
  distinct := fun i j hij => h.distinct i j (by rwa [k.ids, k.ids] at hij)
  ledger := by
    rw [k.swappedRequests]
    exact ((k.cpu.append_left _).nodup_iff).mpr h.ledger
  bounded := by
    rw [k.swappedRequests, k.total]
    exact h.bounded
  entries := by
    intro id swapped hl
    rw [k.swappedRequests] at hl
    obtain ⟨r,pool,hfrom,hsound⟩ := h.entries id swapped hl
    refine ⟨r,pool,by rw [k.swappedFrom, hfrom],hsound.keep ?_⟩
    intro c hc off hoff
    refine k.cpuPool _ ?_
    rw [slot_div c off hoff]
    exact (List.nodup_append'.mp h.ledger).2.2 (recorded_mem _ id swapped hl hc)

theorem update_ids (request : ι → Request) (i : ι) (q : Request)
    (h : q.requestId = (request i).requestId) (j : ι) :
    (Function.update request i q j).requestId = (request j).requestId := by
  by_cases hj : j = i
  · subst hj
    simpa using h
  · rw [Function.update_of_ne hj]

theorem allocate_kept (w : SwapHistory ι α) (i : ι) (need : ℕ) :
    EntriesKept w (w.answer i (w.alloc.allocateLayers (w.request i) need)) := by
  rcases allocate_layers_cases w.alloc (w.request i) need with ⟨_,h⟩ | ⟨bm,hd,h⟩ <;> rw [h]
  · exact ⟨update_ids _ _ _ rfl,rfl,rfl,List.Perm.refl _,rfl,fun _ _ => rfl⟩
  · refine ⟨update_ids _ _ _ rfl,rfl,rfl,?_,?_,fun _ _ => rfl⟩
    · exact List.Perm.of_eq (congrArg FreeStack.ids hd.cpu)
    · exact congrArg FreeStack.total hd.cpu

theorem free_kept (w : SwapHistory ι α) (i : ι) : EntriesKept w (w.call (.freeRequest i)) := by
  have hcpu : (w.call (.freeRequest i)).alloc.blockManager.cpu = w.alloc.blockManager.cpu := by
    simp only [SwapHistory.call, free_request_fst, BlockManager.free_cpu_same]
  refine ⟨update_ids _ _ _ rfl,?_,rfl,?_,?_,?_⟩
  · simp only [SwapHistory.call, free_request_fst]
  · exact List.Perm.of_eq (congrArg FreeStack.ids hcpu)
  · exact congrArg FreeStack.total hcpu
  · simp only [SwapHistory.call, free_request_fst, implies_true]

section SwapOut

variable (w : SwapHistory ι α) (i : ι)

omit [DecidableEq ι] in
theorem copied_out_spares (a : RealKvAllocator α) (r : Request) {c : ℕ}
    (hfree : c ∉ a.blockManager.cpu.ids) {off : ℕ} (hoff : off < blockSlotSize) :
    (a.copiedOut r).device.cpuPool (c*blockSlotSize+off) =
      a.device.cpuPool (c*blockSlotSize+off) := by
  refine save_all_outside _ _ _ _ ?_
  rw [slot_div c off hoff]
  exact fun hm => hfree (List.mem_of_mem_take ((zip_snd_sublist _ _).subset hm))

omit [DecidableEq ι] in
theorem copied_out_entry (a : RealKvAllocator α) (r : Request)
    (hn : neededCpuBlocks r ≤ a.blockManager.cpu.ids.length)
    (hb : ∀ kv ∈ r.layerKv, kv.numBlocks = (a.entryOf r).blocksPerLayer)
    (hrange : Consecutive (a.cpuTaken r)) :
    EntrySound (a.copiedOut r).device.cpuPool (a.entryOf r) r a.device.pool := by
  have hids : (a.entryOf r).ids = a.cpuTaken r := entry_ids _ r hn
  refine ⟨hb,hids ▸ hrange,?_⟩
  intro k c p hk hp off hoff
  rw [hids, cpuTaken] at hk
  have hlt : k < neededCpuBlocks r := by
    have := (List.getElem?_eq_some_iff.mp hk).1
    rw [List.length_take] at this
    omega
  rw [List.getElem?_take_of_lt hlt] at hk
  exact swapped_out_slot a r _ _ hn k p c hlt hp hk off hoff

theorem swap_out_sound (h : w.Sound) (hc : TakesRange w (.swapOut i)) :
    (w.call (.swapOut i)).Sound := by
  have hcase := swap_out_case w.alloc (w.request i)
  have hcall : w.call (.swapOut i) = { w.answer i (w.alloc.swapOut (w.request i)) with
      swappedFrom := if (w.alloc.swapOut (w.request i)).ok then
          Function.update w.swappedFrom (w.request i).requestId
            (some (w.request i,w.alloc.device.pool))
        else w.swappedFrom } := rfl
  rw [hcall]
  generalize w.alloc.swapOut (w.request i) = out at hcase
  cases hcase with
  | refused =>
    exact h.keep ⟨update_ids _ _ _ rfl,rfl,rfl,List.Perm.refl _,rfl,fun _ _ => rfl⟩
  | undone d bm hd _ hcpu ht =>
    exact h.keep ⟨update_ids _ _ _ rfl,rfl,rfl,hcpu,ht,fun address ha =>
      hd.spared address fun hm => ha (List.mem_of_mem_take hm)⟩
  | done h0 hn hb _ =>
    set r := w.request i
    have hcpu : ((w.alloc.copiedOut r).blockManager.free r.blocks).cpu =
        w.alloc.blockManager.cpu.drop (neededCpuBlocks r) := BlockManager.free_cpu_same _ _
    have hids : (w.alloc.entryOf r).ids = w.alloc.cpuTaken r := entry_ids _ r hn
    have hledger := swap_out_ledger w.alloc r hn
    have hout : ((w.alloc.copiedOut r).swapOutDone r (w.alloc.entryOf r)).alloc =
        { w.alloc.copiedOut r with
          blockManager := (w.alloc.copiedOut r).blockManager.free r.blocks
          swappedRequests := w.alloc.swappedRequests.insert r.requestId (w.alloc.entryOf r) } := by
      simp only [swapOutDone, free_request_fst]
      rfl
    have hsame := update_ids w.request i
      ((w.alloc.copiedOut r).swapOutDone r (w.alloc.entryOf r)).req rfl
    refine ⟨fun j k hjk => ?_,?_,?_,?_⟩
    · exact h.distinct j k ((hsame j).symm.trans (hjk.trans (hsame k)))
    · simp only [SwapHistory.answer, hout, hcpu, FreeStack.drop_ids]
      refine hledger.nodup_iff.mpr (h.ledger.sublist ?_)
      exact (recorded_erase_sublist _ _).append (List.Sublist.refl _)
    · simp only [SwapHistory.answer, hout, hcpu, FreeStack.drop_total]
      intro c hc
      rw [recorded_insert, hids] at hc
      rcases List.mem_append.mp hc with hc | hc
      · exact w.alloc.blockManager.cpu.bounded c (List.mem_of_mem_take hc)
      · exact h.bounded c ((recorded_erase_sublist _ _).subset hc)
    · simp only [SwapHistory.answer, hout]
      intro id swapped hl
      by_cases hid : id = r.requestId
      · subst hid
        rw [AList.lookup_insert] at hl
        obtain rfl := Option.some.inj hl
        exact ⟨r,w.alloc.device.pool,by simp [swapOutDone],copied_out_entry w.alloc r hn hb (hc hn)⟩
      · rw [AList.lookup_insert_ne hid] at hl
        obtain ⟨q,pool,hfrom,hsound⟩ := h.entries id swapped hl
        refine ⟨q,pool,by simpa [swapOutDone, hid] using hfrom,hsound.keep ?_⟩
        intro c hmem off hoff
        refine copied_out_spares w.alloc r ?_ hoff
        exact (List.nodup_append'.mp h.ledger).2.2 (recorded_mem _ id swapped hl hmem)

end SwapOut

section SwapIn

variable (w : SwapHistory ι α) (i : ι)

theorem swap_in_sound (h : w.Sound) : (w.call (.swapIn i)).Sound := by
  have hcase := swap_in_case w.alloc (w.request i)
  simp only [SwapHistory.call]
  generalize w.alloc.swapIn (w.request i) = out at hcase
  cases hcase with
  | refused =>
    exact h.keep ⟨update_ids _ _ _ rfl,rfl,rfl,List.Perm.refl _,rfl,fun _ _ => rfl⟩
  | undone swapped d bm hl _ hd hg ht hc =>
    refine h.keep ⟨update_ids _ _ _ rfl,rfl,rfl,?_,?_,fun address _ => congrFun hd.cpuPool address⟩
    · exact List.Perm.of_eq (congrArg FreeStack.ids hc)
    · exact congrArg FreeStack.total hc
  | done swapped bm hl hready hk hd =>
    set r := w.request i
    have hperm := recorded_erase _ _ swapped hl
    have hledger := (hperm.append_right w.alloc.blockManager.cpu.ids).nodup_iff.mp h.ledger
    rw [List.append_assoc] at hledger
    obtain ⟨hnodup,hrest,hapart⟩ := List.nodup_append'.mp hledger
    have hret : BlockManager.Returnable bm.cpu swapped.ids := by
      rw [hd.cpu]
      exact ⟨hnodup,fun c hc => h.bounded c (recorded_mem _ _ swapped hl hc),
        fun c hc hm => hapart hc (List.mem_append_right _ hm)⟩
    obtain ⟨hf,_,_⟩ := BlockManager.free_cpu_returnable bm swapped.ids hret
    rw [hd.cpu] at hf
    have hsame := update_ids w.request i (w.alloc.swappedIn r swapped bm).req rfl
    refine ⟨fun j k hjk => ?_,?_,?_,?_⟩
    · exact h.distinct j k ((hsame j).symm.trans (hjk.trans (hsame k)))
    · change (recordedIds (w.alloc.swappedRequests.erase r.requestId)++
        (bm.freeCpu swapped.ids).cpu.ids).Nodup
      rw [hf.ids]
      refine List.Perm.nodup_iff ?_ |>.mpr hledger
      refine (List.Perm.append_left _ ((List.reverse_perm _).append_right _)).trans ?_
      rw [← List.append_assoc, ← List.append_assoc]
      exact List.perm_append_comm.append_right _
    · intro c hc
      change c < (bm.freeCpu swapped.ids).cpu.total
      rw [hf.total]
      exact h.bounded c ((recorded_erase_sublist _ _).subset hc)
    · intro id other ho
      have hid : id ≠ r.requestId := by
        rintro rfl
        rw [show (w.answer i (w.alloc.swappedIn r swapped bm)).alloc.swappedRequests =
          w.alloc.swappedRequests.erase r.requestId from rfl, AList.lookup_erase] at ho
        cases ho
      exact h.entries id other ((AList.lookup_erase_ne hid).symm.trans ho)

end SwapIn

theorem call_sound (w : SwapHistory ι α) (c : AllocatorCall ι α) (h : w.Sound)
    (hc : TakesRange w c) : (w.call c).Sound := by
  cases c with
  | allocatePrefill i => exact h.keep (allocate_kept w i _)
  | allocateDecode i => exact h.keep (allocate_kept w i _)
  | freeRequest i => exact h.keep (free_kept w i)
  | swapOut i => exact swap_out_sound w i h hc
  | swapIn i => exact swap_in_sound w i h
  | setNumTokens i n =>
    exact h.keep ⟨update_ids _ _ _ rfl,rfl,rfl,List.Perm.refl _,rfl,fun _ _ => rfl⟩
  | writePool pool => exact h.keep ⟨fun _ => rfl,rfl,rfl,List.Perm.refl _,rfl,fun _ _ => rfl⟩

omit [DecidableEq ι] in
theorem fresh_sound (w : SwapHistory ι α) (h : w.Fresh) : w.Sound := by
  obtain ⟨⟨total,totalCpu,hb⟩,hs,hd⟩ := h
  refine ⟨hd,?_,?_,?_⟩ <;> rw [hs]
  · exact w.alloc.blockManager.cpu.nodup
  · simp [recordedIds]
  · simp

theorem reached_sound (w : SwapHistory ι α) (h : w.Reached TakesRange) : w.Sound := by
  induction h with
  | start w h => exact fresh_sound w h
  | next w c _ _ hc ih => exact call_sound w c ih hc

theorem foldl_min_mem (xs : List ℕ) (m : ℕ) : xs.foldl min m = m ∨ xs.foldl min m ∈ xs := by
  induction xs generalizing m with
  | nil => exact Or.inl rfl
  | cons y ys ih =>
    rcases ih (min m y) with h | h
    · rw [List.foldl_cons, h]
      rcases Nat.le_total m y with hm | hy
      · exact Or.inl (Nat.min_eq_left hm)
      · exact Or.inr (by rw [Nat.min_eq_right hy]; simp)
    · exact Or.inr (List.mem_cons_of_mem _ h)

theorem cpu_start_range (swapped : List SwappedBlock) (first : ℕ) (hne : swapped ≠ [])
    (h : (swapped.map SwappedBlock.cpuBlockId).Perm (List.range' first swapped.length)) :
    cpuStart swapped = first := by
  have hmem (c : ℕ) : c ∈ swapped.map SwappedBlock.cpuBlockId ↔
      first ≤ c ∧ c < first+swapped.length := by
    rw [h.mem_iff, List.mem_range'_1]
  have hpos := List.length_pos_of_ne_nil hne
  have hle : cpuStart swapped ≤ first :=
    (foldl_min_le _ _).2 first ((hmem first).mpr ⟨le_refl _,by omega⟩)
  have hin : cpuStart swapped ∈ swapped.map SwappedBlock.cpuBlockId := by
    cases swapped with
    | nil => exact absurd rfl hne
    | cons b rest =>
      rcases foldl_min_mem (List.map SwappedBlock.cpuBlockId (b::rest)) b.cpuBlockId with hb | hb
      · exact List.mem_cons.mpr (Or.inl hb)
      · exact hb
  exact le_antisymm hle ((hmem _).mp hin).1

theorem offsets_range (swapped : List SwappedBlock) (first : ℕ)
    (h : (swapped.map SwappedBlock.cpuBlockId).Perm (List.range' first swapped.length)) :
    (offsets first swapped).Perm (List.range swapped.length) := by
  have hmap := h.map (fun c => c-first)
  rw [List.map_map] at hmap
  refine hmap.trans (List.Perm.of_eq ?_)
  rw [List.range'_eq_map_range, List.map_map]
  refine (List.map_congr_left fun c _ => ?_).trans (List.map_id _)
  simp

theorem consecutive_no_overrun {swapped : SwappedRequest}
    (hsize : swapped.cpuBlocks.length = expected swapped) (h : Consecutive swapped.ids) :
    overrun swapped = false := by
  by_cases hne : swapped.cpuBlocks = []
  · rw [overrun, hne]
    rfl
  obtain ⟨first,hperm⟩ := h
  rw [SwappedRequest.ids, List.length_map] at hperm
  have hoff := offsets_range swapped.cpuBlocks first hperm
  rw [← cpu_start_range swapped.cpuBlocks first hne hperm, hsize] at hoff
  refine List.any_eq_false.mpr fun o ho => ?_
  rw [decide_eq_true_eq, Nat.not_le]
  exact List.mem_range.mp (hoff.mem_iff.mp ho)

section Restored

variable (a : RealKvAllocator α) (swapped : SwappedRequest) (hready : a.Ready swapped)
  (hrange : Consecutive swapped.ids)

include hready hrange

theorem staging_sound (hbound : ∀ c ∈ swapped.ids, c < a.blockManager.cpu.total)
    (bm : BlockManager) : StagingSound a swapped
      ⟨bm,a.restoredIds swapped,a.dstBlocks swapped,overrun swapped⟩ := by
  obtain ⟨first,hperm⟩ := hrange
  have hlen : swapped.ids.length = swapped.cpuBlocks.length := List.length_map _
  rw [hlen] at hperm
  have hne : swapped.cpuBlocks ≠ [] :=
    List.ne_nil_of_length_pos (by rw [hready.size]; exact hready.pos)
  have hstart := cpu_start_range swapped.cpuBlocks first hne hperm
  have hoff := offsets_range swapped.cpuBlocks first hperm
  rw [← hstart] at hperm hoff
  rw [hready.size] at hperm hoff
  have hmem (c : ℕ) : c ∈ swapped.ids ↔ cpuStart swapped.cpuBlocks ≤ c ∧
      c < cpuStart swapped.cpuBlocks+expected swapped := by
    rw [hperm.mem_iff, List.mem_range'_1]
  have hdst := dst_blocks_perm hready hoff
  refine ⟨?_,?_,?_,hdst,?_,hmem⟩
  · intro b hb
    obtain ⟨hle,hlt⟩ := (hmem b.cpuBlockId).mp (List.mem_map_of_mem hb)
    exact ⟨hle,by omega⟩
  · intro hm
    obtain ⟨g,_,hg⟩ := List.mem_map.mp (hdst.mem_iff.mp hm)
    omega
  · exact a.blockManager.gpu.nodup.sublist (List.take_sublist _ _)
  · have hpos := hready.pos
    have hlast := hbound _ ((hmem (cpuStart swapped.cpuBlocks+expected swapped-1)).mpr
      ⟨by omega,by omega⟩)
    omega

omit hready hrange in
/-- An entry can be staged exactly when its CPU blocks are one range. -/
theorem staging_sound_iff (hready : a.Ready swapped) (hnodup : swapped.ids.Nodup)
    (hbound : ∀ c ∈ swapped.ids, c < a.blockManager.cpu.total) (bm : BlockManager) :
    StagingSound a swapped ⟨bm,a.restoredIds swapped,a.dstBlocks swapped,overrun swapped⟩ ↔
      Consecutive swapped.ids := by
  refine ⟨fun h => ⟨cpuStart swapped.cpuBlocks,?_⟩,fun h =>
    staging_sound a swapped hready h hbound bm⟩
  rw [SwappedRequest.ids, List.length_map, hready.size]
  refine (List.perm_ext_iff_of_nodup hnodup List.nodup_range').mpr fun c => ?_
  rw [List.mem_range'_1]
  exact h.exact c

theorem floats_back (q r : Request) (pool : Memory α) (bm : BlockManager)
    (hnodup : swapped.ids.Nodup) (hsound : EntrySound a.device.cpuPool swapped r pool)
    (hbound : ∀ c ∈ swapped.ids, c < a.blockManager.cpu.total) :
    FloatsBack r pool (a.swappedIn q swapped bm).req
      (a.swappedIn q swapped bm).alloc.device.pool := by
  intro l kv kv' hkv hkv'
  have hbpl : kv.blockTable.length = swapped.blocksPerLayer :=
    hsound.uniform kv (List.mem_of_getElem? hkv)
  have hlayer : l < gpt2NLayers := by
    rw [← r.layers]
    exact (List.getElem?_eq_some_iff.mp hkv).1
  have hroom := hready.room
  have hcaches : (a.swappedIn q swapped bm).req.layerKv = restoredCaches swapped.blocksPerLayer
    (restoredNumTokens swapped) q.layerKv a.blockManager.gpu.ids := rfl
  rw [hcaches, restored_caches_get] at hkv'
  obtain ⟨old,_,rfl⟩ := Option.map_eq_some_iff.mp hkv'
  have hfull : (l+1)*swapped.blocksPerLayer ≤ expected swapped := by
    rw [expected, Nat.mul_comm]
    exact Nat.mul_le_mul_left _ hlayer
  rw [Nat.add_mul, Nat.one_mul] at hfull
  refine ⟨?_,?_⟩
  · simp only [PagedKVCache.numBlocks, List.length_take, List.length_drop, hbpl]
    omega
  · intro b p p' hp hp' off hoff
    have hb : b < swapped.blocksPerLayer := by
      rw [← hbpl]
      exact (List.getElem?_eq_some_iff.mp hp).1
    rw [List.getElem?_take_of_lt hb, List.getElem?_drop] at hp'
    have hblock := blocks_get r.layerKv _ hsound.uniform l b kv hkv hb
    have hindex : l*swapped.blocksPerLayer+b < swapped.cpuBlocks.length := by
      rw [hready.size]
      omega
    have hentry := List.getElem?_eq_getElem hindex
    set c := swapped.cpuBlocks[l*swapped.blocksPerLayer+b]
    have hid : swapped.ids[l*swapped.blocksPerLayer+b]? = some c.cpuBlockId := by
      rw [SwappedRequest.ids, List.getElem?_map, hentry]
      rfl
    have hsaved := hsound.floats _ _ p hid (hblock.trans hp) off hoff
    have hfit := ((staging_sound a swapped hready hrange hbound bm).offsets c
      (List.mem_of_getElem? hentry)).2
    refine Eq.trans ?_ hsaved
    exact restored_slot (a.device.mark _) _ _ _ _ hnodup (cpu_start_le _)
      a.blockManager.gpu.nodup c p'
      (List.mem_of_getElem? (List.getElem?_zip_eq_some.mpr ⟨hentry,hp'⟩)) hfit off hoff

end Restored

/-- In every history whose swap-outs each take one contiguous range, every swap-in that starts
copying stages exactly its own blocks and brings its floats back. -/
theorem swap_in_sound_of_ranges (w : SwapHistory ι α) (h : w.Reached TakesRange) (i : ι) :
    SwapInSound w i := by
  intro swapped kvs s hl hready hrestore
  have hsound := reached_sound w h
  have hok := (w.alloc.swap_in_ready_iff swapped).mp hready
  obtain ⟨r,pool,hfrom,hentry⟩ := hsound.entries _ swapped hl
  have hbound (c : ℕ) (hc : c ∈ swapped.ids) : c < w.alloc.blockManager.cpu.total :=
    hsound.bounded c (recorded_mem _ _ swapped hl hc)
  obtain ⟨bm,_,ho⟩ := restore_ready hok (w.request i)
  rw [hrestore] at ho
  obtain ⟨_,rfl⟩ := Prod.mk.inj (Except.ok.inj ho)
  have hnodup : swapped.ids.Nodup := by
    have hrec := (List.nodup_append'.mp hsound.ledger).1
    exact (List.nodup_append'.mp ((recorded_erase _ _ swapped hl).nodup_iff.mp hrec)).1
  refine ⟨(staging_sound_iff w.alloc swapped hok hnodup hbound bm).mpr hentry.range,?_⟩
  intro hin
  obtain ⟨_,bm',_,hback⟩ := swap_in_of_ok w.alloc (w.request i) swapped hl hin
  rw [hback]
  exact ⟨r,pool,hfrom,floats_back w.alloc swapped hok hentry.range (w.request i) r pool bm'
    hnodup hentry hbound⟩

theorem all_allowed_reached (w : SwapHistory ι α) (cs : List (AllocatorCall ι α))
    (h : w.Reached fun _ _ => True) (ha : w.AllAllowed cs) :
    (cs.foldl SwapHistory.call w).Reached fun _ _ => True := by
  induction cs generalizing w with
  | nil => exact h
  | cons c cs ih => exact ih (w.call c) (h.next w c ha.1 trivial) ha.2

/-- An entry whose blocks are spread wider than their number makes a swap-in write past the
end of its vector. -/
def spreadEntry (a : RealKvAllocator α) (r : Request) : Bool :=
  (a.swappedRequests.lookup r.requestId).any fun swapped => a.swapInReady swapped &&
    decide (∃ b ∈ swapped.cpuBlocks,
      expected swapped ≤ b.cpuBlockId-cpuStart swapped.cpuBlocks)

omit [DecidableEq ι] in
theorem spread_entry_unsound (w : SwapHistory ι α) (i : ι)
    (h : spreadEntry w.alloc (w.request i) = true) : ¬ SwapInSound w i := by
  intro hsound
  obtain ⟨swapped,hl,hs⟩ := (Option.any_eq_true _ _).mp h
  obtain ⟨hready,hwide⟩ := Bool.and_eq_true_iff.mp hs
  obtain ⟨b,hb,hspread⟩ := of_decide_eq_true hwide
  have hok := (w.alloc.swap_in_ready_iff swapped).mp hready
  obtain ⟨bm,_,ho⟩ := restore_ready hok (w.request i)
  have hfits := ((hsound swapped _ _ hl hready ho).1.offsets b hb).2
  omega

/-- Two requests of two blocks a layer with one of a single block between them. -/
def threePrompts (i : Fin 3) : Request :=
  Request.new (Int32.ofNat i) (List.replicate (if i = 1 then 1 else 17) 5) 8

def threeFresh : SwapHistory (Fin 3) ℤ := ⟨RealKvAllocator.new
  ⟨fun _ => 0,fun _ => 0,fun _ => 0,[],fun _ => true,0,false⟩,threePrompts,fun _ => none⟩

def threeCalls : List (AllocatorCall (Fin 3) ℤ) :=
  [.allocatePrefill 0,.allocatePrefill 1,.allocatePrefill 2,.swapOut 0,.swapIn 0,.swapOut 1,
    .swapOut 2]

def threeSwapped : SwapHistory (Fin 3) ℤ := threeCalls.foldl SwapHistory.call threeFresh

theorem three_swapped_reached : threeSwapped.Reached fun _ _ => True := by
  have hfresh : threeFresh.Fresh := ⟨⟨_,_,rfl⟩,rfl,by decide⟩
  unfold threeSwapped
  exact all_allowed_reached threeFresh threeCalls (.start _ hfresh) (by decide +kernel)

/-- The first swap-out takes the upper end of the full stack, ids 4072 to 4095. -/
theorem first_swap_in_sound :
    SwapInSound ((threeFresh.call (.allocatePrefill 0)).call (.swapOut 0)) 0 := by
  have hfresh : threeFresh.Reached TakesRange := .start _ ⟨⟨_,_,rfl⟩,rfl,by decide⟩
  have hprefill := hfresh.next _ (.allocatePrefill 0) trivial trivial
  have htop : TakesRange (threeFresh.call (.allocatePrefill 0)) (.swapOut 0) :=
    fun _ => ⟨4072,by decide +kernel⟩
  exact swap_in_sound_of_ranges _ (hprefill.next _ (.swapOut 0) (by decide +kernel) htop) 0

/-- The blocks of the third request lie on both sides of those of the second. -/
theorem third_swap_in_unsound :
    ¬ ∀ w : SwapHistory (Fin 3) ℤ, w.Reached (fun _ _ => True) → ∀ i, SwapInSound w i := fun h =>
  spread_entry_unsound threeSwapped 2 (by decide +kernel) (h _ three_swapped_reached 2)

end MiniLlm

import MiniLlm.KvAddress

/-!
# Swapping moves slots, attention reads half slots

A swap-out followed by a swap-in moves the slot of every block of a request
to the slot of its new block. What attention reads for a block lies in two
other slots. The round trip therefore keeps the K and V of a request exactly
when those slots were moved too, and in the same way.
-/

set_option autoImplicit false

namespace MiniLlm

open FlatMemory RealKvAllocator

variable {α : Type*}

def RealKvAllocator.withPools (a : RealKvAllocator α) (pool cpuPool : Memory α) :
    RealKvAllocator α := { a with device := { a.device with pool := pool, cpuPool := cpuPool } }

def Restored (r back : Request) (before after : Memory α) : Prop :=
  ∀ (l : ℕ) (kv kv' : PagedKVCache), r.layerKv[l]? = some kv → back.layerKv[l]? = some kv' →
    SameKv before after kv.blockTable kv'.blockTable kv.numTokens

def Undisturbed (q : Request) (before after : Memory α) : Prop :=
  ∀ kv ∈ q.layerKv, SameKv before after kv.blockTable kv.blockTable kv.numTokens

def EntryKept (swapped : SwappedRequest) (saved now : Memory α) : Prop :=
  ∀ b ∈ swapped.cpuBlocks, ∀ i < blockSlotSize,
    now (b.cpuBlockId*blockSlotSize+i) = saved (b.cpuBlockId*blockSlotSize+i)

/-- Whatever the pool held at the swap-out and whatever was written to it until the swap-in,
no store goes astray, the request reads its own K and V back and the others keep theirs. -/
def SwapPreserves (a : RealKvAllocator α) (r : Request) (later : RealKvAllocator α)
    (others : List Request) : Prop :=
  ∀ before between cpuPool : Memory α,
    let out := (a.withPools before a.device.cpuPool).swapOut r
    let back := (later.withPools between cpuPool).swapIn out.req
    out.ok = true → back.ok = true →
    (∀ swapped, out.alloc.swappedRequests.lookup r.requestId = some swapped →
      later.swappedRequests.lookup r.requestId = some swapped ∧
      EntryKept swapped out.alloc.device.cpuPool cpuPool) →
    back.alloc.device.faulted = false ∧
    Restored r back.req before back.alloc.device.pool ∧
    ∀ q ∈ others, Undisturbed q between back.alloc.device.pool

/-- The CPU blocks that a swap-out takes span no more ids than there are blocks. -/
def TakenWithin (a : RealKvAllocator α) (r : Request) : Prop :=
  ∀ c ∈ a.cpuTaken r, c-(a.cpuTaken r).foldl min ((a.cpuTaken r).headD 0) < neededCpuBlocks r

/-- Slot `x` is swapped out and comes back as slot `y`: both are the request's at one
place of its tables, and the CPU block between them fits the staging vector. -/
def MovedSlot (a : RealKvAllocator α) (r : Request) (later : RealKvAllocator α)
    (x y : ℕ) : Prop :=
  ∃ i c, i < neededCpuBlocks r ∧ r.blocks[i]? = some x ∧ a.blockManager.cpu.ids[i]? = some c ∧
    later.blockManager.gpu.ids[i]? = some y ∧
    c-(a.cpuTaken r).foldl min ((a.cpuTaken r).headD 0) < neededCpuBlocks r

/-- Half slot `k` comes back as half slot `k'`. -/
def HalfKept (a : RealKvAllocator α) (r : Request) (later : RealKvAllocator α)
    (k k' : ℕ) : Prop :=
  k%2 = k'%2 ∧ MovedSlot a r later (k/2) (k'/2)

def CachedAs (r : Request) (later : RealKvAllocator α) (p p' : ℕ) : Prop :=
  ∃ l b kv, r.layerKv[l]? = some kv ∧ b*defaultKvBlockSize < kv.numTokens ∧
    kv.blockTable[b]? = some p ∧
    later.blockManager.gpu.ids[l*r.layer0.numBlocks+b]? = some p'

def CachedBlock (q : Request) (p : ℕ) : Prop :=
  ∃ kv ∈ q.layerKv, ∃ b, b*defaultKvBlockSize < kv.numTokens ∧ kv.blockTable[b]? = some p

structure SlotsAgree (a : RealKvAllocator α) (r : Request) (later : RealKvAllocator α)
    (others : List Request) : Prop where
  unmarked : later.device.faulted = false
  within : TakenWithin a r
  k : ∀ p p', CachedAs r later p p' → HalfKept a r later p p'
  v : ∀ p p', CachedAs r later p p' →
    HalfKept a r later (defaultTotalKvBlocks+p) (defaultTotalKvBlocks+p')
  others : ∀ q ∈ others, ∀ p, CachedBlock q p → ∀ x y, MovedSlot a r later x y →
    y ≠ p/2 ∧ y ≠ (defaultTotalKvBlocks+p)/2

section RoundTrip

variable (a : RealKvAllocator α) (r : Request) (later : RealKvAllocator α)

theorem entry_start (hn : neededCpuBlocks r ≤ a.blockManager.cpu.ids.length) :
    cpuStart (a.entryOf r).cpuBlocks =
      (a.cpuTaken r).foldl min ((a.cpuTaken r).headD 0) := by
  rw [cpuStart, entry_ids a r hn]

theorem taken_within_iff (hn : neededCpuBlocks r ≤ a.blockManager.cpu.ids.length) :
    TakenWithin a r ↔ overrun (a.entryOf r) = false := by
  have hoff : offsets (cpuStart (a.entryOf r).cpuBlocks) (a.entryOf r).cpuBlocks =
      (a.cpuTaken r).map (·-(a.cpuTaken r).foldl min ((a.cpuTaken r).headD 0)) := by
    rw [← entry_start a r hn, ← entry_ids a r hn, List.map_map]
    rfl
  unfold TakenWithin overrun overruns
  rw [hoff, List.any_eq_false, List.forall_mem_map]
  refine forall₂_congr fun c _ => ?_
  rw [decide_eq_true_eq, Nat.not_le]
  rfl

/-- A moved slot comes back with what it held before the swap-out. -/
theorem round_trip_moved (hn : neededCpuBlocks r ≤ a.blockManager.cpu.ids.length)
    (before between cpuPool : Memory α) (bm : BlockManager)
    (hkept : EntryKept (a.entryOf r)
      (saveAll before (r.blocks.zip (a.cpuTaken r)) a.device.cpuPool) cpuPool)
    {x y off : ℕ} (hmoved : MovedSlot a r later x y) (hoff : off < blockSlotSize) :
    ((later.withPools between cpuPool).swappedIn (a.swapOut r).req (a.entryOf r)
      bm).alloc.device.pool (y*blockSlotSize+off) = before (x*blockSlotSize+off) := by
  obtain ⟨i,c,hi,hx,hc,hy,hfit⟩ := hmoved
  have htake : ((a.entryOf r).cpuBlocks.map SwappedBlock.cpuBlockId)[i]? = some c := by
    rw [entry_ids a r hn, cpuTaken, List.getElem?_take_of_lt hi, hc]
  obtain ⟨b,hb,rfl⟩ := Option.map_eq_some_iff.mp ((List.getElem?_map ..).symm.trans htake)
  have hmem : b ∈ (a.entryOf r).cpuBlocks := List.mem_of_getElem? hb
  have hpair : (b,y) ∈ (a.entryOf r).cpuBlocks.zip later.blockManager.gpu.ids :=
    List.mem_of_getElem? (List.getElem?_zip_eq_some.mpr ⟨hb,hy⟩)
  have hslot := restored_slot
    ((later.withPools between cpuPool).device.mark (overrun (a.entryOf r)))
    (cpuStart (a.entryOf r).cpuBlocks) (neededCpuBlocks r) (a.entryOf r).cpuBlocks
    later.blockManager.gpu.ids (entry_nodup a r hn) (cpu_start_le _)
    later.blockManager.gpu.nodup b y hpair (by rw [entry_start a r hn]; exact hfit) off hoff
  refine hslot.trans ((hkept b hmem off hoff).trans ?_)
  exact swapped_out_slot a r before _ hn i x b.cpuBlockId hi hx hc off hoff

theorem round_trip_outside (hn : neededCpuBlocks r ≤ a.blockManager.cpu.ids.length)
    (hlength : r.blocks.length = neededCpuBlocks r) (between cpuPool : Memory α)
    (bm : BlockManager) (address : ℕ)
    (hno : ∀ x, ¬ MovedSlot a r later x (address/blockSlotSize)) :
    ((later.withPools between cpuPool).swappedIn (a.swapOut r).req (a.entryOf r)
      bm).alloc.device.pool address = between address := by
  refine restored_outside ((later.withPools between cpuPool).device.mark (overrun (a.entryOf r)))
    (cpuStart (a.entryOf r).cpuBlocks) (neededCpuBlocks r) (a.entryOf r).cpuBlocks
    later.blockManager.gpu.ids address ?_
  rintro b g hpair hfit rfl
  obtain ⟨i,hi⟩ := List.mem_iff_getElem?.mp hpair
  obtain ⟨hb,hg⟩ := List.getElem?_zip_eq_some.mp hi
  have hc : (a.cpuTaken r)[i]? = some b.cpuBlockId := by
    rw [← entry_ids a r hn, List.getElem?_map, hb]
    rfl
  have hlt : i < neededCpuBlocks r := by
    have := (List.getElem?_eq_some_iff.mp hc).1
    rw [cpuTaken, List.length_take] at this
    omega
  have hblocks : i < r.blocks.length := by rwa [hlength]
  refine hno r.blocks[i] ⟨i,b.cpuBlockId,hlt,List.getElem?_eq_getElem hblocks,?_,hg,?_⟩
  · rwa [cpuTaken, List.getElem?_take_of_lt hlt] at hc
  · rwa [← entry_start a r hn]

theorem round_trip (hout : (a.swapOut r).ok = true)
    (before between cpuPool : Memory α)
    (back : Outcome (RealKvAllocator α)) (bm : BlockManager)
    (hback : back = (later.withPools between cpuPool).swappedIn (a.swapOut r).req
      (a.entryOf r) bm)
    (hkept : EntryKept (a.entryOf r)
      (saveAll before (r.blocks.zip (a.cpuTaken r)) a.device.cpuPool) cpuPool) :
    (∀ x y, MovedSlot a r later x y → ∀ off < blockSlotSize,
      back.alloc.device.pool (y*blockSlotSize+off) = before (x*blockSlotSize+off)) ∧
    ∀ address, (∀ x, ¬ MovedSlot a r later x (address/blockSlotSize)) →
      back.alloc.device.pool address = between address := by
  obtain ⟨_,hn,htables,_⟩ := (swap_out_ok_iff a r).mp hout
  have hlength : r.blocks.length = neededCpuBlocks r := blocks_length r _ htables
  subst hback
  constructor
  · exact fun x y hmoved off hoff =>
      round_trip_moved a r later hn before between cpuPool bm hkept hmoved hoff
  · exact fun address hno =>
      round_trip_outside a r later hn hlength between cpuPool bm address hno

variable {a r later}

theorem half_kept_reads {before after : Memory α}
    (hm : ∀ x y, MovedSlot a r later x y → ∀ off < blockSlotSize,
      after (y*blockSlotSize+off) = before (x*blockSlotSize+off))
    {k k' e : ℕ} (h : HalfKept a r later k k') (he : e < halfSlot) :
    after (k'*halfSlot+e) = before (k*halfSlot+e) := by
  rw [half_in_slot k', half_in_slot k, h.1]
  exact hm _ _ h.2 _ (half_offset_lt k' e he)

theorem half_kept_of_reads [Nontrivial α] (trip : Memory α → Memory α → Memory α)
    (hm : ∀ before between x y, MovedSlot a r later x y → ∀ off < blockSlotSize,
      trip before between (y*blockSlotSize+off) = before (x*blockSlotSize+off))
    (hno : ∀ before between address,
      (∀ x, ¬ MovedSlot a r later x (address/blockSlotSize)) →
        trip before between address = between address)
    (k k' : ℕ) (h : ∀ before between, trip before between (k'*halfSlot) = before (k*halfSlot)) :
    HalfKept a r later k k' := by
  obtain ⟨u,v,huv⟩ := exists_pair_ne α
  have hdiv := half_div k' 0 half_pos
  rw [Nat.add_zero] at hdiv
  have hmoved : ∃ x, MovedSlot a r later x (k'/2) := by
    by_contra hnone
    have hread := h (fun _ => u) (fun _ => v)
    rw [hno _ _ _ (fun x hx => hnone ⟨x,hdiv ▸ hx⟩)] at hread
    exact huv hread.symm
  obtain ⟨x,hx⟩ := hmoved
  have hread := h (fun address => if address = k*halfSlot then u else v) (fun _ => v)
  have hin := half_in_slot k' 0
  rw [Nat.add_zero] at hin
  rw [hin, hm _ _ x _ hx _ (half_offset_lt k' 0 half_pos), if_pos rfl] at hread
  have haddr : x*blockSlotSize+(k'%2*halfSlot+0) = k*halfSlot := by
    by_contra hne
    rw [if_neg hne] at hread
    exact huv hread.symm
  have hhalf : (2*x+k'%2)*halfSlot = k*halfSlot := by
    rw [← haddr, slot_is_two_halves, Nat.add_mul]
    ring
  have hk := Nat.eq_of_mul_eq_mul_right half_pos hhalf
  refine ⟨by omega,?_⟩
  have hx2 : k/2 = x := by omega
  rwa [hx2]

/-- A half slot of another request survives exactly when no slot is moved onto it. -/
theorem untouched_of_reads [Nontrivial α] (trip : Memory α → Memory α → Memory α)
    (hm : ∀ before between x y, MovedSlot a r later x y → ∀ off < blockSlotSize,
      trip before between (y*blockSlotSize+off) = before (x*blockSlotSize+off))
    (k : ℕ) (h : ∀ before between, trip before between (k*halfSlot) = between (k*halfSlot))
    (x y : ℕ) (hx : MovedSlot a r later x y) : y ≠ k/2 := by
  rintro rfl
  obtain ⟨u,v,huv⟩ := exists_pair_ne α
  have hread := h (fun _ => u) (fun _ => v)
  have hin := half_in_slot k 0
  rw [Nat.add_zero] at hin
  rw [hin, hm _ _ x _ hx _ (half_offset_lt k 0 half_pos)] at hread
  exact huv hread

variable (a r later)

theorem swap_out_with_pools (hout : (a.swapOut r).ok = true) (before cpuPool : Memory α) :
    (a.withPools before cpuPool).swapOut r =
      ((a.withPools before cpuPool).copiedOut r).swapOutDone r (a.entryOf r) :=
  swap_out_of_ok _ r ((swap_out_ok_iff _ r).mpr ((swap_out_ok_iff a r).mp hout))

theorem swap_out_req (hout : (a.swapOut r).ok = true) (before cpuPool : Memory α) :
    ((a.withPools before cpuPool).swapOut r).req = (a.swapOut r).req := by
  rw [swap_out_with_pools a r hout, swap_out_of_ok a r hout]
  rfl

theorem swap_out_entry (hout : (a.swapOut r).ok = true) :
    (a.swapOut r).alloc.swappedRequests.lookup r.requestId = some (a.entryOf r) := by
  rw [swap_out_of_ok a r hout]
  exact AList.lookup_insert _

theorem swap_out_request_id (hout : (a.swapOut r).ok = true) :
    (a.swapOut r).req.requestId = r.requestId := by
  rw [swap_out_of_ok a r hout]
  rfl

theorem swap_in_with_pools (q : Request) (swapped : SwappedRequest)
    (hl : later.swappedRequests.lookup q.requestId = some swapped)
    (hin : (later.swapIn q).ok = true) (between cpuPool : Memory α) :
    ∃ bm, (later.withPools between cpuPool).swapIn q =
      (later.withPools between cpuPool).swappedIn q swapped bm := by
  obtain ⟨entry,he,hr,hk⟩ := (swap_in_ok_iff later q).mp hin
  obtain ⟨_,bm,_,h⟩ := swap_in_of_ok (later.withPools between cpuPool) q swapped hl
    ((swap_in_ok_iff _ q).mpr ⟨entry,he,⟨hr.1,hr.2,hr.3,hr.4,hr.5,hr.6⟩,hk⟩)
  exact ⟨bm,h⟩

end RoundTrip

end MiniLlm

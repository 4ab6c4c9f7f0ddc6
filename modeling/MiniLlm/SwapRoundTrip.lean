import MiniLlm.SwapLayout

/-!
# When a swap round trip keeps K and V

The condition of the slot layout, shown to be exactly the one under which a
swap-out followed by a swap-in is the identity on what attention reads.
-/

set_option autoImplicit false

namespace MiniLlm

open FlatMemory RealKvAllocator

variable {α : Type*}

structure RoundTrip (a : RealKvAllocator α) (r : Request) (later : RealKvAllocator α)
    (before between : Memory α) (back : Outcome (RealKvAllocator α)) : Prop where
  ok : back.ok = true
  moved : ∀ x y, MovedSlot a r later x y → ∀ off < blockSlotSize,
    back.alloc.device.pool (y*blockSlotSize+off) = before (x*blockSlotSize+off)
  kept : ∀ address, (∀ x, ¬ MovedSlot a r later x (address/blockSlotSize)) →
    back.alloc.device.pool address = between address
  faulted : back.alloc.device.faulted = false ↔ later.device.faulted = false ∧ TakenWithin a r
  tables : ∀ l kv kv' b, r.layerKv[l]? = some kv → back.req.layerKv[l]? = some kv' →
    (kv.blockTable[b]? = none ∧ kv'.blockTable[b]? = none) ∨
    ∃ p p', kv.blockTable[b]? = some p ∧ kv'.blockTable[b]? = some p' ∧
      later.blockManager.gpu.ids[l*r.layer0.numBlocks+b]? = some p'

section

variable (a : RealKvAllocator α) (r : Request) (later : RealKvAllocator α)
  (hout : (a.swapOut r).ok = true) (hin : (later.swapIn (a.swapOut r).req).ok = true)
  (hentry : later.swappedRequests.lookup r.requestId =
    (a.swapOut r).alloc.swappedRequests.lookup r.requestId)

include hout hin hentry

theorem back_round_trip (before between cpuPool : Memory α)
    (hkept : EntryKept (a.entryOf r)
      (saveAll before (r.blocks.zip (a.cpuTaken r)) a.device.cpuPool) cpuPool) :
    RoundTrip a r later before between
      ((later.withPools between cpuPool).swapIn (a.swapOut r).req) := by
  have hl : later.swappedRequests.lookup (a.swapOut r).req.requestId = some (a.entryOf r) := by
    rw [swap_out_request_id a r hout, hentry, swap_out_entry a r hout]
  obtain ⟨hready,_⟩ := swap_in_of_ok later _ _ hl hin
  obtain ⟨_,hn,hb,_⟩ := (swap_out_ok_iff a r).mp hout
  obtain ⟨bm,hback⟩ := swap_in_with_pools later _ _ hl hin between cpuPool
  obtain ⟨hmoved,hrest⟩ := round_trip a r later hout before between cpuPool _ bm hback hkept
  refine ⟨by rw [hback]; rfl,hmoved,hrest,?_,?_⟩
  · have hstray := swap_in_faulted_iff (a := later.withPools between cpuPool) hl
      ⟨hready.1,hready.2,hready.3,hready.4,hready.5,hready.6⟩ (entry_nodup a r hn)
    rw [taken_within_iff a r hn, ← Bool.not_eq_true, hstray, not_or, Bool.not_eq_true,
      Bool.not_eq_true]
    rfl
  intro l kv kv' b hkv hkv'
  have hlen : kv.blockTable.length = r.layer0.numBlocks := hb kv (List.mem_of_getElem? hkv)
  have hlayer : l < gpt2NLayers := by
    rw [← r.layers]
    exact (List.getElem?_eq_some_iff.mp hkv).1
  have hroom := hready.room
  have hcaches : ((later.withPools between cpuPool).swapIn (a.swapOut r).req).req.layerKv =
      restoredCaches r.layer0.numBlocks (restoredNumTokens (a.entryOf r))
        (r.layerKv.map PagedKVCache.reset) later.blockManager.gpu.ids := by
    rw [hback, swap_out_of_ok a r hout]
    rfl
  rw [hcaches, restored_caches_get, List.getElem?_map, hkv] at hkv'
  obtain rfl := Option.some.inj hkv'
  by_cases hbl : b < r.layer0.numBlocks
  · right
    have hindex : l*r.layer0.numBlocks+b < later.blockManager.gpu.ids.length := by
      refine lt_of_lt_of_le ?_ hroom
      calc l*r.layer0.numBlocks+b < (l+1)*r.layer0.numBlocks := by rw [Nat.add_mul]; omega
        _ ≤ gpt2NLayers*r.layer0.numBlocks := Nat.mul_le_mul_right _ hlayer
        _ = expected (a.entryOf r) := Nat.mul_comm _ _
    refine ⟨kv.blockTable[b],later.blockManager.gpu.ids[l*r.layer0.numBlocks+b],
      List.getElem?_eq_getElem (hlen ▸ hbl),?_,List.getElem?_eq_getElem hindex⟩
    simp only [List.getElem?_take_of_lt hbl, List.getElem?_drop]
    exact List.getElem?_eq_getElem hindex
  · left
    simp only [List.getElem?_eq_none_iff, List.length_take]
    omega

theorem swap_preserves_calls (others : List Request) : SwapPreserves a r later others ↔
    ∀ before between cpuPool : Memory α,
      EntryKept (a.entryOf r)
        (saveAll before (r.blocks.zip (a.cpuTaken r)) a.device.cpuPool) cpuPool →
      let back := (later.withPools between cpuPool).swapIn (a.swapOut r).req
      back.alloc.device.faulted = false ∧ Restored r back.req before back.alloc.device.pool ∧
      ∀ q ∈ others, Undisturbed q between back.alloc.device.pool := by
  have hok (before : Memory α) :
      ((a.withPools before a.device.cpuPool).swapOut r).ok = true := by
    rw [swap_out_with_pools a r hout]
    rfl
  have hlookup (before : Memory α) :
      ((a.withPools before a.device.cpuPool).swapOut r).alloc.swappedRequests.lookup
        r.requestId = some (a.entryOf r) := swap_out_entry _ r (hok before)
  have hpool (before : Memory α) :
      ((a.withPools before a.device.cpuPool).swapOut r).alloc.device.cpuPool =
        saveAll before (r.blocks.zip (a.cpuTaken r)) a.device.cpuPool := by
    rw [swap_out_with_pools a r hout]
    rfl
  simp only [SwapPreserves, swap_out_req a r hout, hok, hlookup, hpool, forall_const]
  refine forall_congr' fun before => forall_congr' fun between => forall_congr' fun cpuPool => ?_
  constructor
  · intro h hkept
    refine h (back_round_trip a r later hout hin hentry before between cpuPool hkept).ok ?_
    rintro swapped hs
    obtain rfl := Option.some.inj hs
    exact ⟨hentry.trans (swap_out_entry a r hout),hkept⟩
  · intro h _ hs
    exact h (hs _ rfl).2

omit hout hin hentry in
theorem cached_as_read (back : Outcome (RealKvAllocator α)) (before between : Memory α)
    (hback : RoundTrip a r later before between back) (p p' : ℕ) (hp : CachedAs r later p p') :
    ∃ (l b : ℕ) (kv kv' : PagedKVCache), r.layerKv[l]? = some kv ∧
      back.req.layerKv[l]? = some kv' ∧ b*defaultKvBlockSize < kv.numTokens ∧
      kv.blockTable[b]? = some p ∧ kv'.blockTable[b]? = some p' := by
  obtain ⟨l,b,kv,hkv,hb,hp,hp'⟩ := hp
  have hl : l < back.req.layerKv.length := by
    rw [back.req.layers, ← r.layers]
    exact (List.getElem?_eq_some_iff.mp hkv).1
  have hkv' : back.req.layerKv[l]? = some back.req.layerKv[l] := List.getElem?_eq_getElem hl
  refine ⟨l,b,kv,_,hkv,hkv',hb,hp,?_⟩
  rcases hback.tables l kv _ b hkv hkv' with ⟨hnone,_⟩ | ⟨q,q',_,hq',hid⟩
  · simp [hp] at hnone
  · rw [hq', ← hid, hp']

theorem slots_agree_of_preserves [Nontrivial α] (others : List Request)
    (hpres : SwapPreserves a r later others) : SlotsAgree a r later others := by
  have h := (swap_preserves_calls a r later hout hin hentry others).mp hpres
  let saved (before : Memory α) :=
    saveAll before (r.blocks.zip (a.cpuTaken r)) a.device.cpuPool
  let back (before between : Memory α) :=
    (later.withPools between (saved before)).swapIn (a.swapOut r).req
  let trip (before between : Memory α) := (back before between).alloc.device.pool
  have hback (before between : Memory α) :
      RoundTrip a r later before between (back before between) :=
    back_round_trip a r later hout hin hentry before between _ (fun _ _ _ _ => rfl)
  have hkeeps (before between : Memory α) :=
    h before between (saved before) (fun _ _ _ _ => rfl)
  have hhalf (p p' : ℕ) (hp : CachedAs r later p p') :
      HalfKept a r later p p' ∧
        HalfKept a r later (defaultTotalKvBlocks+p) (defaultTotalKvBlocks+p') := by
    have hfirst (before between : Memory α) :
        trip before between (p'*halfSlot) = before (p*halfSlot) ∧
        trip before between ((defaultTotalKvBlocks+p')*halfSlot) =
          before ((defaultTotalKvBlocks+p)*halfSlot) := by
      obtain ⟨l,b,kv,kv',hkv,hkv',hb,hx,hy⟩ :=
        cached_as_read a r later _ before between (hback before between) p p' hp
      exact same_kv_first ((hkeeps before between).2.1 l kv kv' hkv hkv') b p p' hb hx hy
    have hm (before between : Memory α) := (hback before between).moved
    have hno (before between : Memory α) := (hback before between).kept
    exact ⟨half_kept_of_reads trip hm hno _ _ fun before between => (hfirst before between).1,
      half_kept_of_reads trip hm hno _ _ fun before between => (hfirst before between).2⟩
  obtain ⟨hunmarked,hwithin⟩ :=
    (hback a.device.pool a.device.pool).faulted.mp (hkeeps _ _).1
  refine ⟨hunmarked,hwithin,fun p p' hp => (hhalf p p' hp).1,fun p p' hp => (hhalf p p' hp).2,?_⟩
  rintro q hq p ⟨kv,hkv,b,hb,hp⟩ x y hxy
  have hfirst (before between : Memory α) :=
    same_kv_first ((hkeeps before between).2.2 q hq kv hkv) b p p hb hp hp
  exact ⟨untouched_of_reads trip (fun before between => (hback before between).moved) p
      (fun before between => (hfirst before between).1) x y hxy,
    untouched_of_reads trip (fun before between => (hback before between).moved) _
      (fun before between => (hfirst before between).2) x y hxy⟩

theorem preserves_of_slots_agree (others : List Request)
    (h : SlotsAgree a r later others) : SwapPreserves a r later others := by
  rw [swap_preserves_calls a r later hout hin hentry]
  intro before between cpuPool hsaved
  have hback := back_round_trip a r later hout hin hentry before between cpuPool hsaved
  refine ⟨hback.faulted.mpr ⟨h.unmarked,h.within⟩,?_,?_⟩
  · intro l kv kv' hkv hkv'
    refine same_kv_of_halves ?_
    intro b hb
    rcases hback.tables l kv kv' b hkv hkv' with hnone | ⟨p,p',hp,hp',hid⟩
    · exact Or.inl hnone
    · have hcached : CachedAs r later p p' := ⟨l,b,kv,hkv,hb,hp,hid⟩
      exact Or.inr ⟨p,p',hp,hp',fun e he =>
        ⟨half_kept_reads hback.moved (h.k p p' hcached) he,
          half_kept_reads hback.moved (h.v p p' hcached) he⟩⟩
  · intro q hq kv hkv
    refine same_kv_of_halves ?_
    intro b hb
    cases hp : kv.blockTable[b]? with
    | none => exact Or.inl ⟨rfl,rfl⟩
    | some p =>
      have huntouched (k e : ℕ) (he : e < halfSlot)
          (hk : ∀ x y, MovedSlot a r later x y → y ≠ k/2) :=
        hback.kept (k*halfSlot+e) fun x hx => hk x _ hx (half_div k e he)
      have hslots := h.others q hq p ⟨kv,hkv,b,hb,hp⟩
      exact Or.inr ⟨p,p,rfl,rfl,fun e he =>
        ⟨huntouched p e he fun x y hxy => (hslots x y hxy).1,
          huntouched _ e he fun x y hxy => (hslots x y hxy).2⟩⟩

end

/-- The round trip stores where it should and is the identity on K and V exactly when its CPU
blocks fit the staging vector and the moved slots are the ones attention reads, half for half. -/
theorem swap_preserves_iff [Nontrivial α] (a : RealKvAllocator α) (r : Request)
    (later : RealKvAllocator α) (hout : (a.swapOut r).ok = true)
    (hin : (later.swapIn (a.swapOut r).req).ok = true)
    (hentry : later.swappedRequests.lookup r.requestId =
      (a.swapOut r).alloc.swappedRequests.lookup r.requestId) (others : List Request) :
    SwapPreserves a r later others ↔ SlotsAgree a r later others :=
  ⟨slots_agree_of_preserves a r later hout hin hentry others,
    preserves_of_slots_agree a r later hout hin hentry others⟩

def onePrompt : Outcome (RealKvAllocator ℤ) :=
  (RealKvAllocator.new freshDevice).allocatePrefill (Request.new 1 [5] 8)

def onePrefilled : Request := onePrompt.req.mapCaches (·.setNumTokens 1)

def oneSwapped : Outcome (RealKvAllocator ℤ) := onePrompt.alloc.swapOut onePrefilled

theorem one_swap_runs : onePrompt.ok = true ∧ oneSwapped.ok = true ∧
    (oneSwapped.alloc.swapIn oneSwapped.req).ok = true := by decide +kernel

theorem one_swap_entry : oneSwapped.alloc.swappedRequests.lookup onePrefilled.requestId =
    (onePrompt.alloc.swapOut onePrefilled).alloc.swappedRequests.lookup onePrefilled.requestId := by
  rw [oneSwapped]

theorem one_swap_preserves_iff : SwapPreserves onePrompt.alloc onePrefilled oneSwapped.alloc [] ↔
    SlotsAgree onePrompt.alloc onePrefilled oneSwapped.alloc [] :=
  swap_preserves_iff onePrompt.alloc onePrefilled oneSwapped.alloc one_swap_runs.2.1
    one_swap_runs.2.2 one_swap_entry []

/-- Block 4095 comes back as block 4084, whose K rows are in another slot. -/
theorem one_swap_loses_kv :
    ¬ SwapPreserves onePrompt.alloc onePrefilled oneSwapped.alloc [] := by
  intro h
  have hslots :=
    slots_agree_of_preserves _ _ _ one_swap_runs.2.1 one_swap_runs.2.2 one_swap_entry [] h
  have hcached : CachedAs onePrefilled oneSwapped.alloc 4095 4084 :=
    ⟨0,0,⟨1,[4095],1⟩,by decide +kernel,by decide,by decide,by decide +kernel⟩
  exact absurd (hslots.k 4095 4084 hcached).1 (by decide)

end MiniLlm

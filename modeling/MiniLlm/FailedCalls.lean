import MiniLlm.RangedSwaps

/-!
# Calls that fail

An allocator call that returns false has changed nothing but the order of the
free ids: most of its tests come before its changes, and what comes after
them is undone. The loops of the two allocations have no such code, but with
the blocks counted beforehand they do not fail. A failing `swap_in` leaves
the counts of the caches at zero, where a `swap_out` has put them.
-/

set_option autoImplicit false

namespace MiniLlm

open RealKvAllocator Scheduler

variable {α B : Type*}

inductive FallibleCall where
  | allocatePrefill
  | allocateDecode
  | swapOut
  | swapIn
  deriving DecidableEq, Repr

namespace FallibleCall

def run (a : RealKvAllocator α) (r : Request) : FallibleCall → Outcome (RealKvAllocator α)
  | .allocatePrefill => a.allocatePrefill r
  | .allocateDecode => a.allocateDecode r
  | .swapOut => a.swapOut r
  | .swapIn => a.swapIn r

def Meets (r : Request) : FallibleCall → Prop
  | .allocatePrefill | .allocateDecode => True
  | .swapOut => r.kvResidency = .gpu
  | .swapIn => r.kvResidency = .cpu ∧ r.state = .swappedOut ∧ ∀ kv ∈ r.layerKv, kv.blockTable = []

end FallibleCall

def EntryInside (a : RealKvAllocator α) (r : Request) : Prop :=
  ∀ swapped, a.swappedRequests.lookup r.requestId = some swapped → overrun swapped = false

/-- The same ids are free, perhaps in another order. -/
structure Shuffled (f g : FreeStack) : Prop where
  total : g.total = f.total
  ids : g.ids.Perm f.ids
  isFree : g.isFree = f.isFree
  count : g.count = f.count

/-- The allocator shows no trace of a call. -/
structure AllocatorKept (a a' : RealKvAllocator α) : Prop where
  faulted : a'.device.faulted = a.device.faulted
  swappedRequests : a'.swappedRequests = a.swappedRequests
  gpu : Shuffled a.blockManager.gpu a'.blockManager.gpu
  cpu : Shuffled a.blockManager.cpu a'.blockManager.cpu

inductive RequestKept (r : Request) : FallibleCall → Request → Prop
  | same (call : FallibleCall) : RequestKept r call r
  | uncounted : RequestKept r .swapIn (r.mapCaches (·.setNumTokens 0))

/-- The claim of no trace whatever. -/
structure NoTrace (a : RealKvAllocator α) (r : Request) (out : Outcome (RealKvAllocator α)) :
    Prop where
  request : out.req = r
  allocator : AllocatorKept a out.alloc

section Stacks

theorem Shuffled.refl (f : FreeStack) : Shuffled f f := ⟨rfl,.refl _,rfl,rfl⟩

theorem shuffled_of_perm {f g : FreeStack} (ht : g.total = f.total) (hp : g.ids.Perm f.ids) :
    Shuffled f g := by
  refine ⟨ht,hp,?_,?_⟩
  · funext i
    apply Bool.eq_iff_iff.mpr
    rw [g.flagged, f.flagged, hp.mem_iff]
  · rw [g.counted, f.counted, hp.length_eq]

theorem shuffled_of_eq {f g : FreeStack} (h : g = f) : Shuffled f g := h ▸ .refl f

theorem NoTrace.refl (a : RealKvAllocator α) (r : Request) : NoTrace a r ⟨false,a,r⟩ :=
  ⟨rfl,rfl,rfl,.refl _,.refl _⟩

theorem NoTrace.kept {a : RealKvAllocator α} {r : Request} {out : Outcome (RealKvAllocator α)}
    (h : NoTrace a r out) (call : FallibleCall) :
    AllocatorKept a out.alloc ∧ RequestKept r call out.req :=
  ⟨h.allocator,h.request ▸ .same call⟩

end Stacks

section Calls

variable {a : RealKvAllocator α} {r : Request}

theorem allocate_no_trace (need : ℕ) (h : (a.allocateLayers r need).ok = false) :
    NoTrace a r (a.allocateLayers r need) := by
  rcases allocate_layers_cases a r need with ⟨_,hout⟩ | ⟨bm,_,hout⟩
  · rw [hout]
    exact .refl a r
  · rw [hout] at h
    cases h

theorem swap_out_no_trace (h : (a.swapOut r).ok = false) : NoTrace a r (a.swapOut r) := by
  have hcase := swap_out_case a r
  generalize a.swapOut r = out at hcase h
  cases hcase with
  | refused => exact .refl a r
  | undone d bm hd hg hc ht hr hwhy =>
    exact ⟨rfl,hd.faulted,rfl,shuffled_of_eq hg,shuffled_of_perm ht hc⟩
  | done => cases h

theorem reset_uncounts (hempty : ∀ kv ∈ r.layerKv, kv.blockTable = []) :
    r.mapCaches PagedKVCache.reset = r.mapCaches (·.setNumTokens 0) := by
  have hreset : r.layerKv.map PagedKVCache.reset = r.layerKv.map (·.setNumTokens 0) := by
    apply List.map_congr_left
    intro kv hkv
    rw [PagedKVCache.reset, ← hempty kv hkv, PagedKVCache.setNumTokens]
  unfold Request.mapCaches Request.withCaches
  simp only [hreset]

theorem swap_in_kept (ho : Owned a r) (hinside : EntryInside a r)
    (hempty : ∀ kv ∈ r.layerKv, kv.blockTable = []) (h : (a.swapIn r).ok = false) :
    AllocatorKept a (a.swapIn r).alloc ∧ RequestKept r .swapIn (a.swapIn r).req := by
  have hmark : (a.swapIn r).alloc.device.faulted = a.device.faulted := by
    apply Bool.eq_iff_iff.mpr
    refine ⟨fun hmarked => ?_,swap_in_keeps_mark⟩
    rcases swap_in_marked hmarked with hold | ⟨swapped,hl,hready,_⟩
    · exact hold
    · have hids := (recorded_erase _ _ swapped hl).nodup_iff.mp (List.nodup_append'.mp ho.cpu).2.1
      have hstray := swap_in_faulted_iff hl hready (List.nodup_append'.mp hids).1
      rw [hinside swapped hl] at hstray
      exact (hstray.mp hmarked).resolve_right Bool.false_ne_true
  have hcase := swap_in_case a r
  generalize a.swapIn r = out at hcase h hmark
  cases hcase with
  | refused => exact (NoTrace.refl a r).kept _
  | undone swapped d bm hl hready hd hg ht hc hreports hwhy =>
    refine ⟨⟨hmark,rfl,shuffled_of_perm ht hg,shuffled_of_eq hc⟩,?_⟩
    rw [reset_uncounts hempty]
    exact .uncounted
  | done => cases h

theorem RequestKept.eq {call : FallibleCall} {r' : Request} (h : RequestKept r call r')
    (hcounts : ∀ kv ∈ r.layerKv, kv.numTokens = 0) : r' = r := by
  cases h with
  | same => rfl
  | uncounted =>
    have hsame : r.layerKv.map (·.setNumTokens 0) = r.layerKv := by
      refine (List.map_congr_left fun kv hkv => ?_).trans (List.map_id _)
      rw [PagedKVCache.setNumTokens, ← hcounts kv hkv]
      rfl
    unfold Request.mapCaches Request.withCaches
    simp only [hsame]

end Calls

theorem placed_size {swapped : SwappedRequest} {r : Request} {p : Place}
    (h : Placed (some swapped) r p) : swapped.cpuBlocks.length = expected swapped := by
  obtain rfl := (placed_entry h).resolve_left (Option.some_ne_none swapped)
  obtain ⟨_,_,_,_,other,hother,hfits⟩ := h
  obtain rfl := Option.some.inj hother
  exact hfits.size

/-- The call that the scheduler makes for a request that is swapped out, in a run whose swap-outs
take ranges: if it fails, nothing has changed. -/
theorem visited_swap_in_no_trace {be : InferenceBackend B} {device : Device α} {b : B}
    {async : Bool} {s : Scheduler (RealKvAllocator α) B} (h : VisitedRanged be device b async s)
    {r : Request} (hr : r ∈ s.queues .swapOut) (hfail : (s.kvAllocator.swapIn r).ok = false) :
    NoTrace s.kvAllocator r (s.kvAllocator.swapIn r) := by
  have hmem := (mem_held s .swapOut r).mpr hr
  have hcustody := visited_custody h.visited
  have hplaced := hcustody.placed (.swapOut,r) hmem
  have hinside : EntryInside s.kvAllocator r := fun swapped hl => by
    have hentry : s.board.kvAllocator.swappedRequests.lookup r.requestId = some swapped := hl
    rw [hentry] at hplaced
    exact consecutive_no_overrun (placed_size hplaced) ((visited_ranged h).entries _ swapped hl)
  obtain ⟨others,hothers⟩ := Multiset.exists_cons_of_mem hmem
  obtain ⟨_,_,_,hshape,_⟩ := hplaced
  have hempty (kv : PagedKVCache) (hkv : kv ∈ r.layerKv) : kv.blockTable = [] :=
    List.eq_nil_of_length_eq_zero (hshape.tables kv hkv)
  obtain ⟨hkept,hsame⟩ := swap_in_kept (hcustody.owned hothers) hinside hempty hfail
  exact ⟨hsame.eq hshape.cached,hkept⟩

/-- Whatever the CUDA calls do, an allocator call that fails leaves no trace, but for a swap-in the
counts of the caches, which are zero after it. -/
theorem failed_call_no_trace (a : RealKvAllocator α) (r : Request) (call : FallibleCall)
    (h : Owned a r) (hcall : call.Meets r) (hin : call = .swapIn → EntryInside a r)
    (hfail : (call.run a r).ok = false) :
    AllocatorKept a (call.run a r).alloc ∧ RequestKept r call (call.run a r).req := by
  cases call with
  | allocatePrefill => exact (allocate_no_trace _ hfail).kept _
  | allocateDecode => exact (allocate_no_trace _ hfail).kept _
  | swapOut => exact (swap_out_no_trace hfail).kept _
  | swapIn => exact swap_in_kept h (hin rfl) hcall.2.2 hfail

/-- The first fourteen CUDA calls succeed: two of the constructor and twelve of a swap-out. -/
def brittleDevice : Device ℤ :=
  ⟨fun _ => 0,fun _ => 0,fun _ => 0,[],fun i => decide (i < 14),0,false⟩

def brittleSwapped : Outcome (RealKvAllocator ℤ) :=
  let out := (RealKvAllocator.new brittleDevice).allocatePrefill (Request.new 1 [5] 8)
  out.alloc.swapOut (out.req.mapCaches (·.setNumTokens 1))

set_option maxRecDepth 100000 in
theorem brittle_swapped_owned : Owned brittleSwapped.alloc brittleSwapped.req := by
  have hcpu : recordedIds brittleSwapped.alloc.swappedRequests++
      brittleSwapped.alloc.blockManager.cpu.ids = (List.range defaultTotalCpuBlocks).reverse ∧
      brittleSwapped.alloc.blockManager.cpu.total = defaultTotalCpuBlocks ∧
      brittleSwapped.req.blocks = [] := by decide +kernel
  obtain ⟨hids,htotal,hblocks⟩ := hcpu
  refine ⟨?_,?_,?_,fun c hc => ?_⟩
  · rw [hblocks, List.append_nil]
    exact brittleSwapped.alloc.blockManager.gpu.nodup
  · rw [hblocks]
    exact fun b hb => absurd hb List.not_mem_nil
  · apply List.perm_append_comm.nodup_iff.mpr
    rw [hids]
    exact List.nodup_reverse.mpr List.nodup_range
  · have hmem := List.mem_append_left brittleSwapped.alloc.blockManager.cpu.ids hc
    rw [hids, List.mem_reverse, List.mem_range] at hmem
    rwa [htotal]

theorem brittle_entry_inside : EntryInside brittleSwapped.alloc brittleSwapped.req := by
  unfold EntryInside
  decide +kernel

/-- Its swap-in fails at the first copy. -/
theorem brittle_swap_in_kept : (brittleSwapped.alloc.swapIn brittleSwapped.req).ok = false ∧
    AllocatorKept brittleSwapped.alloc
      (FallibleCall.swapIn.run brittleSwapped.alloc brittleSwapped.req).alloc ∧
    RequestKept brittleSwapped.req .swapIn
      (FallibleCall.swapIn.run brittleSwapped.alloc brittleSwapped.req).req := by
  refine ⟨by decide +kernel,?_⟩
  refine failed_call_no_trace _ _ .swapIn brittle_swapped_owned ?_ (fun _ => ?_) ?_
  · exact ⟨by decide +kernel,by decide +kernel,by decide +kernel⟩
  · exact brittle_entry_inside
  · decide +kernel

def miscounted : Request := brittleSwapped.req.mapCaches (·.setNumTokens 5)

/-- The invariant does not exclude it, and the swap-in that fails resets its caches. -/
theorem miscounted_traced : ¬ ∀ (a : RealKvAllocator ℤ) (r : Request) (call : FallibleCall),
    Owned a r → call.Meets r → (call.run a r).ok = false → NoTrace a r (call.run a r) := by
  intro h
  have howned : Owned brittleSwapped.alloc miscounted :=
    brittle_swapped_owned.request (by decide +kernel)
  have htrace := h brittleSwapped.alloc miscounted .swapIn howned
    ⟨by decide +kernel,by decide +kernel,by decide +kernel⟩ (by decide +kernel)
  have hcounts := congrArg (fun r : Request => r.layer0.numTokens) htrace.request
  revert hcounts
  decide +kernel

end MiniLlm

import MiniLlm.Placement

/-!
# Where a count of cached tokens comes from

An allocator call only copies counts: from the caches it is given, into an
entry and out of an entry. Nothing is asked of the state before the call, so
this also holds when two requests share an id.
-/

set_option autoImplicit false

namespace MiniLlm

open RealKvAllocator

variable {α : Type*}

structure CountsFrom (a : RealKvAllocator α) (r : Request) (limit : ℕ) (b : RealKvAllocator α)
    (q : Request) : Prop where
  total : b.blockManager.gpu.total = a.blockManager.gpu.total
  cached : ∀ kv ∈ q.layerKv, kv.numTokens = 0 ∨
    (∃ old ∈ r.layerKv, kv.numTokens = old.numTokens) ∨
    ∃ id swapped, a.swappedRequests.lookup id = some swapped ∧
      kv.numTokens = restoredNumTokens swapped
  recorded : ∀ id swapped, b.swappedRequests.lookup id = some swapped →
    a.swappedRequests.lookup id = some swapped ∨
      restoredNumTokens swapped ≤ limit

section Calls

variable (a : RealKvAllocator α) (r : Request)

theorem CountsFrom.unchanged {q : Request} (h : q.layerKv = r.layerKv) : CountsFrom a r 0 a q :=
  ⟨rfl,fun kv hkv => .inr (.inl ⟨kv,h ▸ hkv,rfl⟩),fun _ _ hl => .inl hl⟩

theorem CountsFrom.request {limit : ℕ} {b : RealKvAllocator α} {q p : Request}
    (h : CountsFrom a r limit b q) (hp : p.layerKv = q.layerKv) : CountsFrom a r limit b p :=
  ⟨h.total,fun kv hkv => h.cached kv (hp ▸ hkv),h.recorded⟩

theorem reset_counts : ∀ kv ∈ (r.mapCaches PagedKVCache.reset).layerKv, kv.numTokens = 0 := by
  intro kv hkv
  obtain ⟨old,_,rfl⟩ := List.mem_map.mp hkv
  rfl

theorem allocate_counts (need : ℕ) :
    CountsFrom a r 0 (a.allocateLayers r need).alloc (a.allocateLayers r need).req := by
  rcases allocate_layers_cases a r need with ⟨_,ho⟩ | ⟨bm,hd,ho⟩
  · rw [ho]
    exact .unchanged a r rfl
  · rw [ho]
    refine ⟨?_,?_,fun _ _ hl => .inl hl⟩
    · show bm.gpu.total = _
      rw [hd.gpu]
      rfl
    · intro kv hkv
      obtain ⟨old,hold,_,ht⟩ := extended_shape need r.layerKv a.blockManager.gpu.ids
        (by rw [r.layers]; exact hd.enough) kv hkv
      exact .inr (.inl ⟨old,hold,ht⟩)

theorem swap_out_counts :
    CountsFrom a r r.layer0.numTokens (a.swapOut r).alloc (a.swapOut r).req := by
  have hcase := swap_out_case a r
  generalize a.swapOut r = out at hcase
  cases hcase with
  | refused => exact ⟨rfl,fun kv hkv => .inr (.inl ⟨kv,hkv,rfl⟩),fun _ _ hl => .inl hl⟩
  | undone d bm _ hg =>
    refine ⟨?_,fun kv hkv => .inr (.inl ⟨kv,hkv,rfl⟩),fun _ _ hl => .inl hl⟩
    show bm.gpu.total = _
    rw [hg]
  | done _ hn _ _ =>
    refine ⟨?_,fun kv hkv => .inl (reset_counts r kv hkv),?_⟩
    · show (freeLayers _ r.layerKv).gpu.total = _
      rw [free_layers_blocks, BlockManager.free_total]
      rfl
    · intro id swapped hl
      replace hl : (a.swappedRequests.insert r.requestId (a.entryOf r)).lookup id =
        some swapped := hl
      by_cases hid : id = r.requestId
      · right
        rw [hid, AList.lookup_insert] at hl
        obtain rfl := Option.some.inj hl
        rw [entry_tokens a r hn]
        exact Nat.min_le_left _ _
      · left
        rwa [AList.lookup_insert_ne hid] at hl

theorem swap_in_counts : CountsFrom a r 0 (a.swapIn r).alloc (a.swapIn r).req := by
  have hcase := swap_in_case a r
  generalize a.swapIn r = out at hcase
  cases hcase with
  | refused => exact .unchanged a r rfl
  | undone swapped d bm _ _ _ _ ht =>
    exact ⟨ht,fun kv hkv => .inl (reset_counts r kv hkv),fun _ _ hl => .inl hl⟩
  | done swapped bm hl hready _ hd =>
    refine ⟨?_,?_,?_⟩
    · show (bm.freeCpu _).gpu.total = _
      rw [BlockManager.free_cpu_gpu, hd.gpu]
      rfl
    · intro kv hkv
      have hshape := restored_shape swapped.blocksPerLayer (restoredNumTokens swapped) r.layerKv
        a.blockManager.gpu.ids (by rw [r.layers]; exact hready.room) kv hkv
      exact .inr (.inr ⟨r.requestId,swapped,hl,hshape.2⟩)
    · intro id other hother
      left
      replace hother : (a.swappedRequests.erase r.requestId).lookup id = some other := hother
      by_cases hid : id = r.requestId
      · rw [hid, AList.lookup_erase] at hother
        cases hother
      · rwa [AList.lookup_erase_ne hid] at hother

theorem free_counts : CountsFrom a r 0 (a.freeRequest r).1 (a.freeRequest r).2 := by
  refine ⟨?_,fun kv hkv => .inl (reset_counts r kv hkv),fun _ _ hl => .inl hl⟩
  rw [free_request_fst]
  exact BlockManager.free_total _ _

end Calls

end MiniLlm

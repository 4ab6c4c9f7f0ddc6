import MiniLlm.Scheduler
import MiniLlm.StagedScatter

/-!
# Who owns a block

Every call of the allocator moves ids between the free stacks, the tables of
the request it is given and the entries, and loses none. This is all the
scheduler needs to know of the two pools.
-/

set_option autoImplicit false

namespace MiniLlm

open RealKvAllocator

variable {α : Type*}

structure Exchange (a : RealKvAllocator α) (r : Request) (b : RealKvAllocator α) (q : Request) :
    Prop where
  gpu : (b.blockManager.gpu.ids++q.blocks).Perm (a.blockManager.gpu.ids++r.blocks)
  cpu : (b.blockManager.cpu.ids++recordedIds b.swappedRequests).Perm
    (a.blockManager.cpu.ids++recordedIds a.swappedRequests)
  gpuTotal : b.blockManager.gpu.total = a.blockManager.gpu.total
  cpuTotal : b.blockManager.cpu.total = a.blockManager.cpu.total
  reports : b.blockManager.reports = a.blockManager.reports
  others : ∀ id, id ≠ r.requestId → b.swappedRequests.lookup id = a.swappedRequests.lookup id

structure Owned (a : RealKvAllocator α) (r : Request) : Prop where
  gpu : (a.blockManager.gpu.ids++r.blocks).Nodup
  gpuBound : ∀ b ∈ r.blocks, b < a.blockManager.gpu.total
  cpu : (a.blockManager.cpu.ids++recordedIds a.swappedRequests).Nodup
  cpuBound : ∀ c ∈ recordedIds a.swappedRequests, c < a.blockManager.cpu.total

theorem Owned.request {a : RealKvAllocator α} {r q : Request} (h : Owned a r)
    (hb : q.blocks = r.blocks) : Owned a q :=
  ⟨by rw [hb]; exact h.gpu,by rw [hb]; exact h.gpuBound,h.cpu,h.cpuBound⟩

section Tables

theorem flat_map_index {κ β : Type*} (f : κ → List β) (xs : List κ)
    (h : (xs.flatMap f).Nodup) (i j : ℕ)
    (x y : κ) (b : β) (hi : xs[i]? = some x) (hj : xs[j]? = some y) (hx : b ∈ f x)
    (hy : b ∈ f y) : i = j := by
  induction xs generalizing i j with
  | nil => simp at hi
  | cons first rest ih =>
    obtain ⟨_,hrest,hd⟩ := List.nodup_append'.mp (List.flatMap_cons ▸ h)
    have hlater (k : ℕ) (z : κ) (hz : rest[k]? = some z) (hb : b ∈ f z) : b ∉ f first :=
      fun hm => hd hm (List.mem_flatMap.mpr ⟨z,List.mem_of_getElem? hz,hb⟩)
    cases i with
    | zero =>
      cases j with
      | zero => rfl
      | succ j =>
        obtain rfl := Option.some.inj hi
        exact absurd hx (hlater j y hj hy)
    | succ i =>
      cases j with
      | zero =>
        obtain rfl := Option.some.inj hj
        exact absurd hy (hlater i x hi hx)
      | succ j => exact congrArg (·+1) (ih hrest i j hi hj)

variable {r : Request} {layer layer' b b' physical : ℕ} {kv kv' : PagedKVCache}

theorem table_mem (hkv : r.layerKv[layer]? = some kv) (hb : kv.blockTable[b]? = some physical) :
    physical ∈ r.blocks :=
  List.mem_flatMap.mpr ⟨kv,List.mem_of_getElem? hkv,List.mem_of_getElem? hb⟩

theorem blocks_unshared (h : r.blocks.Nodup) (hkv : r.layerKv[layer]? = some kv)
    (hkv' : r.layerKv[layer']? = some kv') (hb : kv.blockTable[b]? = some physical)
    (hb' : kv'.blockTable[b']? = some physical) : layer = layer' ∧ b = b' := by
  obtain rfl := flat_map_index PagedKVCache.blockTable _ h layer layer' kv kv' physical hkv hkv'
    (List.mem_of_getElem? hb) (List.mem_of_getElem? hb')
  obtain rfl := Option.some.inj (hkv.symm.trans hkv')
  have hlayer : kv.blockTable.Nodup :=
    (List.nodup_flatMap.mp h).1 kv (List.mem_of_getElem? hkv)
  have hlt : b < kv.blockTable.length := (List.getElem?_eq_some_iff.mp hb).1
  exact ⟨rfl,(List.getElem?_inj hlt hlayer).mp (hb.trans hb'.symm)⟩

end Tables

section Calls

variable (a : RealKvAllocator α) (r : Request)

theorem Exchange.refl (q : Request) (h : q.blocks = r.blocks) : Exchange a r a q :=
  ⟨by rw [h],.refl _,rfl,rfl,rfl,fun _ _ => rfl⟩

theorem Exchange.request {b : RealKvAllocator α} {q p : Request} (h : Exchange a r b q)
    (hb : p.blocks = q.blocks) : Exchange a r b p :=
  ⟨by rw [hb]; exact h.gpu,h.cpu,h.gpuTotal,h.cpuTotal,h.reports,h.others⟩

theorem Exchange.source {b : RealKvAllocator α} {q s : Request} (h : Exchange a s b q)
    (hb : s.blocks = r.blocks) (hid : s.requestId = r.requestId) : Exchange a r b q :=
  ⟨hb ▸ h.gpu,h.cpu,h.gpuTotal,h.cpuTotal,h.reports,hid ▸ h.others⟩

theorem map_caches_blocks (f : PagedKVCache → PagedKVCache)
    (hf : ∀ kv, (f kv).blockTable = kv.blockTable) : (r.mapCaches f).blocks = r.blocks := by
  unfold Request.blocks Request.mapCaches Request.withCaches
  rw [List.flatMap_map]
  exact List.flatMap_congr fun kv _ => hf kv

theorem reset_blocks : (r.mapCaches PagedKVCache.reset).blocks = [] := by
  unfold Request.blocks Request.mapCaches Request.withCaches
  rw [List.flatMap_map]
  exact List.flatMap_eq_nil_iff.mpr fun kv _ => rfl

theorem allocate_exchange (need : ℕ) :
    Exchange a r (a.allocateLayers r need).alloc (a.allocateLayers r need).req := by
  rcases allocate_layers_cases a r need with ⟨_,h⟩ | ⟨bm,hd,h⟩ <;> rw [h]
  · exact .refl a r r rfl
  · refine ⟨?_,?_,?_,?_,hd.reports,fun _ _ => rfl⟩
    · have hblocks := extended_blocks need r.layerKv a.blockManager.gpu.ids
      rw [r.layers] at hblocks
      change (bm.gpu.ids++(extended need r.layerKv a.blockManager.gpu.ids).flatMap
        PagedKVCache.blockTable).Perm _
      rw [hd.gpu, FreeStack.drop_ids]
      refine (hblocks.append_left _).trans (List.perm_append_comm.trans ?_)
      rw [List.append_assoc, List.take_append_drop]
      exact List.perm_append_comm
    · change (bm.cpu.ids++recordedIds a.swappedRequests).Perm _
      rw [hd.cpu]
    · change bm.gpu.total = _
      rw [hd.gpu]
      rfl
    · change bm.cpu.total = _
      rw [hd.cpu]

theorem Owned.returnable (h : Owned a r) :
    BlockManager.Returnable a.blockManager.gpu r.blocks := by
  obtain ⟨_,hn,hd⟩ := List.nodup_append'.mp h.gpu
  exact ⟨hn,h.gpuBound,fun i hi hm => hd hm hi⟩

theorem free_exchange (h : Owned a r) :
    Exchange a r (a.freeRequest r).1 (a.freeRequest r).2 := by
  obtain ⟨hf,hc,hr⟩ := BlockManager.free_returnable a.blockManager r.blocks (h.returnable a r)
  have hblocks : (a.freeRequest r).2.blocks = [] := reset_blocks r
  rw [free_request_fst]
  refine ⟨?_,?_,hf.total,?_,hr,fun _ _ => rfl⟩
  · rw [hblocks, List.append_nil]
    change (a.blockManager.free r.blocks).gpu.ids.Perm _
    rw [hf.ids]
    exact ((List.reverse_perm _).append_right _).trans List.perm_append_comm
  · change ((a.blockManager.free r.blocks).cpu.ids++_).Perm _
    rw [hc]
  · change (a.blockManager.free r.blocks).cpu.total = _
    rw [hc]

theorem swap_out_exchange (h : Owned a r)
    (hnew : a.swappedRequests.lookup r.requestId = none) :
    Exchange a r (a.swapOut r).alloc (a.swapOut r).req := by
  have hcase := swap_out_case a r
  generalize a.swapOut r = out at hcase
  cases hcase with
  | refused => exact .refl a r r rfl
  | undone d bm hd hg hcpu ht hr =>
    refine ⟨?_,hcpu.append_right _,?_,ht,hr,fun _ _ => rfl⟩
    · change (bm.gpu.ids++r.blocks).Perm _
      rw [hg]
    · change bm.gpu.total = _
      rw [hg]
  | done h0 hn hb hk =>
    have hperm := swap_out_ledger a r hn
    rw [erase_absent _ _ hnew] at hperm
    have hcpu : ((a.blockManager.cpu.drop (neededCpuBlocks r)).ids++
        recordedIds (a.swappedRequests.insert r.requestId (a.entryOf r))).Perm
        (a.blockManager.cpu.ids++recordedIds a.swappedRequests) :=
      List.perm_append_comm.trans (hperm.trans List.perm_append_comm)
    have howned : Owned { a.copiedOut r with
        swappedRequests := a.swappedRequests.insert r.requestId (a.entryOf r) } r := by
      refine ⟨h.gpu,h.gpuBound,hcpu.nodup_iff.mpr h.cpu,?_⟩
      intro c hc
      rcases List.mem_append.mp (hperm.mem_iff.mp (List.mem_append_left _ hc)) with hc | hc
      · exact h.cpuBound c hc
      · exact a.blockManager.cpu.bounded c hc
    have hfree := free_exchange _ r howned
    exact ⟨hfree.gpu,hfree.cpu.trans hcpu,hfree.gpuTotal,hfree.cpuTotal,hfree.reports,
      fun id hid => AList.lookup_insert_ne hid⟩

theorem swap_in_exchange (h : Owned a r) (hempty : r.blocks = []) :
    Exchange a r (a.swapIn r).alloc (a.swapIn r).req := by
  have hcase := swap_in_case a r
  generalize a.swapIn r = out at hcase
  cases hcase with
  | refused => exact .refl a r r rfl
  | undone swapped d bm hl hready hd hg ht hc hr =>
    refine ⟨?_,?_,ht,?_,hr,fun _ _ => rfl⟩
    · change (bm.gpu.ids++(r.mapCaches PagedKVCache.reset).blocks).Perm _
      rw [reset_blocks, hempty]
      exact hg.append_right _
    · change (bm.cpu.ids++_).Perm _
      rw [hc]
    · change bm.cpu.total = _
      rw [hc]
  | done swapped bm hl hready hk hd =>
    have hperm := recorded_erase _ _ swapped hl
    have hsplit := (hperm.append_left a.blockManager.cpu.ids).nodup_iff.mp h.cpu
    obtain ⟨_,hrecorded,hapart⟩ := List.nodup_append'.mp hsplit
    have hret : BlockManager.Returnable bm.cpu swapped.ids := by
      rw [hd.cpu]
      exact ⟨(List.nodup_append'.mp hrecorded).1,
        fun c hc => h.cpuBound c (recorded_mem _ _ swapped hl hc),
        fun c hc hm => hapart hm (List.mem_append_left _ hc)⟩
    obtain ⟨hf,hg,hr⟩ := BlockManager.free_cpu_returnable bm swapped.ids hret
    rw [hd.cpu] at hf
    have hblocks : (r.restore swapped a.blockManager.gpu.ids).blocks =
        a.blockManager.gpu.ids.take (expected swapped) := by
      have htables := restored_caches_blocks swapped.blocksPerLayer (restoredNumTokens swapped)
        r.layerKv a.blockManager.gpu.ids
      rwa [r.layers] at htables
    refine ⟨?_,?_,?_,hf.total,hr.trans hd.reports,fun id hid => AList.lookup_erase_ne hid⟩
    · change ((bm.freeCpu swapped.ids).gpu.ids++
        (r.restore swapped a.blockManager.gpu.ids).blocks).Perm _
      rw [hg, hd.gpu, hblocks, hempty, List.append_nil, FreeStack.drop_ids]
      exact List.perm_append_comm.trans (List.Perm.of_eq (List.take_append_drop _ _))
    · change ((bm.freeCpu swapped.ids).cpu.ids++
        recordedIds (a.swappedRequests.erase r.requestId)).Perm _
      rw [hf.ids]
      refine List.Perm.trans ?_ (hperm.symm.append_left _)
      rw [← List.append_assoc]
      exact ((List.perm_append_comm.trans ((List.reverse_perm _).append_left _)).append_right _)
    · change (bm.freeCpu swapped.ids).gpu.total = _
      rw [hg, hd.gpu]
      rfl

end Calls

section Text

variable (a : RealKvAllocator α) (r : Request)

theorem allocate_text (need : ℕ) : r.SameText (a.allocateLayers r need).req := by
  rcases allocate_layers_cases a r need with ⟨_,h⟩ | ⟨bm,_,h⟩ <;> rw [h] <;>
    exact ⟨rfl,rfl,rfl,rfl⟩

theorem swap_out_text : r.SameText (a.swapOut r).req := by
  have hcase := swap_out_case a r
  generalize a.swapOut r = out at hcase
  cases hcase <;> exact ⟨rfl,rfl,rfl,rfl⟩

theorem swap_in_text : r.SameText (a.swapIn r).req := by
  have hcase := swap_in_case a r
  generalize a.swapIn r = out at hcase
  cases hcase <;> exact ⟨rfl,rfl,rfl,rfl⟩

end Text

def realKvAllocator (α : Type*) : KvAllocator (RealKvAllocator α) where
  allocatePrefill := RealKvAllocator.allocatePrefill
  allocateDecode := RealKvAllocator.allocateDecode
  freeRequest := RealKvAllocator.freeRequest
  swapOut := RealKvAllocator.swapOut
  swapIn := RealKvAllocator.swapIn
  isSwapped := RealKvAllocator.isSwapped
  prefill_text := fun a r => allocate_text a r _
  decode_text := fun a r => allocate_text a r _
  free_text := fun _ _ => ⟨rfl,rfl,rfl,rfl⟩
  out_text := swap_out_text
  in_text := swap_in_text

end MiniLlm

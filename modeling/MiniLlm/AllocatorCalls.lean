import MiniLlm.RealKvAllocator

/-!
# What each allocator call does

One lemma for each call lists everything it can do to the two stacks, the
swapped entries and the request. Later modules use these lemmas and do not
open the calls again.
-/

set_option autoImplicit false

namespace MiniLlm

open FlatMemory

variable {α : Type*}

namespace BlockManager

structure Returnable (f : FreeStack) (ids : List ℕ) : Prop where
  nodup : ids.Nodup
  bounded : ∀ i ∈ ids, i < f.total
  taken : ∀ i ∈ ids, i ∉ f.ids

theorem Returnable.tail {f : FreeStack} {i : ℕ} {ids : List ℕ} (h : Returnable f (i::ids))
    (hi : i < f.total) (hf : f.isFree i = false) : Returnable (f.push i hi hf) ids := by
  obtain ⟨hni,hn⟩ := List.nodup_cons.mp h.nodup
  refine ⟨hn,fun j hj => h.bounded j (by simp [hj]),?_⟩
  intro j hj hm
  rcases List.mem_cons.mp hm with rfl | hm
  · exact hni hj
  · exact h.taken j (by simp [hj]) hm

structure Freed (f g : FreeStack) (ids : List ℕ) : Prop where
  ids : g.ids = ids.reverse++f.ids
  total : g.total = f.total

theorem free_returnable (bm : BlockManager) (ids : List ℕ) (h : Returnable bm.gpu ids) :
    Freed bm.gpu (bm.free ids).gpu ids ∧ (bm.free ids).cpu = bm.cpu ∧
      (bm.free ids).reports = bm.reports := by
  induction ids generalizing bm with
  | nil => exact ⟨⟨rfl,rfl⟩,rfl,rfl⟩
  | cons i ids ih =>
    have hi : i < bm.gpu.total := h.bounded i (by simp)
    have hf : bm.gpu.isFree i = false := (bm.gpu.not_free_iff i).mpr (h.taken i (by simp))
    have hone : bm.freeOne i = { bm with
        gpu := bm.gpu.push i hi hf
        blocks := Function.update bm.blocks i PhysicalBlock.reset } := by
      unfold freeOne
      rw [dif_neg (by omega), dif_neg (by simp [hf])]
      rfl
    obtain ⟨hg,hc,hr⟩ := ih (bm.freeOne i) (by rw [hone]; exact h.tail hi hf)
    rw [free, hc, hr]
    rw [hone] at hg ⊢
    refine ⟨⟨?_,hg.total⟩,rfl,rfl⟩
    rw [hg.ids]
    simp

theorem free_cpu_returnable (bm : BlockManager) (ids : List ℕ) (h : Returnable bm.cpu ids) :
    Freed bm.cpu (bm.freeCpu ids).cpu ids ∧ (bm.freeCpu ids).gpu = bm.gpu ∧
      (bm.freeCpu ids).reports = bm.reports := by
  induction ids generalizing bm with
  | nil => exact ⟨⟨rfl,rfl⟩,rfl,rfl⟩
  | cons i ids ih =>
    have hi : i < bm.cpu.total := h.bounded i (by simp)
    have hf : bm.cpu.isFree i = false := (bm.cpu.not_free_iff i).mpr (h.taken i (by simp))
    have hone : bm.freeCpuOne i = { bm with cpu := bm.cpu.push i hi hf } := by
      unfold freeCpuOne
      rw [dif_neg (by omega), dif_neg (by simp [hf])]
      rfl
    obtain ⟨hg,hc,hr⟩ := ih (bm.freeCpuOne i) (by rw [hone]; exact h.tail hi hf)
    rw [freeCpu, hc, hr]
    rw [hone] at hg ⊢
    refine ⟨⟨?_,hg.total⟩,rfl,rfl⟩
    rw [hg.ids]
    simp

theorem free_one_cpu (bm : BlockManager) (id : ℤ) : (bm.freeOne id).cpu = bm.cpu := by
  unfold freeOne
  split
  · rfl
  · split <;> rfl

theorem free_cpu_same (bm : BlockManager) (ids : List ℕ) : (bm.free ids).cpu = bm.cpu := by
  induction ids generalizing bm with
  | nil => rfl
  | cons i ids ih => rw [free, ih, free_one_cpu]

theorem free_total (bm : BlockManager) (ids : List ℕ) :
    (bm.free ids).gpu.total = bm.gpu.total := by
  have hone (bm : BlockManager) (id : ℤ) : (bm.freeOne id).gpu.total = bm.gpu.total := by
    unfold freeOne
    split
    · rfl
    · split <;> rfl
  induction ids generalizing bm with
  | nil => rfl
  | cons i ids ih => rw [free, ih, hone]

theorem free_cpu_gpu (bm : BlockManager) (ids : List ℕ) : (bm.freeCpu ids).gpu = bm.gpu := by
  have hone (bm : BlockManager) (id : ℤ) : (bm.freeCpuOne id).gpu = bm.gpu := by
    unfold freeCpuOne
    split
    · rfl
    · split <;> rfl
  induction ids generalizing bm with
  | nil => rfl
  | cons i ids ih => rw [freeCpu, ih, hone]

theorem free_append (bm : BlockManager) (ids rest : List ℕ) :
    bm.free (ids++rest) = (bm.free ids).free rest := by
  induction ids generalizing bm with
  | nil => rfl
  | cons i ids ih => exact ih _

theorem allocate_cpu_loop (bm : BlockManager) (n : ℕ) (ids : List ℕ) (h : n ≤ bm.cpu.ids.length) :
    allocateCpuLoop n ids bm = (ids++bm.cpu.ids.take n,{ bm with cpu := bm.cpu.drop n }) := by
  induction n generalizing ids bm with
  | zero => simp [allocateCpuLoop, FreeStack.drop_zero]
  | succ n ih =>
    cases hc : bm.cpu.ids with
    | nil => simp [hc] at h
    | cons i rest =>
      simp only [allocateCpuLoop, allocateCpuOne, FreeStack.pop_cons bm.cpu i rest hc]
      rw [ih _ _ (by simp [hc] at h ⊢; omega)]
      simp [hc, FreeStack.drop_drop, Nat.add_comm 1 n]

theorem allocate_cpu_grant (bm : BlockManager) (n : ℕ) (h : n ≤ bm.cpu.count) :
    bm.allocateCpu n = (bm.cpu.ids.take n,{ bm with cpu := bm.cpu.drop n }) := by
  unfold allocateCpu
  rw [if_neg (by omega), Int.toNat_natCast, allocate_cpu_loop bm n [] (bm.cpu.counted ▸ h),
    List.nil_append]

end BlockManager

theorem free_layers_blocks (bm : BlockManager) (kvs : List PagedKVCache) :
    freeLayers bm kvs = bm.free (kvs.flatMap PagedKVCache.blockTable) := by
  unfold freeLayers
  induction kvs generalizing bm with
  | nil => rfl
  | cons kv kvs ih => rw [List.foldl_cons, ih, List.flatMap_cons, BlockManager.free_append]

def extended (need : ℕ) : List PagedKVCache → List ℕ → List PagedKVCache
  | [], _ => []
  | kv::kvs, ids => { kv with blockTable := kv.blockTable++ids.take need }::
      extended need kvs (ids.drop need)

theorem append_blocks_grant (n : ℕ) (kv : PagedKVCache) (bm : BlockManager)
    (h : n ≤ bm.gpu.ids.length) :
    ∃ out, appendBlocks n kv bm =
        (true,{ kv with blockTable := kv.blockTable++bm.gpu.ids.take n },out) ∧
      out.gpu = bm.gpu.drop n ∧ out.cpu = bm.cpu ∧ out.reports = bm.reports := by
  induction n generalizing kv bm with
  | zero => exact ⟨bm,by simp [appendBlocks],(bm.gpu.drop_zero).symm,rfl,rfl⟩
  | succ n ih =>
    cases hc : bm.gpu.ids with
    | nil => simp [hc] at h
    | cons i rest =>
      simp only [appendBlocks, BlockManager.allocate_one_some bm i rest hc]
      obtain ⟨out,ho,hg,hcpu,hr⟩ := ih (kv.appendBlock i)
        { bm with gpu := bm.gpu.drop 1, blocks := Function.update bm.blocks i PhysicalBlock.reset }
        (by simp [hc] at h ⊢; omega)
      refine ⟨out,?_,?_,hcpu,hr⟩
      · rw [ho]
        simp [PagedKVCache.appendBlock, hc]
      · rw [hg, FreeStack.drop_drop, Nat.add_comm]

theorem append_layers_grant (need : ℕ) (kvs : List PagedKVCache) (bm : BlockManager)
    (h : need*kvs.length ≤ bm.gpu.ids.length) :
    ∃ out, appendLayers need kvs bm = (true,extended need kvs bm.gpu.ids,out) ∧
      out.gpu = bm.gpu.drop (need*kvs.length) ∧ out.cpu = bm.cpu ∧ out.reports = bm.reports := by
  induction kvs generalizing bm with
  | nil => exact ⟨bm,rfl,(bm.gpu.drop_zero).symm,rfl,rfl⟩
  | cons kv kvs ih =>
    simp only [List.length_cons, Nat.mul_add, Nat.mul_one] at h
    obtain ⟨one,ho,hg,hc,hr⟩ := append_blocks_grant need kv bm (by omega)
    obtain ⟨out,hout,hg',hc',hr'⟩ := ih one (by rw [hg]; simp; omega)
    refine ⟨out,?_,?_,hc'.trans hc,hr'.trans hr⟩
    · simp only [appendLayers, ho, hout]
      simp [extended, hg]
    · rw [hg', hg, FreeStack.drop_drop, List.length_cons, Nat.mul_add, Nat.mul_one, Nat.add_comm]

theorem extended_length (need : ℕ) (kvs : List PagedKVCache) (ids : List ℕ) :
    (extended need kvs ids).length = kvs.length := by
  induction kvs generalizing ids with
  | nil => rfl
  | cons kv kvs ih => simp [extended, ih]

theorem extended_blocks (need : ℕ) (kvs : List PagedKVCache) (ids : List ℕ) :
    ((extended need kvs ids).flatMap PagedKVCache.blockTable).Perm
      (kvs.flatMap PagedKVCache.blockTable++ids.take (need*kvs.length)) := by
  induction kvs generalizing ids with
  | nil => simp [extended]
  | cons kv kvs ih =>
    have hsplit : ids.take (need*(kvs.length+1)) =
        ids.take need++(ids.drop need).take (need*kvs.length) := by
      rw [Nat.mul_add, Nat.mul_one, Nat.add_comm, List.take_add]
    simp only [extended, List.flatMap_cons, List.length_cons, hsplit, List.append_assoc]
    refine List.Perm.append_left _ ?_
    refine ((ih (ids.drop need)).append_left (ids.take need)).trans ?_
    simp only [← List.append_assoc]
    exact List.Perm.append_right _ List.perm_append_comm

structure Drawn (bm out : BlockManager) (n : ℕ) : Prop where
  enough : n ≤ bm.gpu.ids.length
  gpu : out.gpu = bm.gpu.drop n
  cpu : out.cpu = bm.cpu
  reports : out.reports = bm.reports

def Request.grant (r : Request) (need : ℕ) (ids : List ℕ) : Request :=
  (r.withCaches (extended need r.layerKv ids) (extended_length _ _ _)).withResidency .gpu

/-- An allocation is refused before it changes anything, or takes `need` blocks a layer. -/
theorem allocate_layers_cases (a : RealKvAllocator α) (r : Request) (need : ℕ) :
    (a.blockManager.gpu.ids.length < need*gpt2NLayers ∧ a.allocateLayers r need = ⟨false,a,r⟩) ∨
    ∃ bm, Drawn a.blockManager bm (need*gpt2NLayers) ∧ a.allocateLayers r need =
      ⟨true,{ a with blockManager := bm },r.grant need a.blockManager.gpu.ids⟩ := by
  by_cases hn : need*gpt2NLayers ≤ a.blockManager.gpu.ids.length
  · right
    have hcan := (a.blockManager.can_allocate_iff _).mpr hn
    obtain ⟨bm,ho,hg,hc,hr⟩ := append_layers_grant need r.layerKv a.blockManager
      (by rw [r.layers]; exact hn)
    rw [r.layers] at hg
    refine ⟨bm,⟨hn,hg,hc,hr⟩,?_⟩
    simp only [RealKvAllocator.allocateLayers, hcan, Bool.true_eq_false, if_false, ho, if_true,
      Request.grant]
  · left
    have hcan : a.blockManager.canAllocate (need*gpt2NLayers : ℕ) = false := by
      rw [Bool.eq_false_iff]
      exact fun h => hn ((a.blockManager.can_allocate_iff _).mp h)
    exact ⟨by omega,by simp only [RealKvAllocator.allocateLayers, hcan, if_true]⟩

def SwappedRequest.ids (swapped : SwappedRequest) : List ℕ :=
  swapped.cpuBlocks.map SwappedBlock.cpuBlockId

def recordedIds (m : AList (fun _ : UInt64 => SwappedRequest)) : List ℕ :=
  m.entries.flatMap (fun e => e.2.ids)

theorem recorded_insert (m : AList (fun _ : UInt64 => SwappedRequest)) (id : UInt64)
    (swapped : SwappedRequest) :
    recordedIds (m.insert id swapped) = swapped.ids++recordedIds (m.erase id) := rfl

theorem entries_erase (m : AList (fun _ : UInt64 => SwappedRequest)) (id : UInt64)
    (swapped : SwappedRequest) (h : m.lookup id = some swapped) :
    m.entries.Perm (⟨id,swapped⟩::(m.erase id).entries) := by
  have hmem : id ∈ m.entries.keys := AList.lookup_isSome.mp (by rw [h]; rfl)
  obtain ⟨other,l,l',hl,hm,he⟩ := List.exists_of_kerase hmem
  have hother : other = swapped := by
    have hlookup := h
    rw [AList.lookup, hm, List.dlookup_append, List.dlookup_eq_none.mpr hl] at hlookup
    simpa using hlookup
  subst hother
  change m.entries.Perm (_::m.entries.kerase id)
  rw [he, hm]
  exact List.perm_middle

theorem recorded_erase (m : AList (fun _ : UInt64 => SwappedRequest)) (id : UInt64)
    (swapped : SwappedRequest) (h : m.lookup id = some swapped) :
    (recordedIds m).Perm (swapped.ids++recordedIds (m.erase id)) :=
  (entries_erase m id swapped h).flatMap_right _

theorem recorded_erase_sublist (m : AList (fun _ : UInt64 => SwappedRequest)) (id : UInt64) :
    (recordedIds (m.erase id)).Sublist (recordedIds m) :=
  (List.kerase_sublist id m.entries).flatMap _

theorem recorded_mem (m : AList (fun _ : UInt64 => SwappedRequest)) (id : UInt64)
    (swapped : SwappedRequest) (h : m.lookup id = some swapped) :
    swapped.ids ⊆ recordedIds m := fun _ hc =>
  (recorded_erase m id swapped h).mem_iff.mpr (List.mem_append_left _ hc)

theorem erase_absent (m : AList (fun _ : UInt64 => SwappedRequest)) (id : UInt64)
    (h : m.lookup id = none) : m.erase id = m :=
  AList.ext (List.kerase_of_notMem_keys (AList.lookup_eq_none.mp h))

theorem RealKvAllocator.free_request_fst (a : RealKvAllocator α) (r : Request) :
    (a.freeRequest r).1 = { a with blockManager := a.blockManager.free r.blocks } := by
  simp only [freeRequest, free_layers_blocks, Request.blocks]

end MiniLlm

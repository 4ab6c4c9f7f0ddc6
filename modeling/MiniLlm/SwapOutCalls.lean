import MiniLlm.AllocatorCalls

/-!
# What a swap-out does

The loops of `swap_out` in closed form, and from them the three cases of the
call: refused, undone after a failed copy, or done.
-/

set_option autoImplicit false

namespace MiniLlm

open FlatMemory

variable {α : Type*}

def saved (numTokens : ℕ) : ℕ → List ℕ → List SwappedBlock
  | _, [] => []
  | b, cpuBlockId::cpu =>
    ⟨cpuBlockId,min (numTokens-b*defaultKvBlockSize) defaultKvBlockSize⟩::
      saved numTokens (b+1) cpu

theorem saved_ids (numTokens b : ℕ) (cpu : List ℕ) :
    (saved numTokens b cpu).map SwappedBlock.cpuBlockId = cpu := by
  induction cpu generalizing b with
  | nil => rfl
  | cons c cpu ih => simp [saved, ih]

theorem saved_length (numTokens b : ℕ) (cpu : List ℕ) :
    (saved numTokens b cpu).length = cpu.length := by
  rw [← List.length_map SwappedBlock.cpuBlockId, saved_ids]

theorem saved_tokens (numTokens b : ℕ) (cpu : List ℕ) :
    ((saved numTokens b cpu).map SwappedBlock.validTokens).sum =
      min (numTokens-b*defaultKvBlockSize) (cpu.length*defaultKvBlockSize) := by
  induction cpu generalizing b with
  | nil => simp [saved]
  | cons c cpu ih =>
    simp only [saved, List.map_cons, List.sum_cons, ih, List.length_cons, defaultKvBlockSize]
    omega

def saveAll (pool : Memory α) : List (ℕ × ℕ) → Memory α → Memory α
  | [], m => m
  | p::ps, m => saveAll pool ps (copy pool (blockPtr p.1) (blockPtr p.2) blockSlotSize m)

theorem save_all_append (pool m : Memory α) (ps qs : List (ℕ × ℕ)) :
    saveAll pool (ps++qs) m = saveAll pool qs (saveAll pool ps m) := by
  induction ps generalizing m with
  | nil => rfl
  | cons p ps ih => exact ih _

theorem slot_size_pos : 0 < blockSlotSize := by decide

theorem slot_div (block off : ℕ) (h : off < blockSlotSize) :
    (block*blockSlotSize+off)/blockSlotSize = block := by
  rw [Nat.mul_comm, Nat.mul_add_div slot_size_pos, Nat.div_eq_of_lt h, Nat.add_zero]

theorem slot_mod (block off : ℕ) (h : off < blockSlotSize) :
    (block*blockSlotSize+off)%blockSlotSize = off := by
  rw [Nat.add_comm, Nat.add_mul_mod_self_right, Nat.mod_eq_of_lt h]

theorem zip_snd_sublist {β γ : Type*} (xs : List β) (ys : List γ) :
    List.Sublist ((xs.zip ys).map Prod.snd) ys := by
  induction xs generalizing ys with
  | nil => simp
  | cons x xs ih =>
    cases ys with
    | nil => simp
    | cons y ys => simpa using ih ys

theorem save_all_outside (pool m : Memory α) (ps : List (ℕ × ℕ)) (a : ℕ)
    (h : a/blockSlotSize ∉ ps.map Prod.snd) : saveAll pool ps m a = m a := by
  induction ps generalizing m with
  | nil => rfl
  | cons p ps ih =>
    simp only [List.map_cons, List.mem_cons, not_or] at h
    rw [saveAll, ih _ h.2]
    refine copy_outside pool m _ _ _ a ?_
    by_contra hin
    refine h.1 (Nat.div_eq_of_lt_le ?_ ?_) <;>
      simp only [blockPtr, Nat.add_mul, Nat.one_mul] at hin ⊢ <;> omega

namespace Device

def savedBy (d : Device α) (ps : List (ℕ × ℕ)) : Device α :=
  { d with cpuPool := saveAll d.pool ps d.cpuPool, calls := d.calls+ps.length }

structure CopiedInto (d : Device α) (ids : List ℕ) (e : Device α) : Prop where
  pool : e.pool = d.pool
  cuda : e.cuda = d.cuda
  faulted : e.faulted = d.faulted
  spared : ∀ address, address/blockSlotSize ∉ ids → e.cpuPool address = d.cpuPool address

theorem saved_by_copied (d : Device α) (ps : List (ℕ × ℕ)) (ids : List ℕ)
    (h : ps.map Prod.snd ⊆ ids) : d.CopiedInto ids (d.savedBy ps) :=
  ⟨rfl,rfl,rfl,fun address ha => save_all_outside _ _ ps address fun hm => ha (h hm)⟩

theorem CopiedInto.trans {d e f : Device α} {ids rest : List ℕ} (h : d.CopiedInto ids e)
    (k : e.CopiedInto rest f) (hr : rest ⊆ ids) : d.CopiedInto ids f :=
  ⟨k.pool.trans h.pool,k.cuda.trans h.cuda,k.faulted.trans h.faulted,fun address ha =>
    (k.spared address fun hm => ha (hr hm)).trans (h.spared address ha)⟩

theorem move_data_out (d : Device α) (g c : ℕ) :
    (d.cuda d.calls = false ∧ d.moveData g c true = (false,d.called)) ∨
    (d.cuda d.calls = true ∧ d.moveData g c true = (true,d.savedBy [(g,c)])) := by
  cases h : d.cuda d.calls with
  | false => exact Or.inl ⟨rfl,by simp [moveData, outcome, h]⟩
  | true => exact Or.inr ⟨rfl,by simp [moveData, outcome, h, savedBy, saveAll, called]⟩

theorem saved_by_append (d : Device α) (ps qs : List (ℕ × ℕ)) :
    (d.savedBy ps).savedBy qs = d.savedBy (ps++qs) := by
  simp [savedBy, save_all_append, Nat.add_assoc]

end Device

namespace Device

def Succeeds (d : Device α) (n : ℕ) : Prop := ∀ i < n, d.cuda (d.calls+i) = true

theorem succeeds_add (d e : Device α) (m n : ℕ) (hc : e.cuda = d.cuda)
    (hn : e.calls = d.calls+m) : d.Succeeds (m+n) ↔ d.Succeeds m ∧ e.Succeeds n := by
  simp only [Succeeds, hc, hn]
  constructor
  · intro h
    refine ⟨fun i hi => h i (by omega),fun i hi => ?_⟩
    rw [Nat.add_assoc]
    exact h (m+i) (by omega)
  · rintro ⟨hm,hr⟩ i hi
    by_cases him : i < m
    · exact hm i him
    · have hi' := hr (i-m) (by omega)
      rwa [Nat.add_assoc, Nat.add_sub_of_le (by omega)] at hi'

theorem succeeds_one (d : Device α) : d.Succeeds 1 ↔ d.cuda d.calls = true := by
  simp [Succeeds]

end Device

theorem swap_out_blocks_cases (numTokens b : ℕ) (blocks cpu : List ℕ)
    (swapped : List SwappedBlock) (d : Device α) (h : blocks.length ≤ cpu.length) :
    (∃ e, swapOutBlocks numTokens b blocks cpu swapped d = .error e ∧ d.CopiedInto cpu e ∧
      ¬ d.Succeeds blocks.length) ∨
    (d.Succeeds blocks.length ∧
      swapOutBlocks numTokens b blocks cpu swapped d = .ok (cpu.drop blocks.length,
        swapped++saved numTokens b (cpu.take blocks.length),d.savedBy (blocks.zip cpu))) := by
  induction blocks generalizing b cpu swapped d with
  | nil =>
    exact Or.inr ⟨fun i hi => absurd hi (Nat.not_lt_zero i),by
      simp [swapOutBlocks, saved, Device.savedBy, saveAll]⟩
  | cons g blocks ih =>
    cases cpu with
    | nil => simp at h
    | cons c cpu =>
      have hsplit := d.succeeds_add (d.savedBy [(g,c)]) 1 blocks.length rfl rfl
      rw [Device.succeeds_one] at hsplit
      rw [List.length_cons, Nat.add_comm, hsplit]
      rcases d.move_data_out g c with ⟨hf,hm⟩ | ⟨ht,hm⟩
      · exact Or.inl ⟨d.called,by simp [swapOutBlocks, hm],⟨rfl,rfl,rfl,fun _ _ => rfl⟩,
          by simp [hf]⟩
      · simp only [swapOutBlocks, hm, ht, true_and]
        rcases ih (b+1) cpu (swapped++[⟨c,min (numTokens-b*16) 16⟩]) (d.savedBy [(g,c)])
          (by simpa using h) with ⟨e,he,hp,hk⟩ | ⟨hs,ho⟩
        · exact Or.inl ⟨e,he,(d.saved_by_copied [(g,c)] (c::cpu) (by simp)).trans hp (by simp),hk⟩
        · refine Or.inr ⟨hs,?_⟩
          rw [ho, Device.saved_by_append]
          simp [saved, Nat.add_comm 1]

theorem zip_take_length {β γ : Type*} (xs : List β) (ys : List γ) :
    xs.zip (ys.take xs.length) = xs.zip ys := by
  induction xs generalizing ys with
  | nil => rfl
  | cons x xs ih => cases ys <;> simp [ih]

def savedLayers (blocksPerLayer : ℕ) : List PagedKVCache → List ℕ → List SwappedBlock
  | [], _ => []
  | kv::kvs, cpu => saved kv.numTokens 0 (cpu.take blocksPerLayer)++
      savedLayers blocksPerLayer kvs (cpu.drop blocksPerLayer)

theorem saved_layers_ids (bpl : ℕ) (kvs : List PagedKVCache) (cpu : List ℕ)
    (h : cpu.length = bpl*kvs.length) :
    (savedLayers bpl kvs cpu).map SwappedBlock.cpuBlockId = cpu := by
  induction kvs generalizing cpu with
  | nil => simp_all [savedLayers]
  | cons kv kvs ih =>
    rw [savedLayers, List.map_append, saved_ids, ih, List.take_append_drop]
    simp only [List.length_drop, h, List.length_cons, Nat.mul_add, Nat.mul_one]
    omega

theorem swap_out_layers_cases (bpl : ℕ) (kvs : List PagedKVCache) (cpu : List ℕ)
    (swapped : List SwappedBlock) (d : Device α) (h : cpu.length = bpl*kvs.length) :
    (∃ e, swapOutLayers bpl kvs cpu swapped d = .error e ∧ d.CopiedInto cpu e ∧
      ((∃ kv ∈ kvs, kv.numBlocks ≠ bpl) ∨ ¬ d.Succeeds (bpl*kvs.length))) ∨
    ((∀ kv ∈ kvs, kv.numBlocks = bpl) ∧ d.Succeeds (bpl*kvs.length) ∧
      swapOutLayers bpl kvs cpu swapped d = .ok (swapped++savedLayers bpl kvs cpu,
        d.savedBy ((kvs.flatMap PagedKVCache.blockTable).zip cpu))) := by
  induction kvs generalizing cpu swapped d with
  | nil =>
    right
    simp [swapOutLayers, savedLayers, Device.savedBy, saveAll, Device.Succeeds]
  | cons kv kvs ih =>
    simp only [List.length_cons, Nat.mul_add, Nat.mul_one] at h ⊢
    by_cases hb : kv.numBlocks = bpl
    · have hlen : kv.blockTable.length = bpl := hb
      have hzip : (kv.blockTable++kvs.flatMap PagedKVCache.blockTable).zip cpu =
          kv.blockTable.zip cpu++(kvs.flatMap PagedKVCache.blockTable).zip (cpu.drop bpl) := by
        conv_lhs => rw [← List.take_append_drop bpl cpu]
        rw [List.zip_append (by simp [hlen]; omega)]
        rw [← hlen, zip_take_length]
      have hsplit := d.succeeds_add (d.savedBy (kv.blockTable.zip cpu)) bpl (bpl*kvs.length) rfl
        (by simp [Device.savedBy, hlen]; omega)
      rw [Nat.add_comm] at hsplit
      rw [hsplit]
      rcases swap_out_blocks_cases kv.numTokens 0 kv.blockTable cpu swapped d (by omega) with
        ⟨e,he,hp,hk⟩ | ⟨hs,ho⟩
      · exact Or.inl ⟨e,by simp [swapOutLayers, hb, he],hp,Or.inr fun h => hk (hlen ▸ h.1)⟩
      · simp only [swapOutLayers, hb, ne_eq, not_true_eq_false, if_false, ho, hlen]
        rcases ih (cpu.drop bpl) (swapped++saved kv.numTokens 0 (cpu.take bpl))
          (d.savedBy (kv.blockTable.zip cpu)) (by simp; omega) with ⟨e,he,hp,hk⟩ | ⟨hall,hrest,hok⟩
        · refine Or.inl ⟨e,he,?_,?_⟩
          · exact (d.saved_by_copied _ cpu (zip_snd_sublist _ _).subset).trans hp
              (List.drop_subset _ _)
          rcases hk with ⟨q,hq,hn⟩ | hk
          · exact Or.inl ⟨q,by simp [hq],hn⟩
          · exact Or.inr fun h => hk h.2
        · right
          refine ⟨by simpa [hb] using hall,⟨hlen ▸ hs,hrest⟩,?_⟩
          rw [hok, Device.saved_by_append, List.flatMap_cons, hzip]
          simp [savedLayers]
    · exact Or.inl ⟨d,by simp [swapOutLayers, hb],⟨rfl,rfl,rfl,fun _ _ => rfl⟩,
        Or.inl ⟨kv,by simp,hb⟩⟩

theorem saved_layers_length (bpl : ℕ) (kvs : List PagedKVCache) (cpu : List ℕ)
    (h : cpu.length = bpl*kvs.length) : (savedLayers bpl kvs cpu).length = cpu.length := by
  rw [← List.length_map SwappedBlock.cpuBlockId, saved_layers_ids bpl kvs cpu h]

namespace RealKvAllocator

def cpuTaken (a : RealKvAllocator α) (r : Request) : List ℕ :=
  a.blockManager.cpu.ids.take (neededCpuBlocks r)

def entryOf (a : RealKvAllocator α) (r : Request) : SwappedRequest :=
  ⟨savedLayers r.layer0.numBlocks r.layerKv (a.cpuTaken r),r.layer0.numBlocks⟩

def copiedOut (a : RealKvAllocator α) (r : Request) : RealKvAllocator α := { a with
  device := a.device.savedBy (r.blocks.zip (a.cpuTaken r))
  blockManager := { a.blockManager with cpu := a.blockManager.cpu.drop (neededCpuBlocks r) } }

end RealKvAllocator

open RealKvAllocator

/-- Everything `swap_out` can do. -/
inductive SwapOutCase (a : RealKvAllocator α) (r : Request) : Outcome (RealKvAllocator α) → Prop
  | refused (h : r.layer0.numBlocks = 0 ∨
      a.blockManager.cpu.ids.length < neededCpuBlocks r) :
      SwapOutCase a r ⟨false,a,r⟩
  | undone (d : Device α) (bm : BlockManager) (hd : a.device.CopiedInto (a.cpuTaken r) d)
      (hg : bm.gpu = a.blockManager.gpu) (hc : bm.cpu.ids.Perm a.blockManager.cpu.ids)
      (ht : bm.cpu.total = a.blockManager.cpu.total)
      (hr : bm.reports = a.blockManager.reports)
      (h : (∃ kv ∈ r.layerKv, kv.numBlocks ≠ r.layer0.numBlocks) ∨
        ¬ a.device.Succeeds (neededCpuBlocks r)) :
      SwapOutCase a r ⟨false,{ a with device := d, blockManager := bm },r⟩
  | done (h0 : 0 < r.layer0.numBlocks)
      (hn : neededCpuBlocks r ≤ a.blockManager.cpu.ids.length)
      (hb : ∀ kv ∈ r.layerKv, kv.numBlocks = r.layer0.numBlocks)
      (hk : a.device.Succeeds (neededCpuBlocks r)) :
      SwapOutCase a r ((a.copiedOut r).swapOutDone r (a.entryOf r))

theorem blocks_length (r : Request) (bpl : ℕ) (h : ∀ kv ∈ r.layerKv, kv.numBlocks = bpl) :
    r.blocks.length = bpl*gpt2NLayers := by
  have hm : r.layerKv.map (fun kv => kv.blockTable.length) = r.layerKv.map (fun _ => bpl) :=
    List.map_congr_left h
  rw [Request.blocks, List.length_flatMap, hm, List.map_const', List.sum_replicate, r.layers,
    smul_eq_mul, Nat.mul_comm]

theorem returnable_take (f : FreeStack) (n : ℕ) :
    BlockManager.Returnable (f.drop n) (f.ids.take n) where
  nodup := f.nodup.sublist (List.take_sublist n f.ids)
  bounded := fun i hi => f.bounded i (List.mem_of_mem_take hi)
  taken := fun _ hi hd => List.disjoint_take_drop f.nodup (le_refl n) hi hd

theorem freed_perm (f g : FreeStack) (n : ℕ)
    (h : BlockManager.Freed (f.drop n) g (f.ids.take n)) : g.ids.Perm f.ids := by
  have hp := (List.reverse_perm (f.ids.take n)).append_right (f.ids.drop n)
  rwa [List.take_append_drop, ← FreeStack.drop_ids, ← h.ids] at hp

theorem swap_out_case (a : RealKvAllocator α) (r : Request) : SwapOutCase a r (a.swapOut r) := by
  unfold RealKvAllocator.swapOut
  by_cases hr : neededCpuBlocks r = 0 ∨ a.blockManager.cpu.count < neededCpuBlocks r
  · simp only [hr, if_true]
    refine SwapOutCase.refused ?_
    rcases hr with h | h
    · exact Or.inl (by simpa [neededCpuBlocks] using h)
    · exact Or.inr (a.blockManager.cpu.counted ▸ h)
  · simp only [hr, if_false]
    rw [not_or, Nat.not_lt] at hr
    have hn := a.blockManager.cpu.counted ▸ hr.2
    have hlen : (a.blockManager.cpu.ids.take (neededCpuBlocks r)).length = neededCpuBlocks r := by
      rw [List.length_take, Nat.min_eq_left hn]
    rw [BlockManager.allocate_cpu_grant _ _ hr.2]
    simp only [hlen, ne_eq, not_true_eq_false, if_false]
    rcases swap_out_layers_cases r.layer0.numBlocks r.layerKv
      (a.blockManager.cpu.ids.take (neededCpuBlocks r)) [] a.device
      (by rw [hlen, r.layers]; rfl) with ⟨d,he,hd,hwhy⟩ | ⟨hb,hk,hok⟩
    · obtain ⟨hf,hg,hreports⟩ := BlockManager.free_cpu_returnable
        { a.blockManager with cpu := a.blockManager.cpu.drop (neededCpuBlocks r) }
        _ (returnable_take a.blockManager.cpu (neededCpuBlocks r))
      rw [he]
      rw [r.layers] at hwhy
      exact SwapOutCase.undone d _ hd hg (freed_perm _ _ _ hf) hf.total hreports hwhy
    · rw [hok]
      rw [r.layers] at hk
      exact SwapOutCase.done (Nat.pos_of_ne_zero (by simpa [neededCpuBlocks] using hr.1)) hn hb hk

theorem swap_out_of_ok (a : RealKvAllocator α) (r : Request) (h : (a.swapOut r).ok = true) :
    a.swapOut r = (a.copiedOut r).swapOutDone r (a.entryOf r) := by
  have hc := swap_out_case a r
  generalize a.swapOut r = out at h hc
  cases hc with
  | refused => simp at h
  | undone => simp at h
  | done => rfl

theorem swap_out_ok_iff (a : RealKvAllocator α) (r : Request) : (a.swapOut r).ok = true ↔
    0 < r.layer0.numBlocks ∧ neededCpuBlocks r ≤ a.blockManager.cpu.ids.length ∧
    (∀ kv ∈ r.layerKv, kv.numBlocks = r.layer0.numBlocks) ∧
    a.device.Succeeds (neededCpuBlocks r) := by
  have h := swap_out_case a r
  generalize a.swapOut r = out at h
  cases h with
  | refused h =>
    refine ⟨fun hf => absurd hf (by simp),?_⟩
    rintro ⟨h0,hn,_⟩
    rcases h with h | h <;> omega
  | undone d bm _ _ _ _ _ h =>
    refine ⟨fun hf => absurd hf (by simp),?_⟩
    rintro ⟨_,_,hb,hk⟩
    rcases h with ⟨kv,hkv,hne⟩ | h
    · exact absurd (hb kv hkv) hne
    · exact absurd hk h
  | done h0 hn hb hk => exact ⟨fun _ => ⟨h0,hn,hb,hk⟩,fun _ => rfl⟩

end MiniLlm

import MiniLlm.SwapInCalls

/-!
# The staged scatter, address by address

A swap-in writes whole slots. The slot of a restored block receives the CPU
slot of its entry whenever the entry's offset fits the staging vector, and
no other address of the GPU pool changes.
-/

set_option autoImplicit false

namespace MiniLlm

open FlatMemory

variable {α : Type*}

theorem set_all_get_outside (dst : List ℤ) (ws : List (ℕ × ℕ)) (o : ℕ)
    (h : o ∉ ws.map Prod.fst) : (setAll dst ws)[o]? = dst[o]? := by
  induction ws generalizing dst with
  | nil => rfl
  | cons w ws ih =>
    simp only [List.map_cons, List.mem_cons, not_or] at h
    rw [setAll, ih _ h.2, List.getElem?_set_ne (Ne.symm h.1)]

theorem set_all_get (dst : List ℤ) (ws : List (ℕ × ℕ)) (o g : ℕ)
    (hn : (ws.map Prod.fst).Nodup) (hm : (o,g) ∈ ws) (ho : o < dst.length) :
    (setAll dst ws)[o]? = some (g : ℤ) := by
  induction ws generalizing dst with
  | nil => simp at hm
  | cons w ws ih =>
    obtain ⟨hw,hn⟩ := List.nodup_cons.mp hn
    rcases List.mem_cons.mp hm with rfl | hm
    · rw [setAll, set_all_get_outside _ ws o hw, List.getElem?_set_self ho]
    · exact ih _ hn hm (by simpa using ho)

theorem set_all_perm (dst : List ℤ) (ws : List (ℕ × ℕ))
    (h : (ws.map Prod.fst).Perm (List.range dst.length)) :
    (setAll dst ws).Perm (ws.map (fun w => (w.2 : ℤ))) := by
  let value (o : ℕ) : ℤ := (setAll dst ws)[o]?.getD (-1)
  have hdst : setAll dst ws = (List.range dst.length).map value := by
    refine List.ext_getElem (by simp [set_all_length]) ?_
    intro o ho _
    simp [value, List.getElem?_eq_getElem ho]
  have hws : ws.map (fun w => (w.2 : ℤ)) = (ws.map Prod.fst).map value := by
    rw [List.map_map]
    refine List.map_congr_left fun w hw => ?_
    have ho : w.1 < dst.length :=
      List.mem_range.mp (h.mem_iff.mp (List.mem_map_of_mem hw))
    have hn := h.nodup_iff.mpr List.nodup_range
    simp [value, set_all_get dst ws w.1 w.2 hn hw ho]
  rw [hdst, hws]
  exact (h.map value).symm

theorem set_all_origin (dst : List ℤ) (ws : List (ℕ × ℕ)) (o : ℕ) (v : ℤ)
    (h : (setAll dst ws)[o]? = some v) :
    dst[o]? = some v ∨ ∃ g : ℕ, v = g ∧ (o,g) ∈ ws := by
  induction ws generalizing dst with
  | nil => exact Or.inl h
  | cons w ws ih =>
    rcases ih _ h with hs | ⟨g,hv,hg⟩
    · by_cases ho : w.1 = o
      · subst ho
        right
        refine ⟨w.2,?_,by simp⟩
        rw [List.getElem?_set_self'] at hs
        cases hd : dst[w.1]? with
        | none => simp [hd] at hs
        | some u => simpa [hd] using hs.symm
      · left
        rwa [List.getElem?_set_ne ho] at hs
    · exact Or.inr ⟨g,hv,by simp [hg]⟩

theorem zip_fst_sublist {β γ : Type*} (xs : List β) (ys : List γ) :
    List.Sublist ((xs.zip ys).map Prod.fst) xs := by
  rw [← List.zip_swap ys xs, List.map_map]
  exact zip_snd_sublist ys xs

theorem zip_snd_injective {β : Type*} {xs : List β} {ys : List ℕ} (hy : ys.Nodup)
    {x x' : β} {y : ℕ} (h : (x,y) ∈ xs.zip ys) (h' : (x',y) ∈ xs.zip ys) : x = x' := by
  induction xs generalizing ys with
  | nil => simp at h
  | cons z xs ih =>
    cases ys with
    | nil => simp at h
    | cons w ys =>
      obtain ⟨hw,hy⟩ := List.nodup_cons.mp hy
      simp only [List.zip_cons_cons, List.mem_cons, Prod.mk.injEq] at h h'
      rcases h with ⟨rfl,rfl⟩ | h <;> rcases h' with ⟨rfl,h'⟩ | h'
      · rfl
      · exact absurd (List.of_mem_zip h').2 hw
      · exact absurd (h' ▸ (List.of_mem_zip h).2) hw
      · exact ih hy h h'

/-- A saved slot holds what its block held, later copies going elsewhere. -/
theorem save_all_slot (pool m : Memory α) (ps : List (ℕ × ℕ)) (hn : (ps.map Prod.snd).Nodup)
    (g c : ℕ) (h : (g,c) ∈ ps) (off : ℕ) (hoff : off < blockSlotSize) :
    saveAll pool ps m (c*blockSlotSize+off) = pool (g*blockSlotSize+off) := by
  induction ps generalizing m with
  | nil => simp at h
  | cons p ps ih =>
    obtain ⟨hp,hn⟩ := List.nodup_cons.mp hn
    rcases List.mem_cons.mp h with rfl | h
    · rw [saveAll, save_all_outside pool _ ps _ (by rwa [slot_div _ _ hoff])]
      exact copy_inside pool m _ _ _ off hoff
    · exact ih _ hn h

section Scatter

variable (d : Device α) (start n : ℕ) (entries : List SwappedBlock) (ids : List ℕ)

/-- The staging vector that `swap_in` builds for these entries and ids. -/
def staged : List ℤ := setAll (List.replicate n (-1)) ((offsets start entries).zip ids)

theorem staged_length : (staged start n entries ids).length = n := by
  rw [staged, set_all_length, List.length_replicate]

theorem staged_origin (o g : ℕ) (h : (staged start n entries ids)[o]? = some (g : ℤ)) :
    o < n ∧ (o,g) ∈ (offsets start entries).zip ids := by
  refine ⟨?_,?_⟩
  · have ho := (List.getElem?_eq_some_iff.mp h).1
    rwa [staged_length] at ho
  · rcases set_all_origin _ _ _ _ h with hs | ⟨k,hk,hm⟩
    · obtain ⟨_,hv⟩ := List.getElem?_eq_some_iff.mp hs
      rw [List.getElem_replicate] at hv
      omega
    · rwa [Nat.cast_inj.mp hk]

theorem staged_injective (hi : ids.Nodup) (o o' g : ℕ)
    (h : (staged start n entries ids)[o]? = some (g : ℤ))
    (h' : (staged start n entries ids)[o']? = some (g : ℤ)) : o = o' :=
  zip_snd_injective hi (staged_origin start n entries ids o g h).2
    (staged_origin start n entries ids o' g h').2

theorem scatter_thread_some (staging : Memory α) (dst : List ℤ) (elems tid : ℕ) (w : ℕ × α)
    (h : Device.scatterThread staging dst elems tid = some w) :
    ∃ g : ℕ, dst[tid/elems]? = some (g : ℤ) ∧ w = (g*elems+tid%elems,staging tid) := by
  unfold Device.scatterThread at h
  split at h
  · rename_i g hg
    exact ⟨g,hg,(Option.some.inj h).symm⟩
  · cases h

theorem scatter_thread_at (staging : Memory α) (dst : List ℤ) (elems tid : ℕ) {g : ℕ}
    (h : dst[tid/elems]? = some (g : ℤ)) :
    Device.scatterThread staging dst elems tid = some (g*elems+tid%elems,staging tid) := by
  unfold Device.scatterThread
  rw [h]

theorem scatter_nodup (hi : ids.Nodup) (hd : d.dstBlockIds = staged start n entries ids) (k : ℕ) :
    (addresses (d.scatter k blockSlotSize)).Nodup := by
  rw [addresses, Device.scatter, List.map_filterMap]
  refine List.Nodup.filterMap ?_ List.nodup_range
  intro t t' a ha ha'
  obtain ⟨w,hw,rfl⟩ := Option.map_eq_some_iff.mp ha
  obtain ⟨w',hw',hsame⟩ := Option.map_eq_some_iff.mp ha'
  obtain ⟨g,hg,rfl⟩ := scatter_thread_some _ _ _ _ _ hw
  obtain ⟨g',hg',rfl⟩ := scatter_thread_some _ _ _ _ _ hw'
  have hlt := Nat.mod_lt t slot_size_pos
  have hlt' := Nat.mod_lt t' slot_size_pos
  have hblock : g' = g := by
    rw [← slot_div g' _ hlt', ← slot_div g _ hlt]
    exact congrArg (·/blockSlotSize) hsame
  have hmod : t'%blockSlotSize = t%blockSlotSize := by
    rw [← slot_mod g' _ hlt', ← slot_mod g _ hlt]
    exact congrArg (·%blockSlotSize) hsame
  rw [hd] at hg hg'
  have hdiv := staged_injective start n entries ids hi _ _ g hg (hblock ▸ hg')
  rw [← Nat.div_add_mod t blockSlotSize, ← Nat.div_add_mod t' blockSlotSize, hdiv, hmod]

theorem copy_staging_get (i : ℕ) (hi : i < n*blockSlotSize) :
    (d.copyStaging start n).staging i = d.cpuPool (start*blockSlotSize+i) := by
  have h := copy_inside d.cpuPool d.staging (blockPtr start) 0 (n*blockSlotSize) i hi
  simpa [Device.copyStaging, blockPtr] using h

theorem offsets_nodup {start : ℕ} {entries : List SwappedBlock}
    (hn : (entries.map SwappedBlock.cpuBlockId).Nodup) (hle : ∀ s ∈ entries, start ≤ s.cpuBlockId) :
    (offsets start entries).Nodup := by
  rw [offsets, ← Function.comp_def (fun c => c-start), ← List.map_map]
  refine List.Nodup.map_on ?_ hn
  intro x hx y hy hxy
  obtain ⟨u,hu,rfl⟩ := List.mem_map.mp hx
  obtain ⟨v,hv,rfl⟩ := List.mem_map.mp hy
  have h1 := hle u hu
  have h2 := hle v hv
  omega

theorem restored_slot (hn : (entries.map SwappedBlock.cpuBlockId).Nodup)
    (hle : ∀ s ∈ entries, start ≤ s.cpuBlockId) (hi : ids.Nodup)
    (s : SwappedBlock) (g : ℕ) (hm : (s,g) ∈ entries.zip ids)
    (ho : s.cpuBlockId-start < n) (off : ℕ) (hoff : off < blockSlotSize) :
    (d.restoredBy start n (staged start n entries ids)).pool (g*blockSlotSize+off) =
      d.cpuPool (s.cpuBlockId*blockSlotSize+off) := by
  have hs := hle s (List.of_mem_zip hm).1
  have hkeys : (((offsets start entries).zip ids).map Prod.fst).Nodup :=
    (offsets_nodup hn hle).sublist (zip_fst_sublist _ _)
  have hmem : (s.cpuBlockId-start,g) ∈ (offsets start entries).zip ids := by
    rw [offsets, List.zip_map_left]
    exact List.mem_map.mpr ⟨(s,g),hm,rfl⟩
  have hget : (staged start n entries ids)[s.cpuBlockId-start]? = some (g : ℤ) :=
    set_all_get _ _ _ _ hkeys hmem (by simpa using ho)
  have hlt : (s.cpuBlockId-start)*blockSlotSize+off < n*blockSlotSize := by
    calc (s.cpuBlockId-start)*blockSlotSize+off
      _ < (s.cpuBlockId-start+1)*blockSlotSize := by rw [Nat.add_mul, Nat.one_mul]; omega
      _ ≤ n*blockSlotSize := Nat.mul_le_mul_right _ ho
  have hval : start*blockSlotSize+((s.cpuBlockId-start)*blockSlotSize+off) =
      s.cpuBlockId*blockSlotSize+off := by
    rw [← Nat.add_assoc, ← Nat.add_mul, Nat.add_sub_of_le hs]
  refine store_all_stored _ _ _ _ (scatter_nodup _ start n entries ids hi rfl n) ?_
  refine List.mem_filterMap.mpr ⟨(s.cpuBlockId-start)*blockSlotSize+off,
    List.mem_range.mpr hlt,?_⟩
  rw [← slot_div (s.cpuBlockId-start) _ hoff] at hget
  refine (scatter_thread_at (d.copyStaging start n).staging _ _ _ hget).trans ?_
  rw [slot_mod _ _ hoff, copy_staging_get d start n _ hlt, hval]

theorem restored_outside (a : ℕ)
    (h : ∀ s g, (s,g) ∈ entries.zip ids → s.cpuBlockId-start < n → g ≠ a/blockSlotSize) :
    (d.restoredBy start n (staged start n entries ids)).pool a = d.pool a := by
  refine store_all_outside _ _ _ ?_
  intro ha
  obtain ⟨w,hw,rfl⟩ := List.mem_map.mp ha
  obtain ⟨t,ht,hthread⟩ := List.mem_filterMap.mp hw
  obtain ⟨g,hg,rfl⟩ := scatter_thread_some _ _ _ _ _ hthread
  obtain ⟨ho,hm⟩ := staged_origin start n entries ids _ g hg
  rw [offsets, List.zip_map_left] at hm
  obtain ⟨⟨s,g'⟩,hs,heq⟩ := List.mem_map.mp hm
  obtain ⟨hoff,rfl⟩ := Prod.mk.inj heq
  refine h s g' hs (by simpa [hoff] using ho) ?_
  exact (slot_div g' _ (Nat.mod_lt t slot_size_pos)).symm

end Scatter

theorem restored_caches_get (bpl tokens : ℕ) (kvs : List PagedKVCache) (ids : List ℕ) (l : ℕ) :
    (restoredCaches bpl tokens kvs ids)[l]? =
      kvs[l]?.map (fun kv => ⟨kv.requestId,(ids.drop (l*bpl)).take bpl,tokens⟩) := by
  induction kvs generalizing ids l with
  | nil => rfl
  | cons kv kvs ih =>
    cases l with
    | zero => simp [restoredCaches]
    | succ l =>
      simp only [restoredCaches, List.getElem?_cons_succ, ih, List.drop_drop, Nat.add_mul,
        Nat.one_mul]
      rw [Nat.add_comm bpl]

theorem foldl_min_le (xs : List ℕ) (m : ℕ) :
    xs.foldl min m ≤ m ∧ ∀ x ∈ xs, xs.foldl min m ≤ x := by
  induction xs generalizing m with
  | nil => simp
  | cons y ys ih =>
    obtain ⟨hm,hy⟩ := ih (min m y)
    refine ⟨hm.trans (Nat.min_le_left m y),?_⟩
    intro x hx
    rcases List.mem_cons.mp hx with rfl | hx
    · exact hm.trans (Nat.min_le_right m x)
    · exact hy x hx

theorem cpu_start_le (entries : List SwappedBlock) :
    ∀ s ∈ entries, cpuStart entries ≤ s.cpuBlockId := fun _ hs =>
  (foldl_min_le _ _).2 _ (List.mem_map_of_mem hs)

section Filled

open RealKvAllocator

variable {a : RealKvAllocator α} {swapped : SwappedRequest}

theorem inside_of_no_overrun (h : overrun swapped = false) :
    ∀ o ∈ offsets (cpuStart swapped.cpuBlocks) swapped.cpuBlocks, o < expected swapped := by
  intro o ho
  have hlt := List.any_eq_false.mp h o ho
  rwa [decide_eq_true_eq, Nat.not_le] at hlt

theorem offsets_fill (hready : a.Ready swapped) (hnodup : swapped.ids.Nodup)
    (h : overrun swapped = false) :
    (offsets (cpuStart swapped.cpuBlocks) swapped.cpuBlocks).Perm
      (List.range (expected swapped)) := by
  refine (List.subperm_of_subset (offsets_nodup hnodup (cpu_start_le _)) ?_).perm_of_length_le ?_
  · exact fun o ho => List.mem_range.mpr (inside_of_no_overrun h o ho)
  · rw [List.length_range, offsets_length, hready.size]

theorem dst_blocks_perm (hready : a.Ready swapped)
    (hoff : (offsets (cpuStart swapped.cpuBlocks) swapped.cpuBlocks).Perm
      (List.range (expected swapped))) :
    (a.dstBlocks swapped).Perm ((a.restoredIds swapped).map (fun g : ℕ => (g : ℤ))) := by
  have hlength : (offsets (cpuStart swapped.cpuBlocks) swapped.cpuBlocks).length =
      expected swapped := by rw [offsets_length, hready.size]
  have hzip := zip_take_length (offsets (cpuStart swapped.cpuBlocks) swapped.cpuBlocks)
    a.blockManager.gpu.ids
  rw [hlength] at hzip
  have htake : (a.restoredIds swapped).length = expected swapped := by
    rw [restoredIds, List.length_take, Nat.min_eq_left hready.room]
  have hset := set_all_perm (List.replicate (expected swapped) (-1))
    ((offsets (cpuStart swapped.cpuBlocks) swapped.cpuBlocks).zip (a.restoredIds swapped))
    (by rw [List.map_fst_zip (by omega), List.length_replicate]; exact hoff)
  rw [dstBlocks, ← hzip]
  refine hset.trans (List.Perm.of_eq ?_)
  have hsnd : ((offsets (cpuStart swapped.cpuBlocks) swapped.cpuBlocks).zip
      (a.restoredIds swapped)).map Prod.snd = a.restoredIds swapped :=
    List.map_snd_zip (by omega)
  conv_rhs => rw [← hsnd, List.map_map]
  rfl

/-- A swap-in of distinct blocks strays exactly when it overruns the vector. -/
theorem swap_in_faulted_iff {r : Request}
    (hl : a.swappedRequests.lookup r.requestId = some swapped) (hready : a.Ready swapped)
    (hnodup : swapped.ids.Nodup) : (a.swapIn r).alloc.device.faulted = true ↔
      a.device.faulted = true ∨ overrun swapped = true := by
  refine ⟨fun h => ?_,swap_in_marks hl hready⟩
  rcases swap_in_marked h with h | ⟨other,hl',_,h⟩
  · exact .inl h
  obtain rfl := Option.some.inj (hl.symm.trans hl')
  cases hover : overrun swapped with
  | true => exact .inr rfl
  | false =>
    rw [hover] at h
    obtain ⟨z,hz,hneg⟩ := List.any_eq_true.mp (h.resolve_left Bool.false_ne_true)
    have hmem := (dst_blocks_perm hready (offsets_fill hready hnodup hover)).mem_iff.mp hz
    obtain ⟨g,_,rfl⟩ := List.mem_map.mp hmem
    rw [decide_eq_true_eq] at hneg
    omega

end Filled

theorem blocks_get (kvs : List PagedKVCache) (bpl : ℕ) (h : ∀ kv ∈ kvs, kv.numBlocks = bpl)
    (l b : ℕ) (kv : PagedKVCache) (hkv : kvs[l]? = some kv) (hb : b < bpl) :
    (kvs.flatMap PagedKVCache.blockTable)[l*bpl+b]? = kv.blockTable[b]? := by
  induction kvs generalizing l with
  | nil => simp at hkv
  | cons first kvs ih =>
    have hlen : first.blockTable.length = bpl := h first (by simp)
    rw [List.flatMap_cons]
    cases l with
    | zero =>
      obtain rfl : first = kv := by simpa using hkv
      rw [Nat.zero_mul, Nat.zero_add, List.getElem?_append_left (hlen ▸ hb)]
    | succ l =>
      rw [List.getElem?_append_right (by rw [hlen, Nat.add_mul]; omega), hlen, Nat.add_mul,
        Nat.one_mul, show l*bpl+bpl+b-bpl = l*bpl+b by omega]
      exact ih (fun kv hkv => h kv (by simp [hkv])) l (by simpa using hkv)

section Entry

open RealKvAllocator

variable (a : RealKvAllocator α) (r : Request)

theorem entry_ids (h : neededCpuBlocks r ≤ a.blockManager.cpu.ids.length) :
    (a.entryOf r).cpuBlocks.map SwappedBlock.cpuBlockId = a.cpuTaken r := by
  refine saved_layers_ids _ _ _ ?_
  rw [cpuTaken, List.length_take, Nat.min_eq_left h, r.layers, neededCpuBlocks]

theorem entry_nodup (h : neededCpuBlocks r ≤ a.blockManager.cpu.ids.length) :
    ((a.entryOf r).cpuBlocks.map SwappedBlock.cpuBlockId).Nodup := by
  rw [entry_ids a r h]
  exact a.blockManager.cpu.nodup.sublist (List.take_sublist _ _)

theorem swapped_out_slot (before m : Memory α)
    (h : neededCpuBlocks r ≤ a.blockManager.cpu.ids.length) (i x c : ℕ)
    (hi : i < neededCpuBlocks r) (hx : r.blocks[i]? = some x)
    (hc : a.blockManager.cpu.ids[i]? = some c) (off : ℕ) (hoff : off < blockSlotSize) :
    saveAll before (r.blocks.zip (a.cpuTaken r)) m (c*blockSlotSize+off) =
      before (x*blockSlotSize+off) := by
  have htake : (a.cpuTaken r)[i]? = some c := by rw [cpuTaken, List.getElem?_take_of_lt hi, hc]
  refine save_all_slot _ _ _ ?_ x c ?_ off hoff
  · rw [← entry_ids a r h]
    exact (entry_nodup a r h).sublist (zip_snd_sublist _ _)
  · exact List.mem_of_getElem? (List.getElem?_zip_eq_some.mpr ⟨hx,htake⟩)

theorem swap_out_ledger (hn : neededCpuBlocks r ≤ a.blockManager.cpu.ids.length) :
    (recordedIds (a.swappedRequests.insert r.requestId (a.entryOf r))++
      a.blockManager.cpu.ids.drop (neededCpuBlocks r)).Perm
    (recordedIds (a.swappedRequests.erase r.requestId)++a.blockManager.cpu.ids) := by
  rw [recorded_insert, SwappedRequest.ids, entry_ids a r hn]
  conv_rhs => rw [← List.take_append_drop (neededCpuBlocks r) a.blockManager.cpu.ids]
  rw [← List.append_assoc]
  exact List.perm_append_comm.append_right _

end Entry

end MiniLlm

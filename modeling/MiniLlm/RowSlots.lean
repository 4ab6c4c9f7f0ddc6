import MiniLlm.PagedRun

/-!
# The slots of the rows of a launch

Each row of `buf_qkv` belongs to a position of a request. The slots of
different positions are different because no block is in two tables, so a
launch stores each of its rows and leaves the slots of all other positions
alone.
-/

set_option autoImplicit false

namespace MiniLlm

open FlatMemory

variable {ι : Type*}

/-- Every block of the pool is in at most one table. -/
structure TablesApart (request : ι → Request) : Prop where
  nodup : ∀ i, (request i).blocks.Nodup
  apart : ∀ i j, i ≠ j → List.Disjoint (request i).blocks (request j).blocks
  inPool : ∀ i, ∀ p ∈ (request i).blocks, p < defaultTotalKvBlocks

section Slots

variable {request : ι → Request}

def keySlot (request : ι → Request) (key : TokenKey ι) : Option (ℕ × ℕ) :=
  tokenSlot ((request key.1).cache key.2.1) key.2.2

theorem token_slot_some {kv : PagedKVCache} {t : ℕ} {slot : ℕ × ℕ}
    (h : tokenSlot kv t = some slot) : kv.blockTable[t/defaultKvBlockSize]? = some slot.1 ∧
      slot.2 = t%defaultKvBlockSize := by
  obtain ⟨p,hp,rfl⟩ := Option.map_eq_some_iff.mp h
  exact ⟨hp,rfl⟩

theorem key_slot_in_pool (h : TablesApart request) {key : TokenKey ι} {slot : ℕ × ℕ}
    (hs : keySlot request key = some slot) : InPool slot := by
  obtain ⟨hb,ho⟩ := token_slot_some hs
  constructor
  · exact h.inPool key.1 _ (table_mem ((request key.1).cache_get key.2.1) hb)
  · rw [ho]
    exact Nat.mod_lt _ (by decide)

theorem key_slot_injective (h : TablesApart request) {key key' : TokenKey ι} {slot : ℕ × ℕ}
    (hs : keySlot request key = some slot) (hs' : keySlot request key' = some slot) :
    key = key' := by
  obtain ⟨i,layer,t⟩ := key
  obtain ⟨i',layer',t'⟩ := key'
  obtain ⟨hb,ho⟩ := token_slot_some hs
  obtain ⟨hb',ho'⟩ := token_slot_some hs'
  have hkv := (request i).cache_get layer
  have hkv' := (request i').cache_get layer'
  have hi : i = i' := by
    by_contra hne
    exact h.apart i i' hne (table_mem hkv hb) (table_mem hkv' hb')
  subst hi
  obtain ⟨hlayer,hdiv⟩ := blocks_unshared (h.nodup i) hkv hkv' hb hb'
  obtain rfl := Fin.ext hlayer
  have ht : t = t' := by
    rw [← Nat.div_add_mod t defaultKvBlockSize, ← Nat.div_add_mod t' defaultKvBlockSize]
    dsimp only at ho ho' hdiv
    rw [hdiv, ← ho, ← ho']
  rw [ht]

end Slots

section Rows

variable {request : ι → Request} {layer : Fin gpt2NLayers} {rows : List (ι × ℕ)}
  {slots : List (ℕ × ℕ)}

theorem row_of_key {r q : ι × ℕ}
    (h : ((r.1,layer,r.2) : TokenKey ι) = (q.1,layer,q.2)) : r = q :=
  Prod.ext (congrArg (fun key : TokenKey ι => key.1) h)
    (congrArg (fun key : TokenKey ι => key.2.2) h)

def SlotsAt (request : ι → Request) (layer : Fin gpt2NLayers) (rows : List (ι × ℕ))
    (slots : List (ℕ × ℕ)) : Prop :=
  List.Forall₂ (fun r slot => keySlot request (r.1,layer,r.2) = some slot) rows slots

theorem SlotsAt.at (h : SlotsAt request layer rows slots) {k : ℕ} {r : ι × ℕ}
    (hk : rows[k]? = some r) :
    ∃ slot, slots[k]? = some slot ∧ keySlot request (r.1,layer,r.2) = some slot := by
  obtain ⟨hlt,rfl⟩ := List.getElem?_eq_some_iff.mp hk
  have hlt' : k < slots.length := lt_of_lt_of_eq hlt (List.Forall₂.length_eq h)
  exact ⟨slots[k],List.getElem?_eq_getElem hlt',List.Forall₂.get h hlt hlt'⟩

theorem SlotsAt.origin (h : SlotsAt request layer rows slots) {k : ℕ} {slot : ℕ × ℕ}
    (hk : slots[k]? = some slot) :
    ∃ r, rows[k]? = some r ∧ keySlot request (r.1,layer,r.2) = some slot := by
  obtain ⟨hlt,rfl⟩ := List.getElem?_eq_some_iff.mp hk
  have hlt' : k < rows.length := lt_of_lt_of_eq hlt (List.Forall₂.length_eq h).symm
  exact ⟨rows[k],List.getElem?_eq_getElem hlt',List.Forall₂.get h hlt' hlt⟩

theorem slots_in_pool (hapart : TablesApart request) (h : SlotsAt request layer rows slots) :
    ∀ slot ∈ slots, InPool slot := by
  intro slot hs
  obtain ⟨k,hk⟩ := List.mem_iff_getElem?.mp hs
  obtain ⟨r,_,hr⟩ := h.origin hk
  exact key_slot_in_pool hapart hr

theorem slots_nodup (hapart : TablesApart request) (h : SlotsAt request layer rows slots)
    (hd : rows.Nodup) : slots.Nodup := by
  apply List.nodup_iff_getElem?_ne_getElem?.mpr
  intro i j hij hj he
  have hi : slots[i]? = some slots[j] := he.trans (List.getElem?_eq_getElem hj)
  obtain ⟨r,hr,hrow⟩ := h.origin hi
  obtain ⟨q,hq,hrow'⟩ := h.origin (List.getElem?_eq_getElem hj)
  obtain rfl := row_of_key (key_slot_injective hapart hrow hrow')
  have hlt : i < rows.length := (List.getElem?_eq_some_iff.mp hr).1
  have hsame := (List.getElem?_inj hlt hd).mp (hr.trans hq.symm)
  omega

end Rows

section Launch

variable {β : Type*} {request : ι → Request} {layer : Fin gpt2NLayers} {rows : List (ι × ℕ)}
  {slots : List (ℕ × ℕ)} (hapart : TablesApart request)
  (hslots : SlotsAt request layer rows slots) (source : ℕ → β) (m : Memory β)

include hapart hslots

/-- A launch stores each of its rows in the slot of the row. -/
theorem append_row_stored (hd : rows.Nodup) {k : ℕ} {r : ι × ℕ} (hk : rows[k]? = some r)
    {slot : ℕ × ℕ} (hkey : keySlot request (r.1,layer,r.2) = some slot) {c : ℕ}
    (hc : c < gpt2DModel) :
    launchAppend slots source m (dstBase slot+c) = source (keySource k c) ∧
      launchAppend slots source m (vPool+(dstBase slot+c)) = source (valueSource k c) := by
  obtain ⟨slot',hslot,hkey'⟩ := hslots.at hk
  obtain rfl := Option.some.inj (hkey.symm.trans hkey')
  have hin := slots_in_pool hapart hslots
  have hnodup := slots_nodup hapart hslots hd
  exact ⟨append_stored slots source m hin hnodup k slot _ hslot ⟨c,hc,.inl rfl⟩,
    append_stored slots source m hin hnodup k slot _ hslot ⟨c,hc,.inr rfl⟩⟩

theorem append_row_spared {key : TokenKey ι} (hother : ∀ r ∈ rows, key ≠ (r.1,layer,r.2))
    {slot : ℕ × ℕ} (hkey : keySlot request key = some slot) {c : ℕ} (hc : c < gpt2DModel) :
    launchAppend slots source m (dstBase slot+c) = m (dstBase slot+c) ∧
      launchAppend slots source m (vPool+(dstBase slot+c)) = m (vPool+(dstBase slot+c)) := by
  have hin := slots_in_pool hapart hslots
  have hslotin := key_slot_in_pool hapart hkey
  have hnew : slot ∉ slots := by
    intro hm
    obtain ⟨k,hk⟩ := List.mem_iff_getElem?.mp hm
    obtain ⟨r,hr,hrow⟩ := hslots.origin hk
    exact hother r (List.mem_of_getElem? hr) (key_slot_injective hapart hkey hrow)
  have hkeys : StoresRow 0 slot (dstBase slot+c,keySource 0 c) := ⟨c,hc,.inl rfl⟩
  have hvalues : StoresRow 0 slot (vPool+(dstBase slot+c),valueSource 0 c) := ⟨c,hc,.inr rfl⟩
  exact ⟨append_spared slots source m hin 0 slot _ hslotin hnew hkeys,
    append_spared slots source m hin 0 slot _ hslotin hnew hvalues⟩

end Launch

section Batches

variable {request : ι → Request} {batch : List ι} {layer : Fin gpt2NLayers}
  {slots : List (ℕ × ℕ)}

theorem prompt_rows_nodup (hb : batch.Nodup) : (promptRows request batch).Nodup := by
  apply List.nodup_flatMap.mpr
  constructor
  · intro i _
    exact List.nodup_range.map fun t t' h => congrArg Prod.snd h
  · apply hb.imp
    intro i j hij r hr hr'
    obtain ⟨t,_,rfl⟩ := List.mem_map.mp hr
    obtain ⟨t',_,he⟩ := List.mem_map.mp hr'
    exact hij (congrArg Prod.fst he).symm

theorem next_rows_nodup (hb : batch.Nodup) : (nextRows request batch layer).Nodup :=
  hb.map fun _ _ h => congrArg Prod.fst h

theorem prompt_rows_caches (layer : Fin gpt2NLayers) : ((batch.map request).flatMap fun r =>
    (List.range r.promptsLen).map (Prod.mk (r.cache layer))) =
      (promptRows request batch).map fun r => ((request r.1).cache layer,r.2) := by
  rw [promptRows, List.flatMap_map, List.map_flatMap]
  simp only [List.map_map, Function.comp_def]

theorem make_tables_slots (h : makeTables layer (batch.map request) = some slots) :
    SlotsAt request layer (promptRows request batch) slots := by
  rw [makeTables, prompt_rows_caches] at h
  exact List.forall₂_map_left_iff.mp (map_some _ _ _ h)

theorem decode_tables_slots (h : decodeTables layer (batch.map request) = some slots) :
    SlotsAt request layer (nextRows request batch layer) slots :=
  List.forall₂_map_left_iff.mpr (List.forall₂_map_left_iff.mp (map_some _ _ _ h))

end Batches

end MiniLlm

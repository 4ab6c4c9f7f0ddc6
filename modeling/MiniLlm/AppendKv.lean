import MiniLlm.KvAddress

/-!
# The append kernel

`append_prefill_kv_kernel` copies the K and V parts of each row of `buf_qkv`
to the slot of its token. A store is an address in the pool with the index
in `buf_qkv` it reads, so that one lemma speaks about the pool and about
whatever else is kept for each address.
-/

set_option autoImplicit false

namespace MiniLlm

open FlatMemory

def vecPerToken : ℕ := gpt2DModel/4

/-- `k_src[c]` and `v_src[c]` of a row, as indices of `buf_qkv`. -/
def keySource (row c : ℕ) : ℕ := row*3*gpt2DModel+gpt2DModel+c

def valueSource (row c : ℕ) : ℕ := row*3*gpt2DModel+2*gpt2DModel+c

/-- `dst_base`, for a physical block and an offset in it. -/
def dstBase (slot : ℕ × ℕ) : ℕ := slot.1*defaultKvBlockSize*gpt2DModel+slot.2*gpt2DModel

/-- The two `float4` stores of thread `col`. -/
def appendThread (row : ℕ) (slot : ℕ × ℕ) (col : ℕ) : List (ℕ × ℕ) :=
  (List.range 4).map (fun i => (dstBase slot+(col*4+i),keySource row (col*4+i)))++
    (List.range 4).map (fun i => (vPool+(dstBase slot+(col*4+i)),valueSource row (col*4+i)))

def appendStores : ℕ → List (ℕ × ℕ) → List (ℕ × ℕ)
  | _, [] => []
  | row, slot::slots =>
    (List.range vecPerToken).flatMap (appendThread row slot)++appendStores (row+1) slots

/-- `append_prefill_kv`, on a memory that takes `source i` where the kernel reads index `i`. -/
def launchAppend {β : Type*} (slots : List (ℕ × ℕ)) (source : ℕ → β) (m : Memory β) : Memory β :=
  storeAll ((appendStores 0 slots).map fun s => (s.1,source s.2)) m

def StoresRow (row : ℕ) (slot : ℕ × ℕ) (s : ℕ × ℕ) : Prop :=
  ∃ c < gpt2DModel, s = (dstBase slot+c,keySource row c) ∨
    s = (vPool+(dstBase slot+c),valueSource row c)

theorem append_row_mem (row : ℕ) (slot s : ℕ × ℕ) :
    s ∈ (List.range vecPerToken).flatMap (appendThread row slot) ↔ StoresRow row slot s := by
  simp only [List.mem_flatMap, List.mem_range, appendThread, List.mem_append, List.mem_map]
  constructor
  · rintro ⟨col,hcol,⟨i,hi,rfl⟩ | ⟨i,hi,rfl⟩⟩
    · exact ⟨col*4+i,by simp only [vecPerToken, gpt2DModel] at hcol ⊢; omega,.inl rfl⟩
    · exact ⟨col*4+i,by simp only [vecPerToken, gpt2DModel] at hcol ⊢; omega,.inr rfl⟩
  · rintro ⟨c,hc,hs⟩
    have hcol : c/4 < vecPerToken := by
      simp only [vecPerToken, gpt2DModel] at hc ⊢
      omega
    have hi : c%4 < 4 := Nat.mod_lt c (by decide)
    have hback : c/4*4+c%4 = c := by omega
    refine ⟨c/4,hcol,?_⟩
    rcases hs with rfl | rfl
    · exact .inl ⟨c%4,hi,by rw [hback]⟩
    · exact .inr ⟨c%4,hi,by rw [hback]⟩

theorem append_stores_mem (row : ℕ) (slots : List (ℕ × ℕ)) (s : ℕ × ℕ) :
    s ∈ appendStores row slots ↔
      ∃ k slot, slots[k]? = some slot ∧ StoresRow (row+k) slot s := by
  induction slots generalizing row with
  | nil => simp [appendStores]
  | cons first slots ih =>
    rw [appendStores, List.mem_append, append_row_mem, ih]
    constructor
    · rintro (h | ⟨k,slot,hk,h⟩)
      · exact ⟨0,first,rfl,h⟩
      · exact ⟨k+1,slot,hk,by rwa [show row+(k+1) = row+1+k by omega]⟩
    · rintro ⟨k,slot,hk,h⟩
      cases k with
      | zero =>
        obtain rfl := Option.some.inj hk
        exact .inl h
      | succ k => exact .inr ⟨k,slot,hk,by rwa [show row+1+k = row+(k+1) by omega]⟩

structure InPool (slot : ℕ × ℕ) : Prop where
  block : slot.1 < defaultTotalKvBlocks
  offset : slot.2 < defaultKvBlockSize

theorem key_address_injective {slot slot' : ℕ × ℕ} {c c' : ℕ} (h : InPool slot)
    (h' : InPool slot') (hc : c < gpt2DModel) (hc' : c' < gpt2DModel)
    (he : dstBase slot+c = dstBase slot'+c') : slot = slot' ∧ c = c' := by
  have ho := h.offset
  have ho' := h'.offset
  simp only [dstBase, defaultKvBlockSize, gpt2DModel] at *
  have hfst : slot.1 = slot'.1 := by omega
  have hsnd : slot.2 = slot'.2 := by omega
  exact ⟨Prod.ext hfst hsnd,by rw [hfst, hsnd] at he; omega⟩

theorem key_below_values {slot : ℕ × ℕ} {c : ℕ} (h : InPool slot) (hc : c < gpt2DModel) :
    dstBase slot+c < vPool := by
  have hb := h.block
  have ho := h.offset
  simp only [dstBase, vPool, defaultTotalKvBlocks, defaultKvBlockSize, gpt2DModel] at *
  omega

theorem value_below_end {slot : ℕ × ℕ} {c : ℕ} (h : InPool slot) (hc : c < gpt2DModel) :
    vPool+(dstBase slot+c) < defaultTotalKvBlocks*blockSlotSize := by
  have hk := key_below_values h hc
  simp only [vPool, blockSlotSize, defaultTotalKvBlocks, defaultKvBlockSize, gpt2DModel] at *
  omega

theorem stores_row_injective {row row' : ℕ} {slot slot' s s' : ℕ × ℕ} (h : InPool slot)
    (h' : InPool slot') (hs : StoresRow row slot s) (hs' : StoresRow row' slot' s')
    (ha : s.1 = s'.1) : slot = slot' ∧ (row = row' → s = s') := by
  obtain ⟨c,hc,hs⟩ := hs
  obtain ⟨c',hc',hs'⟩ := hs'
  have hkey := key_below_values h hc
  have hkey' := key_below_values h' hc'
  rcases hs with rfl | rfl <;> rcases hs' with rfl | rfl
  · obtain ⟨hslot,rfl⟩ := key_address_injective h h' hc hc' ha
    exact ⟨hslot,fun hrow => by rw [hslot, hrow]⟩
  · exact absurd ha (by dsimp only; omega)
  · exact absurd ha (by dsimp only; omega)
  · obtain ⟨hslot,rfl⟩ := key_address_injective h h' hc hc' (Nat.add_left_cancel ha)
    exact ⟨hslot,fun hrow => by rw [hslot, hrow]⟩

section Launch

variable {β : Type*} (slots : List (ℕ × ℕ)) (source : ℕ → β) (m : Memory β)

theorem append_stored (hslots : ∀ slot ∈ slots, InPool slot) (hd : slots.Nodup) (k : ℕ)
    (slot s : ℕ × ℕ) (hk : slots[k]? = some slot) (hs : StoresRow k slot s) :
    launchAppend slots source m s.1 = source s.2 := by
  have hin (i : ℕ) (other : ℕ × ℕ) (hi : slots[i]? = some other) : InPool other :=
    hslots other (List.mem_of_getElem? hi)
  have hmem : s ∈ appendStores 0 slots :=
    (append_stores_mem 0 slots s).mpr ⟨k,slot,hk,by rwa [Nat.zero_add]⟩
  apply store_all_agreed
  · exact List.mem_map.mpr ⟨_,List.mem_map_of_mem hmem,rfl⟩
  · intro w hw ha
    obtain ⟨s',hs',rfl⟩ := List.mem_map.mp hw
    obtain ⟨k',slot',hk',hrow'⟩ := (append_stores_mem 0 slots s').mp hs'
    rw [Nat.zero_add] at hrow'
    obtain ⟨rfl,hsame⟩ := stores_row_injective (hin k' slot' hk') (hin k slot hk) hrow' hs ha
    have hkk : k' = k :=
      (List.getElem?_inj (List.getElem?_eq_some_iff.mp hk').1 hd).mp (hk'.trans hk.symm)
    rw [hsame hkk]

theorem append_spared (hslots : ∀ slot ∈ slots, InPool slot) (row : ℕ) (slot s : ℕ × ℕ)
    (hslot : InPool slot) (hnew : slot ∉ slots) (hs : StoresRow row slot s) :
    launchAppend slots source m s.1 = m s.1 := by
  apply store_all_outside
  intro hm
  obtain ⟨w,hw,ha⟩ := List.mem_map.mp hm
  obtain ⟨s',hs',rfl⟩ := List.mem_map.mp hw
  obtain ⟨k',slot',hk',hrow'⟩ := (append_stores_mem 0 slots s').mp hs'
  have hmem' := List.mem_of_getElem? hk'
  obtain ⟨rfl,_⟩ := stores_row_injective (hslots slot' hmem') hslot hrow' hs ha
  exact hnew hmem'

end Launch

theorem key_source_row (row c : ℕ) (hc : c < gpt2DModel) :
    keySource row c/(3*gpt2DModel) = row := by
  simp only [keySource, gpt2DModel] at *
  omega

theorem value_source_row (row c : ℕ) (hc : c < gpt2DModel) :
    valueSource row c/(3*gpt2DModel) = row := by
  simp only [valueSource, gpt2DModel] at *
  omega

/-- The attention kernel reads component `h*64+d` of a row from where it was stored. -/
theorem attention_k_row (p off h d : ℕ) :
    attentionK p off h d = dstBase (p,off)+(h*gpt2DHead+d) := by
  simp only [attentionK, dstBase, Nat.add_assoc]

theorem attention_v_row (p off h d : ℕ) :
    attentionV p off h d = vPool+(dstBase (p,off)+(h*gpt2DHead+d)) := by
  simp only [attentionV, dstBase, Nat.add_assoc]

theorem component_lt (h d : ℕ) (hh : h < gpt2NHeads) (hd : d < gpt2DHead) :
    h*gpt2DHead+d < gpt2DModel := by
  simp only [gpt2NHeads, gpt2DHead, gpt2DModel] at *
  omega

theorem head_component (c : Fin gpt2DModel) : c/gpt2DHead < gpt2NHeads ∧ c%gpt2DHead < gpt2DHead ∧
    c/gpt2DHead*gpt2DHead+c%gpt2DHead = c := by
  have hc := c.isLt
  simp only [gpt2NHeads, gpt2DHead, gpt2DModel] at *
  omega

end MiniLlm

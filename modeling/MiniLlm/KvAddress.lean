import MiniLlm.StagedScatter

/-!
# The addresses at which attention reads K and V

The decode kernel sees the pool as all K blocks followed by all V blocks,
`Pool::block_ptr` as a row of slots twice as long. Both are cut here into
half slots: half slot `p` holds the K rows of block `p`, half slot
`4096+p` its V rows, and slot `b` is made of the half slots `2b` and `2b+1`.
-/

set_option autoImplicit false

namespace MiniLlm

open FlatMemory

variable {α : Type*}

/-- The K address of `paged_decode_attention_kernel` for head `h`, component `d`. -/
def attentionK (physicalBlock offset h d : ℕ) : ℕ :=
  physicalBlock*defaultKvBlockSize*gpt2DModel+offset*gpt2DModel+h*gpt2DHead+d

/-- `v_pool`, as an offset from the start of the pool. -/
def vPool : ℕ := defaultTotalKvBlocks*defaultKvBlockSize*gpt2DModel

def attentionV (physicalBlock offset h d : ℕ) : ℕ :=
  vPool+(physicalBlock*defaultKvBlockSize*gpt2DModel+offset*gpt2DModel+h*gpt2DHead+d)

/-- The K value the kernel reads for position `t` through a block table. -/
def readK (pool : Memory α) (blockTable : ℕ → Option ℕ) (t h d : ℕ) : Option α :=
  (blockTable (t/defaultKvBlockSize)).map
    (fun p => pool (attentionK p (t%defaultKvBlockSize) h d))

def readV (pool : Memory α) (blockTable : ℕ → Option ℕ) (t h d : ℕ) : Option α :=
  (blockTable (t/defaultKvBlockSize)).map
    (fun p => pool (attentionV p (t%defaultKvBlockSize) h d))

def halfSlot : ℕ := defaultKvBlockSize*gpt2DModel

def cell (offset h d : ℕ) : ℕ := offset*gpt2DModel+h*gpt2DHead+d

theorem slot_is_two_halves : blockSlotSize = 2*halfSlot := rfl

theorem half_pos : 0 < halfSlot := by decide

theorem cell_lt (t h d : ℕ) (hh : h < gpt2NHeads) (hd : d < gpt2DHead) :
    cell (t%defaultKvBlockSize) h d < halfSlot := by
  have ht := Nat.mod_lt t (show 0 < defaultKvBlockSize by decide)
  simp only [cell, halfSlot, defaultKvBlockSize, gpt2NHeads, gpt2DHead, gpt2DModel] at *
  omega

theorem cell_zero : cell 0 0 0 = 0 := rfl

theorem attention_k_half (p offset h d : ℕ) :
    attentionK p offset h d = p*halfSlot+cell offset h d := by
  simp only [attentionK, cell, halfSlot, Nat.mul_assoc, Nat.add_assoc]

theorem attention_v_half (p offset h d : ℕ) :
    attentionV p offset h d = (defaultTotalKvBlocks+p)*halfSlot+cell offset h d := by
  simp only [attentionV, vPool, cell, halfSlot, Nat.mul_assoc, Nat.add_assoc, Nat.add_mul]

theorem half_in_slot (k e : ℕ) :
    k*halfSlot+e = k/2*blockSlotSize+(k%2*halfSlot+e) := by
  rw [slot_is_two_halves, ← Nat.add_assoc, ← Nat.mul_assoc, ← Nat.add_mul]
  congr 2
  omega

theorem half_offset_lt (k e : ℕ) (he : e < halfSlot) : k%2*halfSlot+e < blockSlotSize := by
  rcases Nat.mod_two_eq_zero_or_one k with h | h <;> rw [h, slot_is_two_halves] <;> omega

theorem half_div (k e : ℕ) (he : e < halfSlot) : (k*halfSlot+e)/blockSlotSize = k/2 := by
  rw [half_in_slot, slot_div _ _ (half_offset_lt k e he)]

def SameKv (p q : Memory α) (table table' : List ℕ) (n : ℕ) : Prop :=
  ∀ t < n, ∀ h < gpt2NHeads, ∀ d < gpt2DHead,
    readK p (table[·]?) t h d = readK q (table'[·]?) t h d ∧
    readV p (table[·]?) t h d = readV q (table'[·]?) t h d

theorem read_k_at (pool : Memory α) (table : List ℕ) (t h d p : ℕ)
    (hp : table[t/defaultKvBlockSize]? = some p) : readK pool (table[·]?) t h d =
      some (pool (p*halfSlot+cell (t%defaultKvBlockSize) h d)) := by
  rw [readK, hp, Option.map_some, attention_k_half]

theorem read_v_at (pool : Memory α) (table : List ℕ) (t h d p : ℕ)
    (hp : table[t/defaultKvBlockSize]? = some p) : readV pool (table[·]?) t h d =
      some (pool ((defaultTotalKvBlocks+p)*halfSlot+cell (t%defaultKvBlockSize) h d)) := by
  rw [readV, hp, Option.map_some, attention_v_half]

theorem same_kv_first {p q : Memory α} {table table' : List ℕ} {n : ℕ}
    (h : SameKv p q table table' n) (b x y : ℕ) (hb : b*defaultKvBlockSize < n)
    (hx : table[b]? = some x) (hy : table'[b]? = some y) :
    q (y*halfSlot) = p (x*halfSlot) ∧
      q ((defaultTotalKvBlocks+y)*halfSlot) = p ((defaultTotalKvBlocks+x)*halfSlot) := by
  have hdiv : b*defaultKvBlockSize/defaultKvBlockSize = b := Nat.mul_div_cancel b (by decide)
  have hmod : b*defaultKvBlockSize%defaultKvBlockSize = 0 := Nat.mul_mod_left b _
  rw [← hdiv] at hx hy
  obtain ⟨hk,hv⟩ := h _ hb 0 (by decide) 0 (by decide)
  rw [read_k_at _ _ _ _ _ _ hx, read_k_at _ _ _ _ _ _ hy, hmod, cell_zero, Nat.add_zero,
    Nat.add_zero] at hk
  rw [read_v_at _ _ _ _ _ _ hx, read_v_at _ _ _ _ _ _ hy, hmod, cell_zero, Nat.add_zero,
    Nat.add_zero] at hv
  exact ⟨(Option.some.inj hk).symm,(Option.some.inj hv).symm⟩

/-- Agreement follows from that of the half slots of the blocks in use. -/
theorem same_kv_of_halves {p q : Memory α} {table table' : List ℕ} {n : ℕ}
    (h : ∀ b, b*defaultKvBlockSize < n → (table[b]? = none ∧ table'[b]? = none) ∨
      ∃ x y, table[b]? = some x ∧ table'[b]? = some y ∧ ∀ e < halfSlot,
        q (y*halfSlot+e) = p (x*halfSlot+e) ∧
        q ((defaultTotalKvBlocks+y)*halfSlot+e) = p ((defaultTotalKvBlocks+x)*halfSlot+e)) :
    SameKv p q table table' n := by
  intro t ht i hi d hd
  have hb : t/defaultKvBlockSize*defaultKvBlockSize < n :=
    lt_of_le_of_lt (Nat.div_mul_le_self t _) ht
  rcases h _ hb with ⟨hx,hy⟩ | ⟨x,y,hx,hy,hsame⟩
  · exact ⟨by rw [readK, readK, hx, hy]; rfl,by rw [readV, readV, hx, hy]; rfl⟩
  · obtain ⟨hk,hv⟩ := hsame _ (cell_lt t i d hi hd)
    rw [read_k_at _ _ _ _ _ _ hx, read_k_at _ _ _ _ _ _ hy, hk, read_v_at _ _ _ _ _ _ hx,
      read_v_at _ _ _ _ _ _ hy, hv]
    exact ⟨rfl,rfl⟩

end MiniLlm

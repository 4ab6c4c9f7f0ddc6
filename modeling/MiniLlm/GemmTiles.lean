import MiniLlm.GemmKernels

/-!
# The tiles of the GEMM kernels

A matrix that is zero outside of its rows and columns is what the guarded
loads read, whether they take four floats at once or one by one. The stages
hold tiles of it, and the products of a tile are the next part of the sum.
-/

set_option autoImplicit false

namespace MiniLlm.Gemm

open FlatMemory RowBuffers BlockReduction KernelLaunch

section Entries

variable {R : Type*} [Zero R]

def entry (m : Memory R) (rows cols r c : ℕ) : R :=
  if r < rows ∧ c < cols then m (r*cols+c) else 0

variable {p : Buffer R} {rows cols row col : ℕ}

theorem load_if_entry (hp : p.size = rows*cols) (guard : Prop) [Decidable guard]
    (hg : guard ↔ row < rows ∧ col < cols) :
    loadIf guard p (row*cols+col) = some (entry p.data rows cols row col) := by
  unfold loadIf entry
  by_cases h : row < rows ∧ col < cols
  · rw [if_pos (hg.mpr h), if_pos h, Buffer.load_some (by rw [hp]; exact row_cell_lt h.1 h.2)]
  · rw [if_neg (mt hg.mp h), if_neg h]

theorem load_float4_entry (hp : p.size = rows*cols) :
    loadFloat4OrScalar p row col cols rows cols =
      some (.ofFn fun j => entry p.data rows cols row (col+j)) := by
  unfold loadFloat4OrScalar
  split
  · rename_i hrow
    simp [Float4.ofFn, entry, Nat.not_lt.mpr hrow]
  · rename_i hrow
    have hrow := Nat.lt_of_not_le hrow
    dsimp only
    split
    · rename_i hvec
      have hcell := row_cell_lt hrow hvec.1
      rw [Buffer.load4_some hvec.2 (by rw [hp]; omega)]
      refine congrArg some (Float4.of_fn_congr fun j hj => ?_)
      unfold entry
      rw [if_pos ⟨hrow,by omega⟩, Nat.add_assoc]
    · have hpart (j : ℕ) : loadIf (col+j < cols) p (row*cols+col+j) =
          some (entry p.data rows cols row (col+j)) := by
        rw [Nat.add_assoc]
        exact load_if_entry hp _ (by simp [hrow])
      rw [hpart 0, hpart 1, hpart 2, hpart 3]
      rfl

end Entries

section Stages

variable {R : Type*} {indices : List ℕ} (turn : ℕ → Option (List (ℕ × R)))

/-- `sA` holds the tile of `A` transposed, with rows of `SA_STRIDE` floats. -/
theorem stage_columns (f : ℕ → ℕ → R) (hmem : ∀ i, i ∈ indices ↔ i < 128)
    (hturn : ∀ i < 128, turn i = some (columnStores (i/2) (i%2) (.ofFn fun j => f (i/2) (i%2*4+j))))
    (shared : Memory R) : ∃ staged, stage indices turn shared = some staged ∧
      ∀ d < bk, ∀ r < bm, staged (d*saStride+r) = f r d := by
  obtain ⟨staged,hstaged,hread⟩ := stage_some _ (fun i hi => hturn i ((hmem i).mp hi)) shared
  refine ⟨staged,hstaged,fun d hd r hr => hread _ _ ⟨r*2+d/4,?_,?_⟩ ?_⟩
  · rw [hmem]
    simp only [bk, bm] at hd hr
    omega
  · simp only [bk] at hd
    have hrow : (r*2+d/4)/2 = r := by omega
    have hcol : (r*2+d/4)%2 = d/4 := by omega
    have hpart : d%4 = 0 ∨ d%4 = 1 ∨ d%4 = 2 ∨ d%4 = 3 := by omega
    have hsplit := Nat.div_add_mod d 4
    rw [hrow, hcol]
    simp only [columnStores, addresses, List.map_cons, List.map_nil, List.mem_cons,
      List.not_mem_nil, or_false, saStride, bm]
    omega
  · intro i hi w hw hwa
    simp only [bk, bm] at hd hr
    have hlt := (hmem i).mp hi
    simp only [columnStores, List.mem_cons, List.not_mem_nil, or_false] at hw
    rcases hw with rfl | rfl | rfl | rfl <;> simp only [saStride, bm] at hwa
    · obtain ⟨rfl,rfl⟩ : r = i/2 ∧ d = i%2*4+0 := by omega
      rfl
    · obtain ⟨rfl,rfl⟩ : r = i/2 ∧ d = i%2*4+1 := by omega
      rfl
    · obtain ⟨rfl,rfl⟩ : r = i/2 ∧ d = i%2*4+2 := by omega
      rfl
    · obtain ⟨rfl,rfl⟩ : r = i/2 ∧ d = i%2*4+3 := by omega
      rfl

theorem stage_rows (f : ℕ → ℕ → R) (hmem : ∀ i, i ∈ indices ↔ i < 128)
    (hturn : ∀ i < 128,
      turn i = some (rowStores (i/16) (i%16) (.ofFn fun j => f (i/16) (i%16*4+j))))
    (shared : Memory R) : ∃ staged, stage indices turn shared = some staged ∧
      ∀ d < bk, ∀ c < bn, staged (d*bn+c) = f d c := by
  obtain ⟨staged,hstaged,hread⟩ := stage_some _ (fun i hi => hturn i ((hmem i).mp hi)) shared
  refine ⟨staged,hstaged,fun d hd c hc => hread _ _ ⟨d*16+c/4,?_,?_⟩ ?_⟩
  · rw [hmem]
    simp only [bk, bn] at hd hc
    omega
  · simp only [bn] at hc
    have hrow : (d*16+c/4)/16 = d := by omega
    have hcol : (d*16+c/4)%16 = c/4 := by omega
    have hpart : c%4 = 0 ∨ c%4 = 1 ∨ c%4 = 2 ∨ c%4 = 3 := by omega
    have hsplit := Nat.div_add_mod c 4
    rw [hrow, hcol]
    simp only [rowStores, addresses, List.map_cons, List.map_nil, List.mem_cons,
      List.not_mem_nil, or_false, bn]
    omega
  · intro i hi w hw hwa
    simp only [bk, bn] at hd hc
    have hlt := (hmem i).mp hi
    simp only [rowStores, List.mem_cons, List.not_mem_nil, or_false] at hw
    rcases hw with rfl | rfl | rfl | rfl <;> simp only [bn] at hwa
    · obtain ⟨rfl,rfl⟩ : d = i/16 ∧ c = i%16*4+0 := by omega
      rfl
    · obtain ⟨rfl,rfl⟩ : d = i/16 ∧ c = i%16*4+1 := by omega
      rfl
    · obtain ⟨rfl,rfl⟩ : d = i/16 ∧ c = i%16*4+2 := by omega
      rfl
    · obtain ⟨rfl,rfl⟩ : d = i/16 ∧ c = i%16*4+3 := by omega
      rfl

theorem stage_cells (rows stride : ℕ) {cols : ℕ} (f : ℕ → ℕ → R) (hstride : cols ≤ stride)
    (hmem : ∀ i, i ∈ indices ↔ i < rows*cols)
    (hturn : ∀ i < rows*cols, turn i = some [(i/cols*stride+i%cols,f (i/cols) (i%cols))])
    (shared : Memory R) : ∃ staged, stage indices turn shared = some staged ∧
      ∀ r < rows, ∀ c < cols, staged (r*stride+c) = f r c := by
  obtain ⟨staged,hstaged,hread⟩ := stage_some _ (fun i hi => hturn i ((hmem i).mp hi)) shared
  refine ⟨staged,hstaged,fun r hr c hc => hread _ _ ⟨r*cols+c,?_,?_⟩ ?_⟩
  · rw [hmem]
    exact row_cell_lt hr hc
  · rw [row_cell_div hc, row_cell_mod hc]
    exact List.mem_singleton_self _
  · intro i hi w hw hwa
    rw [List.mem_singleton.mp hw] at hwa ⊢
    have hlt : i%cols < stride := (Nat.mod_lt i (Nat.zero_lt_of_lt hc)).trans_le hstride
    obtain ⟨hrow,hcol⟩ := (row_cell_eq hlt (hc.trans_le hstride)).mp hwa
    rw [hrow, hcol]

end Stages

section Products

variable {R : Type*} [CommRing R]

theorem tile_products_sum (kTile : ℕ) (left right : ℕ → R) (acc : R) :
    tileProducts kTile left right acc = acc+∑ d ∈ Finset.range kTile, left d*right d := by
  unfold tileProducts
  induction kTile with
  | zero => simp
  | succ n ih =>
    rw [List.range_succ, List.foldl_append, ih, Finset.sum_range_succ, ← add_assoc]
    rfl

variable (a : Args R)

/-- The products that make up an element, where the matrices end with zeros. -/
def term (m n k : ℕ) : R :=
  entry a.A.data a.M a.K m k*entry a.B.data a.K a.N k n

def partialSum (k m n : ℕ) : R := ∑ i ∈ Finset.range k, term a m n i

variable {a}

theorem partial_sum_step {k kTile m n : ℕ} {left right : ℕ → R} {acc : R}
    (hacc : acc = partialSum a k m n)
    (hleft : ∀ d < kTile, left d = entry a.A.data a.M a.K m (k+d))
    (hright : ∀ d < kTile, right d = entry a.B.data a.K a.N (k+d) n) :
    tileProducts kTile left right acc = partialSum a (k+kTile) m n := by
  unfold partialSum at hacc ⊢
  rw [tile_products_sum, Finset.sum_range_add, hacc]
  refine congrArg _ (Finset.sum_congr rfl fun d hd => ?_)
  rw [hleft d (Finset.mem_range.mp hd), hright d (Finset.mem_range.mp hd)]
  rfl

theorem partial_sum_all {last m n : ℕ} (hlast : a.K ≤ last) (hm : m < a.M) (hn : n < a.N) :
    partialSum a last m n =
      ∑ k ∈ Finset.range a.K, a.A.data (m*a.K+k)*a.B.data (k*a.N+n) := by
  obtain ⟨rest,rfl⟩ := Nat.exists_eq_add_of_le hlast
  have hbeyond : ∑ i ∈ Finset.range rest, term a m n (a.K+i) = 0 := by
    apply Finset.sum_eq_zero
    intro i _
    unfold term entry
    rw [if_neg (by omega), zero_mul]
  unfold partialSum
  rw [Finset.sum_range_add, hbeyond, add_zero]
  refine Finset.sum_congr rfl fun k hk => ?_
  have hk := Finset.mem_range.mp hk
  unfold term entry
  rw [if_pos ⟨hm,hk⟩, if_pos ⟨hk,hn⟩]

end Products

section Epilogue

variable {R : Type*} [CommRing R] [DecidableEq R] (gelu : R → R) (a : Args R)

structure Args.Sized : Prop where
  A : a.A.size = a.M*a.K
  B : a.B.size = a.K*a.N
  C : a.C.size = a.M*a.N
  bias : ∀ p, a.bias = some p → p.size = a.N

def biasAt (n : ℕ) : R := a.bias.elim 0 fun bias => bias.data n

def product (m n : ℕ) : R :=
  maybeGelu gelu a (a.alpha*(∑ k ∈ Finset.range a.K, a.A.data (m*a.K+k)*a.B.data (k*a.N+n))+
    a.beta*a.C.data (m*a.N+n)+biasAt a n)

variable {gelu a} {last m n : ℕ}

omit [DecidableEq R] in
theorem load_bias_some (ha : a.Sized) (hn : n < a.N) : loadBias a n = some (biasAt a n) := by
  unfold loadBias biasAt
  split
  · rename_i bias hbias
    rw [hbias]
    exact Buffer.load_some (by rw [ha.bias bias hbias]; exact hn)
  · rename_i hbias
    rw [hbias]
    rfl

theorem store_element_some (ha : a.Sized) (hlast : a.K ≤ last) :
    storeElement gelu a m n (partialSum a last m n) =
      some (if m < a.M ∧ n < a.N then [(m*a.N+n,product gelu a m n)] else []) := by
  unfold storeElement
  split
  · rename_i hin
    have hcell : m*a.N+n < a.C.size := by
      rw [ha.C]
      exact row_cell_lt hin.1 hin.2
    rw [partial_sum_all hlast hin.1 hin.2, load_bias_some ha hin.2]
    unfold product
    by_cases hbeta : a.beta = 0
    · simp [hbeta, Buffer.store_some _ hcell]
    · simp [hbeta, Buffer.store_some _ hcell, Buffer.load_some hcell]
  · rfl

end Epilogue

end MiniLlm.Gemm

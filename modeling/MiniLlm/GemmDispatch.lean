import MiniLlm.GemmTiles

/-!
# Every GEMM path computes the fused product

Each kernel stages its tiles, sums their products and stores one element of
the product to each cell of the matrix. The tests that choose a kernel imply
what it relies on: the vectorized one needs sizes that its tiles divide and
aligned pointers, the others need nothing.
-/

set_option autoImplicit false

namespace MiniLlm.Gemm

open FlatMemory RowBuffers BlockReduction KernelLaunch

section Threads

def threadCells : List (ℕ × ℕ) :=
  (List.range numThreads).flatMap fun tid => (List.range tm).flatMap fun i =>
    (List.range tn).map fun j => (tid/(bn/tn)*tm+i,tid % (bn/tn)*tn+j)

variable {i j : ℕ}

theorem thread_row_lt {tid : ℕ} (ht : tid < numThreads) (hi : i < tm) : tid/(bn/tn)*tm+i < bm := by
  have ht : tid < 64 := ht
  simp only [tm, bn, tn, bm] at hi ⊢
  omega

theorem thread_col_lt (tid : ℕ) (hj : j < tn) : tid % (bn/tn)*tn+j < bn := by
  simp only [bn, tn] at hj ⊢
  omega

theorem thread_cells_tile : TileCells bm bn threadCells := by
  refine ⟨?_,?_,?_⟩
  · unfold threadCells
    refine nodup_flat_map (fun x => x.1/8*8+x.2/8) List.nodup_range (fun tid _ => ?_)
      fun tid ht x hx => ?_
    · refine nodup_flat_map (fun x => x.1%8) List.nodup_range (fun i _ => ?_) fun i hi x hx => ?_
      · refine List.nodup_range.map fun j j' h => ?_
        simpa using h
      · obtain ⟨j,_,rfl⟩ := List.mem_map.mp hx
        have hi : i < 8 := List.mem_range.mp hi
        simp only [tm]
        omega
    · obtain ⟨i,hi,hx⟩ := List.mem_flatMap.mp hx
      obtain ⟨j,hj,rfl⟩ := List.mem_map.mp hx
      have hi : i < 8 := List.mem_range.mp hi
      have hj : j < 8 := List.mem_range.mp hj
      simp only [tm, bn, tn]
      omega
  · intro x hx
    obtain ⟨tid,ht,hx⟩ := List.mem_flatMap.mp hx
    obtain ⟨i,hi,hx⟩ := List.mem_flatMap.mp hx
    obtain ⟨j,hj,rfl⟩ := List.mem_map.mp hx
    exact ⟨thread_row_lt (List.mem_range.mp ht) (List.mem_range.mp hi),
      thread_col_lt _ (List.mem_range.mp hj)⟩
  · intro r hr c hc
    have hr : r < 64 := hr
    have hc : c < 64 := hc
    have ht : r/8*8+c/8 < numThreads := by
      show _ < 64
      omega
    refine List.mem_flatMap.mpr ⟨r/8*8+c/8,List.mem_range.mpr ht,?_⟩
    refine List.mem_flatMap.mpr ⟨r%8,List.mem_range.mpr (Nat.mod_lt r (by decide)),?_⟩
    refine List.mem_map.mpr ⟨c%8,List.mem_range.mpr (Nat.mod_lt c (by decide)),?_⟩
    simp only [tm, bn, tn, Prod.mk.injEq]
    omega

end Threads

section General

variable {R : Type*} [CommRing R] [DecidableEq R] {gelu : R → R} {a : Args R}

/-- The tile of `A` that a block stages at `k`. -/
def tileA (a : Args R) (y k r d : ℕ) : R := entry a.A.data a.M a.K (y*bm+r) (k+d)

def tileB (a : Args R) (x k d c : ℕ) : R := entry a.B.data a.K a.N (k+d) (x*bn+c)

/-- What the results of all threads are before tile `k`. -/
def Summed (a : Args R) (y x k : ℕ) (s : General.State R) : Prop :=
  ∀ tid < numThreads, ∀ i < tm, ∀ j < tn, s.results tid i j =
    partialSum a k (y*bm+tid/(bn/tn)*tm+i) (x*bn+tid % (bn/tn)*tn+j)

omit [DecidableEq R] in
theorem accumulate_summed {y x k : ℕ} {s : General.State R} (h : Summed a y x k s)
    (hA : ∀ d < bk, ∀ r < bm, s.sA (d*saStride+r) = tileA a y k r d)
    (hB : ∀ d < bk, ∀ c < bn, s.sB (d*bn+c) = tileB a x k d c) :
    Summed a y x (k+bk) (General.accumulate s) := by
  intro tid ht i hi j hj
  apply partial_sum_step (h tid ht i hi j hj)
  · intro d hd
    have hread := hA d hd _ (thread_row_lt ht hi)
    rwa [tileA, ← Nat.add_assoc, ← Nat.add_assoc] at hread
  · intro d hd
    have hread := hB d hd _ (thread_col_lt tid hj)
    rwa [tileB, ← Nat.add_assoc, ← Nat.add_assoc] at hread

omit [DecidableEq R] in
theorem general_turn_a (ha : a.Sized) (y k i : ℕ) : General.turnA a y k i =
    some (columnStores (i/2) (i%2) (.ofFn fun j => tileA a y k (i/2) (i%2*4+j))) := by
  unfold General.turnA tileA
  dsimp only
  rw [load_float4_entry ha.A]
  simp only [bk, Nat.add_assoc]
  rfl

omit [DecidableEq R] in
theorem general_turn_b (ha : a.Sized) (x k i : ℕ) : General.turnB a x k i =
    some (rowStores (i/16) (i%16) (.ofFn fun j => tileB a x k (i/16) (i%16*4+j))) := by
  unfold General.turnB tileB
  dsimp only
  rw [load_float4_entry ha.B]
  simp only [bn, Nat.add_assoc]
  rfl

omit [DecidableEq R] in
theorem general_tile_turn (ha : a.Sized) {y x k : ℕ} {s : General.State R}
    (h : Summed a y x k s) :
    ∃ t, General.tileTurn a y x s k = some t ∧ Summed a y x (k+bk) t := by
  have hmem (i : ℕ) : i ∈ blockIndices numThreads 128 ↔ i < 128 :=
    mem_block_indices (by decide) i
  obtain ⟨sA,hstageA,hA⟩ := stage_columns (General.turnA a y k) (tileA a y k) hmem
    (fun i _ => general_turn_a ha y k i) s.sA
  obtain ⟨sB,hstageB,hB⟩ := stage_rows (General.turnB a x k) (tileB a x k) hmem
    (fun i _ => general_turn_b ha x k i) s.sB
  refine ⟨General.accumulate ⟨⟨sA,sB⟩,s.results⟩,?_,accumulate_summed h hA hB⟩
  unfold General.tileTurn
  rw [show bm*bk/4 = 128 from rfl, show bk*bn/4 = 128 from rfl, hstageA, hstageB]
  rfl

theorem general_block (ha : a.Sized) (shared : Shared R) (y x : ℕ) :
    General.block gelu a shared y x =
      some (tileStores a.M a.N bm bn (product gelu a) threadCells y x) := by
  obtain ⟨s,last,hs,hlast,hsummed⟩ := strided_loop (n := a.K) (show 0 < bk by decide)
    (General.tileTurn a y x) (Summed a y x) (fun k s _ _ h => general_tile_turn ha h) a.K 0
    ⟨shared,fun _ _ _ => 0⟩ (dvd_zero bk) (Nat.le_add_left _ _) fun _ _ _ _ _ _ => rfl
  have hstore (tid i j : ℕ) (ht : tid < numThreads) (hi : i < tm) (hj : j < tn) :
      storeElement gelu a (y*bm+tid/(bn/tn)*tm+i) (x*bn+tid % (bn/tn)*tn+j) (s.results tid i j) =
        some (cellStore a.M a.N bm bn (product gelu a) y x
          (tid/(bn/tn)*tm+i,tid % (bn/tn)*tn+j)) := by
    rw [hsummed tid ht i hi j hj, store_element_some ha hlast]
    unfold cellStore
    simp only [Nat.add_assoc]
  unfold General.block
  rw [hs]
  show gather _ _ = _
  rw [gather_some _ fun tid ht => gather_some _ fun i hi => gather_some _ fun j hj =>
    hstore tid i j (List.mem_range.mp ht) (List.mem_range.mp hi) (List.mem_range.mp hj)]
  simp only [tileStores, threadCells, List.flatMap_assoc, List.flatMap_map]

end General

section Vectorized

variable {R : Type*} [CommRing R] [DecidableEq R] {gelu : R → R} {a : Args R}

theorem mem_pair_indices (i : ℕ) : i ∈ Vectorized.pairIndices 2 ↔ i < 128 := by
  constructor
  · intro hi
    obtain ⟨tid,ht,hi⟩ := List.mem_flatMap.mp hi
    obtain ⟨turn,hturn,rfl⟩ := List.mem_map.mp hi
    have ht : tid < 64 := List.mem_range.mp ht
    have hturn := List.mem_range.mp hturn
    show tid+turn*64 < 128
    omega
  · intro hi
    have ht : i%64 < 64 := Nat.mod_lt i (by decide)
    refine List.mem_flatMap.mpr ⟨i%64,List.mem_range.mpr ht,?_⟩
    refine List.mem_map.mpr ⟨i/64,List.mem_range.mpr (by omega),?_⟩
    show i%64+i/64*64 = i
    omega

structure WholeTiles (a : Args R) (gridY gridX : ℕ) : Prop where
  M : a.M = gridY*bm
  N : a.N = gridX*bn
  K : bk ∣ a.K
  alignedA : a.A.Aligned16 0
  alignedB : a.B.Aligned16 0
  alignedC : a.C.Aligned16 0

omit [CommRing R] [DecidableEq R] in
theorem aligned_cell {p : Buffer R} {cols col : ℕ} (row : ℕ) (hp : p.Aligned16 0) (hcols : 4 ∣ cols)
    (hcol : 4 ∣ col) : p.Aligned16 (row*cols+col) := by
  have hrow : 4 ∣ row*cols := Dvd.dvd.mul_left hcols row
  unfold Buffer.Aligned16 at hp ⊢
  omega

omit [DecidableEq R] in
theorem load4_entry {p : Buffer R} {rows cols : ℕ} (row col : ℕ) (hsize : p.size = rows*cols)
    (hp : p.Aligned16 0) (hcols : 4 ∣ cols) (hcol : 4 ∣ col) (hrow : row < rows)
    (hlast : col+3 < cols) :
    p.load4 (row*cols+col) = some (.ofFn fun j => entry p.data rows cols row (col+j)) := by
  have hcell := row_cell_lt hrow hlast
  rw [Buffer.load4_some (aligned_cell row hp hcols hcol) (by rw [hsize]; omega)]
  refine congrArg some (Float4.of_fn_congr fun j hj => ?_)
  unfold entry
  rw [if_pos ⟨hrow,by omega⟩, Nat.add_assoc]

structure Advanced (a : Args R) (y x k : ℕ) (s : Vectorized.State R) : Prop where
  summed : Summed a y x k s.toState
  a_offset : s.aOffset = y*bm*a.K+k
  b_offset : s.bOffset = x*bn+k*a.N

section Turn

variable {gridY gridX y x k : ℕ}

omit [DecidableEq R] in
theorem vectorized_turn_a (ha : a.Sized) (hw : WholeTiles a gridY gridX) (hy : y < gridY)
    (hk : bk ∣ k) (hlt : k < a.K) {i : ℕ} (hi : i < 128) :
    Vectorized.turnA a (y*bm*a.K+k) i =
      some (columnStores (i/2) (i%2) (.ofFn fun j => tileA a y k (i/2) (i%2*4+j))) := by
  have hrow : y*bm+i/2 < a.M := by
    rw [hw.M]
    exact row_cell_lt hy (show i/2 < 64 by omega)
  have hcol : k+i%2*4+3 < a.K := by
    have hK := hw.K
    simp only [bk] at hk hK
    omega
  have hK4 : 4 ∣ a.K := Dvd.dvd.trans (by decide) hw.K
  have hk4 : 4 ∣ k := Dvd.dvd.trans (by decide) hk
  have hload := load4_entry (y*bm+i/2) (k+i%2*4) ha.A hw.alignedA hK4 (by omega) hrow hcol
  have hindex : y*bm*a.K+k+(i/2*a.K+i%2*4) = (y*bm+i/2)*a.K+(k+i%2*4) := by ring
  rw [← hindex] at hload
  show (a.A.load4 (y*bm*a.K+k+(i/2*a.K+i%2*4))).bind _ = _
  rw [hload]
  simp only [tileA, Nat.add_assoc]
  rfl

omit [DecidableEq R] in
theorem vectorized_turn_b (ha : a.Sized) (hw : WholeTiles a gridY gridX) (hx : x < gridX)
    (hk : bk ∣ k) (hlt : k < a.K) {i : ℕ} (hi : i < 128) :
    Vectorized.turnB a (x*bn+k*a.N) i =
      some (rowStores (i/16) (i%16) (.ofFn fun j => tileB a x k (i/16) (i%16*4+j))) := by
  have hrow : k+i/16 < a.K := by
    have hK := hw.K
    simp only [bk] at hk hK
    omega
  have hcol : x*bn+i%16*4+3 < a.N := by
    rw [hw.N, Nat.add_assoc]
    exact row_cell_lt hx (show i%16*4+3 < 64 by omega)
  have hN4 : 4 ∣ a.N := hw.N ▸ Dvd.dvd.mul_left (by decide) gridX
  have hcol4 : 4 ∣ x*bn+i%16*4 := by
    simp only [bn]
    omega
  have hload := load4_entry (k+i/16) (x*bn+i%16*4) ha.B hw.alignedB hN4 hcol4 hrow hcol
  have hindex : x*bn+k*a.N+(i/16*a.N+i%16*4) = (k+i/16)*a.N+(x*bn+i%16*4) := by ring
  rw [← hindex] at hload
  show (a.B.load4 (x*bn+k*a.N+(i/16*a.N+i%16*4))).bind _ = _
  rw [hload]
  simp only [tileB, Nat.add_assoc]
  rfl

omit [DecidableEq R] in
theorem vectorized_tile_turn (ha : a.Sized) (hw : WholeTiles a gridY gridX) (hy : y < gridY)
    (hx : x < gridX) {s : Vectorized.State R} (hlt : k < a.K) (hk : bk ∣ k)
    (h : Advanced a y x k s) :
    ∃ t, Vectorized.tileTurn a s k = some t ∧ Advanced a y x (k+bk) t := by
  obtain ⟨hsummed,haOffset,hbOffset⟩ := h
  obtain ⟨sA,hstageA,hA⟩ := stage_columns (Vectorized.turnA a s.aOffset) (tileA a y k)
    mem_pair_indices (fun i hi => haOffset ▸ vectorized_turn_a ha hw hy hk hlt hi) s.sA
  obtain ⟨sB,hstageB,hB⟩ := stage_rows (Vectorized.turnB a s.bOffset) (tileB a x k)
    mem_pair_indices (fun i hi => hbOffset ▸ vectorized_turn_b ha hw hx hk hlt hi) s.sB
  refine ⟨⟨General.accumulate ⟨⟨sA,sB⟩,s.results⟩,s.aOffset+bk,s.bOffset+bk*a.N⟩,?_,
    accumulate_summed hsummed hA hB,?_,?_⟩
  · unfold Vectorized.tileTurn
    rw [show bm*bk/(numThreads*4) = 2 from rfl, show bk*bn/(numThreads*4) = 2 from rfl, hstageA,
      hstageB]
    rfl
  · show s.aOffset+bk = _
    rw [haOffset, Nat.add_assoc]
  · show s.bOffset+bk*a.N = _
    rw [hbOffset]
    ring

end Turn

variable (gelu) in
theorem store_four_some (ha : a.Sized) (hC : a.C.Aligned16 0) (hN : 4 ∣ a.N) {row col last : ℕ}
    (hrow : row < a.M) (hcol4 : 4 ∣ col) (hcol : col+3 < a.N) (hlast : a.K ≤ last)
    {result : ℕ → R} (hresult : ∀ j < 4, result j = partialSum a last row (col+j)) :
    Vectorized.storeFour gelu a (row*a.N+col) col result =
      some ((List.range 4).map fun j => (row*a.N+(col+j),product gelu a row (col+j))) := by
  have hcell := row_cell_lt hrow hcol
  have haligned := aligned_cell row hC hN hcol4
  have hsize : row*a.N+col+3 < a.C.size := by
    rw [ha.C]
    omega
  have hproduct (j : ℕ) (hj : j < 4) : product gelu a row (col+j) =
      maybeGelu gelu a (a.alpha*result j+a.beta*a.C.data (row*a.N+col+j)+biasAt a (col+j)) := by
    rw [hresult j hj, partial_sum_all hlast hrow (by omega), Nat.add_assoc]
    rfl
  unfold Vectorized.storeFour
  rw [load_bias_some ha (by omega), load_bias_some ha (by omega), load_bias_some ha (by omega),
    load_bias_some ha (by omega)]
  have hrange : List.range 4 = [0,1,2,3] := rfl
  rw [hrange, List.map_cons, List.map_cons, List.map_cons, List.map_cons, List.map_nil,
    hproduct 0 (by omega), hproduct 1 (by omega), hproduct 2 (by omega), hproduct 3 (by omega)]
  by_cases hbeta : a.beta = 0
  · simp [hbeta, Buffer.store4_some _ haligned hsize, Nat.add_assoc]
  · simp [hbeta, Buffer.store4_some _ haligned hsize, Buffer.load4_some haligned hsize,
      Float4.ofFn, Nat.add_assoc]

variable (gelu) in
theorem store_eight_some (ha : a.Sized) (hC : a.C.Aligned16 0) (hN : 4 ∣ a.N) {row col last : ℕ}
    (hrow : row < a.M) (hcol4 : 4 ∣ col) (hcol : col+7 < a.N) (hlast : a.K ≤ last)
    {result : ℕ → R} (hresult : ∀ j < 8, result j = partialSum a last row (col+j)) :
    (do
      let left ← Vectorized.storeFour gelu a (row*a.N+col) col result
      let right ← Vectorized.storeFour gelu a (row*a.N+col+4) (col+4) fun j => result (4+j)
      some (left++right)) =
    some ((List.range tn).map fun j => (row*a.N+(col+j),product gelu a row (col+j))) := by
  have hleft := store_four_some gelu ha hC hN hrow hcol4 (by omega) hlast
    fun j hj => hresult j (hj.trans (by decide))
  have hnext (j : ℕ) (hj : j < 4) : result (4+j) = partialSum a last row (col+4+j) := by
    rw [hresult (4+j) (by omega), Nat.add_assoc]
  have hright := store_four_some gelu ha hC hN hrow (hcol4.add (dvd_refl 4)) (by omega) hlast hnext
  rw [hleft, Nat.add_assoc, hright]
  show some _ = some ((List.range (4+4)).map _)
  rw [List.range_add, List.map_append, List.map_map]
  simp only [Nat.add_assoc]
  rfl

theorem vectorized_block (ha : a.Sized) {gridY gridX : ℕ} (hw : WholeTiles a gridY gridX)
    (shared : Shared R) {y x : ℕ} (hy : y < gridY) (hx : x < gridX) :
    Vectorized.block gelu a shared y x =
      some (tileStores a.M a.N bm bn (product gelu a) threadCells y x) := by
  have hstart : Advanced a y x 0 ⟨⟨shared,fun _ _ _ => 0⟩,y*bm*a.K,x*bn⟩ :=
    ⟨fun _ _ _ _ _ _ => rfl,rfl,by rw [Nat.zero_mul]; rfl⟩
  obtain ⟨s,last,hs,hlast,hend⟩ := strided_loop (show 0 < bk by decide) (Vectorized.tileTurn a)
    (Advanced a y x) (fun k s hlt hk h => vectorized_tile_turn ha hw hy hx hlt hk h) a.K 0
    ⟨⟨shared,fun _ _ _ => 0⟩,y*bm*a.K,x*bn⟩ (dvd_zero bk) (Nat.le_add_left _ _) hstart
  have hN4 : 4 ∣ a.N := hw.N ▸ Dvd.dvd.mul_left (by decide) gridX
  have hrow {tid i : ℕ} (ht : tid < numThreads) (hi : i < tm) :
      y*bm+tid/(bn/tn)*tm+i < a.M := by
    have hlt := thread_row_lt ht hi
    rw [hw.M, Nat.add_assoc]
    exact row_cell_lt hy hlt
  have hcol (tid : ℕ) {j : ℕ} (hj : j < tn) : x*bn+tid % (bn/tn)*tn+j < a.N := by
    have hlt := thread_col_lt tid hj
    rw [hw.N, Nat.add_assoc]
    exact row_cell_lt hx hlt
  have hline (tid : ℕ) (ht : tid ∈ List.range numThreads) (i : ℕ) (hi : i ∈ List.range tm) :=
    store_eight_some gelu ha hw.alignedC hN4
      (hrow (List.mem_range.mp ht) (List.mem_range.mp hi))
      (show 4 ∣ x*bn+tid % (bn/tn)*tn by simp only [bn, tn]; omega)
      (hcol tid (show 7 < tn by decide)) hlast
      (hend.summed tid (List.mem_range.mp ht) i (List.mem_range.mp hi))
  have hindex (tid i : ℕ) : y*bm*a.N+x*bn+((tid/(bn/tn)*tm+i)*a.N+tid % (bn/tn)*tn) =
      (y*bm+tid/(bn/tn)*tm+i)*a.N+(x*bn+tid % (bn/tn)*tn) := by ring
  unfold Vectorized.block
  rw [hs]
  show gather _ _ = _
  simp only [hindex]
  rw [gather_some _ fun tid ht => gather_some _ fun i hi => hline tid ht i hi]
  simp only [tileStores, threadCells, List.flatMap_assoc, List.flatMap_map]
  refine congrArg some (List.flatMap_congr fun tid ht => ?_)
  refine List.flatMap_congr fun i hi => ?_
  rw [List.map_eq_flatMap]
  refine List.flatMap_congr fun j hj => ?_
  unfold cellStore
  simp only [← Nat.add_assoc]
  rw [if_pos ⟨hrow (List.mem_range.mp ht) (List.mem_range.mp hi),hcol tid (List.mem_range.mp hj)⟩]

end Vectorized

section Decode

def decodeCells : List (ℕ × ℕ) :=
  (List.range (decodeNTile*decodeMTile)).map fun tid => (tid/decodeNTile,tid%decodeNTile)

theorem decode_cells_tile : TileCells decodeMTile decodeNTile decodeCells := by
  refine ⟨?_,?_,?_⟩
  · refine List.nodup_range.map fun tid tid' h => ?_
    simp only [Prod.mk.injEq, decodeNTile] at h
    omega
  · intro x hx
    obtain ⟨tid,ht,rfl⟩ := List.mem_map.mp hx
    have ht : tid < 32 := List.mem_range.mp ht
    simp only [decodeNTile, decodeMTile]
    omega
  · intro r hr c hc
    have hr : r < 1 := hr
    have hc : c < 32 := hc
    refine List.mem_map.mpr ⟨c,List.mem_range.mpr hc,?_⟩
    simp only [decodeNTile, Prod.mk.injEq]
    omega

variable {R : Type*} [CommRing R] [DecidableEq R] {gelu : R → R} {a : Args R}

def AccSummed (a : Args R) (y x k0 : ℕ) (s : Decode.State R) : Prop :=
  ∀ tid < decodeNTile*decodeMTile, s.acc tid =
    partialSum a k0 (y*decodeMTile+tid/decodeNTile) (x*decodeNTile+tid%decodeNTile)

omit [DecidableEq R] in
theorem decode_turn_a (ha : a.Sized) (y k0 idx : ℕ) : Decode.turnA a y k0 idx =
    some [(idx/decodeKTile*(decodeKTile+1)+idx%decodeKTile,
      entry a.A.data a.M a.K (y*decodeMTile+idx/decodeKTile) (k0+idx%decodeKTile))] := by
  unfold Decode.turnA
  dsimp only
  rw [load_if_entry ha.A _ Iff.rfl]
  rfl

omit [DecidableEq R] in
theorem decode_turn_b (ha : a.Sized) (x k0 idx : ℕ) : Decode.turnB a x k0 idx =
    some [(idx/decodeNTile*(decodeNTile+1)+idx%decodeNTile,
      entry a.B.data a.K a.N (k0+idx/decodeNTile) (x*decodeNTile+idx%decodeNTile))] := by
  unfold Decode.turnB
  dsimp only
  rw [load_if_entry ha.B _ Iff.rfl]
  rfl

omit [DecidableEq R] in
theorem decode_tile_turn (ha : a.Sized) {y x k0 : ℕ} {s : Decode.State R}
    (h : AccSummed a y x k0 s) :
    ∃ t, Decode.tileTurn a y x s k0 = some t ∧ AccSummed a y x (k0+decodeKTile) t := by
  have hthreads : 0 < decodeNTile*decodeMTile := by decide
  obtain ⟨sA,hstageA,hA⟩ := stage_cells (Decode.turnA a y k0) decodeMTile (decodeKTile+1)
    (fun r k => entry a.A.data a.M a.K (y*decodeMTile+r) (k0+k)) (Nat.le_succ decodeKTile)
    (mem_block_indices hthreads) (fun idx _ => decode_turn_a ha y k0 idx) s.sA
  obtain ⟨sB,hstageB,hB⟩ := stage_cells (Decode.turnB a x k0) decodeKTile (decodeNTile+1)
    (fun k n => entry a.B.data a.K a.N (k0+k) (x*decodeNTile+n)) (Nat.le_succ decodeNTile)
    (mem_block_indices hthreads) (fun idx _ => decode_turn_b ha x k0 idx) s.sB
  refine ⟨⟨⟨sA,sB⟩,fun tid => tileProducts decodeKTile
    (fun k => sA (tid/decodeNTile*(decodeKTile+1)+k))
    (fun k => sB (k*(decodeNTile+1)+tid%decodeNTile)) (s.acc tid)⟩,?_,?_⟩
  · unfold Decode.tileTurn
    dsimp only
    rw [hstageA, hstageB]
    rfl
  · intro tid ht
    have ht' : tid < 32 := ht
    apply partial_sum_step (h tid ht)
    · intro d hd
      exact hA _ (by simp only [decodeNTile, decodeMTile]; omega) d hd
    · intro d hd
      exact hB d hd _ (Nat.mod_lt tid (by decide))

theorem decode_block (ha : a.Sized) (shared : Shared R) (y x : ℕ) :
    Decode.block gelu a shared y x = some (tileStores a.M a.N decodeMTile decodeNTile
      (product gelu a) decodeCells y x) := by
  obtain ⟨s,last,hs,hlast,hsummed⟩ := strided_loop (n := a.K) (show 0 < decodeKTile by decide)
    (Decode.tileTurn a y x) (AccSummed a y x) (fun k s _ _ h => decode_tile_turn ha h) a.K 0
    ⟨shared,fun _ => 0⟩ (dvd_zero decodeKTile) (Nat.le_add_left _ _) fun _ _ => rfl
  unfold Decode.block
  rw [hs]
  show gather _ _ = _
  rw [gather_some (fun tid => cellStore a.M a.N decodeMTile decodeNTile (product gelu a) y x
    (tid/decodeNTile,tid%decodeNTile)) fun tid ht => ?_]
  · simp only [tileStores, decodeCells, List.flatMap_map]
  · rw [hsummed tid (List.mem_range.mp ht), store_element_some ha hlast]
    rfl

end Decode

section Dispatch

variable {R : Type*} [CommRing R] [DecidableEq R] {a : Args R}

omit [CommRing R] [DecidableEq R] in
/-- The test of the vectorized kernel implies what the kernel relies on. -/
theorem whole_tiles (h : canUseVectorizedBankGemm a = true) :
    WholeTiles a ((a.M+bm-1)/bm) ((a.N+bn-1)/bn) := by
  unfold canUseVectorizedBankGemm at h
  split at h
  · cases h
  · rename_i hsizes
    split at h
    · cases h
    · rename_i haligned
      push Not at hsizes haligned
      obtain ⟨hM,hN,hK⟩ := hsizes
      refine ⟨?_,?_,Nat.dvd_of_mod_eq_zero hK,haligned.1,haligned.2.1,haligned.2.2⟩
      · simp only [bm] at hM ⊢
        omega
      · simp only [bn] at hN ⊢
        omega

/-- Whichever kernel is chosen, its stores are the fused product, one to each element. -/
theorem launch_custom_gemm_fills (gelu : R → R) (ha : a.Sized) (shared : Shared R) :
    ∃ writes, launchCustomGemm gelu a shared = some writes ∧
      Fills a.M a.N (product gelu a) writes := by
  have hceil (n tile : ℕ) (h : 0 < tile) : n ≤ (n+tile-1)/tile*tile := by
    have hmod := Nat.mod_lt (n+tile-1) h
    have hsplit := Nat.div_add_mod' (n+tile-1) tile
    omega
  have hM := hceil a.M bm (by decide)
  have hN := hceil a.N bn (by decide)
  unfold launchCustomGemm
  split
  · rw [launch_some _ fun y _ x _ => decode_block ha shared y x]
    exact ⟨_,rfl,grid_fills decode_cells_tile (hceil a.M decodeMTile (by decide))
      (hceil a.N decodeNTile (by decide))⟩
  · split
    · rename_i hvec
      rw [launch_some _ fun y hy x hx => vectorized_block ha (whole_tiles hvec) shared hy hx]
      exact ⟨_,rfl,grid_fills thread_cells_tile hM hN⟩
    · rw [launch_some _ fun y _ x _ => general_block ha shared y x]
      exact ⟨_,rfl,grid_fills thread_cells_tile hM hN⟩

end Dispatch

end MiniLlm.Gemm

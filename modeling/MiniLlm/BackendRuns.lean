import MiniLlm.GemmBackends
import MiniLlm.GemmDispatch

/-!
# What the launches of the backends leave in `C`

A row-major product is a column-major one with the operands swapped, the bias
kernel goes over flat indices and the GELU kernel over groups of four of them.
-/

set_option autoImplicit false

namespace MiniLlm.Gemm

open FlatMemory RowBuffers KernelLaunch Streams

section Sgemm

variable {R : Type*} [CommRing R]

/-- `C = alpha*A*B+beta*C` for column-major matrices. -/
def ColumnMajorProduct (sgemm : Sgemm R) : Prop :=
  ∀ m n k alpha A lda B ldb beta C ldc, m ≤ lda → k ≤ ldb → m ≤ ldc →
    lda*k ≤ A.size → ldb*n ≤ B.size → ldc*n ≤ C.size →
    ∃ writes, sgemm m n k alpha A lda B ldb beta C ldc = some writes ∧
      ∀ i < m, ∀ j < n, storeAll writes C.data (j*ldc+i) =
        alpha*(∑ l ∈ Finset.range k, A.data (l*lda+i)*B.data (j*ldb+l))+beta*C.data (j*ldc+i)

def referenceSgemm : Sgemm R := fun m n k alpha A lda B ldb beta C ldc =>
  some ((List.range n).flatMap fun j => (List.range m).map fun i => (j*ldc+i,
    alpha*(∑ l ∈ Finset.range k, A.data (l*lda+i)*B.data (j*ldb+l))+beta*C.data (j*ldc+i)))

theorem reference_sgemm_product : ColumnMajorProduct (referenceSgemm (R := R)) := by
  intro m n k alpha A lda B ldb beta C ldc _ _ hldc _ _ _
  refine ⟨_,rfl,fun i hi j hj => store_all_stored _ _ _ _ ?_ ?_⟩
  · rw [addresses_flat_map]
    refine nodup_flat_map (fun a => a/ldc) List.nodup_range (fun j _ => ?_) fun j _ a ha => ?_
    · rw [addresses, List.map_map]
      refine List.nodup_range.map fun i i' h => ?_
      exact Nat.add_left_cancel h
    · rw [addresses, List.map_map] at ha
      obtain ⟨i,hi,rfl⟩ := List.mem_map.mp ha
      exact row_cell_div ((List.mem_range.mp hi).trans_le hldc)
  · exact List.mem_flatMap.mpr ⟨j,List.mem_range.mpr hj,
      List.mem_map.mpr ⟨i,List.mem_range.mpr hi,rfl⟩⟩

end Sgemm

section Flat

variable {R : Type*}

theorem launch256_fills (width : ℕ) {grid n : ℕ} {thread : ℕ → Option (List (ℕ × R))}
    (value : ℕ → R) (hthread : ∀ idx, thread idx = some ((List.range width).flatMap fun j =>
      if idx*width+j < n then [(idx*width+j,value (idx*width+j))] else []))
    (hgrid : n ≤ grid*(256*width)) :
    ∃ writes, launch256 grid thread = some writes ∧ Fills 1 n (fun _ i => value i) writes := by
  let cells : List (ℕ × ℕ) :=
    (List.range 256).flatMap fun t => (List.range width).map fun j => (0,t*width+j)
  have hcells : TileCells 1 (256*width) cells := line_cells_tile 256 width
  have hblock (y : ℕ) (hy : y < 1) (b : ℕ) (_ : b < grid) :
      (gather (List.range 256) fun t => thread (b*256+t)) =
        some (tileStores 1 n 1 (256*width) (fun _ i => value i) cells y b) := by
    obtain rfl := Nat.lt_one_iff.mp hy
    rw [gather_some _ fun t _ => hthread (b*256+t)]
    simp only [tileStores, cells, List.flatMap_assoc, List.flatMap_map]
    have hindex (t j : ℕ) : (b*256+t)*width+j = b*(256*width)+(t*width+j) := by ring
    simp [cellStore, hindex]
  unfold launch256
  rw [launch_some _ hblock]
  exact ⟨_,rfl,grid_fills hcells (Nat.le_refl 1) hgrid⟩

theorem launch256_faults {grid : ℕ} {thread : ℕ → Option (List (ℕ × R))} (hgrid : 0 < grid)
    (hthread : thread 0 = none) : launch256 grid thread = none := by
  refine gather_none (List.mem_range.mpr Nat.one_pos) ?_
  refine gather_none (List.mem_range.mpr hgrid) ?_
  exact gather_none (List.mem_range.mpr (by decide : 0 < 256)) hthread

def float4Stores (value : ℕ → R) (n base : ℕ) : List (ℕ × R) :=
  (List.range 4).flatMap fun j => if base+j < n then [(base+j,value (base+j))] else []

theorem float4_stores_all (value : ℕ → R) {n base : ℕ} (h : base+3 < n) :
    float4Stores value n base = [(base,value base),(base+1,value (base+1)),
      (base+2,value (base+2)),(base+3,value (base+3))] := by
  have hrange : List.range 4 = [0,1,2,3] := rfl
  rw [float4Stores, hrange]
  simp [h, show base < n by omega, show base+1 < n by omega, show base+2 < n by omega]

theorem float4_stores_rest (value : ℕ → R) {n base : ℕ} (h : ¬base+3 < n) :
    float4Stores value n base =
      (List.range' base (n-base)).flatMap fun i => [(i,value i)] := by
  have hlt (j : ℕ) : base+j < n ↔ j < n-base := by omega
  have hrest : n-base < 4 := by omega
  have hrange : List.range 4 = [0,1,2,3] := rfl
  simp only [float4Stores, hrange, hlt]
  generalize n-base = rest at hrest ⊢
  interval_cases rest <;> rfl

theorem on_c_fills (stream : CudaStream) {C : Buffer R} {n : ℕ} {c : Memory R} {value : ℕ → R}
    (kernel : Buffer R → Option (List (ℕ × R)))
    (h : ∃ writes, kernel (C.withData c) = some writes ∧
      Fills 1 n (fun _ i => value i) writes) :
    ∃ d, (onC stream C kernel).run c = some d ∧ ∀ i < n, d i = value i := by
  obtain ⟨writes,hwrites,hfills⟩ := h
  refine ⟨storeAll writes c,?_,fun i hi => ?_⟩
  · show (kernel (C.withData c)).map _ = _
    rw [hwrites]
    rfl
  · have hstored := hfills.stored c Nat.one_pos hi
    rwa [Nat.zero_mul, Nat.zero_add] at hstored

theorem add_bias_thread [Add R] {C bias : Buffer R} {M N : ℕ} (hC : C.size = M*N)
    (hbias : bias.size = N) (idx : ℕ) : addBiasKernel C bias M N idx =
      some (if idx < M*N then [(idx,C.data idx+bias.data (idx%N))] else []) := by
  unfold addBiasKernel
  by_cases h : idx < M*N
  · have hN : 0 < N := Nat.pos_of_lt_mul_left h
    have hcol : idx%N < bias.size := by
      rw [hbias]
      exact Nat.mod_lt idx hN
    rw [if_neg (Nat.not_le.mpr h), if_pos h, Buffer.load_some (hC ▸ h), Buffer.load_some hcol]
    exact Buffer.store_some _ (hC ▸ h)
  · rw [if_pos (Nat.not_lt.mp h), if_neg h]

theorem add_bias_fills [Add R] {C bias : Buffer R} {M N : ℕ} (hC : C.size = M*N)
    (hbias : bias.size = N) (hint : M*N+256 ≤ intMax) :
    ∃ writes, addBiasGrid C bias M N = some writes ∧
      Fills 1 (M*N) (fun _ i => C.data i+bias.data (i%N)) writes := by
  rw [addBiasGrid, if_pos hint]
  refine launch256_fills 1 (fun i => C.data i+bias.data (i%N)) (fun idx => ?_) (by omega)
  rw [add_bias_thread hC hbias]
  simp

theorem gelu_thread (gelu : R → R) {x : Buffer R} {n : ℕ} (hx : x.size = n)
    (halign : x.Aligned16 0 ∨ n < 4) (idx : ℕ) : geluKernel gelu x n idx =
      some (float4Stores (fun i => gelu (x.data i)) n (idx*4)) := by
  unfold geluKernel
  dsimp only
  split
  · rename_i hall
    have haligned : x.Aligned16 (idx*4) := by
      unfold Buffer.Aligned16 at halign ⊢
      omega
    have hsize : idx*4+3 < x.size := hx ▸ hall
    rw [Buffer.load4_some haligned hsize, float4_stores_all _ hall]
    exact Buffer.store4_some _ haligned hsize
  · rename_i hpart
    have hturn (i : ℕ) (hi : i ∈ List.range' (idx*4) (n-idx*4)) :
        ((x.load i).bind fun v => x.store i (gelu v)) = some [(i,gelu (x.data i))] := by
      have hlt : i < x.size := by
        rw [List.mem_range'_1] at hi
        omega
      rw [Buffer.load_some hlt]
      exact Buffer.store_some _ hlt
    rw [float4_stores_rest _ hpart]
    exact gather_some _ hturn

theorem gelu_fills (gelu : R → R) {x : Buffer R} {n : ℕ} (hx : x.size = n)
    (halign : x.Aligned16 0 ∨ n < 4) (hint : n+4 ≤ intMax) :
    ∃ writes, geluGrid gelu x n = some writes ∧
      Fills 1 n (fun _ i => gelu (x.data i)) writes := by
  rw [geluGrid, if_pos hint]
  exact launch256_fills 4 _ (gelu_thread gelu hx halign) (by omega)

theorem gelu_misaligned (gelu : R → R) {x : Buffer R} {n : ℕ} (halign : ¬x.Aligned16 0)
    (hn : 4 ≤ n) : geluGrid gelu x n = none := by
  rw [geluGrid]
  split
  · refine launch256_faults (by omega) ?_
    unfold geluKernel
    dsimp only
    rw [if_pos (by omega), Nat.zero_mul, Buffer.load4_misaligned halign]
    rfl
  · rfl

end Flat

section Runs

variable {R : Type*} [CommRing R] {a : Args R}

theorem row_major_run {sgemm : Sgemm R} (hs : ColumnMajorProduct sgemm) (ha : a.Sized)
    (stream : CudaStream) (c : Memory R) :
    ∃ d, (launchGemmCublasRowMajor sgemm a.M a.N a.K a.alpha a.A a.B a.beta a.C stream).run c =
        some d ∧ ∀ m < a.M, ∀ n < a.N, d (m*a.N+n) =
      a.alpha*(∑ k ∈ Finset.range a.K, a.A.data (m*a.K+k)*a.B.data (k*a.N+n))+
        a.beta*c (m*a.N+n) := by
  obtain ⟨writes,hwrites,hvalue⟩ := hs a.N a.M a.K a.alpha a.B a.N a.A a.K a.beta
    (a.C.withData c) a.N (Nat.le_refl _) (Nat.le_refl _) (Nat.le_refl _)
    (by rw [ha.B, Nat.mul_comm]) (by rw [ha.A, Nat.mul_comm])
    (show a.N*a.M ≤ a.C.size by rw [ha.C, Nat.mul_comm])
  refine ⟨storeAll writes c,?_,fun m hm n hn => ?_⟩
  · show (sgemm _ _ _ _ _ _ _ _ _ _ _).map _ = _
    rw [hwrites]
    rfl
  · have hsum : ∑ k ∈ Finset.range a.K, a.B.data (k*a.N+n)*a.A.data (m*a.K+k) =
        ∑ k ∈ Finset.range a.K, a.A.data (m*a.K+k)*a.B.data (k*a.N+n) :=
      Finset.sum_congr rfl fun k _ => mul_comm _ _
    rw [← hsum]
    exact hvalue n hn m hm

/-- The number of elements and the threads of one block more are an `int`, if there is a bias. -/
def BiasInts {R : Type*} (a : Args R) : Prop := a.bias = none ∨ a.M*a.N+256 ≤ intMax

theorem add_bias_run (ha : a.Sized) (hint : BiasInts a) (stream : CudaStream) (c : Memory R) :
    ∃ d, runAll (launchAddBias a.C a.bias a.M a.N stream) c = some d ∧
      ∀ m < a.M, ∀ n < a.N, d (m*a.N+n) = c (m*a.N+n)+biasAt a n := by
  unfold launchAddBias biasAt
  split
  · rename_i hbias
    exact ⟨c,rfl,fun m _ n _ => by rw [hbias]; exact (add_zero _).symm⟩
  · rename_i bias hbias
    have hint := hint.resolve_left (hbias.trans_ne (Option.some_ne_none bias))
    obtain ⟨d,hd,hvalue⟩ := on_c_fills stream (fun C => addBiasGrid C bias a.M a.N)
      (add_bias_fills (show (a.C.withData c).size = a.M*a.N from ha.C) (ha.bias bias hbias) hint)
    refine ⟨d,?_,fun m hm n hn => ?_⟩
    · rw [run_all_cons, hd]
      rfl
    · rw [hvalue _ (row_cell_lt hm hn), row_cell_mod hn, hbias]
      rfl

def linearLaunches (sgemm : Sgemm R) (a : Args R) (stream : CudaStream) :
    List (Launch (Memory R)) :=
  launchGemmCublasRowMajor sgemm a.M a.N a.K a.alpha a.A a.B a.beta a.C stream::
    launchAddBias a.C a.bias a.M a.N stream

theorem linear_run {sgemm : Sgemm R} (hs : ColumnMajorProduct sgemm) (ha : a.Sized)
    (hint : BiasInts a) (stream : CudaStream) (c : Memory R) :
    ∃ d, runAll (linearLaunches sgemm a stream) c = some d ∧
      ∀ m < a.M, ∀ n < a.N, d (m*a.N+n) =
        a.alpha*(∑ k ∈ Finset.range a.K, a.A.data (m*a.K+k)*a.B.data (k*a.N+n))+
          a.beta*c (m*a.N+n)+biasAt a n := by
  obtain ⟨d,hd,hproduct⟩ := row_major_run hs ha stream c
  obtain ⟨e,he,hbias⟩ := add_bias_run ha hint stream d
  refine ⟨e,?_,fun m hm n hn => ?_⟩
  · rw [linearLaunches, run_all_cons, hd]
    exact he
  · rw [hbias m hm n hn, hproduct m hm n hn]

omit [CommRing R] in
theorem gelu_run (gelu : R → R) (ha : a.Sized) (halign : a.C.Aligned16 0 ∨ a.M*a.N < 4)
    (hint : a.M*a.N+4 ≤ intMax) (c : Memory R) :
    ∃ d, (geluLaunch gelu a.C (a.M*a.N)).run c = some d ∧ ∀ i < a.M*a.N, d i = gelu (c i) :=
  on_c_fills .default (fun C => geluGrid gelu C (a.M*a.N))
    (gelu_fills gelu (show (a.C.withData c).size = a.M*a.N from ha.C) halign hint)

def fusedLaunch [DecidableEq R] (gelu : R → R) (shared : Shared R) (a : Args R)
    (stream : CudaStream) : Launch (Memory R) :=
  customGemm gelu shared a.M a.N a.K a.alpha a.A a.B a.beta a.bias a.C stream a.applyGelu

theorem fused_run [DecidableEq R] (gelu : R → R) (shared : Shared R) (ha : a.Sized)
    (hint : CustomInts a) (stream : CudaStream) (c : Memory R) :
    ∃ d, (fusedLaunch gelu shared a stream).run c = some d ∧
      ∀ m < a.M, ∀ n < a.N, d (m*a.N+n) = maybeGelu gelu a
        (a.alpha*(∑ k ∈ Finset.range a.K, a.A.data (m*a.K+k)*a.B.data (k*a.N+n))+
          a.beta*c (m*a.N+n)+biasAt a n) := by
  have hsized : { a with C := a.C.withData c : Args R }.Sized :=
    ⟨ha.A,ha.B,ha.C,ha.bias⟩
  obtain ⟨writes,hwrites,hfills⟩ := launch_custom_gemm_fills gelu hsized shared
  refine ⟨storeAll writes c,?_,fun m hm n hn => hfills.stored c hm hn⟩
  have hfits : CustomInts { a with C := a.C.withData c : Args R } := hint
  show (ite (CustomInts { a with C := a.C.withData c : Args R }) _ none).map _ = _
  rw [if_pos hfits, hwrites]
  rfl

theorem fused_overflow [DecidableEq R] (gelu : R → R) (shared : Shared R) (hint : ¬CustomInts a)
    (stream : CudaStream) (c : Memory R) : (fusedLaunch gelu shared a stream).run c = none := by
  have hover : ¬CustomInts { a with C := a.C.withData c : Args R } := hint
  show (ite (CustomInts { a with C := a.C.withData c : Args R }) _ none).map _ = _
  rw [if_neg hover]
  rfl

theorem linear_overflow {sgemm : Sgemm R} (hs : ColumnMajorProduct sgemm) (ha : a.Sized)
    (hint : ¬BiasInts a) (stream : CudaStream) (c : Memory R) :
    runAll (linearLaunches sgemm a stream) c = none := by
  obtain ⟨hbias,hover⟩ := not_or.mp hint
  obtain ⟨bias,hsome⟩ := Option.ne_none_iff_exists'.mp hbias
  obtain ⟨d,hd,_⟩ := row_major_run hs ha stream c
  rw [linearLaunches, run_all_cons, hd, hsome]
  show (((addBiasGrid (a.C.withData d) bias a.M a.N).map _).bind _) = none
  rw [addBiasGrid, if_neg hover]
  rfl

omit [CommRing R] in
theorem gelu_overflow (gelu : R → R) (hint : ¬a.M*a.N+4 ≤ intMax) (c : Memory R) :
    (geluLaunch gelu a.C (a.M*a.N)).run c = none := by
  show (geluGrid gelu (a.C.withData c) (a.M*a.N)).map _ = none
  rw [geluGrid, if_neg hint]
  rfl

end Runs

end MiniLlm.Gemm

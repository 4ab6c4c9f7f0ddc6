import MiniLlm.BackendRuns
import MiniLlm.LoadedWeights

/-!
# The linear layers on device buffers

A launch that fills a matrix leaves all other cells as they were. The
launchers of `gemm.cu` fill their `C` with a product, a bias, GELU and what
was there before, with either backend, and what they fill it with is what the
row functions of the model compute from the rows of `A`.
-/

set_option autoImplicit false

namespace MiniLlm.Kernels

open FlatMemory RowBuffers KernelLaunch Streams Gemm

section Filling

variable {R : Type*}

def filled (rows cols : ℕ) (value : ℕ → ℕ → R) (m : Memory R) : Memory R := fun a =>
  if a < rows*cols then value (a/cols) (a%cols) else m a

variable {rows cols : ℕ} {value value' : ℕ → ℕ → R} {m : Memory R}

theorem filled_cell {r c : ℕ} (hr : r < rows) (hc : c < cols) :
    filled rows cols value m (r*cols+c) = value r c := by
  rw [filled, if_pos (row_cell_lt hr hc), row_cell_div hc, row_cell_mod hc]

theorem filled_outside {a : ℕ} (h : rows*cols ≤ a) : filled rows cols value m a = m a :=
  if_neg (Nat.not_lt.mpr h)

theorem filled_none : filled 0 cols value m = m := by
  funext a
  exact filled_outside (by omega)

theorem matrix_cell {a : ℕ} (h : a < rows*cols) :
    ∃ r < rows, ∃ c < cols, a = r*cols+c := by
  have hcols : 0 < cols := Nat.pos_of_lt_mul_left h
  exact ⟨a/cols,Nat.div_lt_of_lt_mul (Nat.mul_comm rows cols ▸ h),a%cols,Nat.mod_lt a hcols,
    (Nat.div_add_mod' a cols).symm⟩

theorem filled_eq {d : Memory R} (hin : ∀ r < rows, ∀ c < cols, d (r*cols+c) = value r c)
    (hout : ∀ a, rows*cols ≤ a → d a = m a) : d = filled rows cols value m := by
  funext a
  by_cases ha : a < rows*cols
  · obtain ⟨r,hr,c,hc,rfl⟩ := matrix_cell ha
    rw [hin r hr c hc, filled_cell hr hc]
  · rw [hout a (Nat.not_lt.mp ha), filled_outside (Nat.not_lt.mp ha)]

theorem filled_congr (h : ∀ r < rows, ∀ c < cols, value r c = value' r c) :
    filled rows cols value m = filled rows cols value' m :=
  filled_eq (fun r hr c hc => (filled_cell hr hc).trans (h r hr c hc)) fun _ => filled_outside

theorem fills_stored {writes : List (ℕ × R)} (h : Fills rows cols value writes)
    (m : Memory R) : storeAll writes m = filled rows cols value m := by
  refine filled_eq (fun r hr c hc => h.stored m hr hc) fun a ha => ?_
  apply store_all_outside
  rw [h.addresses_perm.mem_iff, List.mem_range]
  exact Nat.not_lt.mpr ha

theorem filled_flat (f : ℕ → R) :
    filled 1 (rows*cols) (fun _ i => f i) m = filled rows cols (fun r c => f (r*cols+c)) m := by
  refine filled_eq (fun r hr c hc => ?_) fun a ha => filled_outside (by rwa [Nat.one_mul])
  have hcell := row_cell_lt hr hc
  rw [filled, if_pos (by rwa [Nat.one_mul]), Nat.mod_eq_of_lt hcell]

theorem filled_twice (f : ℕ → ℕ → R → R) :
    filled rows cols (fun r c => f r c (filled rows cols value m (r*cols+c)))
      (filled rows cols value m) = filled rows cols (fun r c => f r c (value r c)) m := by
  refine filled_eq (fun r hr c hc => ?_) fun a ha => ?_
  · rw [filled_cell hr hc, filled_cell hr hc]
  · rw [filled_outside ha, filled_outside ha]

theorem filled_rows {win : ℕ} (f : (Fin win → R) → (Fin cols → R) → Fin cols → R)
    (src : Memory R) (h : ∀ r < rows, ∀ c, value r (c : Fin cols) =
      f (rowAt win src r) (rowAt cols m r) c) :
    filled rows cols value m = launchRows rows f src m := by
  funext a
  by_cases ha : a < rows*cols
  · have hcols : 0 < cols := Nat.pos_of_lt_mul_left ha
    have hr : a/cols < rows := Nat.div_lt_of_lt_mul (Nat.mul_comm rows cols ▸ ha)
    rw [filled, if_pos ha, launchRows, launchIndexed, dif_pos ha]
    exact h _ hr ⟨a%cols,Nat.mod_lt a hcols⟩
  · rw [filled_outside (Nat.not_lt.mp ha), launchRows, launchIndexed, dif_neg ha]

theorem on_c_filled (stream : CudaStream) {C : Buffer R}
    (kernel : Buffer R → Option (List (ℕ × R)))
    (h : ∃ writes, kernel (C.withData m) = some writes ∧ Fills rows cols value writes) :
    (onC stream C kernel).run m = some (filled rows cols value m) := by
  obtain ⟨writes,hwrites,hfills⟩ := h
  rw [← fills_stored hfills m]
  show (kernel (C.withData m)).map _ = _
  rw [hwrites]
  rfl

end Filling

section Launchers

variable {R : Type*} [CommRing R]

/-- `cublasSgemm` stores to the cells of `C` and to no others. -/
def StoresInside (sgemm : Sgemm R) : Prop :=
  ∀ m n k alpha A lda B ldb beta C ldc writes,
    sgemm m n k alpha A lda B ldb beta C ldc = some writes →
    ∀ a ∈ addresses writes, ∃ i < m, ∃ j < n, a = j*ldc+i

theorem reference_stores_inside : StoresInside (referenceSgemm (R := R)) := by
  intro m n k alpha A lda B ldb beta C ldc writes h a ha
  obtain rfl := Option.some.inj h
  rw [addresses_flat_map] at ha
  obtain ⟨j,hj,ha⟩ := List.mem_flatMap.mp ha
  obtain ⟨w,hw,rfl⟩ := List.mem_map.mp ha
  obtain ⟨i,hi,rfl⟩ := List.mem_map.mp hw
  exact ⟨i,List.mem_range.mp hi,j,List.mem_range.mp hj,rfl⟩

/-- Which GEMM the launchers use, with a `cublasSgemm` that does what it is documented to do, and
what shared memory holds when a kernel starts. -/
structure GemmBackend (R : Type*) [CommRing R] where
  useCublas : Bool
  sgemm : Sgemm R
  shared : Shared R
  product : ColumnMajorProduct sgemm
  inside : StoresInside sgemm

/-- `launch_gemm_bias_residual` always takes the kernels of the program. -/
def launchGemmBiasResidual [DecidableEq R] (gelu : R → R) (shared : Shared R) (M N K : ℕ)
    (A B : Buffer R) (bias : Option (Buffer R)) (C : Buffer R) (stream : CudaStream) :
    List (Launch (Memory R)) := [customGemm gelu shared M N K 1 A B 1 bias C stream false]

variable {a : Args R}

theorem row_major_filled {sgemm : Sgemm R} (hs : ColumnMajorProduct sgemm)
    (hin : StoresInside sgemm) (ha : a.Sized) (stream : CudaStream) (c : Memory R) :
    (launchGemmCublasRowMajor sgemm a.M a.N a.K a.alpha a.A a.B a.beta a.C stream).run c =
      some (filled a.M a.N (fun m n =>
        a.alpha*(∑ k ∈ Finset.range a.K, a.A.data (m*a.K+k)*a.B.data (k*a.N+n))+
          a.beta*c (m*a.N+n)) c) := by
  obtain ⟨d,hd,hvalue⟩ := row_major_run hs ha stream c
  obtain ⟨writes,hwrites,rfl⟩ := Option.map_eq_some_iff.mp hd
  rw [hd]
  refine congrArg some (filled_eq hvalue fun cell hcell => store_all_outside _ _ _ fun hmem => ?_)
  obtain ⟨i,hi,j,hj,rfl⟩ := hin _ _ _ _ _ _ _ _ _ _ _ writes hwrites cell hmem
  exact absurd (row_cell_lt hj hi) (Nat.not_lt.mpr hcell)

/-- Sizes for which no `int` of the launchers and their kernels overflows and no grid is refused. -/
structure IntSizes (M N K : ℕ) : Prop where
  rows : M+bm ≤ intMax
  grid : (M+bm-1)/bm ≤ maxGridY
  cells : M*N+256 ≤ intMax
  inputs : M*K ≤ intMax
  columns : bm*N+256 ≤ intMax
  depth : bm*K+256 ≤ intMax

omit [CommRing R] in
theorem IntSizes.custom (h : IntSizes a.M a.N a.K) : CustomInts a := by
  obtain ⟨hrows,hgrid,hcells,hinputs,hcolumns,hdepth⟩ := h
  have hA : (a.M-bm)*a.K ≤ a.M*a.K := Nat.mul_le_mul_right a.K (Nat.sub_le a.M bm)
  have hC : (a.M-bm)*a.N+(a.N-bn) ≤ max (a.M*a.N) a.N := by
    rcases Nat.eq_zero_or_pos (a.M-bm) with hfew | hmany
    · rw [hfew, Nat.zero_mul, Nat.zero_add]
      exact (Nat.sub_le _ _).trans (le_max_right _ _)
    · have hsum : (a.M-bm)*a.N+a.N ≤ a.M*a.N := by
        rw [← Nat.succ_mul]
        exact Nat.mul_le_mul_right a.N (by simp only [bm] at *; omega)
      exact (Nat.add_le_add_left (Nat.sub_le _ _) _).trans (hsum.trans (le_max_left _ _))
  refine .inr ⟨⟨⟨hrows,hgrid⟩,?_,?_⟩,fun _ => ⟨hA.trans hinputs,?_,?_,?_⟩⟩
  all_goals
    simp only [bm, bn, bk] at *
    omega

theorem add_bias_filled {bias : Buffer R} (ha : a.Sized) (hbias : a.bias = some bias)
    (hint : a.M*a.N+256 ≤ intMax) (stream : CudaStream) (c : Memory R) :
    runAll (launchAddBias a.C a.bias a.M a.N stream) c =
      some (filled a.M a.N (fun m n => c (m*a.N+n)+bias.data n) c) := by
  rw [hbias]
  show runAll [onC stream a.C _] c = _
  rw [run_all_singleton, on_c_filled stream _ (add_bias_fills
    (show (a.C.withData c).size = a.M*a.N from ha.C) (ha.bias bias hbias) hint), filled_flat]
  exact congrArg some (filled_congr fun m _ n hn => by rw [row_cell_mod hn]; rfl)

omit [CommRing R] in
theorem gelu_filled (gelu : R → R) (ha : a.Sized) (halign : a.C.Aligned16 0)
    (hint : a.M*a.N+4 ≤ intMax) (c : Memory R) :
    (geluLaunch gelu a.C (a.M*a.N)).run c =
      some (filled a.M a.N (fun m n => gelu (c (m*a.N+n))) c) := by
  rw [geluLaunch, on_c_filled .default _ (gelu_fills gelu
    (show (a.C.withData c).size = a.M*a.N from ha.C) (.inl halign) hint), filled_flat]
  rfl

theorem custom_filled [DecidableEq R] (gelu : R → R) (shared : Shared R) (ha : a.Sized)
    (hint : CustomInts a) (stream : CudaStream) (c : Memory R) :
    (fusedLaunch gelu shared a stream).run c = some (filled a.M a.N (fun m n => maybeGelu gelu a
      (a.alpha*(∑ k ∈ Finset.range a.K, a.A.data (m*a.K+k)*a.B.data (k*a.N+n))+
        a.beta*c (m*a.N+n)+biasAt a n)) c) := by
  have hsized : { a with C := a.C.withData c : Args R }.Sized := ⟨ha.A,ha.B,ha.C,ha.bias⟩
  have hfits : CustomInts { a with C := a.C.withData c : Args R } := hint
  refine on_c_filled stream (fun C => if CustomInts { a with C := C : Args R } then
    launchCustomGemm gelu { a with C := C } shared else none) ?_
  rw [if_pos hfits]
  exact launch_custom_gemm_fills gelu hsized shared

section Sizes

variable {M N K : ℕ} {A B bias C : Buffer R}

structure Fits (M N K : ℕ) (A B C : Buffer R) : Prop where
  A : A.size = M*K
  B : B.size = K*N
  C : C.size = M*N

omit [CommRing R] in
theorem Fits.sized (h : Fits M N K A B C) (alpha beta : R) {bias : Option (Buffer R)}
    (hbias : ∀ p, bias = some p → p.size = N) (applyGelu : Bool) :
    (⟨M,N,K,alpha,A,B,beta,bias,C,applyGelu⟩ : Args R).Sized := ⟨h.A,h.B,h.C,hbias⟩

omit [CommRing R] in
theorem bias_size (h : bias.size = N) : ∀ p, some bias = some p → p.size = N :=
  fun _ hp => Option.some.inj hp ▸ h

variable [DecidableEq R] (be : GemmBackend R) (gelu : R → R) (hfit : Fits M N K A B C)
  (hint : IntSizes M N K) (hN : 0 < N) (hK : 0 < K) (stream : CudaStream) (c : Memory R)

include hfit hint

theorem launch_gemm_bias_residual_run (hbias : bias.size = N) :
    runAll (launchGemmBiasResidual gelu be.shared M N K A B (some bias) C stream) c =
      some (filled M N (fun m n => (∑ k ∈ Finset.range K, A.data (m*K+k)*B.data (k*N+n))+
        c (m*N+n)+bias.data n) c) := by
  have hrun := custom_filled gelu be.shared (hfit.sized 1 1 (bias_size hbias) false)
    hint.custom stream c
  rw [launchGemmBiasResidual, run_all_singleton]
  refine hrun.trans (congrArg some (filled_congr fun m _ n _ => ?_))
  simp only [maybeGelu, Bool.false_eq_true, if_false, one_mul, biasAt, Option.elim_some]

include hN hK

theorem launch_gemm_bias_run (hbias : bias.size = N) :
    runAll (launchGemmBias be.sgemm gelu be.shared be.useCublas M N K A B (some bias) C stream) c =
      some (filled M N (fun m n => (∑ k ∈ Finset.range K, A.data (m*K+k)*B.data (k*N+n))+
        bias.data n) c) := by
  rcases Nat.eq_zero_or_pos M with rfl | hM
  · rw [launchGemmBias, if_pos (.inl rfl), filled_none]
    rfl
  have hsized := hfit.sized 1 0 (bias_size hbias) false
  rw [launchGemmBias, if_neg (by omega)]
  split
  · have hproduct := row_major_filled be.product be.inside hsized stream c
    dsimp only at hproduct
    rw [run_all_cons, hproduct, Option.bind_some]
    refine (add_bias_filled hsized rfl hint.cells stream _).trans ?_
    rw [filled_twice fun _ n v => v+bias.data n]
    simp only [one_mul, zero_mul, add_zero]
  · rw [run_all_singleton]
    refine (custom_filled gelu be.shared hsized hint.custom stream c).trans
      (congrArg some (filled_congr fun m _ n _ => ?_))
    simp only [maybeGelu, Bool.false_eq_true, if_false, one_mul, zero_mul, add_zero, biasAt,
      Option.elim_some]

theorem launch_gemm_bias_gelu_run (hbias : bias.size = N) (halign : C.Aligned16 0) :
    runAll (launchGemmBiasGelu be.sgemm gelu be.shared be.useCublas M N K A B (some bias) C
      stream) c = some (filled M N (fun m n =>
        gelu ((∑ k ∈ Finset.range K, A.data (m*K+k)*B.data (k*N+n))+bias.data n)) c) := by
  rcases Nat.eq_zero_or_pos M with rfl | hM
  · rw [launchGemmBiasGelu, if_pos (.inl rfl), filled_none]
    rfl
  rw [launchGemmBiasGelu, if_neg (by omega)]
  split
  · have hsized := hfit.sized 1 0 (bias_size hbias) false
    have hlinear := launch_gemm_bias_run { be with useCublas := true } gelu hfit hint hN hK stream
      c hbias
    have hcells : M*N ≠ 0 := (Nat.mul_pos hM hN).ne'
    rw [launchGemmBias, if_neg (by omega), if_pos rfl] at hlinear
    rw [run_all_append, hlinear, Option.bind_some, launchGelu, if_neg hcells, run_all_singleton]
    have hcells := hint.cells
    refine (gelu_filled gelu hsized halign (by dsimp only; omega) _).trans ?_
    rw [filled_twice fun _ _ v => gelu v]
  · rw [run_all_singleton]
    refine (custom_filled gelu be.shared (hfit.sized 1 0 (bias_size hbias) true) hint.custom stream
      c).trans
      (congrArg some (filled_congr fun m _ n _ => ?_))
    simp only [maybeGelu, if_true, one_mul, zero_mul, add_zero, biasAt, Option.elim_some]

theorem launch_gemm_run :
    runAll (launchGemm be.sgemm gelu be.shared be.useCublas M N K 1 A B 0 C stream) c =
      some (filled M N (fun m n => ∑ k ∈ Finset.range K, A.data (m*K+k)*B.data (k*N+n)) c) := by
  rcases Nat.eq_zero_or_pos M with rfl | hM
  · rw [launchGemm, if_pos (.inl rfl), filled_none]
    rfl
  have hsized := hfit.sized 1 0 (show ∀ p : Buffer R, none = some p → p.size = N from nofun) false
  rw [launchGemm, if_neg (by omega)]
  split
  · rw [run_all_singleton]
    refine (row_major_filled be.product be.inside hsized stream c).trans
      (congrArg some (filled_congr fun m _ n _ => ?_))
    simp only [one_mul, zero_mul, add_zero]
  · rw [run_all_singleton]
    refine (custom_filled gelu be.shared hsized hint.custom stream c).trans
      (congrArg some (filled_congr fun m _ n _ => ?_))
    simp only [maybeGelu, Bool.false_eq_true, if_false, one_mul, zero_mul, add_zero, biasAt,
      Option.elim_none]

end Sizes

end Launchers

end MiniLlm.Kernels

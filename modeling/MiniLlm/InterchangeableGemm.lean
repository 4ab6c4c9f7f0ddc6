import MiniLlm.BackendRuns
import MiniLlm.LoadedWeights

/-!
# When the GEMM backends are interchangeable

Where the `int` expressions of the fused kernels do not overflow and CUDA does
not refuse their grid, the products alone agree. The separate kernels of the
cuBLAS backend need more: their number of elements is an `int`, the GELU kernel
takes four floats at once, so `C` has to be aligned unless it has fewer than
four, and it is launched on the default stream, so the caller's stream has to
be ordered with that.
-/

set_option autoImplicit false

namespace MiniLlm.Gemm

open FlatMemory RowBuffers KernelLaunch Streams

def SameMatrix {R : Type*} (M N : ℕ) (c d : Memory R) : Prop :=
  ∀ m < M, ∀ n < N, c (m*N+n) = d (m*N+n)

section InOrder

variable {R : Type*}

theorem add_bias_stream [Add R] (C : Buffer R) (bias : Option (Buffer R)) (M N : ℕ)
    (stream : CudaStream) : ∀ l ∈ launchAddBias C bias M N stream, l.stream = stream := by
  intro l hl
  unfold launchAddBias at hl
  split at hl
  · exact absurd hl List.not_mem_nil
  · rw [List.mem_singleton.mp hl]
    rfl

variable [CommRing R] {a : Args R}

theorem linear_stream (sgemm : Sgemm R) (a : Args R) (stream : CudaStream) :
    ∀ l ∈ linearLaunches sgemm a stream, l.stream = stream := by
  intro l hl
  rcases List.mem_cons.mp hl with rfl | hl
  · rfl
  · exact add_bias_stream a.C a.bias a.M a.N stream l hl

end InOrder

section Agreement

variable {R : Type*} [CommRing R] {sgemm : Sgemm R} {gelu : R → R} {a : Args R}

def geluLaunches (sgemm : Sgemm R) (gelu : R → R) (a : Args R) (stream : CudaStream) :
    List (Launch (Memory R)) :=
  linearLaunches sgemm a stream++[geluLaunch gelu a.C (a.M*a.N)]

theorem linear_agrees [DecidableEq R] (hs : ColumnMajorProduct sgemm) (ha : a.Sized)
    (hgelu : a.applyGelu = false) (hcustom : CustomInts a) (hbias : BiasInts a)
    (shared : Shared R) (stream : CudaStream) (c : Memory R) :
    Agree (SameMatrix a.M a.N) (linearLaunches sgemm a stream) [fusedLaunch gelu shared a stream]
      c := by
  obtain ⟨d,hd,hlinear⟩ := linear_run hs ha hbias stream c
  obtain ⟨e,he,hfused⟩ := fused_run gelu shared ha hcustom stream c
  refine agree_in_order (in_order_stream (linear_stream sgemm a stream)) (in_order_singleton _) hd
    (by rw [run_all_singleton, he]) fun m hm n hn => ?_
  rw [hlinear m hm n hn, hfused m hm n hn, maybeGelu, hgelu]
  rfl

theorem gelu_agrees [DecidableEq R] (hs : ColumnMajorProduct sgemm) (ha : a.Sized)
    (hgelu : a.applyGelu = true) (hcustom : CustomInts a) (hbias : BiasInts a)
    (hnums : a.M*a.N+4 ≤ intMax) (halign : a.C.Aligned16 0 ∨ a.M*a.N < 4) {stream : CudaStream}
    (hstream : stream.Ordered .default) (shared : Shared R) (c : Memory R) :
    Agree (SameMatrix a.M a.N) (geluLaunches sgemm gelu a stream)
      [fusedLaunch gelu shared a stream] c := by
  obtain ⟨d,hd,hlinear⟩ := linear_run hs ha hbias stream c
  obtain ⟨e,he,hactivated⟩ := gelu_run gelu ha halign hnums d
  obtain ⟨f,hf,hfused⟩ := fused_run gelu shared ha hcustom stream c
  have horder : InOrder (geluLaunches sgemm gelu a stream) := by
    refine List.pairwise_append.mpr ⟨in_order_stream (linear_stream sgemm a stream),
      in_order_singleton _,fun l hl l' hl' => ?_⟩
    rw [linear_stream sgemm a stream l hl, List.mem_singleton.mp hl']
    exact hstream
  have hrun : runAll (geluLaunches sgemm gelu a stream) c = some e := by
    rw [geluLaunches, run_all_append, hd, Option.bind_some, run_all_singleton, he]
  refine agree_in_order horder (in_order_singleton _) hrun (by rw [run_all_singleton, hf])
    fun m hm n hn => ?_
  rw [hactivated _ (row_cell_lt hm hn), hlinear m hm n hn, hfused m hm n hn, maybeGelu, hgelu]
  rfl

theorem gelu_faults (hs : ColumnMajorProduct sgemm) (ha : a.Sized)
    (h : ¬BiasInts a ∨ ¬a.M*a.N+4 ≤ intMax ∨ ¬a.C.Aligned16 0 ∧ 4 ≤ a.M*a.N)
    (stream : CudaStream) (c : Memory R) :
    runAll (geluLaunches sgemm gelu a stream) c = none := by
  rw [geluLaunches, run_all_append]
  by_cases hbias : BiasInts a
  · obtain ⟨d,hd,_⟩ := linear_run hs ha hbias stream c
    rw [hd, Option.bind_some, run_all_singleton]
    rcases h.resolve_left (not_not_intro hbias) with hnums | ⟨halign,hsize⟩
    · exact gelu_overflow gelu hnums d
    · have hfault := gelu_misaligned gelu (show ¬(a.C.withData d).Aligned16 0 from halign) hsize
      show (geluGrid gelu (a.C.withData d) _).map _ = none
      rw [hfault]
      rfl
  · rw [linear_overflow hs ha hbias]
    rfl

/-- On a stream that the default one does not wait for, GELU may come first, and then the
product and the bias are all that is left in `C`. -/
theorem gelu_first (hs : ColumnMajorProduct sgemm) (ha : a.Sized) (hbias : BiasInts a)
    (hnums : a.M*a.N+4 ≤ intMax) (halign : a.C.Aligned16 0 ∨ a.M*a.N < 4) {stream : CudaStream}
    (hstream : ¬stream.Ordered .default) (hbeta : a.beta = 0) (c : Memory R) :
    ∃ d, Executes (geluLaunches sgemm gelu a stream) c (some d) ∧
      ∀ m < a.M, ∀ n < a.N, d (m*a.N+n) =
        a.alpha*(∑ k ∈ Finset.range a.K, a.A.data (m*a.K+k)*a.B.data (k*a.N+n))+biasAt a n := by
  obtain ⟨b,hb,_⟩ := gelu_run gelu ha halign hnums c
  obtain ⟨d,hd,hlinear⟩ := linear_run hs ha hbias stream b
  refine ⟨d,?_,fun m hm n hn => ?_⟩
  · rw [← hd]
    refine executes_last_first (fun l hl => ?_) hb
    rw [linear_stream sgemm a stream l hl]
    exact hstream
  · rw [hlinear m hm n hn, hbeta, zero_mul, add_zero]

end Agreement

section Inputs

/-- The pointers and sizes of a call; addresses count floats and a null bias is `none`. -/
structure Pointers where
  M : ℕ
  N : ℕ
  K : ℕ
  A : ℕ
  B : ℕ
  bias : Option ℕ
  C : ℕ
  stream : CudaStream

structure Contents (R : Type*) where
  A : Memory R
  B : Memory R
  bias : Memory R
  C : Memory R

namespace Pointers

variable {R : Type*} (p : Pointers) (x : Contents R)

def bufferA : Buffer R := ⟨p.A,p.M*p.K,x.A⟩

def bufferB : Buffer R := ⟨p.B,p.K*p.N,x.B⟩

def bufferBias : Option (Buffer R) := p.bias.map fun address => ⟨address,p.N,x.bias⟩

def bufferC : Buffer R := ⟨p.C,p.M*p.N,x.C⟩

/-- Whatever is behind the pointers, both backends leave the same matrix. -/
def Interchangeable (calls : Bool → Contents R → List (Launch (Memory R))) : Prop :=
  ∀ x, Agree (SameMatrix p.M p.N) (calls true x) (calls false x) x.C

def args (alpha beta : R) (bias : Option (Buffer R)) (applyGelu : Bool) : Args R :=
  ⟨p.M,p.N,p.K,alpha,p.bufferA x,p.bufferB x,beta,bias,p.bufferC x,applyGelu⟩

/-- Sizes and addresses with which no `int` of the fused kernel overflows and its grid is not
refused. -/
def CustomInts : Prop :=
  Gemm.CustomInts (p.args ⟨fun _ => 0,fun _ => 0,fun _ => 0,fun _ => (0 : ℕ)⟩ 1 0 none false)

def BiasInts : Prop := p.bias = none ∨ p.M*p.N+256 ≤ intMax

variable {p x}

theorem bias_ints_args (alpha beta : R) (applyGelu : Bool) :
    Gemm.BiasInts (p.args x alpha beta (p.bufferBias x) applyGelu) ↔ p.BiasInts :=
  or_congr_left Option.map_eq_none_iff

theorem args_sized (alpha beta : R) (applyGelu : Bool) :
    (p.args x alpha beta none applyGelu).Sized :=
  ⟨rfl,rfl,rfl,fun _ h => absurd h.symm (Option.some_ne_none _)⟩

theorem args_sized_bias (alpha beta : R) (applyGelu : Bool) :
    (p.args x alpha beta (p.bufferBias x) applyGelu).Sized := by
  refine ⟨rfl,rfl,rfl,fun q hq => ?_⟩
  obtain ⟨address,_,rfl⟩ := Option.map_eq_some_iff.mp hq
  rfl

end Pointers

end Inputs

theorem gelu_calls {R : Type*} [CommRing R] [DecidableEq R] {sgemm : Sgemm R} {gelu : R → R}
    {shared : Shared R} {p : Pointers} (hM : 0 < p.M) (hN : 0 < p.N) (hK : 0 < p.K) :
    (p.Interchangeable fun useCublas x => launchGemmBiasGelu sgemm gelu shared useCublas
      p.M p.N p.K (p.bufferA x) (p.bufferB x) (p.bufferBias x) (p.bufferC x) p.stream) ↔
    ∀ x, Agree (SameMatrix p.M p.N)
      (geluLaunches sgemm gelu (p.args x 1 0 (p.bufferBias x) true) p.stream)
      [fusedLaunch gelu shared (p.args x 1 0 (p.bufferBias x) true) p.stream] x.C := by
  have hpos : ¬(p.M = 0 ∨ p.N = 0 ∨ p.K = 0) := by omega
  have hcells : p.M*p.N ≠ 0 := (Nat.mul_pos hM hN).ne'
  unfold Pointers.Interchangeable launchGemmBiasGelu launchGelu
  simp only [if_neg hpos, if_neg hcells, if_true, if_false, Bool.false_eq_true]
  exact Iff.rfl

theorem gelu_one_ne : geluOne 1 ≠ 1 := by
  have htanh := Real.tanh_lt_one (0.7978845608*(1+0.044715*1*1*1))
  unfold geluOne
  linarith

section Needs

variable {sgemm : Sgemm ℝ} {shared : Shared ℝ} {p : Pointers}

/-- Agreement asks for a run of the fused kernel. -/
theorem needs_custom_ints {calls : Contents ℝ → List (Launch (Memory ℝ))} {alpha beta : ℝ}
    {bias : Contents ℝ → Option (Buffer ℝ)} {applyGelu : Bool}
    (h : ∀ x, Agree (SameMatrix p.M p.N) (calls x)
      [fusedLaunch geluOne shared (p.args x alpha beta (bias x) applyGelu) p.stream] x.C) :
    p.CustomInts := by
  by_contra hover
  let x : Contents ℝ := ⟨fun _ => 0,fun _ => 0,fun _ => 0,fun _ => 0⟩
  have hover' : ¬Gemm.CustomInts (p.args x alpha beta (bias x) applyGelu) := hover
  exact not_agree_fault_right
    ((run_all_singleton _ _).trans (fused_overflow geluOne shared hover' p.stream x.C)) (h x)

theorem needs_bias_ints (hs : ColumnMajorProduct sgemm) (h : ∀ x, Agree (SameMatrix p.M p.N)
      (linearLaunches sgemm (p.args x 1 0 (p.bufferBias x) false) p.stream)
      [fusedLaunch geluOne shared (p.args x 1 0 (p.bufferBias x) false) p.stream] x.C) :
    p.BiasInts := by
  by_contra hover
  let x : Contents ℝ := ⟨fun _ => 0,fun _ => 0,fun _ => 0,fun _ => 0⟩
  exact not_agree_fault (linear_overflow hs (Pointers.args_sized_bias 1 0 false)
    (fun hint => hover ((Pointers.bias_ints_args 1 0 false).mp hint)) p.stream x.C) (h x)

theorem gelu_needs_run (hs : ColumnMajorProduct sgemm) (h : ∀ x, Agree (SameMatrix p.M p.N)
      (geluLaunches sgemm geluOne (p.args x 1 0 (p.bufferBias x) true) p.stream)
      [fusedLaunch geluOne shared (p.args x 1 0 (p.bufferBias x) true) p.stream] x.C) :
    p.BiasInts ∧ p.M*p.N+4 ≤ intMax ∧ (p.C%4 = 0 ∨ p.M*p.N < 4) := by
  let x : Contents ℝ := ⟨fun _ => 0,fun _ => 0,fun _ => 0,fun _ => 0⟩
  let a : Args ℝ := p.args x 1 0 (p.bufferBias x) true
  have hruns (hfault : ¬Gemm.BiasInts a ∨ ¬a.M*a.N+4 ≤ intMax ∨
      ¬a.C.Aligned16 0 ∧ 4 ≤ a.M*a.N) : False :=
    not_agree_fault (gelu_faults hs (Pointers.args_sized_bias 1 0 true) hfault p.stream x.C) (h x)
  refine ⟨?_,?_,?_⟩
  · by_contra hbias
    exact hruns (.inl fun hint => hbias ((Pointers.bias_ints_args 1 0 true).mp hint))
  · by_contra hnums
    exact hruns (.inr (.inl hnums))
  · by_contra halign
    push Not at halign
    exact hruns (.inr (.inr halign))

theorem gelu_needs_order (hs : ColumnMajorProduct sgemm) (hM : 0 < p.M) (hN : 0 < p.N)
    (hK : 0 < p.K) (h : ∀ x, Agree (SameMatrix p.M p.N)
      (geluLaunches sgemm geluOne (p.args x 1 0 (p.bufferBias x) true) p.stream)
      [fusedLaunch geluOne shared (p.args x 1 0 (p.bufferBias x) true) p.stream] x.C) :
    p.stream.Ordered .default := by
  obtain ⟨hbiasInts,hnums,halign⟩ := gelu_needs_run hs h
  have hcustom := needs_custom_ints h
  by_contra hstream
  -- The first element of the product is one, and GELU of it is less.
  let x : Contents ℝ := ⟨fun i => if i = 0 then 1 else 0,fun _ => 1,fun _ => 0,fun _ => 0⟩
  let a : Args ℝ := p.args x 1 0 (p.bufferBias x) true
  have ha : a.Sized := Pointers.args_sized_bias 1 0 true
  have hproduct : ∑ k ∈ Finset.range a.K, a.A.data (0*a.K+k)*a.B.data (k*a.N+0) = 1 := by
    show ∑ k ∈ Finset.range p.K, (if 0*p.K+k = 0 then (1 : ℝ) else 0)*1 = 1
    simp [hK]
  have hbias : biasAt a 0 = 0 := by
    show (p.bufferBias x).elim 0 (fun bias => bias.data 0) = 0
    unfold Pointers.bufferBias
    cases p.bias <;> rfl
  obtain ⟨d,hd,hplain⟩ := gelu_first hs ha ((Pointers.bias_ints_args 1 0 true).mpr hbiasInts)
    hnums halign hstream rfl x.C
  obtain ⟨e,he,hfused⟩ := fused_run geluOne shared ha hcustom p.stream x.C
  have hcalls := executes_run_all [fusedLaunch geluOne shared a p.stream] x.C
  rw [run_all_singleton, he] at hcalls
  obtain ⟨t,t',ht,ht',hsame⟩ := h x _ _ hd hcalls
  obtain rfl := Option.some.inj ht
  obtain rfl := Option.some.inj ht'
  have hcell : d (0*a.N+0) = e (0*a.N+0) := hsame 0 hM 0 hN
  rw [hplain 0 hM 0 hN, hfused 0 hM 0 hN, hproduct, hbias] at hcell
  have hone : (1 : ℝ)*1+0 = geluOne (1*1+0*x.C (0*a.N+0)+0) := hcell
  rw [zero_mul, mul_one, add_zero, add_zero] at hone
  exact gelu_one_ne hone.symm

end Needs

/-- Where no `int` overflows and no grid is refused, the backends are interchangeable without GELU,
and with GELU if `C` is aligned or has fewer than four floats and the default stream waits for the
caller's stream; otherwise they are not. -/
theorem backends_interchangeable_iff (sgemm : Sgemm ℝ) (hs : ColumnMajorProduct sgemm)
    (shared : Shared ℝ) (p : Pointers) (hM : 0 < p.M) (hN : 0 < p.N) (hK : 0 < p.K) :
    (∀ alpha beta, (p.Interchangeable fun useCublas x => launchGemm sgemm geluOne shared useCublas
      p.M p.N p.K alpha (p.bufferA x) (p.bufferB x) beta (p.bufferC x) p.stream) ↔
      p.CustomInts) ∧
    ((p.Interchangeable fun useCublas x => launchGemmBias sgemm geluOne shared useCublas
      p.M p.N p.K (p.bufferA x) (p.bufferB x) (p.bufferBias x) (p.bufferC x) p.stream) ↔
      p.CustomInts ∧ p.BiasInts) ∧
    ((p.Interchangeable fun useCublas x => launchGemmBiasGelu sgemm geluOne shared useCublas
      p.M p.N p.K (p.bufferA x) (p.bufferB x) (p.bufferBias x) (p.bufferC x) p.stream) ↔
      p.CustomInts ∧ p.BiasInts ∧ p.M*p.N+4 ≤ intMax ∧ (p.C%4 = 0 ∨ p.M*p.N < 4) ∧
        p.stream.Ordered .default) := by
  have hpos : ¬(p.M = 0 ∨ p.N = 0 ∨ p.K = 0) := by omega
  refine ⟨fun alpha beta => ?_,?_,?_⟩
  · simp only [Pointers.Interchangeable, launchGemm, if_neg hpos, if_true, if_false,
      Bool.false_eq_true]
    refine ⟨needs_custom_ints,fun hcustom x => ?_⟩
    exact linear_agrees hs (Pointers.args_sized alpha beta false) rfl hcustom (.inl rfl) shared
      p.stream x.C
  · simp only [Pointers.Interchangeable, launchGemmBias, if_neg hpos, if_true, if_false,
      Bool.false_eq_true]
    refine ⟨fun h => ⟨needs_custom_ints h,needs_bias_ints hs h⟩,?_⟩
    rintro ⟨hcustom,hbias⟩ x
    exact linear_agrees hs (Pointers.args_sized_bias 1 0 false) rfl hcustom
      ((Pointers.bias_ints_args 1 0 false).mpr hbias) shared p.stream x.C
  · rw [gelu_calls hM hN hK]
    constructor
    · intro h
      obtain ⟨hbias,hnums,halign⟩ := gelu_needs_run hs h
      exact ⟨needs_custom_ints h,hbias,hnums,halign,gelu_needs_order hs hM hN hK h⟩
    · rintro ⟨hcustom,hbias,hnums,halign,hstream⟩ x
      exact gelu_agrees hs (Pointers.args_sized_bias 1 0 true) rfl hcustom
        ((Pointers.bias_ints_args 1 0 true).mpr hbias) hnums halign hstream shared x.C

/-- A square of `46341` rows has more elements than an `int` counts. -/
def wideSquare : Pointers := ⟨46341,46341,1,0,0,some 0,0,.default⟩

example : wideSquare.CustomInts ∧ ¬wideSquare.BiasInts := by
  unfold Pointers.CustomInts Pointers.BiasInts
  decide

def shiftedRow : Pointers := ⟨1,4,1,0,0,none,1,.default⟩

theorem shifted_row_differs : ColumnMajorProduct (referenceSgemm (R := ℝ)) ∧
    ¬shiftedRow.Interchangeable fun useCublas x => launchGemmBiasGelu referenceSgemm geluOne
      ⟨fun _ => 0,fun _ => 0⟩ useCublas 1 4 1 (shiftedRow.bufferA x) (shiftedRow.bufferB x)
      (shiftedRow.bufferBias x) (shiftedRow.bufferC x) shiftedRow.stream := by
  refine ⟨reference_sgemm_product,fun h => ?_⟩
  have hcalls := (gelu_calls (p := shiftedRow) (by decide) (by decide) (by decide)).mp h
  have halign : 1%4 = 0 ∨ 1*4 < 4 := (gelu_needs_run reference_sgemm_product hcalls).2.2
  omega

def alignedRow : Pointers := ⟨1,4,1,0,0,some 0,4,.default⟩

theorem aligned_row_agrees :
    alignedRow.Interchangeable fun useCublas x => launchGemmBiasGelu referenceSgemm geluOne
      ⟨fun _ => 0,fun _ => 0⟩ useCublas 1 4 1 (alignedRow.bufferA x) (alignedRow.bufferB x)
      (alignedRow.bufferBias x) (alignedRow.bufferC x) alignedRow.stream :=
  (backends_interchangeable_iff referenceSgemm reference_sgemm_product ⟨fun _ => 0,fun _ => 0⟩
    alignedRow (by decide) (by decide) (by decide)).2.2.mpr
      ⟨by unfold Pointers.CustomInts; decide,.inr (by decide),by decide,.inl rfl,.inl rfl⟩

end MiniLlm.Gemm

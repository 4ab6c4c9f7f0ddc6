import MiniLlm.BlockSchedules
import MiniLlm.LoadedWeights

/-!
# The layer norm kernel

`layernorm_kernel` over a row: every thread has four components, and the
block adds up the components and then the squares of their distances from the
mean. The second call of `block_reduce_sum` follows the first one at once.
The kernel computes the row's layer norm exactly in the schedules in which no
thread is late for the first sum. In each schedule what it writes is a function
of the row.
-/

set_option autoImplicit false

namespace MiniLlm.LayernormKernel

open BarrierInterval BlockReduction FlatMemory RowBuffers

/-- `THREADS / 32`, for a row of `num_cols / VEC` threads. -/
def layernormWarps : ℕ := 6

variable (x gamma beta : Memory ℝ)

/-- `local_sum` -/
def localSum (tid : ℕ) : ℝ := x (tid*4)+x (tid*4+1)+x (tid*4+2)+x (tid*4+3)

/-- `sum / D` -/
noncomputable def mean (sum : ℝ) : ℝ := sum/gpt2DModel

/-- `local_var_sum` -/
noncomputable def localVarSum (sum : ℝ) (tid : ℕ) : ℝ :=
  localSum (fun d => (x d-mean sum)*(x d-mean sum)) tid

structure Run (first : BlockSchedule (layernormWarps*warpSize) true)
    (second : BlockSchedule (layernormWarps*warpSize) false) where
  sum : ℕ → ℝ
  varSum : ℕ → ℝ
  shared : ℕ → ℝ
  between : ℕ → ℝ
  sum_eq : ∀ tid < layernormWarps*warpSize,
    returned (·+·) sumLoaded first shared (localSum x) (fun t => localVarSum x (sum t) t) tid =
      [sum tid]
  var_sum_eq : ∀ tid < layernormWarps*warpSize,
    returned (·+·) sumLoaded second between (fun t => localVarSum x (sum t) t) (fun _ => 0) tid =
      [varSum tid]

/-- A component of `y`, from the thread that has it. -/
noncomputable def output {x : Memory ℝ} {first : BlockSchedule (layernormWarps*warpSize) true}
    {second : BlockSchedule (layernormWarps*warpSize) false} (run : Run x first second) (d : ℕ) :
    ℝ :=
  (x d-mean (run.sum (d/4)))*(Real.sqrt (mean (run.varSum (d/4))+1e-5))⁻¹*gamma d+beta d

def Exact (first : BlockSchedule (layernormWarps*warpSize) true)
    (second : BlockSchedule (layernormWarps*warpSize) false) : Prop :=
  ∀ (x gamma beta : Memory ℝ) (run : Run x first second) (d : Fin gpt2DModel),
    output gamma beta run d = layernorm gamma beta (fun i => x i) d

section Sums

variable {x}

theorem local_sums (n : ℕ) :
    ∑ tid ∈ Finset.range n, localSum x tid = ∑ d ∈ Finset.range (n*4), x d := by
  induction n with
  | zero => rfl
  | succ n ih =>
    rw [Finset.sum_range_succ, ih, Nat.succ_mul, Finset.sum_range_succ, Finset.sum_range_succ,
      Finset.sum_range_succ, Finset.sum_range_succ, localSum]
    ring

theorem row_width : layernormWarps*warpSize*4 = gpt2DModel := rfl

theorem block_sum (f : Memory ℝ) :
    ∑ tid ∈ Finset.range (layernormWarps*warpSize), localSum f tid =
      ∑ d : Fin gpt2DModel, f d := by
  rw [local_sums, row_width, Fin.sum_univ_eq_sum_range]

variable {first : BlockSchedule (layernormWarps*warpSize) true}
  {second : BlockSchedule (layernormWarps*warpSize) false}

/-- Nothing follows the second call before the kernel ends. -/
theorem second_sum (run : Run x first second) {tid : ℕ} (htid : tid < layernormWarps*warpSize) :
    run.varSum tid = ∑ t ∈ Finset.range (layernormWarps*warpSize),
      localVarSum x (run.sum t) t := by
  have hprompt : PromptLoads second := fun h => nomatch h
  have hreturned := run.var_sum_eq tid htid
  rw [returned_eq htid, if_neg (prompt_loads hprompt htid), sum_loaded_warps] at hreturned
  exact (List.singleton_inj.mp hreturned).symm

end Sums

section Launch

variable (first : BlockSchedule (layernormWarps*warpSize) true)
  (second : BlockSchedule (layernormWarps*warpSize) false) (x : Memory ℝ)

/-- The second call has stored its first value when the thread loads the first result. -/
abbrev Late (tid : ℕ) : Prop := Before (0,.store 0) (tid,.load 0) first.reads.events

/-- What the first call returns: the late threads get the first warp's sum of squares. -/
noncomputable def firstReturned (tid : ℕ) : ℝ :=
  if Late first tid then
    ∑ lane ∈ Finset.range warpSize, localVarSum x (∑ d : Fin gpt2DModel, x d) lane
  else ∑ d : Fin gpt2DModel, x d

noncomputable def secondReturned : ℝ :=
  ∑ t ∈ Finset.range (layernormWarps*warpSize), localVarSum x (firstReturned first x t) t

theorem first_warp_returned {lane : ℕ} (hlane : lane < warpSize) :
    firstReturned first x lane = ∑ d : Fin gpt2DModel, x d := by
  rw [firstReturned, if_neg (first_warp_loads (hlane.trans (by decide)) hlane)]

theorem first_warp_value {sum : ℕ → ℝ}
    (h : ∀ lane < warpSize, sum lane = ∑ d : Fin gpt2DModel, x d) :
    warpValue (·+·) (fun t => localVarSum x (sum t) t) 0 =
      ∑ lane ∈ Finset.range warpSize, localVarSum x (∑ d : Fin gpt2DModel, x d) lane := by
  rw [warp_value_sum]
  refine Finset.sum_congr rfl fun lane hlane => ?_
  rw [Nat.zero_mul, Nat.zero_add, h lane (Finset.mem_range.mp hlane)]

noncomputable def rowRun : Run x first second where
  sum := firstReturned first x
  varSum := fun _ => secondReturned first x
  shared := fun _ => 0
  between := fun _ => 0
  sum_eq := fun tid htid => by
    rw [returned_eq htid, sum_loaded_warps, block_sum,
      first_warp_value x fun lane hlane => first_warp_returned first x hlane]
    rfl
  var_sum_eq := fun tid htid => by
    have hprompt : PromptLoads second := fun h => nomatch h
    rw [returned_eq htid, if_neg (prompt_loads hprompt htid), sum_loaded_warps]
    rfl

variable {first second x}

theorem run_sum (run : Run x first second) {tid : ℕ} (htid : tid < layernormWarps*warpSize) :
    run.sum tid = firstReturned first x tid := by
  have hreturned {t : ℕ} (ht : t < layernormWarps*warpSize) := run.sum_eq t ht
  have hwarp (lane : ℕ) (hlane : lane < warpSize) : run.sum lane = ∑ d : Fin gpt2DModel, x d := by
    have hin : lane < layernormWarps*warpSize := hlane.trans (by decide)
    have h := hreturned hin
    rw [returned_eq hin, if_neg (first_warp_loads hin hlane), sum_loaded_warps, block_sum] at h
    exact (List.singleton_inj.mp h).symm
  have h := hreturned htid
  rw [returned_eq htid, sum_loaded_warps, block_sum, first_warp_value x hwarp] at h
  exact (List.singleton_inj.mp h).symm

theorem run_var_sum (run : Run x first second) {tid : ℕ}
    (htid : tid < layernormWarps*warpSize) : run.varSum tid = secondReturned first x := by
  rw [second_sum run htid, secondReturned]
  exact Finset.sum_congr rfl fun t ht => by rw [run_sum run (Finset.mem_range.mp ht)]

end Launch

section Rows

theorem local_sum_congr {x x' : Memory ℝ} (h : ∀ d < gpt2DModel, x d = x' d) {tid : ℕ}
    (htid : tid < layernormWarps*warpSize) : localSum x tid = localSum x' tid := by
  have hwidth : gpt2DModel = layernormWarps*warpSize*4 := row_width.symm
  rw [localSum, localSum, h _ (by omega), h _ (by omega), h _ (by omega), h _ (by omega)]

def cells (row : Row gpt2DModel) : Memory ℝ := fun d =>
  if h : d < gpt2DModel then row ⟨d,h⟩ else 0

theorem cells_row (row : Row gpt2DModel) (d : Fin gpt2DModel) : cells row d = row d :=
  dif_pos d.isLt

variable (first : BlockSchedule (layernormWarps*warpSize) true)
  (second : BlockSchedule (layernormWarps*warpSize) false)

theorem returned_congr {x x' : Memory ℝ} (h : ∀ d < gpt2DModel, x d = x' d) :
    firstReturned first x = firstReturned first x' ∧
      secondReturned first x = secondReturned first x' := by
  have hvar (sum : ℝ) {tid : ℕ} (htid : tid < layernormWarps*warpSize) :
      localVarSum x sum tid = localVarSum x' sum tid :=
    local_sum_congr (fun d hd => by rw [h d hd]) htid
  have hsum : ∑ d : Fin gpt2DModel, x d = ∑ d : Fin gpt2DModel, x' d :=
    Finset.sum_congr rfl fun d _ => h d d.isLt
  have hfirst : firstReturned first x = firstReturned first x' := by
    funext tid
    unfold firstReturned
    rw [hsum, Finset.sum_congr rfl fun lane hlane =>
      hvar _ ((Finset.mem_range.mp hlane).trans (by decide))]
  refine ⟨hfirst,Finset.sum_congr rfl fun t ht => ?_⟩
  rw [hfirst, hvar _ (Finset.mem_range.mp ht)]

noncomputable def layernormRow (gamma beta : Memory ℝ) (row : Row gpt2DModel) :
    Row gpt2DModel := fun d => output gamma beta (rowRun first second (cells row)) d

variable {first second}

theorem thread_lt (d : Fin gpt2DModel) : (d:ℕ)/4 < layernormWarps*warpSize := by
  have hd : (d:ℕ) < layernormWarps*warpSize*4 := d.isLt
  omega

theorem output_row {x : Memory ℝ} (run : Run x first second) (gamma beta : Memory ℝ)
    (d : Fin gpt2DModel) :
    output gamma beta run d = layernormRow first second gamma beta (fun i => x i) d := by
  have hcells : ∀ i < gpt2DModel, x i = cells (fun i => x i) i :=
    fun i hi => (cells_row (fun i => x i) ⟨i,hi⟩).symm
  obtain ⟨hfirst,hsecond⟩ := returned_congr first hcells
  rw [layernormRow, output, output, run_sum run (thread_lt d), run_var_sum run (thread_lt d),
    hcells d d.isLt, hfirst, hsecond]
  rfl

theorem prompt_returned (h : PromptLoads first) (x : Memory ℝ) {tid : ℕ}
    (htid : tid < layernormWarps*warpSize) :
    firstReturned first x tid = ∑ d : Fin gpt2DModel, x d :=
  if_neg (prompt_loads h htid)

theorem exact_of_prompt (h : PromptLoads first) : Exact first second := by
  intro x gamma beta run d
  have hvar : secondReturned first x =
      ∑ i : Fin gpt2DModel, (x i-mean (∑ i : Fin gpt2DModel, x i))*
        (x i-mean (∑ i : Fin gpt2DModel, x i)) := by
    rw [secondReturned, ← block_sum fun i => (x i-mean (∑ i : Fin gpt2DModel, x i))*
      (x i-mean (∑ i : Fin gpt2DModel, x i))]
    refine Finset.sum_congr rfl fun t ht => ?_
    rw [prompt_returned h x (Finset.mem_range.mp ht), localVarSum]
  rw [output, run_var_sum run (thread_lt d), hvar, run_sum run (thread_lt d),
    prompt_returned h x (thread_lt d)]
  rfl

end Rows

/-! A row with mean zero that is zero after the components of the first warp. -/

section Centred

structure Centred (row : Row gpt2DModel) : Prop where
  sum : ∑ d, row d = 0
  zero : ∀ d : Fin gpt2DModel, warpSize*4 ≤ (d:ℕ) → row d = 0

def squares (row : Row gpt2DModel) : ℝ := ∑ d, row d*row d

variable (first : BlockSchedule (layernormWarps*warpSize) true)

noncomputable def lateSquares (s : ℝ) : ℝ :=
  ∑ t ∈ Finset.range (layernormWarps*warpSize), if Late first t then 4*(mean s*mean s) else 0

noncomputable def deviation (s : ℝ) : ℝ := Real.sqrt (mean (s+lateSquares first s)+1e-5)

theorem late_squares_nonneg (s : ℝ) : 0 ≤ lateSquares first s := by
  refine Finset.sum_nonneg fun t _ => ?_
  split
  · exact mul_nonneg zero_le_four (mul_self_nonneg _)
  · exact le_refl 0

theorem deviation_pos {s : ℝ} (hs : 0 ≤ s) : 0 < deviation first s := by
  have hlate := late_squares_nonneg first s
  apply Real.sqrt_pos.mpr
  unfold mean
  positivity

theorem deviation_lt {s s' : ℝ} (hs : 0 ≤ s) (h : s < s') :
    deviation first s < deviation first s' := by
  have hmean : mean s ≤ mean s' := div_le_div_of_nonneg_right h.le (Nat.cast_nonneg _)
  have hpos : 0 ≤ mean s := div_nonneg hs (Nat.cast_nonneg _)
  have hlate : lateSquares first s ≤ lateSquares first s' := by
    refine Finset.sum_le_sum fun t _ => ?_
    split
    · exact mul_le_mul_of_nonneg_left (mul_self_le_mul_self hpos hmean) zero_le_four
    · exact le_refl 0
  have hnonneg := late_squares_nonneg first s
  apply Real.sqrt_lt_sqrt
  · unfold mean
    positivity
  · have hsum : s+lateSquares first s < s'+lateSquares first s' := by linarith
    exact add_lt_add_left (div_lt_div_of_pos_right hsum (Nat.cast_pos.mpr (by decide))) _

variable {first} {second : BlockSchedule (layernormWarps*warpSize) false}
  {row : Row gpt2DModel} (h : Centred row)

include h

theorem centred_late {tid : ℕ} (htid : tid < layernormWarps*warpSize) (hlate : Late first tid)
    (j : ℕ) (hj : j < 4) : cells row (tid*4+j) = 0 := by
  have hwarp : warpSize ≤ tid :=
    Nat.le_of_not_lt fun hlt => first_warp_loads htid hlt hlate
  have hwidth : gpt2DModel = layernormWarps*warpSize*4 := row_width.symm
  have hd : tid*4+j < gpt2DModel := by omega
  exact (dif_pos hd).trans (h.zero ⟨tid*4+j,hd⟩ (by show _ ≤ tid*4+j; omega))

theorem centred_sum : ∑ d : Fin gpt2DModel, cells row d = 0 := by
  rw [← h.sum]
  exact Finset.sum_congr rfl fun d _ => cells_row row d

theorem centred_squares : ∑ lane ∈ Finset.range warpSize, localVarSum (cells row) 0 lane =
    squares row := by
  have hzero (d : ℕ) (hd : d ∉ Finset.range (warpSize*4)) : cells row d*cells row d = 0 := by
    have hle : warpSize*4 ≤ d := Nat.not_lt.mp (mt Finset.mem_range.mpr hd)
    unfold cells
    split
    · rw [h.zero _ hle, mul_zero]
    · rw [mul_zero]
  have hcells : squares row = ∑ d : Fin gpt2DModel, cells row d*cells row d :=
    Finset.sum_congr rfl fun d _ => by rw [cells_row]
  simp only [localVarSum, mean, zero_div, sub_zero]
  rw [local_sums, hcells, Fin.sum_univ_eq_sum_range fun d => cells row d*cells row d]
  exact Finset.sum_subset (Finset.range_subset_range.mpr (by decide)) fun d _ hd => hzero d hd

theorem centred_returned (tid : ℕ) : firstReturned first (cells row) tid =
    if Late first tid then squares row else 0 := by
  rw [firstReturned, centred_sum h, centred_squares h]

theorem centred_second : secondReturned first (cells row) =
    squares row+lateSquares first (squares row) := by
  have hsquares : squares row = ∑ t ∈ Finset.range (layernormWarps*warpSize),
      localSum (fun d => cells row d*cells row d) t := by
    rw [block_sum, squares]
    exact Finset.sum_congr rfl fun d _ => by rw [cells_row]
  conv_rhs => rw [hsquares]
  rw [lateSquares, ← Finset.sum_add_distrib, secondReturned, ← hsquares]
  refine Finset.sum_congr rfl fun t ht => ?_
  rw [centred_returned h]
  by_cases hlate : Late first t
  · have hcells := centred_late h (Finset.mem_range.mp ht) hlate
    have hzero := hcells 0 (by decide)
    rw [Nat.add_zero] at hzero
    simp only [if_pos hlate, localVarSum, localSum, hzero, hcells 1 (by decide),
      hcells 2 (by decide), hcells 3 (by decide)]
    ring
  · simp only [if_neg hlate, localVarSum, mean, zero_div, sub_zero, add_zero]

/-- A late thread takes the mean of the squares for the mean. -/
theorem centred_row (gamma beta : Memory ℝ) (d : Fin gpt2DModel) :
    layernormRow first second gamma beta row d =
      (row d-if Late first (d/4) then mean (squares row) else 0)*
        (deviation first (squares row))⁻¹*gamma d+beta d := by
  rw [layernormRow, output, rowRun]
  dsimp only
  rw [centred_returned h, centred_second h, cells_row, deviation]
  congr 4
  split
  · rfl
  · rw [mean, zero_div]

end Centred

section Probe

def probeRow : Row gpt2DModel := fun d => if (d:ℕ) = 0 then 1 else if (d:ℕ) = 1 then -1 else 0

theorem probe_centred : Centred probeRow where
  sum := by
    simp only [probeRow]
    rw [Fin.sum_univ_eq_sum_range fun d => if d = 0 then (1:ℝ) else if d = 1 then -1 else 0,
      show gpt2DModel = 766+1+1 from rfl, Finset.sum_range_succ', Finset.sum_range_succ',
      Finset.sum_eq_zero fun d _ => by simp]
    simp
  zero := fun d hd => by
    unfold warpSize at hd
    rw [probeRow, if_neg (by omega), if_neg (by omega)]

theorem probe_squares_pos : 0 < squares probeRow := by
  have hle : probeRow 0*probeRow 0 ≤ squares probeRow :=
    Finset.single_le_sum (f := fun d => probeRow d*probeRow d) (fun d _ => mul_self_nonneg _)
      (Finset.mem_univ 0)
  have hone : probeRow 0 = 1 := if_pos rfl
  rw [hone, one_mul] at hle
  exact zero_lt_one.trans_le hle

variable (first : BlockSchedule (layernormWarps*warpSize) true)
  (second : BlockSchedule (layernormWarps*warpSize) false)

/-- A late thread subtracts a mean that is not the row's. -/
theorem prompt_of_exact (h : Exact first second) : PromptLoads first := by
  intro _ t hwarp ht hlate
  have hd : t*4 < gpt2DModel := by
    rw [← row_width]
    exact Nat.mul_lt_mul_of_pos_right ht (by decide)
  let d : Fin gpt2DModel := ⟨t*4,hd⟩
  have hthread : (d:ℕ)/4 = t := Nat.mul_div_cancel t (by decide)
  have hzero : probeRow d = 0 := probe_centred.zero d (Nat.mul_le_mul_right 4 hwarp)
  have hout := h (cells probeRow) (fun _ => 1) (fun _ => 0) (rowRun first second (cells probeRow)) d
  rw [← layernormRow, centred_row probe_centred, hthread, if_pos hlate, hzero, mul_one,
    add_zero] at hout
  have hexact : layernorm (fun _ => 1) (fun _ => 0) (fun i => cells probeRow i) d = 0 := by
    simp [layernorm, cells_row, probe_centred.sum, hzero]
  have hmean : 0 < mean (squares probeRow) :=
    div_pos probe_squares_pos (Nat.cast_pos.mpr (by decide))
  have hroot := inv_pos.mpr (deviation_pos first probe_squares_pos.le)
  rw [hexact, zero_sub, neg_mul, neg_eq_zero] at hout
  exact (mul_pos hmean hroot).ne' hout

end Probe

/-- Layer norm is exact in the schedules in which no thread is late for the first sum, and in no
others. -/
theorem layernorm_exact_iff (first : BlockSchedule (layernormWarps*warpSize) true)
    (second : BlockSchedule (layernormWarps*warpSize) false) :
    Exact first second ↔ PromptLoads first :=
  ⟨prompt_of_exact first second,exact_of_prompt⟩

end MiniLlm.LayernormKernel

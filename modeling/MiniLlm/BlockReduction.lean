import Mathlib.Algebra.BigOperators.Group.Finset.Basic
import Mathlib.Tactic

/-!
# Reductions and loops of a thread block

A warp combines its values by shuffles: in each step a lane takes the value
some lanes above it, or its own where there is no such lane, so that only
lane 0 ends up with all of them. The warps leave their results in shared
memory, and the first thread combines those. The loops of a block give each
thread every `blockDim`-th index.
-/

set_option autoImplicit false

namespace MiniLlm.BlockReduction

variable {M : Type*} (op : M → M → M)

def warpSize : ℕ := 32

/-- `__shfl_down_sync` over all lanes of a warp. -/
def shflDown (offset : ℕ) (val : ℕ → M) (lane : ℕ) : M :=
  if lane+offset < warpSize then val (lane+offset) else val lane

/-- The loop over the offsets `2^(n-1)` down to 1. -/
def warpRounds : ℕ → (ℕ → M) → ℕ → M
  | 0, val => val
  | n+1, val => warpRounds n fun lane => op (val lane) (shflDown (2^n) val lane)

/-- `warp_reduce_sum` and `warp_reduce_max`; the offsets start at 16. -/
def warpReduce (val : ℕ → M) : ℕ → M := warpRounds op 5 val

/-- What the first lane of a warp puts into `shared`. -/
def warpValue (val : ℕ → M) (warp : ℕ) : M := warpReduce op (fun lane => val (warp*warpSize+lane)) 0

def numWarps (blockDim : ℕ) : ℕ := (blockDim+31)/32

/-- `block_reduce_sum`, which starts from zero. -/
def blockReduceSum [Add M] [Zero M] (blockDim : ℕ) (val : ℕ → M) : M :=
  (List.range (numWarps blockDim)).foldl (fun total i => total+warpValue (·+·) val i) 0

/-- `block_reduce_max`, which starts from the value of the first warp. -/
def blockReduceMax [Max M] (blockDim : ℕ) (val : ℕ → M) : M :=
  (List.range (numWarps blockDim-1)).foldl
    (fun maxVal i => max maxVal (warpValue max val (i+1))) (warpValue max val 0)

def rangeFold (f : ℕ → M) : ℕ → M
  | 0 => f 0
  | n+1 => op (rangeFold f n) (f (n+1))

section Fold

variable {op}

theorem range_fold_congr {f g : ℕ → M} {n : ℕ} (h : ∀ i ≤ n, f i = g i) :
    rangeFold op f n = rangeFold op g n := by
  induction n with
  | zero => exact h 0 (le_refl 0)
  | succ n ih =>
    rw [rangeFold, rangeFold, ih fun i hi => h i (Nat.le_succ_of_le hi), h (n+1) (le_refl _)]

variable [Std.Associative op]

theorem range_fold_append (f : ℕ → M) (m n : ℕ) :
    rangeFold op f (m+1+n) = op (rangeFold op f m) (rangeFold op (fun i => f (m+1+i)) n) := by
  have hassoc (a b c : M) : op (op a b) c = op a (op b c) := Std.Associative.assoc a b c
  induction n with
  | zero => rfl
  | succ n ih => rw [← Nat.add_assoc, rangeFold, ih, rangeFold, hassoc, Nat.add_assoc]

variable [Std.Commutative op]

theorem range_fold_zip (f g : ℕ → M) (n : ℕ) :
    rangeFold op (fun i => op (f i) (g i)) n = op (rangeFold op f n) (rangeFold op g n) := by
  induction n with
  | zero => rfl
  | succ n ih =>
    rw [rangeFold, ih, rangeFold, rangeFold]
    ac_rfl

theorem warp_rounds_first (n : ℕ) (val : ℕ → M) (h : 2^n ≤ warpSize) :
    warpRounds op n val 0 = rangeFold op val (2^n-1) := by
  induction n generalizing val with
  | zero => rfl
  | succ n ih =>
    have hpos : 0 < 2^n := Nat.two_pow_pos n
    have hhalf : 2^n ≤ warpSize := (Nat.pow_le_pow_right (by decide) n.le_succ).trans h
    have hsplit : 2^(n+1)-1 = 2^n-1+1+(2^n-1) := by
      rw [Nat.pow_succ]
      omega
    have hlower (i : ℕ) (hi : i ≤ 2^n-1) :
        op (val i) (shflDown (2^n) val i) = op (val i) (val (2^n-1+1+i)) := by
      rw [shflDown, if_pos (by rw [Nat.pow_succ] at h; omega),
        show 2^n-1+1+i = i+2^n by omega]
    rw [warpRounds, ih _ hhalf, range_fold_congr hlower, range_fold_zip, hsplit,
      range_fold_append]

theorem warp_value_eq (val : ℕ → M) (warp : ℕ) :
    warpValue op val warp = rangeFold op (fun lane => val (warp*warpSize+lane)) 31 :=
  warp_rounds_first 5 _ (by decide)

end Fold

section Sum

variable [AddCommMonoid M]

theorem range_fold_sum (f : ℕ → M) (n : ℕ) :
    rangeFold (·+·) f n = ∑ i ∈ Finset.range (n+1), f i := by
  induction n with
  | zero => simp [rangeFold]
  | succ n ih => rw [rangeFold, ih, Finset.sum_range_succ _ (n+1)]

theorem foldl_sum (f : ℕ → M) (n : ℕ) :
    (List.range n).foldl (fun total i => total+f i) 0 = ∑ i ∈ Finset.range n, f i := by
  induction n with
  | zero => rfl
  | succ n ih => rw [List.range_succ, List.foldl_append, ih, Finset.sum_range_succ]; rfl

theorem warp_value_sum (val : ℕ → M) (warp : ℕ) :
    warpValue (·+·) val warp = ∑ lane ∈ Finset.range warpSize, val (warp*warpSize+lane) := by
  rw [warp_value_eq, range_fold_sum]
  rfl

theorem sum_warps (val : ℕ → M) (warps : ℕ) :
    ∑ warp ∈ Finset.range warps, ∑ lane ∈ Finset.range warpSize, val (warp*warpSize+lane) =
      ∑ tid ∈ Finset.range (warps*warpSize), val tid := by
  induction warps with
  | zero => simp
  | succ n ih => rw [Finset.sum_range_succ, ih, Nat.succ_mul, Finset.sum_range_add]

theorem block_reduce_sum_eq (warps : ℕ) (val : ℕ → M) :
    blockReduceSum (warps*warpSize) val = ∑ tid ∈ Finset.range (warps*warpSize), val tid := by
  have hwarps : numWarps (warps*warpSize) = warps := by
    unfold numWarps warpSize
    omega
  rw [blockReduceSum, hwarps, foldl_sum, ← sum_warps]
  exact Finset.sum_congr rfl fun warp _ => warp_value_sum val warp

end Sum

section Max

variable [LinearOrder M]

theorem le_range_fold_max (f : ℕ → M) (n i : ℕ) (h : i ≤ n) : f i ≤ rangeFold max f n := by
  induction n with
  | zero =>
    obtain rfl := Nat.le_zero.mp h
    exact le_refl _
  | succ n ih =>
    rcases Nat.le_succ_iff.mp h with hi | rfl
    · exact (ih hi).trans (le_max_left _ _)
    · exact le_max_right _ _

theorem range_fold_max_mem (f : ℕ → M) (n : ℕ) : ∃ i ≤ n, rangeFold max f n = f i := by
  induction n with
  | zero => exact ⟨0,le_refl 0,rfl⟩
  | succ n ih =>
    obtain ⟨i,hi,hfold⟩ := ih
    rcases max_choice (rangeFold max f n) (f (n+1)) with hmax | hmax
    · exact ⟨i,Nat.le_succ_of_le hi,hmax.trans hfold⟩
    · exact ⟨n+1,le_refl _,hmax⟩

theorem foldl_max_eq (f : ℕ → M) (n : ℕ) :
    (List.range n).foldl (fun m i => max m (f (i+1))) (f 0) = rangeFold max f n := by
  induction n with
  | zero => rfl
  | succ n ih => rw [List.range_succ, List.foldl_append, ih]; rfl

theorem block_reduce_max_eq (warps : ℕ) (val : ℕ → M) (h : 0 < warps) :
    (∀ tid < warps*warpSize, val tid ≤ blockReduceMax (warps*warpSize) val) ∧
      ∃ tid < warps*warpSize, blockReduceMax (warps*warpSize) val = val tid := by
  have hwarps : numWarps (warps*warpSize) = warps := by
    unfold numWarps warpSize
    omega
  have hblock : blockReduceMax (warps*warpSize) val =
      rangeFold max (warpValue max val) (warps-1) := by
    rw [blockReduceMax, hwarps, foldl_max_eq]
  rw [hblock]
  constructor
  · intro tid htid
    have hwarp : tid/warpSize ≤ warps-1 := by
      have := Nat.div_lt_of_lt_mul (Nat.mul_comm warps warpSize ▸ htid)
      omega
    have hlane : tid%warpSize ≤ 31 := Nat.le_of_lt_succ (Nat.mod_lt _ (by decide))
    have hin := le_range_fold_max (fun lane => val (tid/warpSize*warpSize+lane)) 31 _ hlane
    rw [← warp_value_eq, Nat.div_add_mod'] at hin
    exact hin.trans (le_range_fold_max _ _ _ hwarp)
  · obtain ⟨warp,hwarp,hfold⟩ := range_fold_max_mem (warpValue max val) (warps-1)
    obtain ⟨lane,hlane,hvalue⟩ :=
      range_fold_max_mem (fun lane => val (warp*warpSize+lane)) 31
    refine ⟨warp*warpSize+lane,?_,?_⟩
    · have hle : warp*warpSize ≤ (warps-1)*warpSize := Nat.mul_le_mul_right _ hwarp
      have hlast : warps*warpSize = (warps-1)*warpSize+warpSize := by
        rw [← Nat.succ_mul, Nat.succ_eq_add_one, Nat.sub_add_cancel h]
      unfold warpSize at *
      omega
    · rw [hfold, warp_value_eq, hvalue]

theorem foldl_max_bounds (xs : List M) (m : M) :
    m ≤ xs.foldl max m ∧ (∀ x ∈ xs, x ≤ xs.foldl max m) ∧
      (xs.foldl max m = m ∨ xs.foldl max m ∈ xs) := by
  induction xs generalizing m with
  | nil => simp
  | cons x xs ih =>
    obtain ⟨hm,hxs,hattained⟩ := ih (max m x)
    refine ⟨(le_max_left m x).trans hm,?_,?_⟩
    · intro y hy
      rcases List.mem_cons.mp hy with rfl | hy
      · exact (le_max_right m y).trans hm
      · exact hxs y hy
    · rcases hattained with h | h
      · rcases max_choice m x with hmax | hmax
        · exact .inl (h.trans hmax)
        · exact .inr (List.mem_cons.mpr (.inl (h.trans hmax)))
      · exact .inr (List.mem_cons_of_mem x h)

end Max

section Loops

/-- The indices of the loop `for (i = first; i < n; i += step)`, with a bound on its turns. -/
def strided (step n : ℕ) : ℕ → ℕ → List ℕ
  | 0, _ => []
  | turns+1, i => if i < n then i::strided step n turns (i+step) else []

theorem mem_strided {step n : ℕ} (turns i j : ℕ) (hstep : 0 < step) (hturns : n ≤ i+turns) :
    j ∈ strided step n turns i ↔ j < n ∧ i ≤ j ∧ j%step = i%step := by
  induction turns generalizing i with
  | zero =>
    simp only [strided, List.not_mem_nil, false_iff]
    omega
  | succ turns ih =>
    unfold strided
    split
    · rw [List.mem_cons, ih (i+step) (by omega), Nat.add_mod_right]
      constructor
      · rintro (rfl | ⟨hj,hle,hmod⟩)
        · exact ⟨‹_›,le_refl _,rfl⟩
        · exact ⟨hj,by omega,hmod⟩
      · rintro ⟨hj,hle,hmod⟩
        by_cases heq : j = i
        · exact .inl heq
        · refine .inr ⟨hj,?_,hmod⟩
          by_contra hlt
          have hdvd : step ∣ j-i := (Nat.modEq_iff_dvd' hle).mp hmod.symm
          have := Nat.le_of_dvd (by omega) hdvd
          omega
    · simp only [List.not_mem_nil, false_iff]
      omega

theorem strided_nodup (step n turns i : ℕ) (hstep : 0 < step) (hturns : n ≤ i+turns) :
    (strided step n turns i).Nodup := by
  induction turns generalizing i with
  | zero => exact List.nodup_nil
  | succ turns ih =>
    unfold strided
    split
    · refine List.nodup_cons.mpr ⟨fun hm => ?_,ih _ (by omega)⟩
      have := ((mem_strided turns (i+step) i hstep (by omega)).mp hm).2.1
      omega
    · exact List.nodup_nil

theorem sum_strided [AddCommMonoid M] (step n : ℕ) (hstep : 0 < step) (f : ℕ → M) :
    ∑ tid ∈ Finset.range step, ((strided step n n tid).map f).sum =
      ∑ i ∈ Finset.range n, f i := by
  have hthread (tid : ℕ) (htid : tid ∈ Finset.range step) :
      ((strided step n n tid).map f).sum =
        ∑ i ∈ Finset.range n with i%step = tid, f i := by
    have hlt := Finset.mem_range.mp htid
    rw [← List.sum_toFinset _ (strided_nodup step n n tid hstep (by omega))]
    apply Finset.sum_congr _ fun _ _ => rfl
    ext i
    rw [List.mem_toFinset, mem_strided n tid i hstep (by omega), Finset.mem_filter,
      Finset.mem_range, Nat.mod_eq_of_lt hlt]
    constructor
    · exact fun h => ⟨h.1,h.2.2⟩
    · exact fun h => ⟨h.1,h.2 ▸ Nat.mod_le i step,h.2⟩
  rw [Finset.sum_congr rfl hthread]
  exact Finset.sum_fiberwise_of_maps_to (fun i _ => Finset.mem_range.mpr (Nat.mod_lt i hstep)) f

theorem block_max_strided [LinearOrder M] [OrderBot M] (warps n : ℕ) (hwarps : 0 < warps)
    (val g : ℕ → M) (hval : ∀ tid < warps*warpSize,
      val tid = ((strided (warps*warpSize) n n tid).map g).foldl max ⊥) :
    (∀ i < n, g i ≤ blockReduceMax (warps*warpSize) val) ∧
      (blockReduceMax (warps*warpSize) val = ⊥ ∨
        ∃ i < n, blockReduceMax (warps*warpSize) val = g i) := by
  have hstep : 0 < warps*warpSize := Nat.mul_pos hwarps (by decide)
  obtain ⟨hbound,tid,htid,hattained⟩ := block_reduce_max_eq warps val hwarps
  constructor
  · intro i hi
    have hlt := Nat.mod_lt i hstep
    have hmem : i ∈ strided (warps*warpSize) n n (i%(warps*warpSize)) := by
      rw [mem_strided _ _ _ hstep (Nat.le_add_left n _), Nat.mod_mod]
      exact ⟨hi,Nat.mod_le _ _,rfl⟩
    have hle := (foldl_max_bounds ((strided (warps*warpSize) n n (i%(warps*warpSize))).map g)
      ⊥).2.1 (g i) (List.mem_map_of_mem hmem)
    rw [← hval _ hlt] at hle
    exact hle.trans (hbound _ hlt)
  · rw [hattained, hval tid htid]
    rcases (foldl_max_bounds ((strided (warps*warpSize) n n tid).map g) ⊥).2.2 with h | h
    · exact .inl h
    · obtain ⟨i,hi,hgi⟩ := List.mem_map.mp h
      refine .inr ⟨i,?_,hgi.symm⟩
      exact ((mem_strided n tid i hstep (Nat.le_add_left n tid)).mp hi).1

end Loops

section Rewriting

variable {α β : Type*} (f : ℕ → α → α) (op : β → α → β) (step n : ℕ) (init : β)

def rewriteTurn (s : (ℕ → α) × β) (i : ℕ) : (ℕ → α) × β :=
  (Function.update s.1 i (f i (s.1 i)),op s.2 (f i (s.1 i)))

def rewriteThread (cells : ℕ → α) (tid : ℕ) : (ℕ → α) × β :=
  (strided step n n tid).foldl (rewriteTurn f op) (cells,init)

def rewriteThreads (cells : ℕ → α) : ℕ → (ℕ → α) × (ℕ → β)
  | 0 => (cells,fun _ => init)
  | tid+1 =>
    let s := rewriteThreads cells tid
    let thread := rewriteThread f op step n init s.1 tid
    (thread.1,Function.update s.2 tid thread.2)

def rewriteBlock (cells : ℕ → α) : (ℕ → α) × (ℕ → β) := rewriteThreads f op step n init cells step

theorem rewrite_turns (indices : List ℕ) (hd : indices.Nodup) (cells : ℕ → α) (b : β) :
    indices.foldl (rewriteTurn f op) (cells,b) =
      (fun i => if i ∈ indices then f i (cells i) else cells i,
        (indices.map fun i => f i (cells i)).foldl op b) := by
  induction indices generalizing cells b with
  | nil => simp
  | cons j indices ih =>
    obtain ⟨hj,hd⟩ := List.nodup_cons.mp hd
    rw [List.foldl_cons, rewriteTurn, ih hd]
    have hother (i : ℕ) (hi : i ∈ indices) : Function.update cells j (f j (cells j)) i = cells i :=
      Function.update_of_ne (fun h : i = j => hj (h ▸ hi)) _ _
    apply Prod.ext
    · funext i
      dsimp only
      by_cases hi : i ∈ indices
      · rw [if_pos hi, if_pos (List.mem_cons_of_mem j hi), hother i hi]
      · rw [if_neg hi]
        by_cases hij : i = j
        · rw [hij, if_pos List.mem_cons_self, Function.update_self]
        · rw [if_neg (List.not_mem_cons_of_ne_of_not_mem hij hi), Function.update_of_ne hij]
    · have hmap : indices.map (fun i => f i (Function.update cells j (f j (cells j)) i)) =
          indices.map fun i => f i (cells i) :=
        List.map_congr_left fun i hi => by rw [hother i hi]
      dsimp only
      rw [hmap]
      rfl

theorem rewrite_threads_eq (cells : ℕ → α) (threads : ℕ) (h : threads ≤ step) :
    (∀ i, (rewriteThreads f op step n init cells threads).1 i =
      if i < n ∧ i%step < threads then f i (cells i) else cells i) ∧
      ∀ tid < threads, (rewriteThreads f op step n init cells threads).2 tid =
        ((strided step n n tid).map fun i => f i (cells i)).foldl op init := by
  induction threads with
  | zero => simp [rewriteThreads]
  | succ tid ih =>
    obtain ⟨hcells,htaken⟩ := ih (Nat.le_of_succ_le h)
    have hstep : 0 < step := Nat.zero_lt_of_lt h
    have hmem (i : ℕ) : i ∈ strided step n n tid ↔ i < n ∧ i%step = tid := by
      rw [mem_strided n tid i hstep (Nat.le_add_left n tid), Nat.mod_eq_of_lt h]
      constructor
      · exact fun hi => ⟨hi.1,hi.2.2⟩
      · exact fun hi => ⟨hi.1,hi.2 ▸ Nat.mod_le i step,hi.2⟩
    have hown (i : ℕ) (hi : i ∈ strided step n n tid) :
        (rewriteThreads f op step n init cells tid).1 i = cells i := by
      rw [hcells, if_neg fun hlt => ((hmem i).mp hi).2.not_lt hlt.2]
    have hthread : rewriteThread f op step n init
        (rewriteThreads f op step n init cells tid).1 tid = _ :=
      rewrite_turns f op _ (strided_nodup step n n tid hstep (Nat.le_add_left n tid)) _ init
    constructor
    · intro i
      rw [rewriteThreads, hthread]
      dsimp only
      by_cases hi : i ∈ strided step n n tid
      · have hi' := (hmem i).mp hi
        rw [if_pos hi, hown i hi, if_pos ⟨hi'.1,hi'.2.trans_lt (Nat.lt_succ_self tid)⟩]
      · rw [if_neg hi, hcells]
        congr 1
        rw [hmem] at hi
        apply propext
        omega
    · intro other hother
      rw [rewriteThreads, hthread]
      dsimp only
      by_cases heq : other = tid
      · rw [heq, Function.update_self, List.map_congr_left fun i hi => by rw [hown i hi]]
      · rw [Function.update_of_ne heq, htaken other (by omega)]

theorem rewrite_block_eq (hstep : 0 < step) (cells : ℕ → α) :
    (∀ i, (rewriteBlock f op step n init cells).1 i = if i < n then f i (cells i) else cells i) ∧
      ∀ tid < step, (rewriteBlock f op step n init cells).2 tid =
        ((strided step n n tid).map fun i => f i (cells i)).foldl op init := by
  obtain ⟨hcells,htaken⟩ := rewrite_threads_eq f op step n init cells step (le_refl step)
  refine ⟨fun i => ?_,htaken⟩
  rw [rewriteBlock, hcells]
  simp only [Nat.mod_lt i hstep, and_true]

end Rewriting

end MiniLlm.BlockReduction

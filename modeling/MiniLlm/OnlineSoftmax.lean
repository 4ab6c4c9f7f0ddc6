import Mathlib.Analysis.SpecialFunctions.Exp
import Mathlib.Tactic

/-!
# Softmax averages in one pass

A softmax average can be accumulated key by key: the running maximum only
scales the two sums, and the scale cancels in the quotient. Before the first
key the maximum is minus infinity, whose exponential is zero.
-/

set_option autoImplicit false

namespace MiniLlm.OnlineSoftmax

variable {ι : Type*}

noncomputable def softmaxAverage (s v : ι → ℝ) (keys : Finset ι) : ℝ :=
  (∑ k ∈ keys, Real.exp (s k)*v k)/∑ k ∈ keys, Real.exp (s k)

theorem exp_sum_pos (s : ι → ℝ) {keys : Finset ι} (h : keys.Nonempty) :
    0 < ∑ k ∈ keys, Real.exp (s k) := Finset.sum_pos (fun k _ => Real.exp_pos (s k)) h

/-- Only the differences of scores matter. -/
theorem softmax_shift (s v : ι → ℝ) (keys : Finset ι) (c : ℝ) :
    softmaxAverage (fun k => s k-c) v keys = softmaxAverage s v keys := by
  have hexp (k : ι) : Real.exp (s k-c) = Real.exp (-c)*Real.exp (s k) := by
    rw [← Real.exp_add]
    ring_nf
  have hnum : ∑ k ∈ keys, Real.exp (s k-c)*v k =
      Real.exp (-c)*∑ k ∈ keys, Real.exp (s k)*v k := by
    rw [Finset.mul_sum]
    apply Finset.sum_congr rfl
    intro k _
    rw [hexp, mul_assoc]
  have hden : ∑ k ∈ keys, Real.exp (s k-c) = Real.exp (-c)*∑ k ∈ keys, Real.exp (s k) := by
    rw [Finset.mul_sum]
    exact Finset.sum_congr rfl fun k _ => hexp k
  unfold softmaxAverage
  rw [hnum, hden, mul_div_mul_left _ _ (Real.exp_pos _).ne']

theorem softmax_congr {s s' v v' : ι → ℝ} {keys : Finset ι} (hs : ∀ k ∈ keys, s k = s' k)
    (hv : ∀ k ∈ keys, v k = v' k) : softmaxAverage s v keys = softmaxAverage s' v' keys := by
  unfold softmaxAverage
  congr 1
  · exact Finset.sum_congr rfl fun k hk => by rw [hs k hk, hv k hk]
  · exact Finset.sum_congr rfl fun k hk => by rw [hs k hk]

theorem softmax_single (s v : ℕ → ℝ) : softmaxAverage s v (Finset.range 1) = v 0 := by
  rw [softmaxAverage, Finset.sum_range_one, Finset.sum_range_one,
    mul_div_cancel_left₀ _ (Real.exp_pos _).ne']

theorem softmax_one_key [DecidableEq ι] (x : ℝ) {keys : Finset ι} {key : ι} (h : key ∈ keys) :
    softmaxAverage (fun k => if k = key then x else 0) (fun k => if k = key then 1 else 0) keys =
      Real.exp x/(Real.exp x+(keys.erase key).card) := by
  have hnum : ∑ k ∈ keys, Real.exp (if k = key then x else 0)*(if k = key then 1 else 0) =
      Real.exp x := by
    rw [Finset.sum_eq_single_of_mem key h fun k _ hne => by
      rw [if_neg hne, if_neg hne, mul_zero]]
    rw [if_pos rfl, if_pos rfl, mul_one]
  have hrest : ∑ k ∈ keys.erase key, Real.exp (if k = key then x else 0) =
      (keys.erase key).card := by
    rw [Finset.sum_congr rfl fun k hk => by
      rw [if_neg (Finset.ne_of_mem_erase hk), Real.exp_zero]]
    simp
  unfold softmaxAverage
  rw [hnum, ← Finset.add_sum_erase keys _ h, hrest]
  dsimp only
  rw [if_pos rfl]

noncomputable def expBot : WithBot ℝ → ℝ := WithBot.recBotCoe 0 Real.exp

noncomputable def maxWith (m : WithBot ℝ) (x : ℝ) : ℝ := m.recBotCoe x (max · x)

structure Running where
  m : WithBot ℝ
  l : ℝ
  o : ℝ

noncomputable def start : Running := ⟨⊥,0,0⟩

noncomputable def absorb (s v : ℝ) (a : Running) : Running :=
  let mNew := maxWith a.m s
  let alpha := expBot (a.m.map (·-mNew))
  let p := Real.exp (s-mNew)
  ⟨mNew,a.l*alpha+p,a.o*alpha+p*v⟩

noncomputable def absorbAll (s v : ι → ℝ) (keys : List ι) (a : Running) : Running :=
  keys.foldl (fun a k => absorb (s k) (v k) a) a

/-- The two sums, up to the scale of the running maximum. -/
def Scaled (a : Running) (sum weighted : ℝ) : Prop :=
  (a.m = ⊥ ∧ a.l = 0 ∧ a.o = 0 ∧ sum = 0 ∧ weighted = 0) ∨
    ∃ m : ℝ, a.m = m ∧ a.l = Real.exp (-m)*sum ∧ a.o = Real.exp (-m)*weighted

theorem start_scaled : Scaled start 0 0 := .inl ⟨rfl,rfl,rfl,rfl,rfl⟩

/-- The sums, put on the scale of a new maximum. -/
theorem Scaled.rescale {a : Running} {sum weighted : ℝ} (h : Scaled a sum weighted) (m' : ℝ) :
    a.l*expBot (a.m.map (·-m')) = Real.exp (-m')*sum ∧
      a.o*expBot (a.m.map (·-m')) = Real.exp (-m')*weighted := by
  rcases h with ⟨_,hl,ho,rfl,rfl⟩ | ⟨m,hm,hl,ho⟩
  · rw [hl, ho]
    simp
  · have hscale : expBot (a.m.map (·-m')) = Real.exp (m-m') := by
      rw [hm]
      rfl
    have hback : Real.exp (-m)*Real.exp (m-m') = Real.exp (-m') := by
      rw [← Real.exp_add]
      ring_nf
    rw [hscale, hl, ho, ← hback]
    constructor <;> ring

theorem absorb_scaled {a : Running} {sum weighted : ℝ} (h : Scaled a sum weighted) (s v : ℝ) :
    Scaled (absorb s v a) (sum+Real.exp s) (weighted+Real.exp s*v) := by
  have hscore : Real.exp (s-maxWith a.m s) = Real.exp (-maxWith a.m s)*Real.exp s := by
    rw [← Real.exp_add]
    ring_nf
  obtain ⟨hl,ho⟩ := h.rescale (maxWith a.m s)
  refine .inr ⟨maxWith a.m s,rfl,?_,?_⟩
  · show a.l*_+Real.exp (s-_) = _
    rw [hl, hscore]
    ring
  · show a.o*_+Real.exp (s-_)*v = _
    rw [ho, hscore]
    ring

theorem absorb_all_scaled (s v : ι → ℝ) (keys : List ι) {a : Running} {sum weighted : ℝ}
    (h : Scaled a sum weighted) : Scaled (absorbAll s v keys a)
      (sum+(keys.map fun k => Real.exp (s k)).sum)
      (weighted+(keys.map fun k => Real.exp (s k)*v k).sum) := by
  induction keys generalizing a sum weighted with
  | nil => simpa [absorbAll] using h
  | cons k keys ih =>
    have hkey := ih (absorb_scaled h (s k) (v k))
    rw [List.map_cons, List.map_cons, List.sum_cons, List.sum_cons, ← add_assoc, ← add_assoc]
    exact hkey

theorem range_sum (f : ℕ → ℝ) (n : ℕ) : ((List.range n).map f).sum = ∑ k ∈ Finset.range n, f k :=
  rfl

/-- After some keys the divisor is positive and the quotient is their average. -/
theorem absorb_range (s v : ℕ → ℝ) (n : ℕ) (hn : 0 < n) :
    0 < (absorbAll s v (List.range n) start).l ∧
      (absorbAll s v (List.range n) start).o/(absorbAll s v (List.range n) start).l =
        softmaxAverage s v (Finset.range n) := by
  have hpos := exp_sum_pos s (Finset.nonempty_range_iff.mpr hn.ne')
  have hscaled := absorb_all_scaled s v (List.range n) start_scaled
  rw [range_sum, range_sum, zero_add, zero_add] at hscaled
  rcases hscaled with ⟨_,_,_,hzero,_⟩ | ⟨m,_,hl,ho⟩
  · exact absurd hzero hpos.ne'
  · rw [hl, ho, mul_div_mul_left _ _ (Real.exp_pos _).ne']
    exact ⟨mul_pos (Real.exp_pos _) hpos,rfl⟩

end MiniLlm.OnlineSoftmax

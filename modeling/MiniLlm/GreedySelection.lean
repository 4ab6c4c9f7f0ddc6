import MiniLlm.FlatMemory
import MiniLlm.Gpt2Backend

/-!
# Greedy selection

The pairs that `argmax_rows_kernel` compares are ordered by value and, among
equal values, against the index. A thread without columns contributes the
pair of minus infinity and 0, which any column covers or equals.
-/

set_option autoImplicit false

namespace MiniLlm

open FlatMemory

variable {F : Type*}

def linearComparison (F : Type*) [LinearOrder F] [OrderBot F] : FloatComparison F where
  gt a b := decide (b < a)
  eq a b := decide (a = b)
  negInf := ⊥

/-- `best` is at least as good a pair as `x`. -/
def Covers [LinearOrder F] (best x : F × ℕ) : Prop :=
  x.1 < best.1 ∨ x.1 = best.1 ∧ best.2 ≤ x.2

def Candidate [LinearOrder F] [OrderBot F] (row : ℕ → F) (cols : ℕ) (p : F × ℕ) : Prop :=
  p = (⊥,0) ∨ p.2 < cols ∧ p.1 = row p.2

section Pairs

variable [LinearOrder F]

theorem covers_refl (p : F × ℕ) : Covers p p := .inr ⟨rfl,le_rfl⟩

theorem Covers.trans {p q x : F × ℕ} (h : Covers p q) (h' : Covers q x) : Covers p x := by
  rcases h with h | ⟨h,hi⟩
  · left
    rcases h' with h' | ⟨h',_⟩
    · exact h'.trans h
    · rwa [h']
  · rcases h' with h' | ⟨h',hi'⟩
    · exact .inl (h ▸ h')
    · exact .inr ⟨h'.trans h,hi.trans hi'⟩

theorem covers_total {p q : F × ℕ} (h : ¬ Covers p q) : Covers q p := by
  unfold Covers at h ⊢
  rw [not_or, not_and_or] at h
  obtain ⟨hle,h⟩ := h
  rcases (not_lt.mp hle).lt_or_eq with hlt | heq
  · exact .inl hlt
  · exact .inr ⟨heq,(not_le.mp (h.resolve_left (not_not_intro heq.symm))).le⟩

variable [OrderBot F]

theorem better_pair_iff (new old : F × ℕ) :
    betterPair (linearComparison F) new old = true ↔ ¬ Covers old new := by
  simp only [betterPair, linearComparison, Covers, Bool.or_eq_true, Bool.and_eq_true,
    decide_eq_true_eq, not_or, not_lt, not_and_or, not_le]
  constructor
  · rintro (h | ⟨h,hi⟩)
    · exact ⟨h.le,.inl h.ne'⟩
    · exact ⟨h.ge,.inr hi⟩
  · rintro ⟨hle,hne | hi⟩
    · exact .inl (lt_of_le_of_ne hle (Ne.symm hne))
    · rcases hle.lt_or_eq with hlt | heq
      · exact .inl hlt
      · exact .inr ⟨heq.symm,hi⟩

theorem keep_better_covers (new old : F × ℕ) :
    Covers (keepBetter (linearComparison F) new old) new ∧
      Covers (keepBetter (linearComparison F) new old) old := by
  unfold keepBetter
  split
  · rename_i h
    exact ⟨covers_refl _,covers_total ((better_pair_iff new old).mp h)⟩
  · rename_i h
    rw [better_pair_iff, not_not] at h
    exact ⟨h,covers_refl _⟩

variable {row : ℕ → F} {cols : ℕ}

theorem keep_better_candidate {new old : F × ℕ} (hn : Candidate row cols new)
    (ho : Candidate row cols old) :
    Candidate row cols (keepBetter (linearComparison F) new old) := by
  unfold keepBetter
  split
  · exact hn
  · exact ho

variable (row) in
theorem scan_columns_covers (n col : ℕ) (best : F × ℕ) (hbest : Candidate row cols best)
    (hn : cols ≤ col+argmaxThreads*n) :
    Candidate row cols (scanColumns (linearComparison F) row cols n col best) ∧
      Covers (scanColumns (linearComparison F) row cols n col best) best ∧
      ∀ i, col+argmaxThreads*i < cols →
        Covers (scanColumns (linearComparison F) row cols n col best)
          (row (col+argmaxThreads*i),col+argmaxThreads*i) := by
  induction n generalizing col best with
  | zero => exact ⟨hbest,covers_refl _,fun i hi => absurd hi (by omega)⟩
  | succ n ih =>
    unfold scanColumns
    by_cases hcol : col < cols
    · rw [if_pos hcol]
      obtain ⟨hnew,hold⟩ := keep_better_covers (row col,col) best
      have hcolumn : Candidate row cols (row col,col) := .inr ⟨hcol,rfl⟩
      have hkeep := keep_better_candidate hcolumn hbest
      obtain ⟨hcand,hcover,hrest⟩ := ih (col+argmaxThreads) _ hkeep
        (by rw [Nat.mul_succ] at hn; omega)
      refine ⟨hcand,hcover.trans hold,fun i hi => ?_⟩
      cases i with
      | zero => exact hcover.trans hnew
      | succ i =>
        have hnext : col+argmaxThreads*(i+1) = col+argmaxThreads+argmaxThreads*i := by
          rw [Nat.mul_succ]
          omega
        rw [hnext] at hi ⊢
        exact hrest i hi
    · rw [if_neg hcol]
      exact ⟨hbest,covers_refl _,fun i hi => absurd hi (by omega)⟩

theorem reduce_round_covers (n : ℕ) (shared : ℕ → F × ℕ)
    (hcand : ∀ tid, Candidate row cols (shared tid))
    (hcover : ∀ c < cols, ∃ tid < 2^(n+1), Covers (shared tid) (row c,c)) :
    (∀ tid, Candidate row cols (reduceRound (linearComparison F) (2^n) shared tid)) ∧
      ∀ c < cols, ∃ tid < 2^n,
        Covers (reduceRound (linearComparison F) (2^n) shared tid) (row c,c) := by
  constructor
  · intro tid
    unfold reduceRound
    split
    · exact keep_better_candidate (hcand _) (hcand tid)
    · exact hcand tid
  · intro c hc
    obtain ⟨tid,htid,hpair⟩ := hcover c hc
    rw [pow_succ] at htid
    by_cases hlow : tid < 2^n
    · refine ⟨tid,hlow,?_⟩
      rw [reduceRound, if_pos hlow]
      exact (keep_better_covers _ _).2.trans hpair
    · have hhigh : tid-2^n < 2^n := by omega
      refine ⟨tid-2^n,hhigh,?_⟩
      rw [reduceRound, if_pos hhigh, Nat.sub_add_cancel (not_lt.mp hlow)]
      exact (keep_better_covers _ _).1.trans hpair

theorem reduce_rounds_covers (n : ℕ) (shared : ℕ → F × ℕ)
    (hcand : ∀ tid, Candidate row cols (shared tid))
    (hcover : ∀ c < cols, ∃ tid < 2^n, Covers (shared tid) (row c,c)) :
    Candidate row cols (reduceRounds (linearComparison F) n shared 0) ∧
      ∀ c < cols, Covers (reduceRounds (linearComparison F) n shared 0) (row c,c) := by
  induction n generalizing shared with
  | zero =>
    refine ⟨hcand 0,fun c hc => ?_⟩
    obtain ⟨tid,htid,hpair⟩ := hcover c hc
    obtain rfl : tid = 0 := by omega
    exact hpair
  | succ n ih =>
    obtain ⟨hcand',hcover'⟩ := reduce_round_covers n shared hcand hcover
    exact ih _ hcand' hcover'

theorem covering_candidate {p : F × ℕ} (hcols : 0 < cols) (hp : Candidate row cols p)
    (hcover : ∀ c < cols, Covers p (row c,c)) :
    IsLeast {c | c < cols ∧ ∀ c' < cols, row c' ≤ row c} p.2 := by
  have hle (c : ℕ) (hc : c < cols) : row c ≤ p.1 := by
    rcases hcover c hc with h | ⟨h,_⟩
    · exact h.le
    · exact h.le
  have hcol : p.2 < cols ∧ p.1 = row p.2 := by
    rcases hp with rfl | hp
    · exact ⟨hcols,(le_bot_iff.mp (hle 0 hcols)).symm⟩
    · exact hp
  refine ⟨⟨hcol.1,fun c hc => hcol.2 ▸ hle c hc⟩,?_⟩
  rintro c ⟨hc,hmax⟩
  rcases hcover c hc with h | ⟨_,hi⟩
  · exact absurd (hmax p.2 hcol.1) (by rw [← hcol.2]; exact not_le.mpr h)
  · exact hi

variable (row) in
/-- The kernel selects the first column at which a row is largest. -/
theorem argmax_row_first (hcols : 0 < cols) :
    IsLeast {c | c < cols ∧ ∀ c' < cols, row c' ≤ row c}
      (argmaxRow (linearComparison F) row cols) := by
  have hthread (tid : ℕ) := scan_columns_covers row cols tid (⊥,0) (.inl rfl)
    (show cols ≤ tid+argmaxThreads*cols by unfold argmaxThreads; omega)
  obtain ⟨hcand,hcover⟩ := reduce_rounds_covers 8
    (threadBest (linearComparison F) row cols) (fun tid => (hthread tid).1) (by
      intro c hc
      have hsplit : c%argmaxThreads+argmaxThreads*(c/argmaxThreads) = c := Nat.mod_add_div _ _
      have hcolumn := (hthread (c%argmaxThreads)).2.2 (c/argmaxThreads) (by rwa [hsplit])
      rw [hsplit] at hcolumn
      exact ⟨c%argmaxThreads,Nat.mod_lt _ (by decide),hcolumn⟩)
  exact covering_candidate hcols hcand hcover

end Pairs

end MiniLlm

import MiniLlm.Gpt2Model
import MiniLlm.SchedulerSteps

/-!
# The tokens of the model

The forward pass up to the logits is a parameter. What follows it is not:
each thread of `argmax_rows_kernel` scans every 256th column, and the threads
of the block then compare their candidates pairwise. Floats are a type with
the two comparisons the kernel makes, about which nothing is assumed, so the
results hold for rows of NaNs too.
-/

set_option autoImplicit false

namespace MiniLlm

variable {F B : Type*}

structure FloatComparison (F : Type*) where
  gt : F → F → Bool
  eq : F → F → Bool
  negInf : F

def argmaxThreads : ℕ := 256

def betterPair (cmp : FloatComparison F) (new old : F × ℕ) : Bool :=
  cmp.gt new.1 old.1 || (cmp.eq new.1 old.1 && decide (new.2 < old.2))

def keepBetter (cmp : FloatComparison F) (new old : F × ℕ) : F × ℕ :=
  if betterPair cmp new old then new else old

/-- The columns of one thread, from `col` on. -/
def scanColumns (cmp : FloatComparison F) (row : ℕ → F) (cols : ℕ) : ℕ → ℕ → F × ℕ → F × ℕ
  | 0, _, best => best
  | n+1, col, best =>
    if col < cols then
      scanColumns cmp row cols n (col+argmaxThreads) (keepBetter cmp (row col,col) best)
    else best

/-- What thread `tid` puts into shared memory. -/
def threadBest (cmp : FloatComparison F) (row : ℕ → F) (cols tid : ℕ) : F × ℕ :=
  scanColumns cmp row cols cols tid (cmp.negInf,0)

def reduceRound (cmp : FloatComparison F) (stride : ℕ) (shared : ℕ → F × ℕ) (tid : ℕ) : F × ℕ :=
  if tid < stride then keepBetter cmp (shared (tid+stride)) (shared tid) else shared tid

/-- The rounds with strides `2^(n-1)` down to 1. -/
def reduceRounds (cmp : FloatComparison F) : ℕ → (ℕ → F × ℕ) → ℕ → F × ℕ
  | 0, shared => shared
  | n+1, shared => reduceRounds cmp n (reduceRound cmp (2^n) shared)

/-- `output_tokens[row]`; the strides start at half of 256. -/
def argmaxRow (cmp : FloatComparison F) (row : ℕ → F) (cols : ℕ) : ℕ :=
  (reduceRounds cmp 8 (threadBest cmp row cols) 0).2

structure Gpt2Forward (F B : Type*) where
  prefill : B → List Request → B × (ℕ → ℕ → F)
  decode : B → List Request → B × (ℕ → ℕ → F)

def modelAnswer (cmp : FloatComparison F) (logits : ℕ → ℕ → F) (r : Request) (i : ℕ) : Response :=
  let token := argmaxRow cmp (logits i) gpt2VocabSize
  Response.new r.requestId token (decide (token = gpt2EosTokenId))

def modelAnswers (cmp : FloatComparison F) (logits : ℕ → ℕ → F) (reqs : List Request) :
    List Response :=
  reqs.zipIdx.map fun x => modelAnswer cmp logits x.1 x.2

/-- `GPT2Model` as a backend. -/
def gpt2Backend (cmp : FloatComparison F) (forward : Gpt2Forward F B) : InferenceBackend B where
  prefill := fun b reqs =>
    let out := forward.prefill b reqs
    (modelAnswers cmp out.2 reqs,out.1)
  decode := fun b reqs =>
    if reqs.isEmpty then ([],b) else
    let out := forward.decode b reqs
    (modelAnswers cmp out.2 reqs,out.1)

def InVocabulary (token : ℤ) : Prop := 0 ≤ token ∧ token < gpt2VocabSize

instance (token : ℤ) : Decidable (InVocabulary token) :=
  inferInstanceAs (Decidable (_ ∧ _))

def VocabularyAnswer (_ : Request) (resp : Response) : Prop := InVocabulary resp.token

section Argmax

variable (cmp : FloatComparison F) {cols : ℕ}

theorem keep_better_bound {new old : F × ℕ} (hn : new.2 < cols) (ho : old.2 < cols) :
    (keepBetter cmp new old).2 < cols := by
  unfold keepBetter
  split
  · exact hn
  · exact ho

theorem scan_columns_bound (row : ℕ → F) (n col : ℕ) (best : F × ℕ) (h : best.2 < cols) :
    (scanColumns cmp row cols n col best).2 < cols := by
  induction n generalizing col best with
  | zero => exact h
  | succ n ih =>
    unfold scanColumns
    split
    · apply ih
      exact keep_better_bound cmp (by assumption) h
    · exact h

theorem reduce_rounds_bound (n : ℕ) (shared : ℕ → F × ℕ) (h : ∀ tid, (shared tid).2 < cols)
    (tid : ℕ) : (reduceRounds cmp n shared tid).2 < cols := by
  induction n generalizing shared with
  | zero => exact h tid
  | succ n ih =>
    apply ih
    intro i
    unfold reduceRound
    split
    · exact keep_better_bound cmp (h _) (h i)
    · exact h i

/-- Whatever the logits are, the index is that of a column. -/
theorem argmax_row_bound (row : ℕ → F) (h : 0 < cols) : argmaxRow cmp row cols < cols := by
  apply reduce_rounds_bound
  intro tid
  exact scan_columns_bound cmp row _ _ _ h

end Argmax

theorem model_answers_vocabulary (cmp : FloatComparison F) (logits : ℕ → ℕ → F)
    (reqs : List Request) (resp : Response) (h : resp ∈ modelAnswers cmp logits reqs) :
    InVocabulary resp.token := by
  obtain ⟨x,_,rfl⟩ := List.mem_map.mp h
  have hbound := argmax_row_bound cmp (logits x.2) (show 0 < gpt2VocabSize by decide)
  exact ⟨Int.natCast_nonneg _,Int.ofNat_lt.mpr hbound⟩

theorem gpt2_answers (cmp : FloatComparison F) (forward : Gpt2Forward F B) :
    (gpt2Backend cmp forward).Answers VocabularyAnswer := by
  constructor
  · intro b batch i r resp _ ha
    exact model_answers_vocabulary cmp _ batch resp (List.mem_of_getElem? ha)
  · intro b batch i r resp _ ha
    simp only [gpt2Backend] at ha
    split at ha
    · simp at ha
    · exact model_answers_vocabulary cmp _ batch resp (List.mem_of_getElem? ha)

end MiniLlm

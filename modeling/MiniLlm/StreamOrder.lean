import Mathlib.Data.List.Basic
import Mathlib.Tactic.Common

/-!
# Launches on streams

A host puts launches on streams and does not wait for them. Two launches keep
their order if their streams are ordered with each other; otherwise the later
one may go first. A launch takes effect at one point. Over any state; a launch
that faults has no state after it, and then the run has none.
-/

set_option autoImplicit false

namespace MiniLlm.Streams

/-- `cudaStream_t`: the default stream, or one that `cudaStreamCreate` or
`cudaStreamCreateWithFlags` with `cudaStreamNonBlocking` made. -/
inductive CudaStream
  | default
  | blocking (id : ℕ)
  | nonBlocking (id : ℕ)
deriving DecidableEq

def CudaStream.Blocking : CudaStream → Prop
  | nonBlocking _ => False
  | _ => True

/-- A stream is ordered with itself; the default stream is with every blocking one. -/
def CudaStream.Ordered (s t : CudaStream) : Prop :=
  s = t ∨ s = default ∧ t.Blocking ∨ t = default ∧ s.Blocking

structure Launch (σ : Type*) where
  stream : CudaStream
  run : σ → Option σ

variable {σ : Type*}

inductive Executes : List (Launch σ) → σ → Option σ → Prop
  | done (s : σ) : Executes [] s (some s)
  | fault {before after : List (Launch σ)} {l : Launch σ} {s : σ}
      (hfirst : ∀ p ∈ before, ¬p.stream.Ordered l.stream) (hrun : l.run s = none) :
      Executes (before++l::after) s none
  | next {before after : List (Launch σ)} {l : Launch σ} {s t : σ} {r : Option σ}
      (hfirst : ∀ p ∈ before, ¬p.stream.Ordered l.stream) (hrun : l.run s = some t)
      (hrest : Executes (before++after) t r) : Executes (before++l::after) s r

def runAll (ls : List (Launch σ)) (s : σ) : Option σ := ls.foldlM (fun s l => l.run s) s

def InOrder (ls : List (Launch σ)) : Prop := ls.Pairwise fun l l' => l.stream.Ordered l'.stream

theorem run_all_cons (l : Launch σ) (ls : List (Launch σ)) (s : σ) :
    runAll (l::ls) s = (l.run s).bind (runAll ls) := List.foldlM_cons

theorem run_all_append (ls ls' : List (Launch σ)) (s : σ) :
    runAll (ls++ls') s = (runAll ls s).bind (runAll ls') := List.foldlM_append

@[simp] theorem run_all_singleton (l : Launch σ) (s : σ) : runAll [l] s = l.run s := by
  rw [run_all_cons]
  exact Option.bind_fun_some (l.run s)

theorem in_order_singleton (l : Launch σ) : InOrder [l] := List.pairwise_singleton _ l

theorem in_order_stream {ls : List (Launch σ)} {stream : CudaStream}
    (h : ∀ l ∈ ls, l.stream = stream) : InOrder ls :=
  List.pairwise_of_forall_mem_list fun l hl l' hl' => .inl ((h l hl).trans (h l' hl').symm)

theorem executes_run_all (ls : List (Launch σ)) (s : σ) : Executes ls s (runAll ls s) := by
  induction ls generalizing s with
  | nil => exact .done s
  | cons l ls ih =>
    have hfirst : ∀ p ∈ ([] : List (Launch σ)), ¬p.stream.Ordered l.stream :=
      fun p hp => absurd hp List.not_mem_nil
    rw [run_all_cons]
    cases hrun : l.run s with
    | none => exact .fault hfirst hrun
    | some t => exact .next hfirst hrun (ih t)

theorem only_first {before after : List (Launch σ)} {l : Launch σ}
    (h : InOrder (before++l::after)) (hfirst : ∀ p ∈ before, ¬p.stream.Ordered l.stream) :
    before = [] := by
  cases before with
  | nil => rfl
  | cons p before =>
    have hp := List.rel_of_pairwise_cons h (List.mem_append_right before List.mem_cons_self)
    exact absurd hp (hfirst p List.mem_cons_self)

/-- Where all streams are ordered, it is the only one. -/
theorem executes_in_order {ls : List (Launch σ)} {s : σ} {r : Option σ} (h : InOrder ls)
    (hrun : Executes ls s r) : r = runAll ls s := by
  induction hrun with
  | done s => rfl
  | fault hfirst hrun =>
    rw [only_first h hfirst, List.nil_append, run_all_cons, hrun]
    rfl
  | next hfirst hrun _ ih =>
    obtain rfl := only_first h hfirst
    rw [List.nil_append, run_all_cons, hrun]
    exact ih (List.Pairwise.of_cons h)

def Agree (same : σ → σ → Prop) (ls ls' : List (Launch σ)) (s : σ) : Prop :=
  ∀ r r', Executes ls s r → Executes ls' s r' → ∃ t t', r = some t ∧ r' = some t' ∧ same t t'

theorem agree_in_order {same : σ → σ → Prop} {ls ls' : List (Launch σ)} {s t t' : σ}
    (hls : InOrder ls) (hls' : InOrder ls') (ht : runAll ls s = some t)
    (ht' : runAll ls' s = some t') (hsame : same t t') : Agree same ls ls' s := by
  intro r r' hr hr'
  refine ⟨t,t',?_,?_,hsame⟩
  · rw [executes_in_order hls hr, ht]
  · rw [executes_in_order hls' hr', ht']

theorem not_agree_fault {same : σ → σ → Prop} {ls ls' : List (Launch σ)} {s : σ}
    (h : runAll ls s = none) : ¬Agree same ls ls' s := by
  intro hagree
  obtain ⟨t,_,ht,_⟩ := hagree _ _ (executes_run_all ls s) (executes_run_all ls' s)
  rw [h] at ht
  cases ht

theorem not_agree_fault_right {same : σ → σ → Prop} {ls ls' : List (Launch σ)} {s : σ}
    (h : runAll ls' s = none) : ¬Agree same ls ls' s := by
  intro hagree
  obtain ⟨_,_,_,ht,_⟩ := hagree _ _ (executes_run_all ls s) (executes_run_all ls' s)
  rw [h] at ht
  cases ht

/-- A last launch that none before it is ordered with may go first. -/
theorem executes_last_first {ls : List (Launch σ)} {l : Launch σ} {s t : σ}
    (hfirst : ∀ p ∈ ls, ¬p.stream.Ordered l.stream) (hrun : l.run s = some t) :
    Executes (ls++[l]) s (runAll ls t) := by
  have hrest := executes_run_all (ls++[]) t
  rw [List.append_nil] at hrest
  exact .next hfirst hrun (by rwa [List.append_nil])

section Pairs

variable {τ : Type*}

def Launch.first (l : Launch σ) : Launch (σ × τ) where
  stream := l.stream
  run := fun s => (l.run s.1).map fun t => (t,s.2)

def Launch.second (l : Launch τ) : Launch (σ × τ) where
  stream := l.stream
  run := fun s => (l.run s.2).map fun t => (s.1,t)

theorem run_all_first (ls : List (Launch σ)) (s : σ × τ) :
    runAll (ls.map Launch.first) s = (runAll ls s.1).map fun t => (t,s.2) := by
  induction ls generalizing s with
  | nil => rfl
  | cons l ls ih =>
    rw [List.map_cons, run_all_cons, run_all_cons]
    show ((l.run s.1).map fun t => (t,s.2)).bind _ = _
    cases l.run s.1 with
    | none => rfl
    | some t => exact ih (t,s.2)

end Pairs

end MiniLlm.Streams

import Mathlib.Data.List.Basic
import Mathlib.Data.List.Induction
import Mathlib.Data.List.Nodup
import Mathlib.Data.List.Flatten
import Mathlib.Logic.Function.Basic

/-!
# Shared memory between two barriers

Between two barriers every thread goes through its own accesses in order, and
nothing else orders the accesses of different threads. A store writes what
the thread computes from the values it has loaded in the interval. A cell
that one thread owns has one outcome; where two threads meet in a cell, the
order of the two accesses decides.
-/

set_option autoImplicit false

namespace MiniLlm.BarrierInterval

inductive Access (κ : Type*) where
  | load (cell : κ)
  | store (cell : κ)
  deriving DecidableEq, Repr

def Access.cell {κ : Type*} : Access κ → κ
  | .load c | .store c => c

structure State (ι κ M : Type*) where
  shared : κ → M
  loaded : ι → List M

variable {ι κ M : Type*} [DecidableEq ι]

def own (t : ι) (events : List (ι × Access κ)) : List (Access κ) :=
  events.filterMap fun e => if e.1 = t then some e.2 else none

/-- An interleaving of what the threads do. -/
structure Interleaving (progs : ι → List (Access κ)) where
  events : List (ι × Access κ)
  own_eq : ∀ t, own t events = progs t

def Before (first second : ι × Access κ) (events : List (ι × Access κ)) : Prop :=
  [first,second].Sublist events

instance [DecidableEq κ] (first second : ι × Access κ) (events : List (ι × Access κ)) :
    Decidable (Before first second events) :=
  inferInstanceAs (Decidable ([first,second].Sublist events))

def inTurn (threads : List ι) (progs : ι → List (Access κ)) : List (ι × Access κ) :=
  threads.flatMap fun t => (progs t).map (Prod.mk t)

section Own

variable {t : ι} {events : List (ι × Access κ)}

theorem mem_own {a : Access κ} : a ∈ own t events ↔ (t,a) ∈ events := by
  unfold own
  rw [List.mem_filterMap]
  constructor
  · rintro ⟨⟨u,b⟩,he,hif⟩
    by_cases hu : u = t
    · rw [if_pos hu] at hif
      cases hif
      exact hu ▸ he
    · rw [if_neg hu] at hif
      cases hif
  · exact fun he => ⟨(t,a),he,if_pos rfl⟩

theorem own_nil (h : own t events = []) (a : Access κ) : (t,a) ∉ events := by
  rw [← mem_own, h]
  exact List.not_mem_nil

@[simp] theorem own_empty (t : ι) : own t ([] : List (ι × Access κ)) = [] := rfl

theorem own_cons (u : ι) (a : Access κ) (events : List (ι × Access κ)) :
    own t ((u,a)::events) = if u = t then a::own t events else own t events := by
  by_cases hu : u = t <;> simp [own, hu]

theorem own_append (u v : List (ι × Access κ)) : own t (u++v) = own t u++own t v :=
  List.filterMap_append

theorem own_split {a : Access κ} (before : List (Access κ)) {after : List (Access κ)}
    (h : own t events = before++a::after) :
    ∃ u v, events = u++(t,a)::v ∧ own t u = before ∧ own t v = after := by
  obtain ⟨u,rest,rfl,hu,hrest⟩ := List.filterMap_eq_append_iff.mp h
  obtain ⟨skipped,⟨t',b⟩,v,rfl,hskipped,hb,hv⟩ := List.filterMap_eq_cons_iff.mp hrest
  by_cases ht : t' = t
  · rw [if_pos ht] at hb
    cases hb
    have hnone : own t skipped = [] := List.filterMap_eq_nil_iff.mpr hskipped
    refine ⟨u++skipped,v,by rw [ht, List.append_assoc],?_,hv⟩
    rw [own_append, hnone, List.append_nil]
    exact hu
  · rw [if_neg ht] at hb
    cases hb

theorem own_alone (h : ∀ u ≠ t, own u events = []) :
    events = (own t events).map (Prod.mk t) := by
  induction events with
  | nil => rfl
  | cons e events ih =>
    have ht : e.1 = t := by
      by_contra hne
      have hmem : e.2 ∈ own e.1 (e::events) := mem_own.mpr List.mem_cons_self
      rw [h e.1 hne] at hmem
      cases hmem
    have hrest (u : ι) (hu : u ≠ t) : own u events = [] :=
      List.append_eq_nil_iff.mp ((own_append [e] events).symm.trans (h u hu)) |>.2
    have hown : own t (e::events) = e.2::own t events := by simp [own, ht]
    rw [hown, List.map_cons, ← ih hrest, ← ht]

theorem own_in_turn (threads : List ι) (progs : ι → List (Access κ)) (hn : threads.Nodup)
    (h : ∀ t ∉ threads, progs t = []) (t : ι) : own t (inTurn threads progs) = progs t := by
  have hother (u : ι) (as : List (Access κ)) (hu : u ≠ t) : own t (as.map (Prod.mk u)) = [] := by
    simp [own, hu]
  have hself (as : List (Access κ)) : own t (as.map (Prod.mk t)) = as := by
    simp [own]
  have hown (threads : List ι) (hn : threads.Nodup) :
      own t (inTurn threads progs) = if t ∈ threads then progs t else [] := by
    induction threads with
    | nil => rfl
    | cons u threads ih =>
      obtain ⟨hu,hn⟩ := List.nodup_cons.mp hn
      rw [inTurn, List.flatMap_cons, own_append]
      by_cases htu : u = t
      · subst htu
        rw [hself, if_pos List.mem_cons_self]
        rw [show own u (threads.flatMap _) = [] from (ih hn).trans (if_neg hu), List.append_nil]
      · rw [hother u _ htu, List.nil_append]
        refine (ih hn).trans ?_
        simp [List.mem_cons, Ne.symm htu]
  rw [hown threads hn]
  by_cases ht : t ∈ threads
  · rw [if_pos ht]
  · rw [if_neg ht, h t ht]

omit [DecidableEq ι] in
theorem before_split {e e' : ι × Access κ} {u v : List (ι × Access κ)} (hne : e ≠ e')
    (hu : e' ∉ u) (hv : e' ∉ v) : Before e e' (u++e'::v) ↔ e ∈ u := by
  constructor
  · intro h
    obtain ⟨first,second,heq,hfirst,hsecond⟩ := List.sublist_append_iff.mp h
    cases first with
    | nil =>
      rw [List.nil_append] at heq
      subst heq
      cases hsecond with
      | cons _ hsub => exact absurd (hsub.subset (by simp)) hv
      | cons_cons _ _ => exact absurd rfl hne
    | cons a first =>
      obtain ⟨rfl,-⟩ := List.cons.inj heq
      exact hfirst.subset List.mem_cons_self
  · intro h
    exact (List.singleton_sublist.mpr h).append (List.singleton_sublist.mpr List.mem_cons_self)

omit [DecidableEq ι] in
theorem not_before_append {e e' : ι × Access κ} {u v : List (ι × Access κ)} (hu : e ∉ u)
    (hv : e' ∉ v) : ¬Before e e' (u++v) := by
  intro h
  obtain ⟨first,second,heq,hfirst,hsecond⟩ := List.sublist_append_iff.mp h
  cases first with
  | nil =>
    rw [List.nil_append] at heq
    subst heq
    exact hv (hsecond.subset (by simp))
  | cons a first =>
    obtain ⟨rfl,-⟩ := List.cons.inj heq
    exact hu (hfirst.subset List.mem_cons_self)

end Own

section Run

variable [DecidableEq κ] (out : ι → List M → M)

def step (s : State ι κ M) (e : ι × Access κ) : State ι κ M :=
  match e.2 with
  | .load c => { s with loaded := Function.update s.loaded e.1 (s.loaded e.1++[s.shared c]) }
  | .store c => { s with shared := Function.update s.shared c (out e.1 (s.loaded e.1)) }

def run (s : State ι κ M) (events : List (ι × Access κ)) : State ι κ M :=
  events.foldl (step out) s

variable {s : State ι κ M} {t : ι} {c : κ} {u v events : List (ι × Access κ)}

theorem run_append : run out s (u++v) = run out (run out s u) v := List.foldl_append

theorem shared_keeps (h : ∀ t, (t,.store c) ∉ events) :
    (run out s events).shared c = s.shared c := by
  induction events generalizing s with
  | nil => rfl
  | cons e events ih =>
    have hrest : ∀ t, (t,.store c) ∉ events := fun t ht => h t (List.mem_cons_of_mem e ht)
    refine (ih hrest).trans ?_
    obtain ⟨t,a⟩ := e
    cases a with
    | load c' => rfl
    | store c' =>
      have hc : c ≠ c' := by
        rintro rfl
        exact h t List.mem_cons_self
      exact Function.update_of_ne hc _ _

theorem loaded_keeps (h : ∀ c, (t,.load c) ∉ events) :
    (run out s events).loaded t = s.loaded t := by
  induction events generalizing s with
  | nil => rfl
  | cons e events ih =>
    have hrest : ∀ c, (t,.load c) ∉ events := fun c hc => h c (List.mem_cons_of_mem e hc)
    refine (ih hrest).trans ?_
    obtain ⟨t',a⟩ := e
    cases a with
    | load c' =>
      have ht : t ≠ t' := by
        rintro rfl
        exact h c' List.mem_cons_self
      exact Function.update_of_ne ht _ _
    | store c' => rfl

theorem shared_last (h : ∀ t, (t,.store c) ∉ v) :
    (run out s (u++(t,.store c)::v)).shared c = out t ((run out s u).loaded t) := by
  rw [run_append]
  refine (shared_keeps (s := step out (run out s u) (t,.store c)) out h).trans ?_
  exact Function.update_self ..

theorem loaded_last (h : ∀ c, (t,.load c) ∉ v) :
    (run out s (u++(t,.load c)::v)).loaded t =
      (run out s u).loaded t++[(run out s u).shared c] := by
  rw [run_append]
  refine (loaded_keeps (s := step out (run out s u) (t,.load c)) out h).trans ?_
  exact Function.update_self ..

theorem store_alone (h : own t events = [.store c]) (hother : ∀ u ≠ t, .store c ∉ own u events) :
    (run out s events).shared c = out t (s.loaded t) := by
  obtain ⟨u,v,rfl,hu,hv⟩ := own_split [] h
  have hlast : ∀ t', (t',.store c) ∉ v := by
    intro t' hmem
    by_cases ht : t' = t
    · exact own_nil hv _ (ht ▸ hmem)
    · exact hother t' ht (mem_own.mpr (by simp [hmem]))
  rw [shared_last out hlast, loaded_keeps out fun c => own_nil hu (.load c)]

theorem load_alone {rest : List (Access κ)} (h : own t events = .load c::rest)
    (hrest : ∀ c, .load c ∉ rest) :
    ∃ u v, events = u++(t,.load c)::v ∧ own t u = [] ∧ own t v = rest ∧
      (run out s events).loaded t = s.loaded t++[(run out s u).shared c] := by
  obtain ⟨u,v,rfl,hu,hv⟩ := own_split [] h
  refine ⟨u,v,rfl,hu,hv,?_⟩
  rw [loaded_last out fun c hmem => hrest c (hv ▸ mem_own.mpr hmem),
    loaded_keeps out fun c => own_nil hu (.load c)]

theorem load_snoc (before : List (Access κ)) (h : own t events = before++[.load c]) :
    ∃ u v, events = u++(t,.load c)::v ∧ own t u = before ∧ own t v = [] ∧
      (run out s events).loaded t = (run out s u).loaded t++[(run out s u).shared c] := by
  obtain ⟨u,v,rfl,hu,hv⟩ := own_split before h
  exact ⟨u,v,rfl,hu,hv,loaded_last out fun c => own_nil hv (.load c)⟩

theorem run_loads (cells : List κ) (s : State ι κ M) (t : ι) :
    run out s (cells.map fun c => (t,.load c)) =
      { s with loaded := Function.update s.loaded t (s.loaded t++cells.map s.shared) } := by
  induction cells generalizing s with
  | nil => simp [run]
  | cons c cells ih =>
    refine (ih (step out s (t,.load c))).trans ?_
    simp [step]

theorem gather_alone {cells : List κ} (h : own t events = cells.map .load++[.store c])
    (hother : ∀ u ≠ t, own u events = []) :
    (run out s events).shared c = out t (s.loaded t++cells.map s.shared) := by
  have hevents : events = (cells.map fun c => (t,.load c))++[(t,.store c)] := by
    rw [own_alone hother, h]
    simp
  rw [hevents, shared_last out fun t => List.not_mem_nil, run_loads]
  exact congrArg (out t) (Function.update_self ..)

/-- Where every store to a cell writes one value. -/
theorem stores_write {y : M} (hmem : ∃ t, (t,.store c) ∈ events)
    (h : ∀ u t v, events = u++(t,.store c)::v → out t ((run out s u).loaded t) = y) :
    (run out s events).shared c = y := by
  induction events using List.reverseRecOn with
  | nil =>
    obtain ⟨t,ht⟩ := hmem
    cases ht
  | append_singleton events e ih =>
    by_cases he : ∃ t, e = (t,.store c)
    · obtain ⟨t,rfl⟩ := he
      rw [shared_last out fun t => List.not_mem_nil]
      exact h events t [] rfl
    · have hlast : ∀ t, (t,Access.store c) ∉ [e] := by
        intro t ht
        exact he ⟨t,(List.mem_singleton.mp ht).symm⟩
      rw [run_append, shared_keeps out hlast]
      apply ih
      · obtain ⟨t,ht⟩ := hmem
        exact ⟨t,(List.mem_append.mp ht).resolve_right (hlast t)⟩
      · intro u t v heq
        exact h u t (v++[e]) (by rw [heq, List.append_assoc, List.cons_append])

end Run

/-! Two threads gather the same two cells, and both store what they make of them over the first. -/

section Contest

variable [DecidableEq κ] {out : ι → List M → M} {total : List M → M} {s : State ι κ M}
  {t a b : ι} {c c' : κ} {events : List (ι × Access κ)}

variable (out) in
theorem gathered {u v : List (ι × Access κ)}
    (hown : own t events = [.load c,.load c',.store c]) (hloaded : s.loaded t = [])
    (hfixed : ∀ u, (u,.store c') ∉ events) (hu : events = u++(t,.store c)::v) :
    ∃ u₁ u₂, u = u₁++(t,.load c)::u₂ ∧ own t u₁ = [] ∧
      (run out s u).loaded t = [(run out s u₁).shared c,s.shared c'] := by
  have hsplit : own t u++.store c::own t v = [.load c,.load c']++.store c::[] := by
    rw [hu, own_append] at hown
    simpa [own] using hown
  obtain ⟨hloads,-,-⟩ :=
    (List.append_cons_inj_of_notMem (by simp) (by simp)).mp hsplit.symm
  obtain ⟨p,q,rfl,hp,-,hsecond⟩ :=
    load_snoc (s := s) out [.load c] hloads.symm
  obtain ⟨u₁,q₁,rfl,hu₁,-,hfirst⟩ := load_snoc (s := s) out [] hp
  have hkeep : ∀ t', (t',Access.store c') ∉ u₁++(t,.load c)::q₁ := by
    intro t' hmem
    apply hfixed t'
    rw [hu]
    exact List.mem_append_left _ (List.mem_append_left _ hmem)
  refine ⟨u₁,_,List.append_assoc _ _ _,hu₁,?_⟩
  rw [hsecond, hfirst, shared_keeps out hkeep,
    loaded_keeps out fun c => own_nil hu₁ (.load c), hloaded]
  rfl

/-- `a` and `b` meet in the cell `c`, which nobody else stores, and nobody stores `c'`. -/
structure Contest (out : ι → List M → M) (total : List M → M) (s : State ι κ M) (a b : ι)
    (c c' : κ) (events : List (ι × Access κ)) : Prop where
  distinct : a ≠ b
  cells : c ≠ c'
  first : own a events = [.load c,.load c',.store c]
  second : own b events = [.load c,.load c',.store c]
  others : ∀ t, (t,.store c) ∈ events → t = a ∨ t = b
  fixed : ∀ t, (t,.store c') ∉ events
  loaded : s.loaded a = [] ∧ s.loaded b = []
  outs : out a = total ∧ out b = total

omit [DecidableEq κ] in
theorem Contest.symm (h : Contest out total s a b c c' events) :
    Contest out total s b a c c' events where
  distinct := h.distinct.symm
  cells := h.cells
  first := h.second
  second := h.first
  others := fun t ht => (h.others t ht).symm
  fixed := h.fixed
  loaded := h.loaded.symm
  outs := h.outs.symm

theorem Contest.early (h : Contest out total s a b c c' events) {u v : List (ι × Access κ)}
    (hu : events = u++(a,.store c)::v) (hb : ¬Before (b,.store c) (a,.load c) events) :
    out a ((run out s u).loaded a) = total [s.shared c,s.shared c'] := by
  obtain ⟨u₁,u₂,rfl,hu₁,hgathered⟩ := gathered out h.first h.loaded.1 h.fixed hu
  have hkeep : ∀ t, (t,Access.store c) ∉ u₁ := by
    intro t hmem
    have hevents : (t,Access.store c) ∈ events := by simp [hu, hmem]
    rcases h.others t hevents with rfl | rfl
    · exact own_nil hu₁ _ hmem
    · apply hb
      rw [hu, List.append_assoc]
      exact (List.singleton_sublist.mpr hmem).append
        (List.singleton_sublist.mpr (by simp))
  rw [hgathered, h.outs.1, shared_keeps out hkeep]

theorem Contest.together (h : Contest out total s a b c c' events)
    (ha : ¬Before (a,.store c) (b,.load c) events)
    (hb : ¬Before (b,.store c) (a,.load c) events) :
    (run out s events).shared c = total [s.shared c,s.shared c'] := by
  refine stores_write out ⟨a,mem_own.mp (by simp [h.first])⟩ fun u t v hu => ?_
  rcases h.others t (by simp [hu]) with rfl | rfl
  · exact h.early hu hb
  · exact h.symm.early hu ha

theorem Contest.ahead (h : Contest out total s a b c c' events) {u v : List (ι × Access κ)}
    (hevents : events = u++(a,.load c)::v) (hu : own a u = []) (hb : (b,.store c) ∈ u) :
    (run out s u).shared c = total [s.shared c,s.shared c'] ∧ own b v = [] := by
  constructor
  · refine stores_write out ⟨b,hb⟩ fun p t q hp => ?_
    have hmem : (t,Access.store c) ∈ u := by simp [hp]
    rcases h.others t (by simp [hevents, hmem]) with rfl | rfl
    · exact absurd hmem (own_nil hu _)
    · have hwhole : events = p++(t,.store c)::(q++(a,.load c)::v) := by simp [hevents, hp]
      obtain ⟨p₁,p₂,rfl,hp₁,hgathered⟩ :=
        gathered out h.second h.loaded.2 h.fixed hwhole
      have hkeep : ∀ t', (t',Access.store c) ∉ p₁ := by
        intro t' ht'
        have hin : (t',Access.store c) ∈ u := by simp [hp, ht']
        rcases h.others t' (by simp [hevents, hin]) with rfl | rfl
        · exact own_nil hu _ hin
        · exact own_nil hp₁ _ ht'
      rw [hgathered, h.outs.2, shared_keeps out hkeep]
  · obtain ⟨x,y,hxy⟩ := List.append_of_mem (mem_own.mpr hb)
    have hsecond := h.second
    rw [hevents, own_append, hxy] at hsecond
    have hsplit : x++.store c::(y++own b v) = [.load c,.load c']++.store c::[] := by
      simpa [own, h.distinct] using hsecond
    obtain ⟨-,-,hrest⟩ := (List.append_cons_inj_of_notMem (by simp) (by simp)).mp hsplit.symm
    exact (List.append_eq_nil_iff.mp hrest.symm).2

theorem Contest.apart (h : Contest out total s a b c c' events)
    (hb : Before (b,.store c) (a,.load c) events) :
    (run out s events).shared c = total [total [s.shared c,s.shared c'],s.shared c'] := by
  obtain ⟨u,v,hevents,hu,hv⟩ := own_split [] h.first
  have hafter : (a,Access.load c) ∉ v := by
    rw [← mem_own, hv]
    simp [h.cells]
  have hbu : (b,Access.store c) ∈ u := by
    rw [hevents] at hb
    exact (before_split (by simp) (own_nil hu _) hafter).mp hb
  obtain ⟨hfirst,hbv⟩ := h.ahead hevents hu hbu
  rw [hevents, run_append]
  -- the rest is the late thread's, which has loaded the other one's total
  have hstore : ∃ t, (t,Access.store c) ∈ v := ⟨a,mem_own.mp (by simp [hv])⟩
  refine stores_write (s := step out (run out s u) (a,.load c)) out hstore fun p t q hp => ?_
  have hmem : (t,Access.store c) ∈ v := by simp [hp]
  rcases h.others t (by simp [hevents, hmem]) with rfl | rfl
  · have hsplit : own t p++.store c::own t q = [.load c']++.store c::[] := by
      rw [hp, own_append] at hv
      simpa [own] using hv
    obtain ⟨hload,-,-⟩ := (List.append_cons_inj_of_notMem (by simp) (by simp)).mp hsplit.symm
    obtain ⟨p₁,p₂,rfl,hp₁,-,hlast⟩ :=
      load_snoc (s := step out (run out s u) (t,.load c)) out [] hload.symm
    have hfixed (w : List (ι × Access κ)) (hw : ∀ e ∈ w, e ∈ events) (t' : ι) :
        (t',Access.store c') ∉ w := fun ht' => h.fixed t' (hw _ ht')
    have hsecond : (run out (step out (run out s u) (t,.load c)) p₁).shared c' = s.shared c' := by
      rw [shared_keeps out (hfixed p₁ fun e he => by simp [hevents, hp, he])]
      exact shared_keeps out (hfixed u fun e he => by simp [hevents, he])
    have hloaded : (run out (step out (run out s u) (t,.load c)) p₁).loaded t =
        [total [s.shared c,s.shared c']] := by
      rw [loaded_keeps out fun c => own_nil hp₁ (.load c)]
      simp only [step, Function.update_self]
      rw [loaded_keeps out fun c => own_nil hu (.load c), h.loaded.1, hfirst]
      rfl
    rw [hlast, hloaded, hsecond, h.outs.1]
    rfl
  · exact absurd hmem (own_nil hbv _)

end Contest

end MiniLlm.BarrierInterval

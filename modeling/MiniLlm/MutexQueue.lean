import MiniLlm.ConditionVariable
import MiniLlm.Scheduler

/-!
# The queue between threads

`MutexQueue` under any interleaving of its callers. Each locked section is
one step, and so is each notification after it, each time a thread falls
asleep in `wait_pop`, and each time one wakes up, for a notification or for
none. Whatever the order, the items leave in the order of their pushes, and
no thread is left asleep beside an item or a closed queue.
-/

set_option autoImplicit false

namespace MiniLlm

structure MutexQueue (T : Type*) where
  queue : List T
  closed : Bool
  deriving DecidableEq, Repr

namespace MutexQueue

variable {T : Type*}

inductive Action (T : Type*) where
  | quiet
  | pushed (item : T)
  | popped (item : T)
  /-- `wait_pop` returns `T{}`. -/
  | default
  deriving DecidableEq, Repr

def Action.pushedItems : Action T → List T
  | .pushed item => [item]
  | .quiet | .popped _ | .default => []

def Action.poppedItems : Action T → List T
  | .popped item => [item]
  | .quiet | .pushed _ | .default => []

/-- The locked section of `push`. -/
def push (item : T) (s : MutexQueue T) : MutexQueue T := { s with queue := s.queue++[item] }

/-- `try_pop` is false where no item is popped. -/
def tryPop (s : MutexQueue T) : Action T × MutexQueue T :=
  match s.queue with
  | [] => (.quiet,s)
  | item::rest => (.popped item,{ s with queue := rest })

/-- The predicate that `wait_pop` waits for. -/
def mayReturn (s : MutexQueue T) : Bool := !s.queue.isEmpty || s.closed

/-- `wait_pop` after the wait. -/
def takeFront (s : MutexQueue T) : Action T × MutexQueue T :=
  match s.queue with
  | [] => (.default,s)
  | item::rest => (.popped item,{ s with queue := rest })

/-- `wait_pop` from the moment it holds the lock, unless the thread sleeps. -/
def waitPop (s : MutexQueue T) : Option (Action T × MutexQueue T) :=
  if s.mayReturn then some s.takeFront else none

/-- The locked section of `close`. -/
def close (s : MutexQueue T) : MutexQueue T := { s with closed := true }

section Sections

variable {s t : MutexQueue T} {action : Action T}

def Moved (s : MutexQueue T) (action : Action T) (t : MutexQueue T) : Prop :=
  action.poppedItems++t.queue = s.queue++action.pushedItems

theorem push_moved (item : T) (s : MutexQueue T) : Moved s (.pushed item) (s.push item) := rfl

theorem close_moved (s : MutexQueue T) : Moved s .quiet s.close := (List.append_nil _).symm

theorem take_moved (s : MutexQueue T) : Moved s s.takeFront.1 s.takeFront.2 := by
  unfold takeFront
  split
  · exact (List.append_nil _).symm
  · rename_i hq
    exact hq.symm.trans (List.append_nil _).symm

theorem take_closed (s : MutexQueue T) : s.takeFront.2.closed = s.closed := by
  unfold takeFront
  split <;> rfl

theorem try_pop_cases (s : MutexQueue T) :
    s.queue = [] ∧ s.tryPop = (.quiet,s) ∨ s.tryPop = s.takeFront := by
  unfold tryPop takeFront
  cases hq : s.queue with
  | nil => exact .inl ⟨rfl,rfl⟩
  | cons item rest => exact .inr rfl

theorem wait_pop_some (h : s.waitPop = some (action,t)) :
    s.mayReturn = true ∧ action = s.takeFront.1 ∧ t = s.takeFront.2 := by
  unfold waitPop at h
  by_cases hmay : s.mayReturn = true
  · rw [if_pos hmay] at h
    have heq := Option.some.inj h
    exact ⟨hmay,congrArg Prod.fst heq.symm,congrArg Prod.snd heq.symm⟩
  · rw [if_neg hmay] at h
    cases h

theorem wait_pop_none (h : s.waitPop = none) : s.queue = [] ∧ s.closed = false := by
  unfold waitPop mayReturn at h
  cases hq : s.queue <;> cases hc : s.closed <;> simp [hq, hc] at h ⊢

theorem wait_pop_default (h : s.waitPop = some (.default,t)) :
    s.closed = true ∧ s.queue = [] ∧ t = s := by
  obtain ⟨hmay,haction,rfl⟩ := wait_pop_some h
  unfold mayReturn at hmay
  unfold takeFront at haction ⊢
  cases hq : s.queue with
  | nil => exact ⟨by simpa [hq] using hmay,rfl,rfl⟩
  | cons item rest =>
    rw [hq] at haction
    cases haction

end Sections

end MutexQueue

open ConditionVariable

structure SharedQueue (T : Type*) extends MutexQueue T where
  threads : List WaitPlace
  deriving DecidableEq, Repr

namespace SharedQueue

open MutexQueue

variable {T : Type*}

inductive Step : SharedQueue T → Action T → SharedQueue T → Prop
  | push (s : SharedQueue T) (i : ℕ) (item : T) (h : s.threads[i]? = some .outside) :
      Step s (.pushed item) ⟨s.push item,s.threads.set i .notifyOne⟩
  /-- `cv_.notify_one()` reaches the sleeper `j` -/
  | notifyOne (s : SharedQueue T) (i j : ℕ) (h : s.threads[i]? = some .notifyOne)
      (hj : s.threads[j]? = some .asleep) :
      Step s .quiet ⟨s.toMutexQueue,(s.threads.set i .outside).set j .woken⟩
  /-- `cv_.notify_one()` finds no sleeper -/
  | notifyNone (s : SharedQueue T) (i : ℕ) (h : s.threads[i]? = some .notifyOne)
      (hj : .asleep ∉ s.threads) : Step s .quiet ⟨s.toMutexQueue,s.threads.set i .outside⟩
  | tryPop (s : SharedQueue T) (i : ℕ) (h : s.threads[i]? = some .outside) :
      Step s s.tryPop.1 ⟨s.tryPop.2,s.threads⟩
  /-- `wait_pop` finds its predicate true, as it is called or after it woke up -/
  | waitPop (s : SharedQueue T) (i : ℕ) (p : WaitPlace) (action : Action T) (t : MutexQueue T)
      (h : s.threads[i]? = some p) (hp : p = .outside ∨ p = .woken)
      (hw : s.waitPop = some (action,t)) : Step s action ⟨t,s.threads.set i .outside⟩
  /-- `wait_pop` finds its predicate false, releases the lock and sleeps -/
  | sleep (s : SharedQueue T) (i : ℕ) (p : WaitPlace) (h : s.threads[i]? = some p)
      (hp : p = .outside ∨ p = .woken) (hw : s.waitPop = none) :
      Step s .quiet ⟨s.toMutexQueue,s.threads.set i .asleep⟩
  /-- a thread wakes up without a notification -/
  | spurious (s : SharedQueue T) (i : ℕ) (h : s.threads[i]? = some .asleep) :
      Step s .quiet ⟨s.toMutexQueue,s.threads.set i .woken⟩
  | close (s : SharedQueue T) (i : ℕ) (h : s.threads[i]? = some .outside) :
      Step s .quiet ⟨s.close,s.threads.set i .notifyAll⟩
  /-- `cv_.notify_all()` -/
  | notifyAll (s : SharedQueue T) (i : ℕ) (h : s.threads[i]? = some .notifyAll) :
      Step s .quiet ⟨s.toMutexQueue,(s.threads.set i .outside).map WaitPlace.wake⟩

def initial (n : ℕ) : SharedQueue T := ⟨⟨[],false⟩,List.replicate n .outside⟩

inductive Run (n : ℕ) : List (Action T) → SharedQueue T → Prop
  | start : Run n [] (initial n)
  | step {trace : List (Action T)} {s t : SharedQueue T} {action : Action T}
      (h : Run n trace s) (hs : Step s action t) : Run n (trace++[action]) t

section Steps

variable {s t : SharedQueue T} {action : Action T}

theorem step_moved (h : Step s action t) : Moved s.toMutexQueue action t.toMutexQueue := by
  cases h with
  | push i item => exact push_moved item s.toMutexQueue
  | tryPop i =>
    rcases try_pop_cases s.toMutexQueue with ⟨-,heq⟩ | heq
    · rw [heq]
      exact (List.append_nil _).symm
    · rw [heq]
      exact take_moved s.toMutexQueue
  | waitPop i p action q _ _ hw =>
    obtain ⟨-,rfl,rfl⟩ := wait_pop_some hw
    exact take_moved s.toMutexQueue
  | close i => exact close_moved s.toMutexQueue
  | notifyOne | notifyNone | sleep | spurious | notifyAll => exact (List.append_nil _).symm

/-- Only a `wait_pop` on a closed and empty queue has nothing to return. -/
theorem step_default (h : Step s .default t) : s.closed = true ∧ s.queue = [] := by
  generalize ha : Action.default = action at h
  cases h with
  | push | notifyOne | notifyNone | sleep | spurious | close | notifyAll => cases ha
  | tryPop i =>
    unfold MutexQueue.tryPop at ha
    split at ha <;> cases ha
  | waitPop i p action q _ _ hw =>
    subst ha
    obtain ⟨hclosed,hempty,-⟩ := wait_pop_default hw
    exact ⟨hclosed,hempty⟩

def SleepersCovered (s : SharedQueue T) : Prop := Covered s.queue.length s.closed s.threads

theorem take_covered {threads : List WaitPlace} {i : ℕ} {p : WaitPlace} (s : MutexQueue T)
    (h : threads[i]? = some p) (hp : p = .outside ∨ p = .woken)
    (hc : Covered s.queue.length s.closed threads) :
    Covered s.takeFront.2.queue.length s.takeFront.2.closed (threads.set i .outside) := by
  have hlen : s.takeFront.2.queue.length = 0 ∨
      s.takeFront.2.queue.length+1 = s.queue.length := by
    unfold takeFront
    cases hq : s.queue with
    | nil => exact .inl (by simp [hq])
    | cons item rest => exact .inr rfl
  rw [take_closed]
  rcases hp with rfl | rfl
  · exact covered_set h (by decide) (by decide) (hlen.imp_right fun heq => by simp; omega) hc
  · exact covered_set h (by decide) (by decide) (hlen.imp_right fun heq => heq.le) hc

theorem step_covered (h : Step s action t) (hc : s.SleepersCovered) : t.SleepersCovered := by
  cases h with
  | push i item h =>
    refine covered_set h (by decide) (by decide) (.inr ?_) hc
    simp [MutexQueue.push, WaitPlace.pledged]
  | notifyOne i j h hj => exact covered_notify h hj hc
  | notifyNone i h hj =>
    refine covered_awake (fun hmem => ?_) _ _
    rcases List.mem_or_eq_of_mem_set hmem with hold | heq
    · exact hj hold
    · cases heq
  | tryPop i h =>
    rcases try_pop_cases s.toMutexQueue with ⟨-,heq⟩ | heq
    · rw [heq]
      exact hc
    · have hset := take_covered s.toMutexQueue h (.inl rfl) hc
      obtain ⟨hi,hget⟩ := List.getElem?_eq_some_iff.mp h
      have hsame : s.threads.set i .outside = s.threads := by rw [← hget, List.set_getElem_self]
      rw [hsame] at hset
      rw [heq]
      exact hset
  | waitPop i p action q h hp hw =>
    obtain ⟨-,-,rfl⟩ := wait_pop_some hw
    exact take_covered s.toMutexQueue h hp hc
  | sleep i p h hp hw =>
    obtain ⟨hempty,hopen⟩ := wait_pop_none hw
    unfold SleepersCovered
    rw [hempty, hopen]
    exact covered_idle _
  | spurious i h => exact covered_set h (by decide) (by decide) (.inr (Nat.le_succ _)) hc
  | close i h => exact covered_close h hc
  | notifyAll i h => exact covered_awake (wake_not_asleep _) _ _

end Steps

section Runs

variable {n : ℕ} {trace : List (Action T)} {s : SharedQueue T}

theorem run_items (h : Run n trace s) :
    trace.flatMap Action.poppedItems++s.queue = trace.flatMap Action.pushedItems := by
  induction h with
  | start => rfl
  | @step trace s t action _ hs ih =>
    have hmoved : action.poppedItems++t.queue = s.queue++action.pushedItems := step_moved hs
    calc (trace++[action]).flatMap Action.poppedItems++t.queue
        = trace.flatMap Action.poppedItems++(action.poppedItems++t.queue) := by simp
      _ = (trace.flatMap Action.poppedItems++s.queue)++action.pushedItems := by
          rw [hmoved, List.append_assoc]
      _ = (trace++[action]).flatMap Action.pushedItems := by simp [ih]

theorem run_covered (h : Run n trace s) : s.SleepersCovered := by
  induction h with
  | start => exact covered_idle _
  | step _ hs ih => exact step_covered hs ih

/-- Once every notification is sent and every thread that is awake has looked, a thread sleeps
only on an empty queue that is open. -/
theorem sleeper_waits (h : Run n trace s) (hsleep : .asleep ∈ s.threads)
    (hpledged : ∀ p ∈ s.threads, p.pledged = false) (hall : .notifyAll ∉ s.threads) :
    s.queue = [] ∧ s.closed = false := by
  obtain ⟨hwork,hopen⟩ := covered_rest (run_covered h) hsleep hpledged hall
  exact ⟨List.length_eq_zero_iff.mp hwork,hopen⟩

/-- The queue loses neither an item nor a wake-up. -/
theorem nothing_lost (h : Run n trace s) :
    trace.flatMap Action.poppedItems++s.queue = trace.flatMap Action.pushedItems ∧
      (∀ t, Step s .default t → s.closed = true ∧ s.queue = []) ∧
      (.asleep ∈ s.threads →
        s.queue.length ≤ s.threads.count .notifyOne+s.threads.count .woken ∧
          (s.closed = true → .notifyAll ∈ s.threads)) := by
  refine ⟨run_items h,fun _ hs => step_default hs,fun hsleep => ?_⟩
  obtain ⟨hle,hall⟩ := run_covered h hsleep
  exact ⟨(pledged_count s.threads).symm ▸ hle,hall⟩

theorem sleeper_run : Run 2 [.quiet,.pushed 7] ⟨⟨[7],false⟩,[.asleep,.notifyOne]⟩ :=
  .step (.step .start (.sleep _ 0 .outside rfl (.inl rfl) rfl)) (.push _ 1 7 rfl)

theorem sleeper_not_lost :
    [Action.quiet,.pushed 7].flatMap Action.poppedItems++[7] =
        [Action.quiet,.pushed 7].flatMap Action.pushedItems ∧
      (∀ t, Step ⟨⟨[7],false⟩,[.asleep,.notifyOne]⟩ .default t →
        false = true ∧ ([7] : List ℕ) = []) ∧
      ((.asleep ∈ [WaitPlace.asleep,.notifyOne]) →
        1 ≤ [WaitPlace.asleep,.notifyOne].count .notifyOne+
          [WaitPlace.asleep,.notifyOne].count .woken ∧
          (false = true → WaitPlace.notifyAll ∈ [WaitPlace.asleep,.notifyOne])) :=
  nothing_lost sleeper_run

end Runs

end SharedQueue

section Scheduler

variable {A B : Type*}

def Scheduler.requestQueue (s : Scheduler A B) : MutexQueue Request :=
  ⟨s.queues .request,s.closed⟩

/-- `wait_and_enqueue_one_request` after `wait_pop`: no request is what `T{}` means here. -/
def Scheduler.enqueuePopped (s : Scheduler A B)
    (out : MutexQueue.Action Request × MutexQueue Request) : Scheduler A B :=
  match out.1 with
  | .popped req => (s.setQueue .request out.2.queue).enqueueWaiting req
  | .quiet | .pushed _ | .default => { s with running := false }

theorem wait_enqueue_pop (s : Scheduler A B) :
    s.waitAndEnqueueOneRequest = s.requestQueue.waitPop.map s.enqueuePopped := by
  unfold Scheduler.waitAndEnqueueOneRequest Scheduler.popFront Scheduler.requestQueue
    MutexQueue.waitPop MutexQueue.mayReturn MutexQueue.takeFront
  cases hq : s.queues .request with
  | nil => cases hc : s.closed <;> simp [hc, Scheduler.enqueuePopped]
  | cons req rest => simp [Scheduler.enqueuePopped]

theorem stop_closes (s : Scheduler A B) : s.stop.requestQueue = s.requestQueue.close := rfl

end Scheduler

end MiniLlm

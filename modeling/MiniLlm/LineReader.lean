import Mathlib.Data.List.TakeWhile
import MiniLlm.RequestLine

/-!
# Reading lines

A connection is a stream of bytes that arrives in pieces. The read buffer
keeps what follows the last newline, and the loop of a read takes the lines
before it out of the buffer one after another, whatever is done with a line.
-/

set_option autoImplicit false

namespace MiniLlm

def completeLines (stream : List UInt8) : List (List UInt8) := (stream.splitOn newline).dropLast

def lastLine (stream : List UInt8) : List UInt8 := (stream.splitOn newline).getLastD []

section Lines

theorem lines_none (stream : List UInt8) (h : newline ∉ stream) :
    completeLines stream = [] ∧ lastLine stream = stream := by
  rw [completeLines, lastLine, List.splitOn_eq_singleton h]
  exact ⟨rfl,rfl⟩

theorem lines_cons (line rest : List UInt8) (h : newline ∉ line) :
    completeLines (line++newline::rest) = line::completeLines rest ∧
      lastLine (line++newline::rest) = lastLine rest := by
  have hne : rest.splitOn newline ≠ [] := List.splitOn_ne_nil _ _
  unfold completeLines lastLine
  rw [List.splitOn_append_cons_self_of_not_mem h, List.dropLast_cons_of_ne_nil hne,
    List.getLastD_cons, List.getLastD_eq_getLast?, List.getLastD_eq_getLast?,
    List.getLast?_eq_some_getLast hne]
  exact ⟨rfl,rfl⟩

theorem first_line (stream : List UInt8) : newline ∉ stream ∨
    ∃ line rest, stream = line++newline::rest ∧ newline ∉ line := by
  by_cases h : newline ∈ stream
  · exact .inr (List.eq_append_cons_of_mem h)
  · exact .inl h

theorem take_line_none (buffer : List UInt8) (h : newline ∉ buffer) : takeLine buffer = none := by
  unfold takeLine
  rw [List.dropWhile_eq_nil_iff.mpr]
  intro b hb
  rw [bne_iff_ne]
  rintro rfl
  exact h hb

theorem lines_append (stream more : List UInt8) :
    completeLines (stream++more) = completeLines stream++completeLines (lastLine stream++more) ∧
      lastLine (stream++more) = lastLine (lastLine stream++more) := by
  induction hn : stream.length using Nat.strong_induction_on generalizing stream with
  | _ n ih =>
    rcases first_line stream with hfree | ⟨line,rest,rfl,hline⟩
    · obtain ⟨hlines,hlast⟩ := lines_none stream hfree
      rw [hlines, hlast]
      exact ⟨rfl,rfl⟩
    · obtain ⟨hlines,hlast⟩ := lines_cons line rest hline
      obtain ⟨hlines',hlast'⟩ := lines_cons line (rest++more) hline
      have hlength : rest.length < n := by
        rw [← hn, List.length_append, List.length_cons]
        omega
      obtain ⟨ihlines,ihlast⟩ := ih _ hlength rest rfl
      rw [hlines, hlast, List.append_assoc, List.cons_append, hlines', hlast', ihlines, ihlast]
      exact ⟨rfl,rfl⟩

end Lines

structure LineReader (S : Type*) where
  buffer : S → List UInt8
  setBuffer : S → List UInt8 → S
  onLine : List UInt8 → S → S
  buffer_set : ∀ s bytes, buffer (setBuffer s bytes) = bytes
  set_set : ∀ s bytes next, setBuffer (setBuffer s bytes) next = setBuffer s next
  buffer_line : ∀ line s, buffer (onLine line s) = buffer s

namespace LineReader

variable {S : Type*} (R : LineReader S)

def readLoop : ℕ → S → S
  | 0, s => s
  | n+1, s =>
    match takeLine (R.buffer s) with
    | none => s
    | some (line,rest) => readLoop n (R.onLine line (R.setBuffer s rest))

/-- `on_read` with `nread > 0`; every line takes a byte from the buffer. -/
def onRead (s : S) (bytes : List UInt8) : S :=
  let buffer := R.buffer s++bytes
  R.readLoop buffer.length (R.setBuffer s buffer)

def LinesMeet (condition : S → List UInt8 → Prop) : ℕ → S → Prop
  | 0, _ => True
  | n+1, s =>
    match takeLine (R.buffer s) with
    | none => True
    | some (line,rest) => condition (R.setBuffer s rest) line ∧
        LinesMeet condition n (R.onLine line (R.setBuffer s rest))

def ReadMeets (condition : S → List UInt8 → Prop) (s : S) (bytes : List UInt8) : Prop :=
  let buffer := R.buffer s++bytes
  R.LinesMeet condition buffer.length (R.setBuffer s buffer)

section OneLine

variable (condition : S → List UInt8 → Prop) {s : S}

theorem read_loop_empty (n : ℕ) (h : R.buffer s = []) : R.readLoop n s = s := by
  cases n with
  | zero => rfl
  | succ n =>
    unfold readLoop
    rw [h]
    rfl

theorem lines_meet_empty (n : ℕ) (h : R.buffer s = []) : R.LinesMeet condition n s := by
  cases n with
  | zero => trivial
  | succ n =>
    unfold LinesMeet
    rw [h]
    trivial

variable {start finish : List UInt8} (h : R.buffer s = start) (hn : newline ∉ start++finish)

include h hn

theorem on_read_completes :
    R.onRead s (finish++[newline]) = R.onLine (start++finish) (R.setBuffer s []) := by
  unfold onRead
  dsimp only
  rw [h, ← List.append_assoc, List.length_append, List.length_singleton]
  unfold readLoop
  rw [R.buffer_set, take_line_append _ [] hn]
  dsimp only
  rw [R.set_set]
  apply R.read_loop_empty
  rw [R.buffer_line, R.buffer_set]

theorem read_meets_completes (hc : condition (R.setBuffer s []) (start++finish)) :
    R.ReadMeets condition s (finish++[newline]) := by
  unfold ReadMeets
  dsimp only
  rw [h, ← List.append_assoc, List.length_append, List.length_singleton]
  unfold LinesMeet
  rw [R.buffer_set, take_line_append _ [] hn]
  dsimp only
  rw [R.set_set]
  refine ⟨hc,R.lines_meet_empty condition _ ?_⟩
  rw [R.buffer_line, R.buffer_set]

end OneLine

section Reads

theorem on_read_lines (J : List (List UInt8) → S → Prop)
    (hset : ∀ lines s buffer, J lines s → J lines (R.setBuffer s buffer))
    (hline : ∀ lines s line, J lines s → J (lines++[line]) (R.onLine line s))
    (lines : List (List UInt8)) {s : S} (hs : J lines s) (bytes : List UInt8) :
    J (lines++completeLines (R.buffer s++bytes)) (R.onRead s bytes) ∧
      R.buffer (R.onRead s bytes) = lastLine (R.buffer s++bytes) := by
  have hnone (lines : List (List UInt8)) (s : S) (hs : J lines s) (hfree : newline ∉ R.buffer s) :
      J (lines++completeLines (R.buffer s)) s ∧ R.buffer s = lastLine (R.buffer s) := by
    obtain ⟨hlines,hlast⟩ := lines_none _ hfree
    rw [hlines, hlast, List.append_nil]
    exact ⟨hs,rfl⟩
  have hloop (n : ℕ) (lines : List (List UInt8)) (s : S) (hs : J lines s)
      (hn : (R.buffer s).length ≤ n) :
      J (lines++completeLines (R.buffer s)) (R.readLoop n s) ∧
        R.buffer (R.readLoop n s) = lastLine (R.buffer s) := by
    induction n generalizing lines s with
    | zero =>
      apply hnone lines s hs
      rw [List.length_eq_zero_iff.mp (Nat.le_zero.mp hn)]
      exact List.not_mem_nil
    | succ n ih =>
      unfold readLoop
      rcases first_line (R.buffer s) with hfree | ⟨line,rest,hbuffer,hfree⟩
      · rw [take_line_none _ hfree]
        exact hnone lines s hs hfree
      · have htaken := hline lines _ line (hset lines s rest hs)
        have hrest : R.buffer (R.onLine line (R.setBuffer s rest)) = rest := by
          rw [R.buffer_line, R.buffer_set]
        have hlength : rest.length ≤ n := by
          rw [hbuffer, List.length_append, List.length_cons] at hn
          omega
        obtain ⟨hlines,hlast⟩ := lines_cons line rest hfree
        have hmore := ih _ _ htaken (by rwa [hrest])
        rw [hrest, List.append_assoc] at hmore
        rw [hbuffer, take_line_append line rest hfree, hlines, hlast]
        exact hmore
  have hmore := hloop (R.buffer s++bytes).length lines (R.setBuffer s (R.buffer s++bytes))
    (hset lines s _ hs) (by rw [R.buffer_set])
  rw [R.buffer_set] at hmore
  exact hmore

/-- A reader that handles part of the state of another does what the other does to it. -/
theorem on_read_simulates {T : Type*} (R' : LineReader T) (f : S → T)
    (hbuffer : ∀ s, R'.buffer (f s) = R.buffer s)
    (hset : ∀ s buffer, f (R.setBuffer s buffer) = R'.setBuffer (f s) buffer)
    (hline : ∀ line s, f (R.onLine line s) = R'.onLine line (f s)) (s : S) (bytes : List UInt8) :
    f (R.onRead s bytes) = R'.onRead (f s) bytes := by
  have hloop (n : ℕ) (s : S) : f (R.readLoop n s) = R'.readLoop n (f s) := by
    induction n generalizing s with
    | zero => rfl
    | succ n ih =>
      unfold readLoop
      rw [hbuffer]
      cases takeLine (R.buffer s) with
      | none => rfl
      | some taken =>
        dsimp only
        rw [ih, hline, hset]
  unfold onRead
  rw [hloop, hset, hbuffer]

theorem on_read_keeps (J : S → Prop) (hset : ∀ s buffer, J s → J (R.setBuffer s buffer))
    (hline : ∀ s line, J s → J (R.onLine line s)) {s : S} (hs : J s) (bytes : List UInt8) :
    J (R.onRead s bytes) :=
  (R.on_read_lines (fun _ => J) (fun _ => hset) (fun _ => hline) [] hs bytes).1

theorem on_read_meets {condition : S → List UInt8 → Prop} (J : S → Prop)
    (hset : ∀ s buffer, J s → J (R.setBuffer s buffer))
    (hline : ∀ s line, J s → condition s line → J (R.onLine line s)) {s : S} (hs : J s)
    {bytes : List UInt8} (hc : R.ReadMeets condition s bytes) : J (R.onRead s bytes) := by
  have hloop (n : ℕ) (s : S) (hs : J s) (hc : R.LinesMeet condition n s) :
      J (R.readLoop n s) := by
    induction n generalizing s with
    | zero => exact hs
    | succ n ih =>
      unfold readLoop
      unfold LinesMeet at hc
      split
      · exact hs
      · rename_i line rest htake
        rw [htake] at hc
        exact ih _ (hline _ line (hset s rest hs) hc.1) hc.2
  exact hloop _ _ (hset s _ hs) hc

end Reads

end LineReader

end MiniLlm

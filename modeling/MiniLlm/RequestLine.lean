import Mathlib.Tactic

/-!
# Request lines

Bytes from a connection are cut at newlines, and a line is read as decimal
ints until the first extraction that fails. `operator>>` skips white space
and takes an optional sign and the longest run of digits; it fails when there
is no digit and when the number is not an int.
-/

set_option autoImplicit false

namespace MiniLlm

def newline : UInt8 := 10

/-- `std::isspace` in the C locale. -/
def isSpace (b : UInt8) : Bool := b == 32 || (decide (9 ≤ b) && decide (b ≤ 13))

def isDigit (b : UInt8) : Bool := decide (48 ≤ b) && decide (b ≤ 57)

def digitsValue (digits : List UInt8) : ℕ :=
  digits.foldl (fun n b => n*10+(b.toNat-48)) 0

def takeSign : List UInt8 → ℤ × List UInt8
  | 45::rest => (-1,rest)
  | 43::rest => (1,rest)
  | rest => (1,rest)

/-- `iss >> token`, with what is left; `none` sets the fail bit. -/
def extractInt (bytes : List UInt8) : Option (ℤ × List UInt8) :=
  let signed := takeSign (bytes.dropWhile isSpace)
  let digits := signed.2.takeWhile isDigit
  let value := signed.1*digitsValue digits
  if digits = [] ∨ value < -2147483648 ∨ 2147483647 < value then none
  else some (value,signed.2.dropWhile isDigit)

def extractInts : ℕ → List UInt8 → List ℤ
  | 0, _ => []
  | n+1, bytes =>
    match extractInt bytes with
    | none => []
    | some (token,rest) => token::extractInts n rest

/-- `parseRequest`; every extraction takes a byte, so there are at most as many as bytes. -/
def parseRequest (line : List UInt8) : List ℤ := extractInts line.length line

/-- `find` of the newline: the line before it and the buffer after it. -/
def takeLine (buffer : List UInt8) : Option (List UInt8 × List UInt8) :=
  match buffer.dropWhile (· != newline) with
  | [] => none
  | _::rest => some (buffer.takeWhile (· != newline),rest)

theorem take_line_append (line rest : List UInt8) (h : newline ∉ line) :
    takeLine (line++newline::rest) = some (line,rest) := by
  have hline (b : UInt8) (hb : b ∈ line) : (b != newline) = true := by
    rw [bne_iff_ne]
    rintro rfl
    exact h hb
  unfold takeLine
  rw [List.dropWhile_append_of_pos hline, List.takeWhile_append_of_pos hline]
  simp

example : parseRequest [49,50,32,45,51] = [12,-3] := by decide

def zeros : ℕ → List UInt8
  | 0 => []
  | n+1 => 32::48::zeros n

theorem zeros_line (n : ℕ) : newline ∉ zeros n := by
  induction n with
  | zero => exact List.not_mem_nil
  | succ n ih =>
    unfold zeros
    rw [List.mem_cons, List.mem_cons, not_or, not_or]
    exact ⟨by decide,by decide,ih⟩

theorem zeros_length (n : ℕ) : (zeros n).length = n+n := by
  induction n with
  | zero => rfl
  | succ n ih =>
    rw [zeros, List.length_cons, List.length_cons, ih]
    omega

theorem extract_zero (n : ℕ) : extractInt (zeros (n+1)) = some (0,zeros n) := by
  have hstop : (zeros n).takeWhile isDigit = [] ∧ (zeros n).dropWhile isDigit = zeros n := by
    cases n <;> exact ⟨rfl,rfl⟩
  have hspace : (zeros (n+1)).dropWhile isSpace = 48::zeros n := rfl
  have hsign : takeSign (48::zeros n) = (1,48::zeros n) := rfl
  have hdigits : (48::zeros n).takeWhile isDigit = [48] := congrArg (List.cons 48) hstop.1
  have hrest : (48::zeros n).dropWhile isDigit = zeros n := hstop.2
  unfold extractInt
  rw [hspace, hsign]
  dsimp only
  rw [hdigits, hrest]
  rfl

theorem parse_zeros (n : ℕ) : parseRequest (zeros n) = List.replicate n 0 := by
  have hfuel (k : ℕ) : extractInts (n+k) (zeros n) = List.replicate n 0 := by
    induction n with
    | zero => cases k <;> rfl
    | succ n ih =>
      rw [Nat.succ_add, extractInts, extract_zero, List.replicate_succ]
      exact congrArg _ ih
  rw [parseRequest, zeros_length, hfuel]

end MiniLlm

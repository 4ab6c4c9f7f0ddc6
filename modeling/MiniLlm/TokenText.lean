import Mathlib.Data.Nat.Digits.Defs
import MiniLlm.RequestGrammar

/-!
# Tokens as text

`util.h` prints a list of tokens and has a `parseRequest` of its own, which
reads a word at a time and reports the words that `std::stoi` refuses. The
server's `parseRequest` extracts ints. Both give back the list that was
printed.
-/

set_option autoImplicit false

namespace MiniLlm

def digitsText (n : ℕ) : List UInt8 :=
  if n = 0 then [48] else (Nat.digits 10 n).reverse.map fun d => UInt8.ofNat (48+d)

/-- `std::to_string` -/
def tokenToString (token : Int32) : List UInt8 :=
  if token.toInt < 0 then 45::digitsText token.toInt.natAbs else digitsText token.toInt.natAbs

/-- `out` after the turn for `tokens[i]`. -/
def appendToken (out : List UInt8) (turn : Int32 × ℕ) : List UInt8 :=
  (if turn.2 > 0 then out++[32] else out)++tokenToString turn.1

def tokensToString (tokens : List Int32) : List UInt8 := tokens.zipIdx.foldl appendToken []

/-- `iss >> token_str`, with what is left; `none` sets the fail bit. -/
def extractWord (bytes : List UInt8) : Option (List UInt8 × List UInt8) :=
  match bytes.dropWhile isSpace with
  | [] => none
  | b::rest => some ((b::rest).takeWhile (!isSpace ·),(b::rest).dropWhile (!isSpace ·))

/-- `std::stoi` reads what `operator>>` reads and ignores the rest; `none` is an exception. -/
def stoi (word : List UInt8) : Option ℤ := (extractInt word).map Prod.fst

namespace Util

def parseWords : ℕ → List UInt8 → List ℤ × List (List UInt8)
  | 0, _ => ([],[])
  | n+1, bytes =>
    match extractWord bytes with
    | none => ([],[])
    | some (word,rest) =>
      match stoi word with
      | some token => (token::(parseWords n rest).1,(parseWords n rest).2)
      | none => ((parseWords n rest).1,word::(parseWords n rest).2)

/-- `parseRequest` of `util.h`; every extraction takes a byte. -/
def parseRequest (msg : List UInt8) : List ℤ × List (List UInt8) := parseWords msg.length msg

end Util

example : tokensToString [12,-3,0] = [49,50,32,45,51,32,48] := by decide +kernel

example : Util.parseRequest [49,32,120,50,32,45,51] = ([1,-3],[[120,50]]) := by decide

section Printing

theorem digits_value_append (digits : List UInt8) (b : UInt8) :
    digitsValue (digits++[b]) = digitsValue digits*10+(b.toNat-48) := by
  simp [digitsValue]

theorem digit_byte {d : ℕ} (h : d < 10) :
    isDigit (UInt8.ofNat (48+d)) = true ∧ (UInt8.ofNat (48+d)).toNat-48 = d := by
  have hd : (UInt8.ofNat (48+d)).toNat = 48+d := UInt8.toNat_ofNat_of_lt (show 48+d < 256 by omega)
  refine ⟨?_,by omega⟩
  have h48 : (48 : UInt8).toNat = 48 := rfl
  have h57 : (57 : UInt8).toNat = 57 := rfl
  simp only [isDigit, Bool.and_eq_true, decide_eq_true_eq, UInt8.le_iff_toNat_le]
  omega

theorem digits_text_ne_nil (n : ℕ) : digitsText n ≠ [] := by
  unfold digitsText
  by_cases hn : n = 0
  · rw [if_pos hn]
    exact List.cons_ne_nil _ _
  · rw [if_neg hn]
    simpa [Nat.digits_eq_nil_iff_eq_zero] using hn

theorem digits_text_digits (n : ℕ) : ∀ b ∈ digitsText n, isDigit b = true := by
  unfold digitsText
  by_cases hn : n = 0
  · rw [if_pos hn, List.forall_mem_singleton]
    decide
  · rw [if_neg hn]
    intro b hb
    obtain ⟨d,hd,rfl⟩ := List.mem_map.mp hb
    exact (digit_byte (Nat.digits_lt_base (by norm_num) (List.mem_reverse.mp hd))).1

theorem digits_value_reverse (ds : List ℕ) (h : ∀ d ∈ ds, d < 10) :
    digitsValue (ds.reverse.map fun d => UInt8.ofNat (48+d)) = Nat.ofDigits 10 ds := by
  induction ds with
  | nil => rfl
  | cons d ds ih =>
    obtain ⟨hd,hds⟩ := List.forall_mem_cons.mp h
    rw [List.reverse_cons, List.map_append, List.map_singleton, digits_value_append, ih hds,
      (digit_byte hd).2, Nat.ofDigits_cons]
    ring

theorem digits_text_value (n : ℕ) : digitsValue (digitsText n) = n := by
  unfold digitsText
  by_cases hn : n = 0
  · rw [if_pos hn, hn]
    rfl
  · rw [if_neg hn, digits_value_reverse _ fun d hd => Nat.digits_lt_base (by norm_num) hd,
      Nat.ofDigits_digits]

theorem token_is_int (token : Int32) : IsInt (tokenToString token) token.toInt := by
  refine ⟨?_,token.le_toInt,by have := token.toInt_lt; omega⟩
  unfold tokenToString
  have hne := digits_text_ne_nil token.toInt.natAbs
  have hdigits := digits_text_digits token.toInt.natAbs
  by_cases hneg : token.toInt < 0
  · rw [if_pos hneg]
    have hnumeral := Numeral.minus _ hne hdigits
    have hvalue : -(token.toInt.natAbs : ℤ) = token.toInt := by omega
    rwa [digits_text_value, hvalue] at hnumeral
  · rw [if_neg hneg]
    have hnumeral := Numeral.plain _ hne hdigits
    have hvalue : (token.toInt.natAbs : ℤ) = token.toInt := by omega
    rwa [digits_text_value, hvalue] at hnumeral

theorem append_later (tokens : List Int32) (k : ℕ) (out : List UInt8) :
    (tokens.zipIdx (k+1)).foldl appendToken out =
      out++tokens.flatMap (fun token => 32::tokenToString token) := by
  induction tokens generalizing k out with
  | nil => simp
  | cons token tokens ih =>
    rw [List.zipIdx_cons, List.foldl_cons, ih]
    simp [appendToken]

theorem tokens_to_string_cons (token : Int32) (tokens : List Int32) :
    tokensToString (token::tokens) =
      tokenToString token++tokens.flatMap (fun token => 32::tokenToString token) := by
  have hfirst : appendToken [] (token,0) = tokenToString token := by simp [appendToken]
  rw [tokensToString, List.zipIdx_cons, List.foldl_cons, hfirst]
  exact append_later tokens 0 _

theorem later_fields (tokens : List Int32) :
    fields (tokens.flatMap fun token => 32::tokenToString token) = tokens.map tokenToString := by
  induction tokens with
  | nil => rfl
  | cons token tokens ih =>
    have hnumeral := (token_is_int token).1
    rw [List.flatMap_cons, List.cons_append, fields_space (by decide),
      fields_cons _ _ (numeral_ne_nil hnumeral) (numeral_no_space hnumeral), ih, List.map_cons]
    cases tokens with
    | nil => simp
    | cons token tokens => simp [isSpace]

/-- The fields of the text are the printed tokens. -/
theorem text_fields (tokens : List Int32) :
    fields (tokensToString tokens) = tokens.map tokenToString := by
  cases tokens with
  | nil => rfl
  | cons token tokens =>
    rw [tokens_to_string_cons, ← fields_space (show isSpace 32 = true by decide)]
    exact later_fields (token::tokens)

end Printing

section Words

theorem extract_word_cases (bytes : List UInt8) :
    (extractWord bytes = none ∧ fields bytes = []) ∨
    ∃ word rest, extractWord bytes = some (word,rest) ∧ fields bytes = word::fields rest ∧
      rest.length < bytes.length := by
  rcases fields_cases bytes with ⟨hdrop,hfields⟩ | ⟨word,rest,hdrop,hne,hw,hr,hfields⟩
  · left
    rw [extractWord, hdrop]
    exact ⟨rfl,hfields⟩
  · right
    have hword : ∀ b ∈ word, (!isSpace b) = true := fun b hb => by simp [hw b hb]
    have htake : (word++rest).takeWhile (!isSpace ·) = word ∧
        (word++rest).dropWhile (!isSpace ·) = rest := by
      rw [List.takeWhile_append_of_pos hword, List.dropWhile_append_of_pos hword]
      cases rest with
      | nil => simp
      | cons b rest => simp [hr b rfl]
    have hlength : word.length+rest.length ≤ bytes.length := by
      rw [← List.length_append, ← hdrop]
      exact (List.dropWhile_sublist isSpace).length_le
    have hpos := List.length_pos_of_ne_nil hne
    refine ⟨word,rest,?_,hfields,by omega⟩
    obtain ⟨b,tail,hcons⟩ := List.exists_cons_of_ne_nil
      (List.append_ne_nil_of_left_ne_nil hne rest)
    rw [extractWord, hdrop, hcons]
    dsimp only
    rw [← hcons, htake.1, htake.2]

theorem util_parse (msg : List UInt8) : Util.parseRequest msg =
    ((fields msg).filterMap stoi,(fields msg).filter fun word => (stoi word).isNone) := by
  have hfuel (n : ℕ) (bytes : List UInt8) (hn : bytes.length ≤ n) : Util.parseWords n bytes =
      ((fields bytes).filterMap stoi,(fields bytes).filter fun word => (stoi word).isNone) := by
    induction n generalizing bytes with
    | zero =>
      obtain rfl := List.length_eq_zero_iff.mp (Nat.le_zero.mp hn)
      rfl
    | succ n ih =>
      unfold Util.parseWords
      rcases extract_word_cases bytes with ⟨hnone,hfields⟩ | ⟨word,rest,hsome,hfields,hlt⟩
      · rw [hnone, hfields]
        rfl
      · rw [hsome, hfields]
        dsimp only
        rw [ih rest (by omega)]
        cases hstoi : stoi word <;> simp [hstoi]
  exact hfuel msg.length msg le_rfl

theorem stoi_int {word : List UInt8} {token : ℤ} (h : IsInt word token) :
    stoi word = some token := by
  have hdrop : word.dropWhile isSpace = word := by
    cases word with
    | nil => rfl
    | cons b word => rw [List.dropWhile_cons, if_neg (by simp [numeral_no_space h.1 b])]
  have hextract : extractInt word = some (token,[]) :=
    (extract_iff word [] token).mpr ⟨word,by rw [hdrop, List.append_nil],h,by simp⟩
  rw [stoi, hextract]
  rfl

theorem stoi_token (token : Int32) : stoi (tokenToString token) = some token.toInt :=
  stoi_int (token_is_int token)

/-- Both parsers give back the tokens that were printed, and no word is invalid. -/
theorem tokens_survive_text (tokens : List Int32) :
    Util.parseRequest (tokensToString tokens) = (tokens.map Int32.toInt,[]) ∧
      parseRequest (tokensToString tokens) = tokens.map Int32.toInt := by
  constructor
  · have htokens : tokens.filterMap (stoi ∘ tokenToString) = tokens.map Int32.toInt := by
      rw [← List.filterMap_eq_map]
      exact List.filterMap_congr fun token _ => stoi_token token
    rw [util_parse, text_fields, List.filterMap_map, htokens]
    simp [stoi_token]
  · apply parse_fields
    rw [text_fields, List.forall₂_map_left_iff, List.forall₂_map_right_iff]
    exact List.forall₂_same.mpr fun token _ => token_is_int token

end Words

end MiniLlm

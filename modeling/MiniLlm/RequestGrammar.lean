import Mathlib.Data.List.TakeWhile
import MiniLlm.Server

/-!
# The grammar of request lines

A request line is its fields, which white space separates, and every field is
a decimal int. The parser stops at the first extraction that fails and keeps
what it has, so a bad field goes unnoticed unless nothing came before it.
-/

set_option autoImplicit false

namespace MiniLlm

def fields (line : List UInt8) : List (List UInt8) :=
  (line.splitOnP isSpace).filter (· ≠ [])

/-- The decimal integers, with an optional sign. -/
inductive Numeral : List UInt8 → ℤ → Prop
  | plain (digits : List UInt8) (h : digits ≠ []) (hd : ∀ b ∈ digits, isDigit b = true) :
      Numeral digits (digitsValue digits)
  | plus (digits : List UInt8) (h : digits ≠ []) (hd : ∀ b ∈ digits, isDigit b = true) :
      Numeral (43::digits) (digitsValue digits)
  | minus (digits : List UInt8) (h : digits ≠ []) (hd : ∀ b ∈ digits, isDigit b = true) :
      Numeral (45::digits) (-digitsValue digits)

def IsInt (field : List UInt8) (token : ℤ) : Prop :=
  Numeral field token ∧ -2147483648 ≤ token ∧ token ≤ 2147483647

/-- What a line of the grammar denotes. -/
def RequestGrammar (line : List UInt8) (tokens : List ℤ) : Prop :=
  fields line ≠ [] ∧ List.Forall₂ IsInt (fields line) tokens

def BeginsWithInt (field : List UInt8) : Prop :=
  ∃ front tail token, field = front++tail ∧ IsInt front token ∧ ∀ b ∈ tail.head?, isDigit b = false

/-- Every field is an int, or the first one does not even begin with one. -/
def FaultsFirst (line : List UInt8) : Prop :=
  (∀ field ∈ fields line, ∃ token, IsInt field token) ∨
    ∀ field ∈ (fields line).head?, ¬ BeginsWithInt field

section Fields

theorem fields_space {b : UInt8} (hb : isSpace b = true) (line : List UInt8) :
    fields (b::line) = fields line := by
  rw [fields, List.splitOnP_cons_eq_if_modifyHead, if_pos hb]
  simp [fields]

theorem fields_drop (line : List UInt8) : fields line = fields (line.dropWhile isSpace) := by
  induction line with
  | nil => rfl
  | cons b line ih =>
    rw [List.dropWhile_cons]
    split
    · rw [fields_space ‹_›, ih]
    · rfl

theorem fields_cons (field rest : List UInt8) (hne : field ≠ [])
    (hf : ∀ b ∈ field, isSpace b = false) (hr : ∀ b ∈ rest.head?, isSpace b = true) :
    fields (field++rest) = field::fields rest := by
  cases rest with
  | nil =>
    rw [List.append_nil, fields, List.splitOnP_eq_singleton hf, fields, List.splitOnP_nil]
    simp [hne]
  | cons b rest =>
    have hb : isSpace b = true := hr b rfl
    rw [fields_space hb, fields, List.splitOnP_append_cons_of_forall_mem hf b hb, fields,
      List.filter_cons_of_pos (by simpa using hne)]

theorem fields_cases (line : List UInt8) :
    (line.dropWhile isSpace = [] ∧ fields line = []) ∨
    ∃ field rest, line.dropWhile isSpace = field++rest ∧ field ≠ [] ∧
      (∀ b ∈ field, isSpace b = false) ∧ (∀ b ∈ rest.head?, isSpace b = true) ∧
      fields line = field::fields rest := by
  rw [fields_drop]
  cases hdrop : line.dropWhile isSpace with
  | nil => exact .inl ⟨rfl,rfl⟩
  | cons b tail =>
    have hb : isSpace b = false := by
      have hhead := List.head?_dropWhile_not isSpace line
      rw [hdrop] at hhead
      exact hhead
    let p : UInt8 → Bool := fun b => !isSpace b
    have hne : (b::tail).takeWhile p ≠ [] := by
      rw [List.takeWhile_cons, if_pos (by simp [p, hb])]
      exact List.cons_ne_nil _ _
    have hfield : ∀ c ∈ (b::tail).takeWhile p, isSpace c = false := by
      intro c hc
      simpa [p] using List.mem_takeWhile_imp hc
    have hrest : ∀ c ∈ ((b::tail).dropWhile p).head?, isSpace c = true := by
      intro c hc
      have hhead := List.head?_dropWhile_not p (b::tail)
      rw [Option.mem_def.mp hc] at hhead
      simpa [p] using hhead
    refine .inr ⟨(b::tail).takeWhile p,(b::tail).dropWhile p,?_,hne,hfield,hrest,?_⟩
    · exact List.takeWhile_append_dropWhile.symm
    · rw [← fields_cons _ _ hne hfield hrest, List.takeWhile_append_dropWhile]

end Fields

section Extraction

theorem take_digits (digits tail : List UInt8) (hd : ∀ b ∈ digits, isDigit b = true)
    (ht : ∀ b ∈ tail.head?, isDigit b = false) :
    (digits++tail).takeWhile isDigit = digits ∧ (digits++tail).dropWhile isDigit = tail := by
  rw [List.takeWhile_append_of_pos hd, List.dropWhile_append_of_pos hd]
  cases tail with
  | nil => exact ⟨List.append_nil _,rfl⟩
  | cons b tail =>
    have hb : ¬ isDigit b = true := by simp [ht b rfl]
    rw [List.takeWhile_cons_of_neg hb, List.dropWhile_cons_of_neg hb, List.append_nil]
    exact ⟨rfl,rfl⟩

theorem take_sign_digits (digits tail : List UInt8) (h : digits ≠ [])
    (hd : ∀ b ∈ digits, isDigit b = true) : takeSign (digits++tail) = (1,digits++tail) := by
  cases digits with
  | nil => exact absurd rfl h
  | cons b digits =>
    have hb : isDigit b = true := hd b (List.mem_cons_self ..)
    rw [List.cons_append]
    unfold takeSign
    split
    · simp_all [isDigit]
    · simp_all [isDigit]
    · rfl

theorem take_sign_cases (bytes : List UInt8) :
    (∃ rest, bytes = 45::rest ∧ takeSign bytes = (-1,rest)) ∨
    (∃ rest, bytes = 43::rest ∧ takeSign bytes = (1,rest)) ∨ takeSign bytes = (1,bytes) := by
  unfold takeSign
  split
  · exact .inl ⟨_,rfl,rfl⟩
  · exact .inr (.inl ⟨_,rfl,rfl⟩)
  · exact .inr (.inr rfl)

theorem taken_numeral (bytes : List UInt8) (h : (takeSign bytes).2.takeWhile isDigit ≠ []) :
    ∃ front, bytes = front++(takeSign bytes).2.dropWhile isDigit ∧
      Numeral front ((takeSign bytes).1*digitsValue ((takeSign bytes).2.takeWhile isDigit)) := by
  have hd (rest : List UInt8) : ∀ b ∈ rest.takeWhile isDigit, isDigit b = true :=
    fun b hb => List.mem_takeWhile_imp hb
  rcases take_sign_cases bytes with ⟨rest,rfl,hsign⟩ | ⟨rest,rfl,hsign⟩ | hsign
  · rw [hsign] at h ⊢
    refine ⟨45::rest.takeWhile isDigit,?_,?_⟩
    · rw [List.cons_append, List.takeWhile_append_dropWhile]
    · rw [neg_one_mul]
      exact .minus _ h (hd rest)
  · rw [hsign] at h ⊢
    refine ⟨43::rest.takeWhile isDigit,?_,?_⟩
    · rw [List.cons_append, List.takeWhile_append_dropWhile]
    · rw [one_mul]
      exact .plus _ h (hd rest)
  · rw [hsign] at h ⊢
    refine ⟨bytes.takeWhile isDigit,?_,?_⟩
    · rw [List.takeWhile_append_dropWhile]
    · rw [one_mul]
      exact .plain _ h (hd bytes)

/-- An extraction takes white space and an int with all the digits that follow. -/
theorem extract_iff (bytes tail : List UInt8) (token : ℤ) :
    extractInt bytes = some (token,tail) ↔ ∃ front, bytes.dropWhile isSpace = front++tail ∧
      IsInt front token ∧ ∀ b ∈ tail.head?, isDigit b = false := by
  unfold extractInt
  dsimp only
  constructor
  · intro h
    split at h
    · cases h
    · rename_i hok
      rw [not_or, not_or] at hok
      obtain ⟨hne,hlow,hhigh⟩ := hok
      obtain ⟨rfl,rfl⟩ := Prod.mk.inj (Option.some.inj h)
      obtain ⟨front,hfront,hnumeral⟩ := taken_numeral _ hne
      refine ⟨front,hfront,⟨hnumeral,by omega,by omega⟩,?_⟩
      intro b hb
      have hhead := List.head?_dropWhile_not isDigit (takeSign (bytes.dropWhile isSpace)).2
      rw [Option.mem_def.mp hb] at hhead
      simpa using hhead
  · rintro ⟨front,hbytes,⟨hnumeral,hlow,hhigh⟩,htail⟩
    rw [hbytes]
    have htaken : ∃ sign digits, takeSign (front++tail) = (sign,digits++tail) ∧ digits ≠ [] ∧
        (∀ b ∈ digits, isDigit b = true) ∧ token = sign*digitsValue digits := by
      cases hnumeral with
      | plain _ h hd => exact ⟨1,front,take_sign_digits front tail h hd,h,hd,(one_mul _).symm⟩
      | plus digits h hd => exact ⟨1,digits,rfl,h,hd,(one_mul _).symm⟩
      | minus digits h hd => exact ⟨-1,digits,rfl,h,hd,(neg_one_mul _).symm⟩
    obtain ⟨sign,digits,hsign,hne,hd,rfl⟩ := htaken
    obtain ⟨htake,hdrop⟩ := take_digits digits tail hd htail
    rw [hsign]
    dsimp only
    rw [htake, hdrop, if_neg]
    rw [not_or, not_or]
    exact ⟨hne,by omega,by omega⟩

end Extraction

section Parsing

theorem numeral_ne_nil {field : List UInt8} {token : ℤ} (h : Numeral field token) :
    field ≠ [] := by
  cases h with
  | plain _ h => exact h
  | plus => exact List.cons_ne_nil _ _
  | minus => exact List.cons_ne_nil _ _

theorem numeral_no_space {field : List UInt8} {token : ℤ} (h : Numeral field token) :
    ∀ b ∈ field, isSpace b = false := by
  have hdigit (b : UInt8) (hb : isDigit b = true) : isSpace b = false := by
    simp only [isDigit, isSpace, Bool.and_eq_true, decide_eq_true_eq, Bool.or_eq_false_iff,
      Bool.and_eq_false_iff, decide_eq_false_iff_not, beq_eq_false_iff_ne, ne_eq] at hb ⊢
    grind
  intro b hb
  cases h with
  | plain _ _ hd => exact hdigit b (hd b hb)
  | plus digits _ hd =>
    rcases List.mem_cons.mp hb with rfl | hb
    · decide
    · exact hdigit b (hd b hb)
  | minus digits _ hd =>
    rcases List.mem_cons.mp hb with rfl | hb
    · decide
    · exact hdigit b (hd b hb)

theorem extract_shortens {bytes tail : List UInt8} {token : ℤ}
    (h : extractInt bytes = some (token,tail)) : tail.length < bytes.length := by
  obtain ⟨front,hbytes,hint,_⟩ := (extract_iff _ _ _).mp h
  have hfront := List.length_pos_of_ne_nil (numeral_ne_nil hint.1)
  have hdrop := (List.dropWhile_sublist (l := bytes) isSpace).length_le
  rw [hbytes, List.length_append] at hdrop
  omega

theorem extract_ints_fuel (n m : ℕ) (bytes : List UInt8) (hn : bytes.length ≤ n)
    (hm : bytes.length ≤ m) : extractInts n bytes = extractInts m bytes := by
  induction n generalizing m bytes with
  | zero =>
    obtain rfl := List.length_eq_zero_iff.mp (Nat.le_zero.mp hn)
    cases m <;> rfl
  | succ n ih =>
    cases m with
    | zero =>
      obtain rfl := List.length_eq_zero_iff.mp (Nat.le_zero.mp hm)
      rfl
    | succ m =>
      unfold extractInts
      cases hextract : extractInt bytes with
      | none => rfl
      | some taken =>
        have hlength := extract_shortens hextract
        exact congrArg _ (ih m taken.2 (by omega) (by omega))

theorem parse_none {line : List UInt8} (h : extractInt line = none) : parseRequest line = [] := by
  unfold parseRequest
  cases line.length with
  | zero => rfl
  | succ n =>
    unfold extractInts
    rw [h]

theorem parse_some {line tail : List UInt8} {token : ℤ}
    (h : extractInt line = some (token,tail)) :
    parseRequest line = token::parseRequest tail := by
  have hlength := extract_shortens h
  obtain ⟨n,hn⟩ : ∃ n, line.length = n+1 := ⟨line.length-1,by omega⟩
  have htaken : extractInts (n+1) line = token::extractInts n tail := by
    rw [extractInts, h]
  rw [parseRequest, hn, htaken, extract_ints_fuel n tail.length tail (by omega) le_rfl,
    parseRequest]

theorem space_no_digit {rest : List UInt8} (h : ∀ b ∈ rest.head?, isSpace b = true) :
    ∀ b ∈ rest.head?, isDigit b = false := by
  intro b hb
  have hspace := h b hb
  simp only [isDigit, isSpace, Bool.and_eq_true, decide_eq_true_eq, Bool.or_eq_true,
    Bool.and_eq_false_iff, decide_eq_false_iff_not, beq_iff_eq] at hspace ⊢
  grind

/-- The parser is complete: it finds what a line of the grammar denotes. -/
theorem parse_fields (tokens : List ℤ) (line : List UInt8)
    (h : List.Forall₂ IsInt (fields line) tokens) : parseRequest line = tokens := by
  induction tokens generalizing line with
  | nil =>
    apply parse_none
    rcases fields_cases line with ⟨hdrop,_⟩ | ⟨field,rest,_,_,_,_,hfields⟩
    · unfold extractInt
      rw [hdrop]
      rfl
    · rw [hfields] at h
      cases h
  | cons token tokens ih =>
    rcases fields_cases line with ⟨_,hfields⟩ | ⟨field,rest,hdrop,_,_,hrest,hfields⟩
    · rw [hfields] at h
      cases h
    · rw [hfields] at h
      cases h with
      | cons hint hmore =>
        have hextract := (extract_iff _ _ _).mpr ⟨field,hdrop,hint,space_no_digit hrest⟩
        rw [parse_some hextract, ih rest hmore]

theorem extract_first {line field rest : List UInt8}
    (hdrop : line.dropWhile isSpace = field++rest) (hf : ∀ b ∈ field, isSpace b = false)
    (hr : ∀ b ∈ rest.head?, isSpace b = true) : extractInt line ≠ none ↔ BeginsWithInt field := by
  constructor
  · intro hne
    obtain ⟨⟨token,tail⟩,hextract⟩ := Option.ne_none_iff_exists'.mp hne
    obtain ⟨front,hfront,hint,htail⟩ := (extract_iff _ _ _).mp hextract
    rw [hdrop, List.append_eq_append_iff] at hfront
    rcases hfront with ⟨more,rfl,hrest⟩ | ⟨more,rfl,rfl⟩
    · -- the int would go on into the white space
      have hnil : more = [] := by
        cases more with
        | nil => rfl
        | cons b more =>
          have hspace := hr b (by rw [hrest]; rfl)
          have hno := numeral_no_space hint.1 b (by simp)
          rw [hspace] at hno
          cases hno
      subst hnil
      exact ⟨field,[],token,(List.append_nil _).symm,by simpa using hint,by simp⟩
    · refine ⟨front,more,token,rfl,hint,?_⟩
      intro b hb
      apply htail
      rw [List.head?_append, Option.mem_def.mp hb]
      rfl
  · rintro ⟨front,more,token,rfl,hint,hmore⟩
    have htail : ∀ b ∈ (more++rest).head?, isDigit b = false := by
      cases more with
      | nil => exact space_no_digit hr
      | cons b more => exact hmore
    rw [(extract_iff _ _ _).mpr ⟨front,hdrop.trans (List.append_assoc _ _ _),hint,htail⟩]
    exact Option.some_ne_none _

theorem ints_iff (line : List (List UInt8)) :
    (∀ field ∈ line, ∃ token, IsInt field token) ↔ ∃ tokens, List.Forall₂ IsInt line tokens := by
  constructor
  · intro h
    induction line with
    | nil => exact ⟨[],.nil⟩
    | cons field line ih =>
      obtain ⟨token,htoken⟩ := h field (List.mem_cons_self ..)
      obtain ⟨tokens,htokens⟩ := ih fun f hf => h f (List.mem_cons_of_mem _ hf)
      exact ⟨token::tokens,.cons htoken htokens⟩
  · rintro ⟨tokens,h⟩
    induction h with
    | nil => simp
    | cons hint _ ih =>
      rw [List.forall_mem_cons]
      exact ⟨⟨_,hint⟩,ih⟩

/-- The tokens of a line are what it denotes exactly when its first fault comes first. -/
theorem parse_iff (line : List UInt8) :
    (∀ tokens, parseRequest line ≠ [] ∧ tokens = parseRequest line ↔ RequestGrammar line tokens) ↔
      FaultsFirst line := by
  constructor
  · intro h
    by_cases hparse : parseRequest line = []
    · right
      intro field hfield hbegins
      rcases fields_cases line with ⟨_,hfields⟩ | ⟨first,rest,hdrop,_,hf,hr,hfields⟩
      · rw [hfields] at hfield
        cases hfield
      · rw [hfields] at hfield
        obtain rfl : first = field := Option.some.inj hfield
        obtain ⟨taken,hextract⟩ :=
          Option.ne_none_iff_exists'.mp ((extract_first hdrop hf hr).mpr hbegins)
        rw [parse_some hextract] at hparse
        exact List.cons_ne_nil _ _ hparse
    · left
      exact (ints_iff _).mpr ⟨_,((h _).mp ⟨hparse,rfl⟩).2⟩
  · rintro (hints | hfirst) tokens
    · constructor
      · rintro ⟨hne,rfl⟩
        obtain ⟨tokens,htokens⟩ := (ints_iff _).mp hints
        rw [parse_fields tokens line htokens] at hne ⊢
        refine ⟨fun hnil => ?_,htokens⟩
        rw [hnil, List.forall₂_nil_left_iff] at htokens
        exact hne htokens
      · rintro ⟨hne,htokens⟩
        rw [parse_fields tokens line htokens]
        refine ⟨fun hnil => ?_,rfl⟩
        rw [hnil, List.forall₂_nil_right_iff] at htokens
        exact hne htokens
    · rcases fields_cases line with ⟨hdrop,hfields⟩ | ⟨first,rest,hdrop,_,hf,hr,hfields⟩
      · have hparse : parseRequest line = [] := parse_fields [] line (by rw [hfields]; exact .nil)
        simp [RequestGrammar, hparse, hfields]
      · have hno : ¬ BeginsWithInt first := hfirst first (by rw [hfields]; rfl)
        have hextract := not_ne_iff.mp (mt (extract_first hdrop hf hr).mp hno)
        rw [parse_none hextract]
        constructor
        · exact fun h => absurd rfl h.1
        · rintro ⟨_,htokens⟩
          rw [hfields] at htokens
          cases htokens with
          | cons hint _ =>
            exact absurd ⟨first,[],_,(List.append_nil _).symm,hint,by simp⟩ hno

end Parsing

namespace ServerContext

variable {C A B : Type*}

def Submits (s t : ServerContext C A B) (tokens : List ℤ) : Prop :=
  ∃ req : Request, req.tokens = tokens ∧ t.scheduler = s.scheduler.submitRequest req

structure Handled (s t : ServerContext C A B) (client : C) (line : List UInt8) : Prop where
  submits : ∀ tokens, Submits s t tokens ↔ RequestGrammar line tokens
  refused : (∀ tokens, ¬ RequestGrammar line tokens) →
    t.scheduler = s.scheduler ∧ t.enqueued client = s.enqueued client++["invalid request\n"]

variable [DecidableEq C] (s : ServerContext C A B) (client : C) (line : List UInt8)

theorem on_read_completes {start finish : List UInt8} (h : s.readBuffer client = start)
    (hn : newline ∉ start++finish) :
    s.onRead client (finish++[newline]) =
      (s.setBuffer client []).onLine client (start++finish) :=
  (reader client).on_read_completes h hn

theorem on_line_refuses (h : parseRequest line = []) :
    (s.onLine client line).scheduler = s.scheduler ∧
      (s.onLine client line).enqueued client = s.enqueued client++["invalid request\n"] := by
  rw [onLine, if_pos h]
  exact ⟨rfl,Function.update_self _ _ _⟩

theorem on_line_submits (tokens : List ℤ) : Submits s (s.onLine client line) tokens ↔
    parseRequest line ≠ [] ∧ tokens = parseRequest line := by
  have hqueue {t : ServerContext C A B} {req : Request}
      (ht : t.scheduler = s.scheduler.submitRequest req) :
      t.scheduler.queues .request = s.scheduler.queues .request++[req] := by
    rw [ht, Scheduler.submitRequest, Scheduler.push_back_queues, if_pos rfl]
  by_cases hparse : parseRequest line = []
  · constructor
    · rintro ⟨req,_,ht⟩
      have hsame := hqueue ht
      rw [(on_line_refuses s client line hparse).1] at hsame
      simp at hsame
    · exact fun h => absurd hparse h.1
  · have hline : (s.onLine client line).scheduler = s.scheduler.submitRequest
        (Request.new (asInt s.nextRequestId) (parseRequest line) defaultMaxNewTokens) := by
      rw [onLine, if_neg hparse]
    constructor
    · rintro ⟨req,rfl,ht⟩
      have hsame := (hqueue ht).symm.trans (hqueue hline)
      have hreq := List.singleton_inj.mp (List.append_cancel_left hsame)
      exact ⟨hparse,congrArg Request.tokens hreq⟩
    · rintro ⟨_,rfl⟩
      exact ⟨_,rfl,hline⟩

theorem handled_set_buffer (t : ServerContext C A B) (buffer : List UInt8) :
    Handled (s.setBuffer client buffer) t client line ↔ Handled s t client line :=
  ⟨fun h => ⟨h.submits,h.refused⟩,fun h => ⟨h.submits,h.refused⟩⟩

theorem on_line_handled_iff :
    Handled s (s.onLine client line) client line ↔ FaultsFirst line := by
  rw [← parse_iff]
  constructor
  · intro h tokens
    rw [← on_line_submits s client, h.submits]
  · intro h
    refine ⟨fun tokens => (on_line_submits s client line tokens).trans (h tokens),fun hno => ?_⟩
    apply on_line_refuses
    by_contra hne
    exact hno _ ((h _).mp ⟨hne,rfl⟩)

/-- A line is handled as the grammar has it if and only if its first fault comes first. -/
theorem request_line_handled_iff {start finish : List UInt8} (h : s.readBuffer client = start)
    (hn : newline ∉ start++finish) :
    Handled s (s.onRead client (finish++[newline])) client (start++finish) ↔
      FaultsFirst (start++finish) := by
  rw [on_read_completes s client h hn, ← handled_set_buffer s client _ _ []]
  exact on_line_handled_iff (s.setBuffer client []) client (start++finish)

/-- `12 -3` -/
theorem two_tokens_handled :
    Handled oneClient (oneClient.onRead () ([49,50,32,45,51]++[newline])) () [49,50,32,45,51] ↔
      FaultsFirst [49,50,32,45,51] :=
  request_line_handled_iff oneClient () (show oneClient.readBuffer () = [] from rfl) (by decide)

/-- `1 x` is submitted as `1`. -/
theorem stray_field_submitted :
    ¬ Handled oneClient (oneClient.onRead () ([49,32,120]++[newline])) () [49,32,120] := by
  have hfields : fields [49,32,120] = [[49],[120]] := by decide
  rw [on_read_completes oneClient () (show oneClient.readBuffer () = [] from rfl) (by decide),
    ← handled_set_buffer oneClient () _ _ []]
  intro h
  rcases (on_line_handled_iff (oneClient.setBuffer () []) () _).mp h with hints | hfirst
  · obtain ⟨token,hnumeral,_⟩ := hints [120] (by rw [List.nil_append, hfields]; simp)
    cases hnumeral with
    | plain _ _ hd => exact absurd (hd 120 (List.mem_singleton_self _)) (by decide)
  · apply hfirst [49] (by rw [List.nil_append, hfields]; rfl)
    have hone : IsInt [49] 1 :=
      ⟨.plain [49] (by decide) (List.forall_mem_singleton.mpr (by decide)),by decide,by decide⟩
    exact ⟨[49],[],1,rfl,hone,by simp⟩

end ServerContext

end MiniLlm

import ClassSchema.Declaration.Argument
import ClassSchema.Proofs.Text.Trim
import ClassSchema.Proofs.Token.Spaced

/-!
# Words, literals and comments as they are written

The descriptions of the single tokens of a class: names, reserved words, marks, strings, integers
and comments. Each description carries what makes it one token, so a name is no reserved word and a
comment is closed, and comes with what it stands for.
-/

namespace ClassSchema

/-! ## How far tokens reach -/

theorem Kind.Precedes.takeWhile_append {kind : Kind} {p : Char → Bool} {cs rest : List Char}
    (hrest : kind.Precedes rest) (hcs : ∀ c ∈ cs, p c = true)
    (hp : ∀ c, Text.isBlank c = true → p c = false) : (cs ++ rest).takeWhile p = cs := by
  rw [List.takeWhile_append_of_pos hcs]
  cases rest with
  | nil => rw [List.takeWhile_nil, List.append_nil]
  | cons c rest =>
    rw [List.takeWhile_cons_of_neg (ne_true_of_eq_false (hp c hrest.1)),
      List.append_nil]

theorem isNewlineChar_and_isSpaceChar_eq_false {c : Char} (h : Text.isBlank c = false) :
    isNewlineChar c = false ∧ isSpaceChar c = false := by
  rw [Bool.eq_false_iff, Bool.eq_false_iff]
  constructor <;> intro hc
  · rw [isBlank_of_isNewlineChar hc] at h
    cases h
  · rw [isBlank_of_isSpaceChar hc] at h
    cases h

namespace Lexeme

variable {c : Char} {cs rest : List Char} {kind : Kind}

/-- A word reaches as far as its characters do. -/
theorem read_of_isIdentifierStart (hc : isIdentifierStart c = true) :
    read c cs = ⟨some ((Keyword.ofText? (String.ofList (c :: cs.takeWhile isIdentifierPart))).elim
      .identifier .keyword), (cs.takeWhile isIdentifierPart).length⟩ := by
  have hblank : Text.isBlank c = false := by
    rw [Bool.eq_false_iff]
    intro hblank
    have hpart := isIdentifierPart_of_isIdentifierStart hc
    rw [isIdentifierPart_eq_false_of_isBlank hblank] at hpart
    cases hpart
  obtain ⟨hnewline, hspace⟩ := isNewlineChar_and_isSpaceChar_eq_false hblank
  have hne {d : Char} (hd : isIdentifierStart d = false) : ¬c = d := by
    rintro rfl
    rw [hc] at hd
    cases hd
  have hdigit : Text.isDigit c = false := by
    rw [isIdentifierStart, Bool.or_eq_true, Bool.or_eq_true, decide_eq_true_eq,
      decide_eq_true_eq] at hc
    rcases hc with (hletter | rfl) | rfl
    · exact Text.isDigit_eq_false_of_isLetter hletter
    · decide
    · decide
  -- no branch in front of the one for words takes a letter
  unfold read
  rw [if_neg (ne_true_of_eq_false hnewline),
    if_neg (ne_true_of_eq_false hspace), if_neg (hne (by decide)),
    if_neg (hne (by decide)), if_neg (ne_true_of_eq_false hdigit),
    if_neg (fun hand ↦ hne (by decide) hand.1), if_pos hc]
  dsimp only
  cases Keyword.ofText? (String.ofList (c :: cs.takeWhile isIdentifierPart)) <;> rfl

theorem read_eq_word (hc : isIdentifierStart c = true) (hcs : ∀ d ∈ cs, isIdentifierPart d = true)
    (hrest : kind.Precedes rest) :
    read c (cs ++ rest) =
      ⟨some ((Keyword.ofText? (String.ofList (c :: cs))).elim .identifier .keyword),
        cs.length⟩ := by
  rw [read_of_isIdentifierStart hc,
    hrest.takeWhile_append hcs fun _ ↦ isIdentifierPart_eq_false_of_isBlank]

theorem read_of_isDigit (hdigit : Text.isDigit c = true) :
    read c cs = ⟨some .number, numberLength (c :: cs) - 1⟩ := by
  obtain ⟨hnewline, hspace⟩ :=
    isNewlineChar_and_isSpaceChar_eq_false (Text.isBlank_eq_false_of_isDigit hdigit)
  have hne {d : Char} (hd : Text.isDigit d = false) : ¬c = d := by
    rintro rfl
    rw [hd] at hdigit
    cases hdigit
  unfold read
  rw [if_neg (ne_true_of_eq_false hnewline), if_neg (ne_true_of_eq_false hspace),
    if_neg (hne (by decide)), if_neg (hne (by decide)), if_pos hdigit]

theorem read_of_minus (hdigit : cs.head?.any Text.isDigit = true) :
    read '-' cs = ⟨some .number, numberLength cs⟩ := by
  unfold read
  rw [if_neg (by decide), if_neg (by decide), if_neg (by decide), if_neg (by decide),
    if_neg (by decide), if_pos ⟨rfl, hdigit⟩]

theorem read_of_quote {n : Nat} (h : stringLength? cs = some n) :
    read '"' cs = ⟨some .string, n⟩ := by
  unfold read
  rw [if_neg (by decide), if_neg (by decide), if_neg (by decide), if_pos rfl, h]

theorem read_eq_mark (m : Mark) : read m.char rest = ⟨some (.mark m), 0⟩ := by
  have hclasses : isNewlineChar m.char = false ∧ isSpaceChar m.char = false ∧
      Text.isDigit m.char = false ∧ isIdentifierStart m.char = false := by
    cases m <;> decide
  obtain ⟨hnewline, hspace, hdigit, hstart⟩ := hclasses
  have hne : ¬m.char = '/' ∧ ¬m.char = '"' ∧ ¬m.char = '-' := by cases m <;> decide
  have hmark : Mark.ofChar? m.char = some m := by cases m <;> decide
  unfold read
  rw [if_neg (ne_true_of_eq_false hnewline),
    if_neg (ne_true_of_eq_false hspace), if_neg hne.1, if_neg hne.2.1,
    if_neg (ne_true_of_eq_false hdigit), if_neg (fun hand ↦ hne.2.2 hand.1),
    if_neg (ne_true_of_eq_false hstart), hmark]
  rfl

end Lexeme

namespace Written

/-! ## Words and marks -/

/-- A name that is no reserved word. -/
structure Name where
  head : Char
  tail : List Char
  isIdentifierStart_head : isIdentifierStart head = true
  all_isIdentifierPart_tail : tail.all isIdentifierPart = true
  ofText?_eq_none : Keyword.ofText? (String.ofList (head :: tail)) = none

/-- Whether a word is a name. -/
def Name.isName (word : String) : Bool :=
  isIdentifierStart (word.toList.headD ' ') && word.toList.tail.all isIdentifierPart &&
    (Keyword.ofText? (String.ofList (word.toList.headD ' ' :: word.toList.tail))).isNone

/-- A word as a name. -/
def Name.of (word : String) (h : isName word = true) : Name where
  head := word.toList.headD ' '
  tail := word.toList.tail
  isIdentifierStart_head := (Bool.and_eq_true_iff.mp (Bool.and_eq_true_iff.mp h).1).1
  all_isIdentifierPart_tail := (Bool.and_eq_true_iff.mp (Bool.and_eq_true_iff.mp h).1).2
  ofText?_eq_none := Option.isNone_iff_eq_none.mp (Bool.and_eq_true_iff.mp h).2

/-- The text of a name. -/
def Name.text (n : Name) : String := String.ofList (n.head :: n.tail)

/-- A name as it is written. -/
def Name.piece (n : Name) : Piece where
  kind := .identifier
  head := n.head
  tail := n.tail
  read_eq rest hrest := by
    have htail := List.all_eq_true.mp n.all_isIdentifierPart_tail
    rw [Lexeme.read_eq_word n.isIdentifierStart_head htail hrest,
      n.ofText?_eq_none, Option.elim_none]
  isTrivia_eq_false := rfl

/-- A mark as it is written. -/
def mark (m : Mark) : Piece where
  kind := .mark m
  head := m.char
  tail := []
  read_eq _ _ := Lexeme.read_eq_mark m
  isTrivia_eq_false := rfl

theorem exists_text_keyword (word : Keyword) :
    ∃ c cs, word.text.toList = c :: cs ∧ isIdentifierStart c = true ∧
      cs.all isIdentifierPart = true := by
  cases word <;> exact ⟨_, _, rfl, by decide, by decide⟩

/-- A reserved word as it is written. -/
def keyword (word : Keyword) : Piece where
  kind := .keyword word
  head := word.text.toList.headD ' '
  tail := word.text.toList.tail
  read_eq rest hrest := by
    obtain ⟨c, cs, htext, hc, hcs⟩ := exists_text_keyword word
    have hword : Keyword.ofText? (String.ofList (c :: cs)) = some word := by
      rw [← htext, String.ofList_toList]
      cases word <;> decide
    rw [htext, List.headD_cons, List.tail_cons,
      Lexeme.read_eq_word hc (List.all_eq_true.mp hcs) hrest, hword, Option.elim_some]
  isTrivia_eq_false := rfl

/-! ## Strings -/

/-- A character of a string: it stands for itself, or a backslash stands in front of it. -/
inductive StringUnit
  | plain (c : Char) (isPlain : c ≠ '"' ∧ c ≠ '\\')
  | escaped (c : Char)

namespace StringUnit

/-- The characters that are written. -/
def chars : StringUnit → List Char
  | plain c _ => [c]
  | escaped c => ['\\', c]

/-- The character that is meant. -/
def value : StringUnit → Char
  | plain c _ => c
  | escaped c => Text.unescape c

/-- The units of a string that means the characters `cs`. -/
def ofChar (c : Char) : StringUnit :=
  if h : c ≠ '"' ∧ c ≠ '\\' then plain c h else escaped c

private theorem value_ofChar (c : Char) : (ofChar c).value = c := by
  rw [ofChar]
  split
  · rfl
  · rename_i h
    by_cases hquote : c = '"'
    · rw [hquote]
      decide
    · have hslash : c = '\\' := by
        by_contra hslash
        exact h ⟨hquote, hslash⟩
      rw [hslash]
      decide

end StringUnit

/-- The characters of a string between its quotes. -/
def stringBody (units : List StringUnit) : List Char := units.flatMap StringUnit.chars

/-- The text that a string means. -/
def stringValue (units : List StringUnit) : String := String.ofList (units.map StringUnit.value)

theorem stringValue_map_ofChar (text : String) :
    stringValue (text.toList.map StringUnit.ofChar) = text := by
  rw [stringValue, List.map_map]
  have hid : StringUnit.value ∘ StringUnit.ofChar = id := funext StringUnit.value_ofChar
  rw [hid, List.map_id, String.ofList_toList]

theorem stringLength?_stringBody (units : List StringUnit) (rest : List Char) :
    Lexeme.stringLength? (stringBody units ++ '"' :: rest) =
      some ((stringBody units).length + 1) := by
  induction units with
  | nil => rfl
  | cons u units ih =>
    rw [stringBody, List.flatMap_cons, ← stringBody, List.append_assoc, List.length_append]
    cases u with
    | plain c isPlain =>
      rw [StringUnit.chars, List.singleton_append, Lexeme.stringLength?, ih, Option.map_some,
        List.length_singleton]
      · congr 1
        omega
      · exact fun h ↦ isPlain.1 h
      · exact fun _ _ h _ ↦ isPlain.2 h
    | escaped c =>
      rw [StringUnit.chars, List.cons_append, List.cons_append, List.nil_append,
        Lexeme.stringLength?, ih, Option.map_some, List.length_cons, List.length_singleton]
      congr 1
      omega

private theorem unescapeAll_stringBody (units : List StringUnit) :
    Text.unescapeAll (stringBody units) = units.map StringUnit.value := by
  induction units with
  | nil => rfl
  | cons u units ih =>
    rw [stringBody, List.flatMap_cons, ← stringBody, List.map_cons, ← ih]
    cases u with
    | plain c isPlain =>
      rw [StringUnit.chars, List.singleton_append, Text.unescapeAll]
      · rfl
      · exact fun _ _ h _ ↦ isPlain.2 h
    | escaped c => rfl

theorem unquote_stringBody (units : List StringUnit) :
    Text.unquote (String.ofList ('"' :: (stringBody units ++ ['"']))) = stringValue units := by
  rw [Text.unquote, String.toList_ofList, Text.dropQuotes, List.getLast?_concat, if_pos rfl,
    List.dropLast_concat, unescapeAll_stringBody, stringValue]

/-- A string as it is written. -/
def string (units : List StringUnit) : Piece where
  kind := .string
  head := '"'
  tail := stringBody units ++ ['"']
  read_eq rest _ := by
    have hlength : Lexeme.stringLength? (stringBody units ++ ['"'] ++ rest) =
        some ((stringBody units).length + 1) := by
      rw [List.append_assoc, List.singleton_append, stringLength?_stringBody]
    rw [Lexeme.read_of_quote hlength, List.length_append, List.length_singleton]
  isTrivia_eq_false := rfl

theorem unquote_text_string (units : List StringUnit) :
    Text.unquote (string units).text = stringValue units := unquote_stringBody units

/-! ## Integers -/

private theorem isNumberSuffix_eq_false_of_isBlank {c : Char} (h : Text.isBlank c = true) :
    isNumberSuffix c = false := by
  rw [Bool.eq_false_iff]
  intro hsuffix
  simp only [isNumberSuffix, Bool.or_eq_true, decide_eq_true_eq] at hsuffix
  rcases hsuffix with ((((rfl | rfl) | rfl) | rfl) | rfl) | rfl <;> revert h <;> decide

private theorem isTypeLetter_eq_false_of_isDecimal {c : Char} (h : Text.isDecimal c = true) :
    Numeral.isTypeLetter c = false := by
  rw [Bool.eq_false_iff]
  intro hletter
  simp only [Numeral.isTypeLetter, Bool.or_eq_true, decide_eq_true_eq] at hletter
  rcases hletter with ((((rfl | rfl) | rfl) | rfl) | rfl) | rfl <;> revert h <;> decide

theorem dropTypeLetter_eq_self {cs : List Char} (h : ∀ c ∈ cs, Numeral.isTypeLetter c = false) :
    Numeral.dropTypeLetter cs = cs := by
  rw [Numeral.dropTypeLetter]
  cases hlast : cs.getLast? with
  | none => rfl
  | some c =>
    exact if_neg (ne_true_of_eq_false (h c (List.mem_of_getLast? hlast)))

/-- An integer: its sign and its digits, of which there are no more than can be read. -/
structure Integer where
  negative : Bool
  head : Char
  tail : List Char
  isDecimal_head : Text.isDecimal head = true
  all_isDecimal_tail : tail.all Text.isDecimal = true
  length_le : (head :: tail).length ≤ Numeral.digitLimit

namespace Integer

variable (i : Integer)

/-- The digits of an integer. -/
def digits : List Char := i.head :: i.tail

/-- The integer that is meant. -/
def value : Int :=
  if i.negative then -Numeral.digitsValue i.digits else Numeral.digitsValue i.digits

theorem isDecimal_of_mem_digits {c : Char} (h : c ∈ i.digits) : Text.isDecimal c = true := by
  rcases List.mem_cons.mp h with rfl | h
  · exact i.isDecimal_head
  · exact List.all_eq_true.mp i.all_isDecimal_tail c h

theorem isDigit_of_mem_digits {c : Char} (h : c ∈ i.digits) : Text.isDigit c = true :=
  Text.isDigit_of_isDecimal (i.isDecimal_of_mem_digits h)

theorem numberLength_digits {kind : Kind} {rest : List Char} (hrest : kind.Precedes rest) :
    Lexeme.numberLength (i.digits ++ rest) = i.digits.length := by
  have hdigits : (i.digits ++ rest).takeWhile Text.isDigit = i.digits :=
    hrest.takeWhile_append (fun _ ↦ i.isDigit_of_mem_digits) fun _ ↦
      Text.isDigit_eq_false_of_isBlank
  have hfraction : Lexeme.fractionLength rest = 0 := by
    unfold Lexeme.fractionLength
    split
    · exact absurd hrest.1 (by decide)
    · rfl
  have hsuffix : Lexeme.suffixLength rest = 0 := by
    cases rest with
    | nil => rfl
    | cons c rest =>
      rw [Lexeme.suffixLength, isNumberSuffix_eq_false_of_isBlank hrest.1, Bool.false_and,
        if_neg Bool.false_ne_true]
  rw [Lexeme.numberLength, hdigits, List.drop_left, hfraction,
    Nat.add_zero, List.drop_left, hsuffix, Nat.add_zero]

/-- An integer as it is written. -/
def piece : Piece where
  kind := .number
  head := if i.negative then '-' else i.head
  tail := if i.negative then i.digits else i.tail
  read_eq rest hrest := by
    have hdigit : Text.isDigit i.head = true := i.isDigit_of_mem_digits List.mem_cons_self
    have hlength := i.numberLength_digits hrest
    cases i.negative with
    | true =>
      have hnext : (i.digits ++ rest).head?.any Text.isDigit = true := hdigit
      rw [if_pos rfl, if_pos rfl, Lexeme.read_of_minus hnext, hlength]
    | false =>
      rw [if_neg Bool.false_ne_true, if_neg Bool.false_ne_true, Lexeme.read_of_isDigit hdigit,
        ← List.cons_append, ← digits, hlength]
      rfl
  isTrivia_eq_false := rfl

theorem chars_piece :
    i.piece.chars = if i.negative then '-' :: i.digits else i.digits := by
  change (if i.negative then '-' else i.head) :: (if i.negative then i.digits else i.tail) = _
  cases i.negative <;> rfl

/-- No character of an integer is one that is dropped from the text of a numeral. -/
theorem isBlank_and_isTypeLetter_of_mem_chars {c : Char} (h : c ∈ i.piece.chars) :
    Text.isBlank c = false ∧ Numeral.isTypeLetter c = false := by
  have hminus : Text.isBlank '-' = false ∧ Numeral.isTypeLetter '-' = false := by decide
  have hdigits : ∀ d ∈ i.digits, Text.isBlank d = false ∧ Numeral.isTypeLetter d = false :=
    fun d hd ↦ ⟨Text.isBlank_eq_false_of_isDigit (i.isDigit_of_mem_digits hd),
      isTypeLetter_eq_false_of_isDecimal (i.isDecimal_of_mem_digits hd)⟩
  rw [chars_piece] at h
  split at h
  · rcases List.mem_cons.mp h with rfl | h
    · exact hminus
    · exact hdigits c h
  · exact hdigits c h

private theorem splitSign_chars_piece :
    Numeral.splitSign i.piece.chars = (i.negative, i.digits) := by
  rw [chars_piece]
  cases i.negative with
  | true => rfl
  | false =>
    have hne {d : Char} (hd : Text.isDecimal d = false) : i.head ≠ d := by
      intro hsame
      have hhead := i.isDecimal_head
      rw [hsame, hd] at hhead
      cases hhead
    rw [if_neg Bool.false_ne_true, digits, Numeral.splitSign]
    · exact fun _ h ↦ hne (by decide) (List.cons.inj h).1
    · exact fun _ h ↦ hne (by decide) (List.cons.inj h).1

/-- An integer is read as what it means. -/
theorem read_text_piece : Numeral.read i.piece.text = .ok (some (.int i.value)) := by
  have htrim : Text.trim i.piece.chars = i.piece.chars :=
    (Text.Unpadded.of_forall fun c hc ↦ (i.isBlank_and_isTypeLetter_of_mem_chars hc).1).trim_eq
  have hletter : Numeral.dropTypeLetter i.piece.chars = i.piece.chars :=
    dropTypeLetter_eq_self fun c hc ↦ (i.isBlank_and_isTypeLetter_of_mem_chars hc).2
  have hwhole : i.digits.takeWhile Text.isDecimal = i.digits :=
    List.takeWhile_eq_self_iff.mpr fun _ ↦ i.isDecimal_of_mem_digits
  have hnone : i.digits.dropWhile Text.isDecimal = [] :=
    List.dropWhile_eq_nil_iff.mpr fun _ ↦ i.isDecimal_of_mem_digits
  unfold Numeral.read
  rw [Piece.text, String.toList_ofList, htrim, hletter, splitSign_chars_piece]
  dsimp only
  rw [hnone, hwhole]
  dsimp only
  have hshort : ¬i.digits.length > Numeral.digitLimit := Nat.not_lt_of_le i.length_le
  rw [if_neg (by rw [digits]; exact Bool.false_ne_true), Numeral.readInteger, if_neg hshort]
  rfl

end Integer

/-! ## Comments -/

/-- A comment that ends where it is written to end. -/
inductive CommentText
  | line (body : List Char) (isLine : body.all (!isNewlineChar ·) = true)
  | block (body : List Char) (isClosed : ¬['*', '/'] <:+: body)

/-- A block comment reaches to its end. -/
theorem blockLength_append {body rest : List Char} (h : ¬['*', '/'] <:+: body) :
    Lexeme.blockLength (body ++ '*' :: '/' :: rest) = body.length + 2 := by
  induction body with
  | nil => rfl
  | cons c body ih =>
    have hbody : ¬['*', '/'] <:+: body :=
      fun hclosing ↦ h (hclosing.trans (List.suffix_cons c body).isInfix)
    -- the end is not met early, not even by a star of the body in front of the closing slash
    have hstep : Lexeme.blockLength (c :: (body ++ '*' :: '/' :: rest)) =
        Lexeme.blockLength (body ++ '*' :: '/' :: rest) + 1 := by
      rw [Lexeme.blockLength]
      rintro tail rfl htail
      cases body with
      | nil => cases htail
      | cons d body =>
        obtain ⟨rfl, -⟩ := List.cons.inj htail
        exact h ⟨[], body, rfl⟩
    rw [List.cons_append, hstep, ih hbody, List.length_cons]

namespace CommentText

/-- The form of a comment. -/
def form : CommentText → CommentForm
  | line _ _ => .line
  | block body _ => if body.head? = some '*' then .doc else .block

/-- The characters of a comment behind its first one. -/
def tail : CommentText → List Char
  | line body _ => '/' :: body
  | block body _ => '*' :: (body ++ ['*', '/'])

/-- The text of a comment, delimiters included. -/
def text (c : CommentText) : String := String.ofList ('/' :: c.tail)

theorem isDoc_iff {body rest : List Char} (h : ¬['*', '/'] <:+: body) :
    ((body ++ '*' :: '/' :: rest).head? = some '*' ∧
      (body ++ '*' :: '/' :: rest).tail.head? ≠ some '/') ↔ body.head? = some '*' := by
  cases body with
  | nil => exact ⟨fun hdoc ↦ absurd rfl hdoc.2, fun hdoc ↦ (nomatch hdoc)⟩
  | cons c body =>
    refine ⟨fun hdoc ↦ hdoc.1, fun hdoc ↦ ⟨hdoc, fun hslash ↦ ?_⟩⟩
    obtain rfl := Option.some.inj hdoc
    cases body with
    | nil => exact absurd (Option.some.inj hslash) (by decide)
    | cons d body =>
      obtain rfl := Option.some.inj hslash
      exact h ⟨[], body, rfl⟩

/-- A comment as it is written. -/
def piece (c : CommentText) : Piece where
  kind := .comment c.form
  head := '/'
  tail := c.tail
  read_eq rest hrest := by
    cases c with
    | line body isLine =>
      have htake : (body ++ rest).takeWhile (!isNewlineChar ·) = body := by
        rw [List.takeWhile_append_of_pos (List.all_eq_true.mp isLine)]
        cases rest with
        | nil => rw [List.takeWhile_nil, List.append_nil]
        | cons c rest =>
          have hnewline : isNewlineChar c = true := hrest.2 rfl
          rw [List.takeWhile_cons_of_neg (by rw [hnewline]; decide), List.append_nil]
      have hread : Lexeme.read '/' ('/' :: (body ++ rest)) = ⟨some (.comment .line),
          ((body ++ rest).takeWhile (!isNewlineChar ·)).length + 1⟩ := rfl
      rw [tail, List.cons_append, hread, htake]
      rfl
    | block body isClosed =>
      have hread (cs : List Char) : Lexeme.read '/' ('*' :: cs) = ⟨some (.comment
          (if cs.head? = some '*' ∧ cs.tail.head? ≠ some '/' then .doc else .block)),
          Lexeme.blockLength cs + 1⟩ := rfl
      rw [tail, List.cons_append, List.append_assoc, List.cons_append, List.singleton_append, hread,
        blockLength_append isClosed, form, if_congr (isDoc_iff isClosed) rfl rfl, List.length_cons,
        List.length_append]
      rfl
  isTrivia_eq_false := rfl

end CommentText

end Written

end ClassSchema

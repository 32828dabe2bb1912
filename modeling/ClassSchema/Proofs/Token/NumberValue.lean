import ClassSchema.Proofs.Token.Recognized
import Mathlib.Data.List.Induction
import Mathlib.Data.Nat.Digits.Defs

/-!
# The values of numbers

The lexer and the reader of numerals take numbers apart in the same way: a minus sign, digits, a
point with digits behind it, the letter of a type. They do not agree on what a digit is. The lexer
takes superscripts and circled figures for digits as well, `Text.isDigit`; the reader wants a digit
that counts by its place, `Text.isDecimal`. So a number with a figure is a token without a value,
and one without figures has the value that it is written with.

`NumberForm` has the parts of a number from the side of the lexer, and the reader is followed
through them: nothing is trimmed, one letter is dropped if it is there, and the sign is split off.
What is left is `NumberForm.body`, where the reader looks for the first character that is no decimal
digit.
-/

namespace ClassSchema

/-! ## What a text denotes -/

namespace Numeral

/-- The digits and figures of a text, from left to right. -/
def digitsIn (text : String) : List Char := text.toList.filter Text.isDigit

/-- The integer that a minus sign at the front and the digits of a text denote in base ten. -/
def integerIn (text : String) : Int :=
  let values := (digitsIn text).map fun c ↦ (Text.decimalValue? c).getD 0
  let value : Nat := Nat.ofDigits 10 values.reverse
  if text.toList.head? = some '-' then -(value : Int) else value

/-- All digits of a text count by their places. -/
def IsPositional (text : String) : Prop := ∀ c ∈ digitsIn text, Text.isDecimal c = true

-- the instance for lists is named, since another one would go through all characters
instance (text : String) : Decidable (IsPositional text) :=
  List.decidableBAll (Text.isDecimal · = true) (digitsIn text)

private theorem digitsValue_eq_ofDigits (cs : List Char) :
    digitsValue cs =
      Nat.ofDigits 10 (cs.map fun c ↦ (Text.decimalValue? c).getD 0).reverse := by
  induction cs using List.reverseRecOn with
  | nil => rfl
  | append_singleton cs c ih =>
    rw [List.map_append, List.map_singleton, List.reverse_append, List.reverse_singleton,
      List.singleton_append, Nat.ofDigits_cons, ← ih, digitsValue, List.foldl_append, ← digitsValue,
      List.foldl_cons, List.foldl_nil, Nat.add_comm]

private theorem isTypeLetter_iff {c : Char} : isTypeLetter c = true ↔ c ∈ typeLetters :=
  Lexeme.isNumberSuffix_iff

end Numeral

/-! ## The parts of a number -/

namespace NumberForm

open Numeral (IsPositional digitsIn digitsValue integerIn readInteger)

/-- A number without its sign and without the letter of its type. -/
def body (f : NumberForm) : List Char := f.whole ++ f.fraction.elim [] ('.' :: ·)

/-- The digits of a number on both sides of its point. -/
def digits (f : NumberForm) : List Char := f.whole ++ f.fraction.getD []

/-- The sign of a number as it is written. -/
def sign (f : NumberForm) : List Char := if f.isNegative then ['-'] else []

variable {f : NumberForm}

theorem text_eq (f : NumberForm) : f.text = f.sign ++ (f.body ++ f.suffix.toList) := by
  rw [text, sign, unsigned, body, List.append_assoc]
  cases f.isNegative <;> rfl

private theorem isDigit_of_mem_digits (hf : f.IsWritten) :
    ∀ c ∈ f.digits, Text.isDigit c = true := by
  refine List.forall_mem_append.mpr ⟨hf.whole.2, fun c hc ↦ ?_⟩
  cases hfraction : f.fraction with
  | none =>
    rw [hfraction] at hc
    cases hc
  | some digits =>
    rw [hfraction] at hc
    exact (hf.fraction digits hfraction).2 c hc

/-- The characters of a number are its digits, a sign, a point and a letter. -/
theorem mem_text_cases (hf : f.IsWritten) {c : Char} (hc : c ∈ f.sign ++ f.body) :
    Text.isDigit c = true ∨ c = '-' ∨ c = '.' := by
  have hdigits := isDigit_of_mem_digits hf
  rw [sign, body, List.mem_append, List.mem_append] at hc
  rcases hc with hsign | hwhole | hfraction
  · split at hsign
    · exact .inr (.inl (List.mem_singleton.mp hsign))
    · cases hsign
  · exact .inl (hdigits c (List.mem_append_left _ hwhole))
  · cases hsome : f.fraction with
    | none =>
      rw [hsome] at hfraction
      cases hfraction
    | some digits =>
      rw [hsome] at hfraction
      rcases List.mem_cons.mp hfraction with rfl | hmem
      · exact .inr (.inr rfl)
      · exact .inl ((hf.fraction digits hsome).2 c hmem)

private theorem filter_isDigit_text (hf : f.IsWritten) : f.text.filter Text.isDigit = f.digits := by
  have hsign : f.sign.filter Text.isDigit = [] := by
    rw [sign]
    split
    · decide
    · rfl
  have hsuffix : f.suffix.toList.filter Text.isDigit = [] := by
    rw [List.filter_eq_nil_iff]
    intro c hc
    exact ne_true_of_eq_false
      (Lexeme.isDigit_eq_false_of_mem_typeLetters (hf.suffix c (Option.mem_toList.mp hc)))
  have hwhole : f.whole.filter Text.isDigit = f.whole := List.filter_eq_self.mpr hf.whole.2
  have hfraction : (f.fraction.elim [] ('.' :: ·)).filter Text.isDigit = f.fraction.getD [] := by
    cases hsome : f.fraction with
    | none => rfl
    | some digits =>
      rw [Option.elim_some, List.filter_cons_of_neg (by decide), Option.getD_some,
        List.filter_eq_self.mpr (hf.fraction digits hsome).2]
  rw [text_eq, body, digits, List.filter_append, List.filter_append, List.filter_append, hsign,
    hsuffix, hwhole, hfraction, List.append_nil, List.nil_append]

theorem point_not_mem_text_iff (hf : f.IsWritten) : '.' ∉ f.text ↔ f.fraction = none := by
  have hwhole : '.' ∉ f.whole := fun hmem ↦ absurd (hf.whole.2 _ hmem) (by decide)
  have hsuffix : '.' ∉ f.suffix.toList := fun hmem ↦
    absurd (hf.suffix _ (Option.mem_toList.mp hmem)) (by decide)
  have hsign : '.' ∉ f.sign := by
    rw [sign]
    split <;> decide
  rw [text_eq, body]
  cases f.fraction with
  | none => simp [hwhole, hsuffix, hsign]
  | some digits => simp

private theorem head?_text (hf : f.IsWritten) : f.text.head? = some '-' ↔ f.isNegative = true := by
  obtain ⟨c, cs, hunsigned, hdigit⟩ := Lexeme.exists_cons_unsigned hf
  rw [text, hunsigned]
  cases f.isNegative with
  | true => exact ⟨fun _ ↦ rfl, fun _ ↦ rfl⟩
  | false =>
    refine ⟨fun hminus ↦ ?_, fun hfalse ↦ absurd hfalse Bool.false_ne_true⟩
    rw [Option.some.inj hminus] at hdigit
    exact absurd hdigit (by decide)

theorem digitsIn_text (hf : f.IsWritten) : digitsIn (String.ofList f.text) = f.digits := by
  rw [digitsIn, String.toList_ofList, filter_isDigit_text hf]

private theorem isPositional_text_iff (hf : f.IsWritten) :
    IsPositional (String.ofList f.text) ↔ ∀ c ∈ f.digits, Text.isDecimal c = true := by
  rw [IsPositional, digitsIn_text hf]

private theorem integerIn_text (hf : f.IsWritten) (hfraction : f.fraction = none) :
    integerIn (String.ofList f.text) =
      if f.isNegative then -(digitsValue f.whole : Int) else digitsValue f.whole := by
  have hwhole : f.digits = f.whole := by
    rw [digits, hfraction, Option.getD_none, List.append_nil]
  rw [integerIn, digitsIn_text hf, hwhole, ← Numeral.digitsValue_eq_ofDigits,
    String.toList_ofList]
  exact if_congr (head?_text hf) rfl rfl

/-! ## Reading the parts -/

theorem trim_text (hf : f.IsWritten) : Text.trim f.text = f.text := by
  refine (Text.Unpadded.of_forall fun c hc ↦ ?_).trim_eq
  rw [text_eq, ← List.append_assoc, List.mem_append] at hc
  rcases hc with hbody | hsuffix
  · rcases mem_text_cases hf hbody with hdigit | rfl | rfl
    · exact Text.isBlank_eq_false_of_isDigit hdigit
    · decide
    · decide
  · have hall : typeLetters.all (!Text.isBlank ·) = true := by decide
    have hletter := hf.suffix c (Option.mem_toList.mp hsuffix)
    exact Bool.not_eq_true' _ ▸ List.all_eq_true.mp hall c hletter

theorem dropTypeLetter_text (hf : f.IsWritten) :
    Numeral.dropTypeLetter f.text = f.sign ++ f.body := by
  rw [text_eq, ← List.append_assoc]
  cases hsuffix : f.suffix with
  | some c =>
    have hletter : Numeral.isTypeLetter c = true :=
      Numeral.isTypeLetter_iff.mpr (hf.suffix c hsuffix)
    rw [Option.toList_some, Numeral.dropTypeLetter, List.getLast?_concat, Option.any_some,
      if_pos hletter, List.dropLast_concat]
  | none =>
    rw [Option.toList_none, List.append_nil]
    refine Written.dropTypeLetter_eq_self fun c hc ↦ Bool.eq_false_iff.mpr fun hletter ↦ ?_
    have hdigit := Lexeme.isDigit_eq_false_of_mem_typeLetters (Numeral.isTypeLetter_iff.mp hletter)
    rcases mem_text_cases hf hc with hc | rfl | rfl
    · exact absurd hc (ne_true_of_eq_false hdigit)
    · exact absurd hletter (by decide)
    · exact absurd hletter (by decide)

theorem splitSign_sign_body (hf : f.IsWritten) :
    Numeral.splitSign (f.sign ++ f.body) = (f.isNegative, f.body) := by
  obtain ⟨c, cs, hwhole⟩ := List.exists_cons_of_ne_nil hf.whole.1
  have hdigit : Text.isDigit c = true := hf.whole.2 c (hwhole ▸ List.mem_cons_self)
  rw [sign, body, hwhole]
  cases f.isNegative with
  | true => rfl
  | false =>
    rw [if_neg Bool.false_ne_true, List.nil_append, List.cons_append, Numeral.splitSign]
    · rintro _ ⟨rfl, -⟩
      exact absurd hdigit (by decide)
    · rintro _ ⟨rfl, -⟩
      exact absurd hdigit (by decide)

/-- An integer without figures, and not too long, is read digit by digit. -/
theorem read_of_fraction_eq_none (hf : f.IsWritten) (hdecimal : ∀ c ∈ f.digits, Text.isDecimal c)
    (hfraction : f.fraction = none) (hlength : f.digits.length ≤ Numeral.digitLimit) :
    Numeral.read (String.ofList f.text) =
      .ok (some (.int (integerIn (String.ofList f.text)))) := by
  have hbody : f.body = f.whole := by
    rw [body, hfraction, Option.elim_none, List.append_nil]
  have hwhole : ∀ c ∈ f.whole, Text.isDecimal c = true :=
    fun c hc ↦ hdecimal c (List.mem_append_left _ hc)
  have hshort : ¬f.whole.length > Numeral.digitLimit :=
    Nat.not_lt_of_le ((List.prefix_append ..).length_le.trans hlength)
  rw [integerIn_text hf hfraction]
  unfold Numeral.read
  rw [String.toList_ofList, trim_text hf, dropTypeLetter_text hf, splitSign_sign_body hf, hbody]
  dsimp only
  rw [List.dropWhile_eq_nil_iff.mpr hwhole, List.takeWhile_eq_self_iff.mpr hwhole]
  dsimp only
  rw [if_neg (by rw [List.isEmpty_iff]; exact hf.whole.1), readInteger, if_neg hshort]
  rfl

/-- A number with a point and without figures is read as a double. -/
theorem read_of_fraction_eq_some (hf : f.IsWritten) (hdecimal : ∀ c ∈ f.digits, Text.isDecimal c)
    {digits : List Char} (hfraction : f.fraction = some digits) :
    Numeral.read (String.ofList f.text) = .ok (some (.double
      (.ofDecimal f.isNegative (digitsValue (f.whole ++ digits)) (-digits.length)))) := by
  have hbody : f.body = f.whole ++ '.' :: digits := by rw [body, hfraction, Option.elim_some]
  rw [NumberForm.digits, hfraction, Option.getD_some, List.forall_mem_append] at hdecimal
  have hpoint : Text.isDecimal '.' = false := by decide
  have hdigits : digits.all Text.isDecimal = true := List.all_eq_true.mpr hdecimal.2
  have hwhole : f.whole.isEmpty = false := by
    rw [List.isEmpty_eq_false_iff]
    exact hf.whole.1
  unfold Numeral.read
  rw [String.toList_ofList, trim_text hf, dropTypeLetter_text hf, splitSign_sign_body hf, hbody]
  dsimp only
  rw [List.dropWhile_append_of_pos hdecimal.1, List.takeWhile_append_of_pos hdecimal.1,
    List.dropWhile_cons_of_neg (ne_true_of_eq_false hpoint),
    List.takeWhile_cons_of_neg (ne_true_of_eq_false hpoint), List.append_nil]
  change (if (digits.all Text.isDecimal && !(f.whole.isEmpty && digits.isEmpty)) = true then _
    else _) = _
  rw [hdigits, hwhole, Bool.false_and, Bool.not_false, Bool.and_self, if_pos rfl]

/-- A number with a figure among its digits is no numeral. -/
theorem read_of_figure (hf : f.IsWritten) (hfigure : ¬∀ c ∈ f.digits, Text.isDecimal c) :
    Numeral.read (String.ofList f.text) = .ok none := by
  unfold Numeral.read
  rw [String.toList_ofList, trim_text hf, dropTypeLetter_text hf, splitSign_sign_body hf]
  dsimp only
  by_cases hwhole : ∀ c ∈ f.whole, Text.isDecimal c = true
  · -- the figure stands behind the point
    cases hfraction : f.fraction with
    | none =>
      rw [digits, hfraction, Option.getD_none, List.append_nil] at hfigure
      exact absurd hwhole hfigure
    | some digits =>
      rw [NumberForm.digits, hfraction, Option.getD_some, List.forall_mem_append, not_and]
        at hfigure
      have hdigits : digits.all Text.isDecimal = false := by
        rw [Bool.eq_false_iff, Ne, List.all_eq_true]
        exact hfigure hwhole
      rw [body, hfraction, Option.elim_some, List.dropWhile_append_of_pos hwhole,
        List.dropWhile_cons_of_neg (by decide)]
      change (if (digits.all Text.isDecimal && _) = true then _ else _) = _
      rw [hdigits, Bool.false_and, if_neg Bool.false_ne_true]
  · -- the digits in front of the point end too early, and not with a point
    have hdrop : f.body.dropWhile Text.isDecimal =
        f.whole.dropWhile Text.isDecimal ++ f.fraction.elim [] ('.' :: ·) := by
      rw [body, List.dropWhile_append, if_neg]
      rwa [List.isEmpty_iff, List.dropWhile_eq_nil_iff]
    cases hrest : f.whole.dropWhile Text.isDecimal with
    | nil => exact absurd (List.dropWhile_eq_nil_iff.mp hrest) hwhole
    | cons c cs =>
      have hmem : c ∈ f.whole :=
        (List.dropWhile_suffix Text.isDecimal).subset (hrest ▸ List.mem_cons_self)
      have hpoint : c ≠ '.' := by
        rintro rfl
        exact absurd (hf.whole.2 _ hmem) (by decide)
      rw [hdrop, hrest, List.cons_append]
      split
      · rename_i hnil
        cases hnil
      · rename_i hcons
        exact absurd (List.cons.inj hcons).1 hpoint
      · rfl

end NumberForm

/-! ## The numbers of a text -/

namespace Token

open Numeral (IsPositional digitsIn integerIn)

private theorem exists_form_of_number {source : String} {t : Token} (ht : t ∈ lex source)
    (hkind : t.kind = .number) : ∃ f : NumberForm, t.text = String.ofList f.text ∧ f.IsWritten := by
  have hmatches := (recognized_lex source t ht).matches_text
  rw [hkind] at hmatches
  obtain ⟨f, htext, hf, -⟩ := hmatches
  exact ⟨f, by rw [← htext, String.ofList_toList], hf⟩

/-- **A number has a value exactly if all its digits count by their places.** For every number of
a text with no more digits than can be read, there is a value if there is no figure among the
digits; without a point it is the integer that sign and digits denote in base ten. With a figure
among them the number is taken for no numeral at all. -/
theorem number_has_value_iff {source : String} {t : Token} (ht : t ∈ lex source)
    (hkind : t.kind = .number) (hlength : (digitsIn t.text).length ≤ 4300) :
    ((∃ n, Numeral.read t.text = .ok (some n)) ↔ IsPositional t.text) ∧
      (¬IsPositional t.text → Numeral.read t.text = .ok none) ∧
      (IsPositional t.text → '.' ∉ t.text.toList →
        Numeral.read t.text = .ok (some (.int (integerIn t.text)))) := by
  obtain ⟨f, htext, hf⟩ := exists_form_of_number ht hkind
  rw [htext] at hlength ⊢
  rw [NumberForm.isPositional_text_iff hf, String.toList_ofList,
    NumberForm.point_not_mem_text_iff hf]
  rw [NumberForm.digitsIn_text hf] at hlength
  refine ⟨⟨fun hread ↦ ?_, fun hdecimal ↦ ?_⟩, NumberForm.read_of_figure hf,
    fun hdecimal hfraction ↦ NumberForm.read_of_fraction_eq_none hf hdecimal hfraction hlength⟩
  · obtain ⟨n, hn⟩ := hread
    by_contra hfigure
    rw [NumberForm.read_of_figure hf hfigure] at hn
    cases hn
  · cases hfraction : f.fraction with
    | none => exact ⟨_, NumberForm.read_of_fraction_eq_none hf hdecimal hfraction hlength⟩
    | some digits => exact ⟨_, NumberForm.read_of_fraction_eq_some hf hdecimal hfraction⟩

/-- A sign, digits of another script and a letter make an integer. -/
theorem number_has_value_of_script : ∃ t ∈ lex "@Min(-٤٢L)", t.kind = .number ∧
    t.text = "-٤٢L" ∧ (digitsIn t.text).length ≤ 4300 ∧ IsPositional t.text ∧
      Numeral.read t.text = .ok (some (.int (-42))) := by
  have hmem : ⟨.number, "-٤٢L", 1, 6, ⟨5, 9, by decide⟩⟩ ∈ lex "@Min(-٤٢L)" := by decide +kernel
  have hdigits : (digitsIn "-٤٢L").length = 2 := by decide
  have hlength : (digitsIn "-٤٢L").length ≤ 4300 := hdigits.trans_le (by omega)
  have hpositional : IsPositional "-٤٢L" := by decide
  obtain ⟨-, -, hvalue⟩ := number_has_value_iff hmem rfl hlength
  have hinteger : integerIn "-٤٢L" = -42 := by decide
  have hread := hvalue hpositional (by decide)
  rw [hinteger] at hread
  exact ⟨_, hmem, rfl, rfl, hlength, hpositional, hread⟩

/-- A superscript is a number of one digit and has no value. -/
theorem number_without_value : ∃ t ∈ tokenize "class A \x7b @Max(²) int n; \x7d",
    t.kind = .number ∧ (digitsIn t.text).length = 1 ∧ '.' ∉ t.text.toList ∧
      Numeral.read t.text = .ok none := by
  have hmem : ⟨.number, "²", 1, 16, ⟨15, 16, by decide⟩⟩ ∈
      tokenize "class A \x7b @Max(²) int n; \x7d" := by
    decide +kernel
  exact ⟨_, hmem, rfl, by decide, by decide, by decide⟩

end Token

end ClassSchema

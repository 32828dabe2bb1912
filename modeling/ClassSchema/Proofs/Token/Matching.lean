import ClassSchema.Proofs.Token.Reaches

/-!
# Which characters are a token

`Kind.Matches kind text rest` says what a token of a kind looks like and where it ends: the
characters `text` have the form of the kind, and nothing of `rest`, which comes behind them, belongs
to them. It speaks of characters only and not of the functions that the lexer counts with.

For most kinds the next character decides where a token ends. A number needs more: it goes on with a
point only if a digit comes behind the point, and with the letter of a type only if the letter is
not the beginning of a word. A comment without a closing delimiter ends with the text.

The lexer takes what is described, `Lexeme.read_of_matches`, which is computed for each kind. So the
description fixes the token: of all ways to cut a text in two, it holds of one at most.
-/

namespace ClassSchema

/-! ## The form of a token -/

/-- A word in front of what does not go on with it. -/
def IsWord (text rest : List Char) : Prop :=
  ∃ c cs, text = c :: cs ∧ isIdentifierStart c = true ∧ (∀ d ∈ cs, isIdentifierPart d = true) ∧
    ∀ d ∈ rest.head?, isIdentifierPart d = false

/-- One digit at least, and nothing else. -/
def IsDigits (cs : List Char) : Prop := cs ≠ [] ∧ ∀ c ∈ cs, Text.isDigit c = true

/-- The letters of types that a number can close with. -/
def typeLetters : List Char := ['l', 'L', 'f', 'F', 'd', 'D']

/-- The parts of a number: whether there is a minus sign, the digits, the digits behind the point,
and the letter of a type. -/
structure NumberForm where
  isNegative : Bool
  whole : List Char
  fraction : Option (List Char)
  suffix : Option Char

namespace NumberForm

/-- A number without its sign. -/
def unsigned (f : NumberForm) : List Char :=
  f.whole ++ (f.fraction.elim [] ('.' :: ·) ++ f.suffix.toList)

/-- A number as it is written. -/
def text (f : NumberForm) : List Char := if f.isNegative then '-' :: f.unsigned else f.unsigned

/-- The parts are what their places ask for. -/
structure IsWritten (f : NumberForm) : Prop where
  whole : IsDigits f.whole
  fraction : ∀ digits ∈ f.fraction, IsDigits digits
  suffix : ∀ c ∈ f.suffix, c ∈ typeLetters

/-- Nothing of what comes behind the number belongs to it. -/
structure EndsBefore (f : NumberForm) (rest : List Char) : Prop where
  /-- No word goes on behind the letter of a type. -/
  word : f.suffix ≠ none → ∀ c ∈ rest.head?, isIdentifierPart c = false
  /-- No more digits follow. -/
  digit : f.suffix = none → ∀ c ∈ rest.head?, Text.isDigit c = false
  /-- No fraction follows. -/
  point : f.suffix = none → f.fraction = none →
    ∀ c cs, rest = '.' :: c :: cs → Text.isDigit c = false
  /-- A letter of a type that follows is the beginning of a word. -/
  letter : f.suffix = none → ∀ c cs, rest = c :: cs → c ∈ typeLetters →
    ∃ d ∈ cs.head?, isIdentifierPart d = true

end NumberForm

/-- What stands between the quotes of a string: a quote only behind a backslash, which takes the
character behind it along. -/
inductive Enclosed : List Char → Prop
  | nil : Enclosed []
  | plain {c : Char} {cs : List Char} (not_quote : c ≠ '"') (not_backslash : c ≠ '\\')
    (rest : Enclosed cs) : Enclosed (c :: cs)
  | escape (c : Char) {cs : List Char} (rest : Enclosed cs) : Enclosed ('\\' :: c :: cs)

/-- A comment between delimiters ends with the first closing one, or it has none and ends with the
text. -/
def IsBlockComment (text rest : List Char) : Prop :=
  ∃ body, ¬['*', '/'] <:+: body ∧
    (text = '/' :: '*' :: (body ++ ['*', '/']) ∨ text = '/' :: '*' :: body ∧ rest = [])

/-- A comment that starts as a documentation comment, the shortest comment apart. -/
def StartsDoc (text : List Char) : Prop := ['/', '*', '*'] <+: text ∧ text ≠ ['/', '*', '*', '/']

instance (text : List Char) : Decidable (StartsDoc text) := inferInstanceAs (Decidable (_ ∧ _))

/-- The characters `text` are a token of a kind in front of `rest`. -/
def Kind.Matches (kind : Kind) (text rest : List Char) : Prop :=
  match kind with
  | .endOfInput => text = [] ∧ rest = []
  | .blank => text ≠ [] ∧ (∀ c ∈ text, isSpaceChar c = true) ∧
      ∀ c ∈ rest.head?, isSpaceChar c = false
  | .newline => text = ['\n'] ∨ text = ['\r'] ∧ rest.head? ≠ some '\n' ∨ text = ['\r', '\n']
  | .comment .line => ∃ body, text = '/' :: '/' :: body ∧ (∀ c ∈ body, isNewlineChar c = false) ∧
      ∀ c ∈ rest.head?, isNewlineChar c = true
  | .comment .block => IsBlockComment text rest ∧ ¬StartsDoc text
  | .comment .doc => IsBlockComment text rest ∧ StartsDoc text
  | .identifier => IsWord text rest ∧ ∀ word : Keyword, text ≠ word.text.toList
  | .keyword word => IsWord text rest ∧ text = word.text.toList
  | .string => ∃ body, text = '"' :: (body ++ ['"']) ∧ Enclosed body
  | .number => ∃ f : NumberForm, text = f.text ∧ f.IsWritten ∧ f.EndsBefore rest
  | .mark m => text = [m.char]

/-! ## The lexer takes what is described -/

theorem Keyword.ofText?_text (word : Keyword) : ofText? word.text = some word := by
  cases word <;> decide

namespace Lexeme

variable {c : Char} {cs rest : List Char} {kind : Kind}

/-! ### Words and strings -/

private theorem read_of_isWord (h : IsWord (c :: cs) rest) :
    read c (cs ++ rest) =
      ⟨some ((Keyword.ofText? (String.ofList (c :: cs))).elim .identifier .keyword),
        cs.length⟩ := by
  obtain ⟨c, cs, hcons, hstart, hpart, hrest⟩ := h
  obtain ⟨rfl, rfl⟩ := List.cons.inj hcons
  rw [read_of_isIdentifierStart hstart, takeWhile_append_eq hpart hrest]

theorem stringLength?_of_enclosed (h : Enclosed cs) (rest : List Char) :
    stringLength? (cs ++ '"' :: rest) = some (cs.length + 1) := by
  induction h with
  | nil => rfl
  | plain not_quote not_backslash _ ih =>
    rw [List.cons_append, stringLength?, ih]
    · rfl
    · exact not_quote
    · exact fun _ _ hbackslash _ ↦ not_backslash hbackslash
  | escape c _ ih =>
    rw [List.cons_append, List.cons_append, stringLength?, ih]
    rfl

/-! ### Comments -/

theorem blockLength_of_not_infix (h : ¬['*', '/'] <:+: cs) (rest : List Char) :
    blockLength (cs ++ '*' :: '/' :: rest) = cs.length + 2 := by
  induction cs with
  | nil => rfl
  | cons c cs ih =>
    have hopen : ¬(c = '*' ∧ (cs ++ '*' :: '/' :: rest).head? = some '/') := by
      rintro ⟨rfl, hslash⟩
      cases cs with
      | nil => cases hslash
      | cons d cs =>
        obtain rfl : d = '/' := Option.some.inj hslash
        exact h ⟨[], cs, rfl⟩
    rw [List.cons_append, blockLength_cons hopen,
      ih fun hclosed ↦ h (hclosed.trans (List.suffix_cons c cs).isInfix), List.length_cons]

theorem blockLength_eq_length (h : ¬['*', '/'] <:+: cs) : blockLength cs = cs.length := by
  induction cs with
  | nil => rfl
  | cons c cs ih =>
    have hopen : ¬(c = '*' ∧ cs.head? = some '/') := by
      rintro ⟨rfl, hslash⟩
      obtain ⟨ds, rfl⟩ := List.head?_eq_some_iff.mp hslash
      exact h ⟨[], ds, rfl⟩
    rw [blockLength_cons hopen,
      ih fun hclosed ↦ h (hclosed.trans (List.suffix_cons c cs).isInfix), List.length_cons]

private theorem head?_append_ne_slash {body : List Char} (h : ¬['*', '/'] <:+: '*' :: body)
    (hrest : rest.head? ≠ some '/') : (body ++ rest).head? ≠ some '/' := by
  cases body with
  | nil => exact hrest
  | cons c body =>
    intro hslash
    obtain rfl : c = '/' := Option.some.inj hslash
    exact h ⟨[], body, rfl⟩

/-- What is looked at to tell the form of a comment is the comment, and nothing behind it. -/
theorem startsDoc_iff {body : List Char} (h : ¬['*', '/'] <:+: body) (htext :
    cs = body ++ ['*', '/'] ∨ cs = body ∧ rest = []) : StartsDoc ('/' :: '*' :: cs) ↔
      (cs ++ rest).head? = some '*' ∧ (cs ++ rest).tail.head? ≠ some '/' := by
  have hstarts : StartsDoc ('/' :: '*' :: cs) ↔ cs.head? = some '*' ∧ cs ≠ ['*', '/'] := by
    cases cs with
    | nil => simp [StartsDoc]
    | cons d ds =>
      simp only [StartsDoc, List.cons_prefix_cons, List.nil_prefix, true_and, and_true, ne_eq,
        List.cons.injEq, List.head?_cons, Option.some_inj]
      exact and_congr_left fun _ ↦ eq_comm
  rw [hstarts]
  cases body with
  | nil => rcases htext with rfl | ⟨rfl, rfl⟩ <;> simp
  | cons b body =>
    have hsecond : b = '*' → (cs ++ rest).tail.head? ≠ some '/' := by
      rintro rfl
      rcases htext with rfl | ⟨rfl, rfl⟩
      · rw [List.append_assoc]
        exact head?_append_ne_slash h (by simp)
      · exact head?_append_ne_slash h (by simp)
    have hhead : (cs ++ rest).head? = some b ∧ cs.head? = some b := by
      rcases htext with rfl | ⟨rfl, rfl⟩ <;> exact ⟨rfl, rfl⟩
    have hlong : b = '*' → cs ≠ ['*', '/'] := by
      rintro rfl rfl
      exact hsecond rfl rfl
    rw [hhead.1, hhead.2, Option.some_inj]
    exact and_congr_right fun hb ↦ iff_of_true (hlong hb) (hsecond hb)

/-- A comment between delimiters is read to where it ends. -/
theorem read_of_isBlockComment (h : IsBlockComment (c :: cs) rest) :
    read c (cs ++ rest) =
      ⟨some (.comment (if StartsDoc (c :: cs) then .doc else .block)), cs.length⟩ := by
  obtain ⟨body, hbody, htext⟩ := h
  obtain ⟨cs, rfl, rfl, hcs⟩ : ∃ ds, c = '/' ∧ cs = '*' :: ds ∧
      (ds = body ++ ['*', '/'] ∨ ds = body ∧ rest = []) := by
    rcases htext with htext | ⟨htext, rfl⟩ <;> obtain ⟨rfl, rfl⟩ := List.cons.inj htext
    · exact ⟨_, rfl, rfl, .inl rfl⟩
    · exact ⟨_, rfl, rfl, .inr ⟨rfl, rfl⟩⟩
  have hlength : blockLength (cs ++ rest) = cs.length := by
    rcases hcs with rfl | ⟨rfl, rfl⟩
    · rw [List.append_assoc, List.length_append]
      exact blockLength_of_not_infix hbody rest
    · rw [List.append_nil]
      exact blockLength_eq_length hbody
  rw [List.cons_append, read_slash_star, hlength, List.length_cons]
  congr 3
  exact ite_congr (propext (startsDoc_iff hbody hcs).symm) (fun _ ↦ rfl) fun _ ↦ rfl

/-! ### Numbers -/

theorem isNumberSuffix_iff : isNumberSuffix c = true ↔ c ∈ typeLetters := by
  simp [isNumberSuffix, typeLetters, or_assoc]

theorem isDigit_eq_false_of_mem_typeLetters (h : c ∈ typeLetters) : Text.isDigit c = false := by
  have hall : typeLetters.all (!Text.isDigit ·) = true := by decide +kernel
  have hletter := List.all_eq_true.mp hall c h
  rwa [Bool.not_eq_true'] at hletter

variable {f : NumberForm}

theorem head?_suffix (hf : f.IsWritten) (hrest : f.EndsBefore rest) :
    ∀ d ∈ (f.suffix.toList ++ rest).head?, Text.isDigit d = false := by
  intro d hd
  cases hsuffix : f.suffix with
  | none =>
    rw [hsuffix] at hd
    exact hrest.digit hsuffix d hd
  | some c =>
    rw [hsuffix] at hd
    obtain rfl : c = d := Option.some.inj hd
    exact isDigit_eq_false_of_mem_typeLetters (hf.suffix c hsuffix)

private theorem fractionLength_of_form (hf : f.IsWritten) (hrest : f.EndsBefore rest) :
    fractionLength (f.fraction.elim [] ('.' :: ·) ++ (f.suffix.toList ++ rest)) =
      (f.fraction.elim [] ('.' :: ·)).length := by
  have hbehind := head?_suffix hf hrest
  cases hfraction : f.fraction with
  | some digits =>
    have hdigits := hf.fraction digits hfraction
    obtain ⟨d, ds, rfl⟩ := List.exists_cons_of_ne_nil hdigits.1
    have hany : (d :: ds ++ (f.suffix.toList ++ rest)).head?.any Text.isDigit = true :=
      hdigits.2 d List.mem_cons_self
    rw [Option.elim_some, List.cons_append, fractionLength, if_pos hany,
      takeWhile_append_eq hdigits.2 hbehind]
    rfl
  | none =>
    rw [Option.elim_none, List.nil_append, List.length_nil]
    unfold fractionLength
    split
    · rename_i cs hpoint
      refine if_neg fun hany ↦ ?_
      obtain ⟨c, cs, rfl⟩ := List.exists_cons_of_ne_nil (show cs ≠ [] from fun hnil ↦ by
        rw [hnil] at hany
        cases hany)
      cases hsuffix : f.suffix with
      | some letter =>
        rw [hsuffix] at hpoint
        have hletter := hf.suffix letter hsuffix
        rw [(List.cons.inj hpoint).1] at hletter
        exact absurd hletter (by decide)
      | none =>
        rw [hsuffix] at hpoint
        have hdigit := hrest.point hsuffix hfraction c cs hpoint
        exact absurd hany (ne_true_of_eq_false hdigit)
    · rfl

private theorem suffixLength_of_form (hf : f.IsWritten) (hrest : f.EndsBefore rest) :
    suffixLength (f.suffix.toList ++ rest) = f.suffix.toList.length := by
  cases hsuffix : f.suffix with
  | some c =>
    have hletter : isNumberSuffix c = true := isNumberSuffix_iff.mpr (hf.suffix c hsuffix)
    have hword : rest.head?.any isIdentifierPart = false := by
      cases rest with
      | nil => rfl
      | cons d ds => exact hrest.word (by rw [hsuffix]; nofun) d rfl
    rw [Option.toList_some, List.singleton_append, suffixLength, hletter, hword]
    rfl
  | none =>
    cases rest with
    | nil => rfl
    | cons c cs =>
      rw [Option.toList_none, List.nil_append, suffixLength]
      refine if_neg fun hand ↦ ?_
      obtain ⟨hletter, hword⟩ := Bool.and_eq_true_iff.mp hand
      -- the letter is the beginning of a word, so it does not close the number
      obtain ⟨d, hd, hpart⟩ := hrest.letter hsuffix c cs rfl (isNumberSuffix_iff.mp hletter)
      rw [Option.mem_def.mp hd, Option.any_some, hpart] at hword
      cases hword

private theorem numberLength_of_form (hf : f.IsWritten) (hrest : f.EndsBefore rest) :
    numberLength (f.unsigned ++ rest) = f.unsigned.length := by
  have hwhole : (f.unsigned ++ rest).takeWhile Text.isDigit = f.whole := by
    rw [NumberForm.unsigned, List.append_assoc, List.append_assoc]
    refine takeWhile_append_eq hf.whole.2 ?_
    cases hfraction : f.fraction with
    | none => exact head?_suffix hf hrest
    | some digits =>
      rintro d ⟨rfl⟩
      decide
  have hdrop : (f.unsigned ++ rest).drop f.whole.length =
      f.fraction.elim [] ('.' :: ·) ++ (f.suffix.toList ++ rest) := by
    rw [NumberForm.unsigned, List.append_assoc, List.append_assoc, List.drop_left]
  rw [numberLength, hwhole, ← List.drop_drop, hdrop, fractionLength_of_form hf hrest,
    List.drop_left, suffixLength_of_form hf hrest, NumberForm.unsigned, List.length_append,
    List.length_append, Nat.add_assoc]

theorem exists_cons_unsigned (hf : f.IsWritten) :
    ∃ c cs, f.unsigned = c :: cs ∧ Text.isDigit c = true := by
  obtain ⟨c, cs, hwhole⟩ := List.exists_cons_of_ne_nil hf.whole.1
  have hdigit : Text.isDigit c = true := hf.whole.2 c (hwhole ▸ List.mem_cons_self)
  rw [NumberForm.unsigned, hwhole, List.cons_append]
  exact ⟨c, _, rfl, hdigit⟩

private theorem read_of_form (htext : c :: cs = f.text) (hf : f.IsWritten)
    (hrest : f.EndsBefore rest) :
    read c (cs ++ rest) = ⟨some .number, cs.length⟩ := by
  have hlength := numberLength_of_form hf hrest
  obtain ⟨d, ds, hunsigned, hdigit⟩ := exists_cons_unsigned hf
  rw [NumberForm.text] at htext
  split at htext
  · obtain ⟨rfl, rfl⟩ := List.cons.inj htext
    have hany : (f.unsigned ++ rest).head?.any Text.isDigit = true := by
      rw [hunsigned]
      exact hdigit
    rw [read_of_minus hany, hlength]
  · obtain ⟨rfl, rfl⟩ := List.cons.inj (htext.trans hunsigned)
    rw [hunsigned] at hlength
    rw [read_of_isDigit hdigit, ← List.cons_append, hlength, List.length_cons,
      Nat.add_sub_cancel]

/-! ### All kinds -/

private theorem read_of_newline (h : Kind.newline.Matches (c :: cs) rest) :
    read c (cs ++ rest) = ⟨some .newline, cs.length⟩ := by
  unfold read
  rcases h with htext | ⟨htext, hfeed⟩ | htext <;> obtain ⟨rfl, rfl⟩ := List.cons.inj htext
  · rw [if_pos (by decide), if_neg (by simp)]
    rfl
  · rw [if_pos (by decide), if_neg fun hand ↦ hfeed hand.2]
    rfl
  · rw [if_pos (by decide), if_pos ⟨rfl, rfl⟩]
    rfl

private theorem read_of_blank (h : Kind.blank.Matches (c :: cs) rest) :
    read c (cs ++ rest) = ⟨some .blank, cs.length⟩ := by
  obtain ⟨-, hspace, hrest⟩ := h
  obtain ⟨hc, hcs⟩ := List.forall_mem_cons.mp hspace
  have hnewline : isNewlineChar c = false := by
    simp only [isSpaceChar, Bool.or_eq_true, decide_eq_true_eq] at hc
    rcases hc with (rfl | rfl) | rfl <;> decide
  unfold read
  rw [if_neg (ne_true_of_eq_false hnewline), if_pos hc, takeWhile_append_eq hcs hrest]

private theorem read_of_lineComment (h : (Kind.comment .line).Matches (c :: cs) rest) :
    read c (cs ++ rest) = ⟨some (.comment .line), cs.length⟩ := by
  obtain ⟨body, htext, hbody, hrest⟩ := h
  obtain ⟨rfl, rfl⟩ := List.cons.inj htext
  have hline : (body ++ rest).takeWhile (!isNewlineChar ·) = body :=
    takeWhile_append_eq (fun d hd ↦ congrArg (!·) (hbody d hd)) fun d hd ↦
      congrArg (!·) (hrest d hd)
  rw [List.cons_append, read_slash_slash, hline, List.length_cons]

/-- **What is described is what the lexer takes**, whatever else could be cut off. -/
theorem read_of_matches (h : kind.Matches (c :: cs) rest) :
    read c (cs ++ rest) = ⟨some kind, cs.length⟩ := by
  match kind with
  | .endOfInput => exact absurd h.1 (List.cons_ne_nil c cs)
  | .blank => exact read_of_blank h
  | .newline => exact read_of_newline h
  | .comment .line => exact read_of_lineComment h
  | .comment .block => rw [read_of_isBlockComment h.1, if_neg h.2]
  | .comment .doc => rw [read_of_isBlockComment h.1, if_pos h.2]
  | .identifier =>
    have hnone : Keyword.ofText? (String.ofList (c :: cs)) = none := by
      rw [Keyword.ofText?, List.find?_eq_none]
      intro word _ hword
      apply h.2 word
      rw [of_decide_eq_true hword, String.toList_ofList]
    rw [read_of_isWord h.1, hnone, Option.elim_none]
  | .keyword word =>
    have hsome : Keyword.ofText? (String.ofList (c :: cs)) = some word := by
      rw [h.2, String.ofList_toList, Keyword.ofText?_text]
    rw [read_of_isWord h.1, hsome, Option.elim_some]
  | .string =>
    obtain ⟨body, htext, hbody⟩ := h
    obtain ⟨rfl, rfl⟩ := List.cons.inj htext
    rw [List.append_assoc, List.length_append]
    exact read_of_quote (stringLength?_of_enclosed hbody rest)
  | .number =>
    obtain ⟨f, htext, hf, hrest⟩ := h
    exact read_of_form htext hf hrest
  | .mark m =>
    obtain ⟨rfl, rfl⟩ := List.cons.inj h
    exact read_eq_mark m

end Lexeme

/-! ## At most one token -/

/-- Without characters there is the end of the text only. -/
theorem Kind.Matches.eq_endOfInput {kind : Kind} {rest : List Char} (h : kind.Matches [] rest) :
    kind = .endOfInput := by
  match kind with
  | .endOfInput => rfl
  | .blank => exact absurd rfl h.1
  | .newline => rcases h with h | h | h <;> simp at h
  | .comment .line => obtain ⟨_, h, -⟩ := h; cases h
  | .comment .block | .comment .doc => obtain ⟨⟨_, -, h | h⟩, -⟩ := h <;> simp at h
  | .identifier | .keyword _ => obtain ⟨⟨_, _, h, -⟩, -⟩ := h; cases h
  | .string => obtain ⟨_, h, -⟩ := h; cases h
  | .number =>
    obtain ⟨f, h, hf, -⟩ := h
    obtain ⟨c, cs, hunsigned, -⟩ := Lexeme.exists_cons_unsigned hf
    rw [NumberForm.text, hunsigned] at h
    split at h <;> cases h
  | .mark m => cases h

/-- **At most one token** can be cut off. -/
theorem Kind.Matches.unique {kind kind' : Kind} {text text' rest rest' : List Char}
    (h : kind.Matches text rest) (h' : kind'.Matches text' rest')
    (hsame : text ++ rest = text' ++ rest') : kind = kind' ∧ text = text' := by
  -- at the end there is nothing to cut off
  have hend {kind : Kind} {rest : List Char} (h : kind.Matches [] rest) :
      kind = .endOfInput ∧ rest = [] := by
    obtain rfl := h.eq_endOfInput
    exact ⟨rfl, h.2⟩
  cases text with
  | nil =>
    obtain ⟨rfl, rfl⟩ := hend h
    obtain ⟨rfl, rfl⟩ := List.append_eq_nil_iff.mp hsame.symm
    exact ⟨(hend h').1.symm, rfl⟩
  | cons c cs =>
    cases text' with
    | nil =>
      obtain ⟨-, rfl⟩ := hend h'
      cases hsame
    | cons d ds =>
      obtain ⟨rfl, hbehind⟩ := List.cons.inj hsame
      have hread := Lexeme.read_of_matches h
      rw [show cs ++ rest = ds ++ rest' from hbehind, Lexeme.read_of_matches h'] at hread
      obtain ⟨hkind, hlength⟩ := Lexeme.mk.inj hread
      exact ⟨(Option.some.inj hkind).symm,
        congrArg (c :: ·) (List.append_inj_left hbehind hlength.symm)⟩

end ClassSchema

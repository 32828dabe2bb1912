import ClassSchema.Proofs.Token.Tiling
import ClassSchema.Proofs.Written.Pieces

/-!
# Texts written with as little white space as is needed

White space between two tokens is not always needed: nothing that comes behind a bracket belongs to
it, and a word ends where a character comes that no word goes on with. `Kind.Borders` says what may
come directly behind a token of a kind. It looks at one character, so it is a little more careful
than the lexer: no point comes directly behind a number, although only one with a digit behind it
would belong to the number.

A piece is known to be one token in front of white space. That it is the same token in front of
anything that borders on it is a fact about the lexer, `Lexeme.read_append`, for which each family
of tokens has its own reason: a run of characters ends where it ended before, and a string or a
comment was closed before.
-/

namespace ClassSchema

/-- What may come directly behind a token of a kind. -/
def Kind.Borders (kind : Kind) (rest : List Char) : Prop :=
  ∀ c ∈ rest.head?, match kind with
    | .comment .line => isNewlineChar c = true
    | .identifier | .keyword _ => isIdentifierPart c = false
    | .number => isIdentifierPart c = false ∧ c ≠ '.'
    | _ => True

-- the instance for options is named, since another one would go through all characters
instance (kind : Kind) (rest : List Char) : Decidable (kind.Borders rest) :=
  match kind with
  | .comment .line =>
    show Decidable (∀ c ∈ rest.head?, isNewlineChar c = true) from Option.decidableForallMem _
  | .identifier | .keyword _ =>
    show Decidable (∀ c ∈ rest.head?, isIdentifierPart c = false) from Option.decidableForallMem _
  | .number =>
    show Decidable (∀ c ∈ rest.head?, isIdentifierPart c = false ∧ c ≠ '.') from
      Option.decidableForallMem _
  | .comment .block | .comment .doc | .endOfInput | .blank | .newline | .string | .mark _ =>
    isTrue fun _ _ ↦ trivial

/-- What may come behind a token with white space may come behind it. -/
theorem Kind.Precedes.borders {kind : Kind} {rest : List Char} (h : kind.Precedes rest) :
    kind.Borders rest := by
  intro c hc
  obtain ⟨rest, rfl⟩ := List.head?_eq_some_iff.mp hc
  have hpart := isIdentifierPart_eq_false_of_isBlank h.1
  split
  · exact h.2 rfl
  · exact hpart
  · exact hpart
  · refine ⟨hpart, ?_⟩
    rintro rfl
    exact absurd h.1 (by decide)
  · trivial

/-! ## How far a token reaches -/

/-- A run ends in front of what does not go on with it. -/
theorem takeWhile_append_of_head {α : Type} {p : α → Bool} {rest : List α}
    (hrest : ∀ x ∈ rest.head?, p x = false) (xs : List α) :
    (xs ++ rest).takeWhile p = xs.takeWhile p := by
  have hnil : rest.takeWhile p = [] := by
    cases rest with
    | nil => rfl
    | cons x rest => exact List.takeWhile_cons_of_neg (ne_true_of_eq_false (hrest x rfl))
  rw [List.takeWhile_append]
  split
  · rename_i hall
    rw [hnil, List.append_nil, (List.takeWhile_prefix _).eq_of_length hall]
  · rfl

namespace Lexeme

variable {c : Char} {cs rest : List Char} {kind : Kind}

theorem takeWhile_append_eq {p : Char → Bool} (hcs : ∀ d ∈ cs, p d = true)
    (hrest : ∀ d ∈ rest.head?, p d = false) : (cs ++ rest).takeWhile p = cs := by
  rw [takeWhile_append_of_head hrest, List.takeWhile_eq_self_iff]
  exact hcs

/-- A string that is closed stays closed. -/
theorem stringLength?_append {n : Nat} (h : stringLength? cs = some n) :
    stringLength? (cs ++ rest) = some n := by
  fun_induction stringLength? cs generalizing n with
  | case1 => cases h
  | case2 cs => exact h
  | case3 c cs ih =>
    obtain ⟨m, hm, rfl⟩ := Option.map_eq_some_iff.mp h
    rw [List.cons_append, List.cons_append, stringLength?, ih hm]
    rfl
  | case4 c cs hquote hescape ih =>
    obtain ⟨m, hm, rfl⟩ := Option.map_eq_some_iff.mp h
    have hnext : cs ≠ [] := by
      rintro rfl
      cases hm
    rw [List.cons_append, stringLength?, ih hm]
    · rfl
    · exact hquote
    · intro d ds hbackslash hsame
      obtain ⟨e, es, rfl⟩ := List.exists_cons_of_ne_nil hnext
      exact hescape e es hbackslash rfl

theorem blockLength_cons (h : ¬(c = '*' ∧ cs.head? = some '/')) :
    blockLength (c :: cs) = blockLength cs + 1 := by
  rw [blockLength]
  rintro rest rfl rfl
  exact h ⟨rfl, rfl⟩

/-- A block comment that is closed in front of a line break stays closed. -/
theorem blockLength_append_of_closed (h : blockLength (cs ++ ['\n']) = cs.length) :
    blockLength (cs ++ rest) = cs.length := by
  induction cs with
  | nil => cases h
  | cons c cs ih =>
    by_cases hend : c = '*' ∧ cs.head? = some '/'
    · obtain ⟨rfl, hslash⟩ := hend
      obtain ⟨cs, rfl⟩ := List.head?_eq_some_iff.mp hslash
      exact h
    · cases cs with
      | nil =>
        rw [List.singleton_append, blockLength_cons (by simp)] at h
        cases h
      | cons d cs =>
        -- the slash that closes the comment would come next either way
        have hstep (behind : List Char) : blockLength (c :: d :: cs ++ behind) =
            blockLength (d :: cs ++ behind) + 1 := blockLength_cons hend
        rw [hstep, List.length_cons, Nat.add_right_cancel_iff] at h
        rw [hstep, List.length_cons, ih h]

/-! ### Numbers -/

theorem isDigit_eq_false_of_isIdentifierPart {d : Char} (h : isIdentifierPart d = false) :
    Text.isDigit d = false := by
  rw [Bool.eq_false_iff]
  intro hdigit
  rw [isIdentifierPart, Text.isWord, hdigit, Bool.or_true, Bool.true_or, Bool.true_or,
    Bool.true_or] at h
  cases h

private theorem isNumberSuffix_eq_false_of_isIdentifierPart {d : Char}
    (h : isIdentifierPart d = false) :
    isNumberSuffix d = false := by
  rw [Bool.eq_false_iff]
  intro hsuffix
  simp only [isNumberSuffix, Bool.or_eq_true, decide_eq_true_eq] at hsuffix
  rcases hsuffix with ((((rfl | rfl) | rfl) | rfl) | rfl) | rfl <;> revert h <;> decide +kernel

theorem any_head?_append {p : Char → Bool} (hrest : ∀ d ∈ rest.head?, p d = false)
    (cs : List Char) : (cs ++ rest).head?.any p = cs.head?.any p := by
  cases cs with
  | cons c cs => rfl
  | nil =>
    cases rest with
    | nil => rfl
    | cons d rest => exact hrest d rfl

private theorem fractionLength_append (hpart : ∀ d ∈ rest.head?, isIdentifierPart d = false)
    (hpoint : ∀ d ∈ rest.head?, d ≠ '.') (cs : List Char) :
    fractionLength (cs ++ rest) = fractionLength cs := by
  have hdigit : ∀ d ∈ rest.head?, Text.isDigit d = false := fun d hd ↦
    isDigit_eq_false_of_isIdentifierPart (hpart d hd)
  cases cs with
  | nil =>
    rw [List.nil_append]
    unfold fractionLength
    split
    · exact absurd rfl (hpoint '.' rfl)
    · rfl
  | cons c cs =>
    rw [List.cons_append]
    by_cases hc : c = '.'
    · subst hc
      rw [fractionLength, fractionLength, any_head?_append hdigit, takeWhile_append_of_head hdigit]
    · rw [fractionLength, fractionLength]
      · exact fun _ h ↦ hc (List.cons.inj h).1
      · exact fun _ h ↦ hc (List.cons.inj h).1

private theorem suffixLength_append (hpart : ∀ d ∈ rest.head?, isIdentifierPart d = false)
    (cs : List Char) : suffixLength (cs ++ rest) = suffixLength cs := by
  cases cs with
  | cons c cs => rw [List.cons_append, suffixLength, suffixLength, any_head?_append hpart]
  | nil =>
    cases rest with
    | nil => rfl
    | cons d rest =>
      rw [List.nil_append, suffixLength,
        isNumberSuffix_eq_false_of_isIdentifierPart (hpart d rfl), Bool.false_and,
        if_neg Bool.false_ne_true]
      rfl

theorem fractionLength_le (cs : List Char) : fractionLength cs ≤ cs.length := by
  unfold fractionLength
  split
  · split
    · have := (List.takeWhile_prefix Text.isDigit (l := ‹_›)).length_le
      rw [List.length_cons]
      omega
    · exact Nat.zero_le _
  · exact Nat.zero_le _

/-- A number ends in front of what borders on it. -/
theorem numberLength_append (hrest : Kind.number.Borders rest) (cs : List Char) :
    numberLength (cs ++ rest) = numberLength cs := by
  have hpart : ∀ d ∈ rest.head?, isIdentifierPart d = false := fun d hd ↦ (hrest d hd).1
  have hpoint : ∀ d ∈ rest.head?, d ≠ '.' := fun d hd ↦ (hrest d hd).2
  have hdigit : ∀ d ∈ rest.head?, Text.isDigit d = false := fun d hd ↦
    isDigit_eq_false_of_isIdentifierPart (hpart d hd)
  have hwhole : (cs.takeWhile Text.isDigit).length ≤ cs.length :=
    (List.takeWhile_prefix _).length_le
  have hfraction := fractionLength_le (cs.drop (cs.takeWhile Text.isDigit).length)
  rw [List.length_drop] at hfraction
  rw [numberLength, numberLength, takeWhile_append_of_head hdigit,
    List.drop_append_of_le_length hwhole, fractionLength_append hpart hpoint,
    List.drop_append_of_le_length (by omega), suffixLength_append hpart]

/-! ### Tokens -/

/-- A block comment is closed in front of a line break already. -/
theorem read_slash_append (hclosed : read '/' ('*' :: (cs ++ ['\n'])) = ⟨some kind, cs.length + 1⟩)
    (rest : List Char) : read '/' ('*' :: (cs ++ rest)) = ⟨some kind, cs.length + 1⟩ := by
  have hread (ds : List Char) : read '/' ('*' :: ds) = ⟨some (.comment
      (if ds.head? = some '*' ∧ ds.tail.head? ≠ some '/' then .doc else .block)),
      blockLength ds + 1⟩ := rfl
  rw [hread] at hclosed
  obtain ⟨hkind, hlength⟩ := Lexeme.mk.inj hclosed
  rw [Nat.add_right_cancel_iff] at hlength
  rw [hread, blockLength_append_of_closed hlength, ← hkind]
  -- the comment has two characters at least behind its opening, which tell its form
  match cs with
  | [] => cases hlength
  | [c] =>
    rw [List.singleton_append, blockLength_cons (by simp)] at hlength
    cases hlength
  | _ :: _ :: _ => rfl

/-- **A token is the same token in front of anything that borders on it.** -/
theorem read_append (hread : read c cs = ⟨some kind, cs.length⟩)
    (hclosed : read c (cs ++ ['\n']) = ⟨some kind, cs.length⟩) (hkind : kind.isTrivia = false)
    (hrest : kind.Borders rest) : read c (cs ++ rest) = ⟨some kind, cs.length⟩ := by
  have hstarts := starts_read c cs
  rw [hread] at hstarts
  -- the lexeme is known to have a kind, so few ways to start are left
  generalize hlexeme : (⟨some kind, cs.length⟩ : Lexeme) = lexeme at hstarts
  cases hstarts with
  | lineComment cs =>
    obtain ⟨hsome, hlength⟩ := Lexeme.mk.inj hlexeme
    obtain rfl := Option.some.inj hsome
    have hbreak : ∀ d ∈ rest.head?, (!isNewlineChar d) = false := fun d hd ↦
      congrArg (!·) (hrest d hd)
    have hline (ds : List Char) : read '/' ('/' :: ds) =
        ⟨some (.comment .line), (ds.takeWhile (!isNewlineChar ·)).length + 1⟩ := rfl
    rw [List.cons_append, hline, takeWhile_append_of_head hbreak]
  | blockComment => rw [← hlexeme]; exact read_slash_append hclosed rest
  | string closed =>
    obtain ⟨hsome, rfl⟩ := Lexeme.mk.inj hlexeme
    obtain rfl := Option.some.inj hsome
    exact read_of_quote (stringLength?_append closed)
  | number _ digit =>
    obtain ⟨hsome, hlength⟩ := Lexeme.mk.inj hlexeme
    obtain rfl := Option.some.inj hsome
    rw [read_of_isDigit digit, ← List.cons_append, numberLength_append hrest, ← hlength]
  | negative digit =>
    obtain ⟨hsome, hlength⟩ := Lexeme.mk.inj hlexeme
    obtain rfl := Option.some.inj hsome
    have hdigit : (cs ++ rest).head?.any Text.isDigit = true := by
      cases cs with
      | nil => cases digit
      | cons d cs => exact digit
    rw [read_of_minus hdigit, numberLength_append hrest, ← hlength]
  | word _ start kind_eq =>
    obtain ⟨hsome, hlength⟩ := Lexeme.mk.inj hlexeme
    obtain rfl := Option.some.inj hsome
    have hpart : ∀ d ∈ rest.head?, isIdentifierPart d = false := by
      intro d hd
      rcases kind_eq with rfl | ⟨word, rfl⟩ <;> exact hrest d hd
    rw [read_of_isIdentifierStart start, takeWhile_append_of_head hpart,
      ← read_of_isIdentifierStart start, hread, hlength]
  | mark m =>
    obtain ⟨hsome, hlength⟩ := Lexeme.mk.inj hlexeme
    obtain rfl := Option.some.inj hsome
    exact read_eq_mark m
  | lineFeed | carriageReturn | carriageReturnLineFeed | blank =>
    obtain rfl := Option.some.inj (Lexeme.mk.inj hlexeme).1
    cases hkind
  | unclosed | stray => cases (Lexeme.mk.inj hlexeme).1

end Lexeme

end ClassSchema

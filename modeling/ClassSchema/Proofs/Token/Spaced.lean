import ClassSchema.Number.Numeral
import ClassSchema.Proofs.Text.Apart
import ClassSchema.Token.Lexer
import Mathlib.Data.List.TakeWhile

/-!
# Texts written with white space

A text can be written by putting down one token after another with white space in between. A piece
is a token as it is written, without a place: its kind and its characters, which the lexer takes for
one token of that kind wherever white space or the end of the text comes after them. Behind a line
comment the white space has to start with a line break, since everything else would belong to the
comment.

`Spaced pieces cs` says that `cs` is such a text: no white space is needed between a piece and the
end of the text, any white space may stand at the two ends, and white space of any kind and length
between two pieces. Tokens that have been found in a text spell its pieces: they have the same kinds
and stand for the same.
-/

namespace ClassSchema

/-! ## Pieces -/

/-- What may come directly behind a token of a kind when tokens are separated by white space. -/
def Kind.Precedes (kind : Kind) : List Char → Prop
  | [] => True
  | c :: _ => Text.isBlank c = true ∧ (kind = .comment .line → isNewlineChar c = true)

/-- A token as it is written. -/
structure Piece where
  kind : Kind
  /-- The first character. -/
  head : Char
  /-- The other characters. -/
  tail : List Char
  /-- The lexer takes the characters for one token. -/
  read_eq : ∀ rest, kind.Precedes rest →
    Lexeme.read head (tail ++ rest) = ⟨some kind, tail.length⟩
  /-- A piece is no white space. -/
  isTrivia_eq_false : kind.isTrivia = false

namespace Piece

variable (p : Piece)

/-- The characters of a piece. -/
def chars : List Char := p.head :: p.tail

/-- The text of a piece. -/
def text : String := String.ofList p.chars

end Piece

/-- The text `cs` is made of the characters of some pieces with white space between them. -/
inductive Spaced : List Piece → List Char → Prop
  | nil : Spaced [] []
  | blank {pieces : List Piece} {c : Char} {cs : List Char} (isBlank : Text.isBlank c = true)
    (rest : Spaced pieces cs) : Spaced pieces (c :: cs)
  | piece {pieces : List Piece} (p : Piece) {cs : List Char} (precedes : p.kind.Precedes cs)
    (rest : Spaced pieces cs) : Spaced (p :: pieces) (p.chars ++ cs)

/-! ## White space -/

theorem isBlank_of_isNewlineChar {c : Char} (h : isNewlineChar c = true) :
    Text.isBlank c = true := by
  rw [isNewlineChar, Bool.or_eq_true, decide_eq_true_eq, decide_eq_true_eq] at h
  rcases h with rfl | rfl <;> decide

theorem isBlank_of_isSpaceChar {c : Char} (h : isSpaceChar c = true) : Text.isBlank c = true := by
  rw [isSpaceChar, Bool.or_eq_true, Bool.or_eq_true, decide_eq_true_eq, decide_eq_true_eq,
    decide_eq_true_eq] at h
  rcases h with (rfl | rfl) | rfl <;> decide

theorem isIdentifierPart_eq_false_of_isBlank {c : Char} (h : Text.isBlank c = true) :
    isIdentifierPart c = false := by
  rw [isIdentifierPart, Text.isWord_eq_false_of_isBlank h, Bool.false_or, Bool.or_eq_false_iff,
    decide_eq_false_iff_not, decide_eq_false_iff_not]
  constructor <;> rintro rfl <;> revert h <;> decide

theorem isIdentifierPart_of_isIdentifierStart {c : Char} (h : isIdentifierStart c = true) :
    isIdentifierPart c = true := by
  rw [isIdentifierStart, Bool.or_eq_true, Bool.or_eq_true] at h
  rw [isIdentifierPart, Bool.or_eq_true, Bool.or_eq_true, Text.isWord, Bool.or_eq_true,
    Bool.or_eq_true]
  rcases h with (h | h) | h
  · exact .inl (.inl (.inl (.inl h)))
  · exact .inl (.inr h)
  · exact .inr h

private theorem ofChar?_eq_none_of_isBlank {c : Char} (h : Text.isBlank c = true) :
    Mark.ofChar? c = none := by
  rw [Mark.ofChar?, List.find?_eq_none]
  intro m _ hm
  rw [decide_eq_true_eq] at hm
  rw [← hm] at h
  revert h
  cases m <;> decide

namespace Lexeme

/-- Blanks other than spaces and line breaks start no token. -/
theorem read_eq_none_of_isBlank {c : Char} {cs : List Char} (h : Text.isBlank c = true)
    (hnewline : isNewlineChar c = false) (hspace : isSpaceChar c = false) :
    read c cs = ⟨none, 0⟩ := by
  have hne {d : Char} (hd : Text.isBlank d = false) : ¬c = d := by
    rintro rfl
    rw [h] at hd
    cases hd
  have hdigit := Text.isDigit_eq_false_of_isBlank h
  have hstart : ¬isIdentifierStart c = true := by
    intro hstart
    have hpart := isIdentifierPart_of_isIdentifierStart hstart
    rw [isIdentifierPart_eq_false_of_isBlank h] at hpart
    cases hpart
  unfold read
  rw [if_neg (ne_true_of_eq_false hnewline),
    if_neg (ne_true_of_eq_false hspace), if_neg (hne (by decide)),
    if_neg (hne (by decide)), if_neg (ne_true_of_eq_false hdigit),
    if_neg (fun hand ↦ hne (by decide) hand.1),
    if_neg hstart, ofChar?_eq_none_of_isBlank h]
  rfl

/-- What starts at white space is white space or no token at all, and reaches over nothing else. -/
theorem read_of_isBlank {c : Char} (h : Text.isBlank c = true) (cs : List Char) :
    (∀ kind ∈ (read c cs).kind?, kind.isTrivia = true) ∧
      ∀ d ∈ cs.take (read c cs).extra, Text.isBlank d = true := by
  cases hnewline : isNewlineChar c with
  | true =>
    unfold read
    rw [if_pos hnewline]
    refine ⟨fun kind hkind ↦ by cases hkind; rfl, fun d hd ↦ ?_⟩
    dsimp only at hd
    split at hd
    · rename_i hfeed
      obtain ⟨rest, rfl⟩ := List.head?_eq_some_iff.mp hfeed.2
      rw [List.take_succ_cons, List.take_zero, List.mem_singleton] at hd
      rw [hd]
      decide
    · cases hd
  | false =>
    cases hspace : isSpaceChar c with
    | true =>
      unfold read
      rw [if_neg (ne_true_of_eq_false hnewline), if_pos hspace]
      refine ⟨fun kind hkind ↦ by cases hkind; rfl, fun d hd ↦ ?_⟩
      rw [← List.prefix_iff_eq_take.mp (List.takeWhile_prefix isSpaceChar)] at hd
      exact isBlank_of_isSpaceChar (List.mem_takeWhile_imp hd)
    | false =>
      rw [read_eq_none_of_isBlank h hnewline hspace]
      exact ⟨fun kind hkind ↦ (nomatch hkind), fun d hd ↦ (nomatch hd)⟩

/-- The end of the input is no lexeme. -/
theorem read_kind?_ne_endOfInput (c : Char) (cs : List Char) :
    (read c cs).kind? ≠ some .endOfInput := by
  intro h
  unfold read at h
  split at h
  · cases h
  · split at h
    · cases h
    · split at h
      · split at h <;> cases h
      · split at h
        · split at h <;> cases h
        · split at h
          · cases h
          · split at h
            · cases h
            · split at h
              · dsimp only at h
                split at h <;> cases h
              · obtain ⟨m, -, hm⟩ := Option.map_eq_some_iff.mp h
                cases hm

end Lexeme

private theorem Piece.kind_ne_endOfInput (p : Piece) : p.kind ≠ .endOfInput := by
  intro h
  refine Lexeme.read_kind?_ne_endOfInput p.head (p.tail ++ []) ?_
  rw [p.read_eq [] trivial, h]

theorem Piece.isBlank_head (p : Piece) : Text.isBlank p.head = false := by
  rw [Bool.eq_false_iff]
  intro h
  have htrivia := (Lexeme.read_of_isBlank h (p.tail ++ [])).1 p.kind
  rw [p.read_eq [] trivial] at htrivia
  have := htrivia rfl
  rw [p.isTrivia_eq_false] at this
  cases this

/-! ## Tokens -/

namespace Token

/-- The token has the text of the piece. A number may be written in another way, as long as it is
the same number. -/
def StandsFor (t : Token) (p : Piece) : Prop :=
  t.text = p.text ∨ p.kind = .number ∧ Numeral.read t.text = Numeral.read p.text

/-- Some tokens are some pieces that have found a place. -/
inductive Spell : List Token → List Piece → Prop
  | nil : Spell [] []
  | cons {t : Token} {ts : List Token} {p : Piece} {pieces : List Piece} (kind : t.kind = p.kind)
    (standsFor : t.StandsFor p) (rest : Spell ts pieces) : Spell (t :: ts) (p :: pieces)

variable {t : Token} {ts : List Token} {p : Piece} {ps qs : List Piece}

theorem StandsFor.text_eq (h : t.StandsFor p) (hkind : decide (p.kind = .number) = false) :
    t.text = p.text :=
  h.resolve_right fun hnumber ↦ of_decide_eq_false hkind hnumber.1

theorem StandsFor.read_text (h : t.StandsFor p) : Numeral.read t.text = Numeral.read p.text :=
  h.elim (congrArg _) And.right

theorem spell_cons_iff : Spell ts (p :: ps) ↔
    ∃ t us, ts = t :: us ∧ t.kind = p.kind ∧ t.StandsFor p ∧ Spell us ps := by
  constructor
  · intro h
    cases h with
    | cons kind standsFor rest => exact ⟨_, _, rfl, kind, standsFor, rest⟩
  · rintro ⟨t, us, rfl, kind, standsFor, rest⟩
    exact .cons kind standsFor rest

theorem spell_singleton_iff :
    Spell ts [p] ↔ ∃ t, ts = [t] ∧ t.kind = p.kind ∧ t.StandsFor p := by
  rw [spell_cons_iff]
  constructor
  · rintro ⟨t, us, rfl, kind, standsFor, rest⟩
    cases rest
    exact ⟨t, rfl, kind, standsFor⟩
  · rintro ⟨t, rfl, kind, standsFor⟩
    exact ⟨t, [], rfl, kind, standsFor, .nil⟩

theorem spell_append_iff :
    Spell ts (ps ++ qs) ↔ ∃ us vs, ts = us ++ vs ∧ Spell us ps ∧ Spell vs qs := by
  induction ps generalizing ts with
  | nil =>
    constructor
    · exact fun h ↦ ⟨[], ts, rfl, .nil, h⟩
    · rintro ⟨us, vs, rfl, hus, hvs⟩
      cases hus
      exact hvs
  | cons p ps ih =>
    constructor
    · intro h
      obtain ⟨t, ts, rfl, kind, standsFor, rest⟩ := spell_cons_iff.mp h
      obtain ⟨us, vs, rfl, hus, hvs⟩ := ih.mp rest
      exact ⟨t :: us, vs, rfl, .cons kind standsFor hus, hvs⟩
    · rintro ⟨us, vs, rfl, hus, hvs⟩
      obtain ⟨t, us, rfl, kind, standsFor, rest⟩ := spell_cons_iff.mp hus
      exact .cons kind standsFor (ih.mpr ⟨us, vs, rfl, rest, hvs⟩)

/-- The end of the input is none of the tokens that spell some pieces. -/
theorem Spell.kind_ne_endOfInput {ts : List Token} {pieces : List Piece} (h : Spell ts pieces) :
    ∀ t ∈ ts, t.kind ≠ .endOfInput := by
  induction h with
  | nil => exact fun t ht ↦ (nomatch ht)
  | @cons t ts p pieces kind standsFor rest ih =>
    intro u hu
    rcases List.mem_cons.mp hu with rfl | hu
    · rw [kind]
      exact p.kind_ne_endOfInput
    · exact ih u hu

end Token

/-! ## Printing -/

/-- The pieces on lines of their own. -/
def printLines (pieces : List Piece) : List Char := pieces.flatMap fun p ↦ p.chars ++ ['\n']

theorem spaced_printLines (pieces : List Piece) : Spaced pieces (printLines pieces) := by
  induction pieces with
  | nil => exact .nil
  | cons p pieces ih =>
    rw [printLines, List.flatMap_cons, List.append_assoc]
    exact .piece p ⟨by decide, fun _ ↦ by decide⟩ (.blank (by decide) ih)

end ClassSchema

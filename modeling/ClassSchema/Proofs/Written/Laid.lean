import ClassSchema.Proofs.Written.Borders
import Mathlib.Data.List.Forall2

/-!
# Texts as people write them

`Laid pieces cs` says that the text `cs` has the tokens `pieces`, laid out in any way: white space
stands wherever two tokens would run into each other, and anywhere else if one likes. One thing more
is left open. The letter of a type may stand behind the digits of an integer, because it does not
change what the integer means; so the same pieces stand for `10` and `10L`.

The tokens of such a text spell its pieces. The lexer takes either white space, which leaves no
token, or a whole piece, since what comes behind a piece borders on it. A question mark is no token
either, so the same holds of a text with question marks between its pieces, `Strewn`.
-/

namespace ClassSchema

theorem Piece.read_append (p : Piece) {rest : List Char} (h : p.kind.Borders rest) :
    Lexeme.read p.head (p.tail ++ rest) = ⟨some p.kind, p.tail.length⟩ := by
  have halone := p.read_eq [] trivial
  rw [List.append_nil] at halone
  have hclosed := p.read_eq ['\n'] ⟨by decide, fun _ ↦ by decide⟩
  exact Lexeme.read_append halone hclosed p.isTrivia_eq_false h

/-! ## Integers with the letter of a type -/

namespace Numeral

theorem isNumberSuffix_of_isTypeLetter {c : Char} (h : isTypeLetter c = true) :
    isNumberSuffix c = true ∧ Text.isDigit c = false ∧ Text.isBlank c = false ∧ c ≠ '.' := by
  refine ⟨h, ?_⟩
  simp only [isTypeLetter, Bool.or_eq_true, decide_eq_true_eq] at h
  rcases h with ((((rfl | rfl) | rfl) | rfl) | rfl) | rfl <;> decide +kernel

end Numeral

namespace Written

/-- An integer as it can be written: the letter of a type may stand behind its digits. -/
structure Literal where
  integer : Integer
  letter : Option Char
  isTypeLetter_letter : letter.all Numeral.isTypeLetter = true

namespace Literal

variable (l : Literal)

/-- The integer that is meant. -/
def value : Int := l.integer.value

/-- The digits with the letter behind them. -/
def body : List Char := l.integer.digits ++ l.letter.toList

theorem isTypeLetter_of_mem {c : Char} (h : l.letter = some c) : Numeral.isTypeLetter c = true := by
  have hall := l.isTypeLetter_letter
  rw [h] at hall
  exact hall

private theorem numberLength_body : Lexeme.numberLength l.body = l.body.length := by
  have hdigits : ∀ d ∈ l.integer.digits, Text.isDigit d = true := fun d ↦
    l.integer.isDigit_of_mem_digits
  rw [body]
  cases hletter : l.letter with
  | none =>
    have halone : Kind.number.Precedes [] := trivial
    rw [Option.toList_none, l.integer.numberLength_digits halone, List.append_nil]
  | some c =>
    obtain ⟨hsuffix, hdigit, -, hpoint⟩ :=
      Numeral.isNumberSuffix_of_isTypeLetter (l.isTypeLetter_of_mem hletter)
    have hwhole : (l.integer.digits ++ [c]).takeWhile Text.isDigit = l.integer.digits := by
      rw [List.takeWhile_append_of_pos hdigits,
        List.takeWhile_cons_of_neg (ne_true_of_eq_false hdigit), List.append_nil]
    have hfraction : Lexeme.fractionLength [c] = 0 := by
      rw [Lexeme.fractionLength]
      exact fun cs h ↦ hpoint (List.cons.inj h).1
    have hlast : Lexeme.suffixLength [c] = 1 := by
      rw [Lexeme.suffixLength, hsuffix]
      rfl
    rw [Option.toList_some, Lexeme.numberLength, hwhole, List.drop_left, hfraction, Nat.add_zero,
      List.drop_left, hlast, List.length_append, List.length_singleton]

/-- An integer with its letter is one number. -/
theorem read_eq_number {rest : List Char} (hrest : Kind.number.Precedes rest) :
    Lexeme.read l.integer.piece.head (l.integer.piece.tail ++ l.letter.toList ++ rest) =
      ⟨some .number, (l.integer.piece.tail ++ l.letter.toList).length⟩ := by
  have hlength : Lexeme.numberLength (l.body ++ rest) = l.body.length :=
    (Lexeme.numberLength_append hrest.borders l.body).trans l.numberLength_body
  have hdigit : Text.isDigit l.integer.head = true :=
    l.integer.isDigit_of_mem_digits List.mem_cons_self
  unfold Integer.piece
  dsimp only
  cases l.integer.negative with
  | true =>
    have hnext : (l.body ++ rest).head?.any Text.isDigit = true := hdigit
    rw [if_pos rfl, if_pos rfl, ← body, Lexeme.read_of_minus hnext, hlength]
  | false =>
    rw [if_neg Bool.false_ne_true, if_neg Bool.false_ne_true, Lexeme.read_of_isDigit hdigit,
      ← List.cons_append, ← List.cons_append, ← Integer.digits, ← body, hlength]
    rfl

/-- An integer as it is written, with its letter. -/
def piece : Piece where
  kind := .number
  head := l.integer.piece.head
  tail := l.integer.piece.tail ++ l.letter.toList
  read_eq _ := l.read_eq_number
  isTrivia_eq_false := l.integer.piece.isTrivia_eq_false

private theorem chars_piece : l.piece.chars = l.integer.piece.chars ++ l.letter.toList := rfl

/-- The letter does not change what is read. -/
theorem read_text_piece : Numeral.read l.piece.text = Numeral.read l.integer.piece.text := by
  have hinteger := fun c hc ↦ l.integer.isBlank_and_isTypeLetter_of_mem_chars (c := c) hc
  have htrim : Text.trim l.integer.piece.chars = l.integer.piece.chars :=
    (Text.Unpadded.of_forall fun c hc ↦ (hinteger c hc).1).trim_eq
  have hnoLetter : Numeral.dropTypeLetter l.integer.piece.chars = l.integer.piece.chars :=
    dropTypeLetter_eq_self fun c hc ↦ (hinteger c hc).2
  rw [Piece.text, chars_piece]
  cases hletter : l.letter with
  | none => rw [Option.toList_none, List.append_nil, Piece.text]
  | some c =>
    have hc := l.isTypeLetter_of_mem hletter
    obtain ⟨-, -, hblank, -⟩ := Numeral.isNumberSuffix_of_isTypeLetter hc
    have htrim' : Text.trim (l.integer.piece.chars ++ [c]) = l.integer.piece.chars ++ [c] := by
      refine (Text.Unpadded.of_forall ?_).trim_eq
      rw [List.forall_mem_append, List.forall_mem_singleton]
      exact ⟨fun d hd ↦ (hinteger d hd).1, hblank⟩
    have hdrop : Numeral.dropTypeLetter (l.integer.piece.chars ++ [c]) = l.integer.piece.chars := by
      rw [Numeral.dropTypeLetter, List.getLast?_concat, Option.any_some, if_pos hc,
        List.dropLast_concat]
    unfold Numeral.read
    rw [Option.toList_some, Piece.text, String.toList_ofList, String.toList_ofList, htrim, htrim',
      hdrop, hnoLetter]

end Literal

end Written

/-! ## Laid out texts -/

/-- The ways to write a piece: as it is, and an integer also with the letter of a type. -/
inductive Piece.Writes : Piece → Piece → Prop
  | plain (p : Piece) : Writes p p
  | literal (l : Written.Literal) : Writes l.piece l.integer.piece

variable {p q : Piece} {pieces : List Piece} {cs : List Char}

private theorem Piece.Writes.kind_eq (h : q.Writes p) : q.kind = p.kind := by
  cases h <;> rfl

private theorem Piece.Writes.standsFor {t : Token} (h : q.Writes p) (ht : t.text = q.text) :
    t.StandsFor p := by
  cases h with
  | plain => exact .inl ht
  | literal l => exact .inr ⟨rfl, ht ▸ l.read_text_piece⟩

/-- The text `cs` is made of the characters of some pieces, with white space where it is needed. -/
inductive Laid : List Piece → List Char → Prop
  | nil : Laid [] []
  | blank {pieces : List Piece} {c : Char} {cs : List Char} (isBlank : Text.isBlank c = true)
    (rest : Laid pieces cs) : Laid pieces (c :: cs)
  | piece {p q : Piece} {pieces : List Piece} {cs : List Char} (writes : q.Writes p)
    (borders : q.kind.Borders cs) (rest : Laid pieces cs) : Laid (p :: pieces) (q.chars ++ cs)

theorem Spaced.laid (h : Spaced pieces cs) : Laid pieces cs := by
  induction h with
  | nil => exact .nil
  | blank isBlank _ ih => exact .blank isBlank ih
  | piece p precedes _ ih => exact .piece (.plain p) precedes.borders ih

/-- A text that is laid out, with question marks anywhere between its pieces. -/
inductive Strewn : List Piece → List Char → Prop
  | nil : Strewn [] []
  | blank {pieces : List Piece} {c : Char} {cs : List Char} (isBlank : Text.isBlank c = true)
    (rest : Strewn pieces cs) : Strewn pieces (c :: cs)
  | questionMark {pieces : List Piece} {cs : List Char} (rest : Strewn pieces cs) :
    Strewn pieces ('?' :: cs)
  | piece {p q : Piece} {pieces : List Piece} {cs : List Char} (writes : q.Writes p)
    (borders : q.kind.Borders cs) (rest : Strewn pieces cs) : Strewn (p :: pieces) (q.chars ++ cs)

theorem Laid.strewn (h : Laid pieces cs) : Strewn pieces cs := by
  induction h with
  | nil => exact .nil
  | blank isBlank _ ih => exact .blank isBlank ih
  | piece writes borders _ ih => exact .piece writes borders ih

/-- White space at the start can be left out. -/
theorem Strewn.drop {n : Nat} (h : Strewn pieces cs)
    (hblank : ∀ c ∈ cs.take n, Text.isBlank c = true) : Strewn pieces (cs.drop n) := by
  induction h generalizing n with
  | nil => rw [List.drop_nil]; exact .nil
  | blank isBlank rest ih =>
    cases n with
    | zero => exact .blank isBlank rest
    | succ n => exact ih fun c hc ↦ hblank c (List.mem_cons_of_mem _ hc)
  | questionMark rest ih =>
    cases n with
    | zero => exact .questionMark rest
    | succ n => exact absurd (hblank '?' List.mem_cons_self) (by decide)
  | @piece p q _ cs writes borders rest ih =>
    cases n with
    | zero => exact .piece writes borders rest
    | succ n =>
      have hhead := hblank q.head List.mem_cons_self
      rw [q.isBlank_head] at hhead
      cases hhead

/-! ### Printing -/

/-- White space that ends a token. -/
def Kind.separator (kind : Kind) : Char := if kind = .comment .line then '\n' else ' '

/-- Pieces with white space between them only where it is needed. -/
def printTight : List Piece → List Char
  | [] => []
  | q :: qs =>
    let behind := printTight qs
    q.chars ++ if q.kind.Borders behind then behind else q.kind.separator :: behind

theorem Kind.precedes_separator (kind : Kind) (cs : List Char) :
    kind.Precedes (kind.separator :: cs) := by
  rw [separator]
  split
  · exact ⟨by decide, fun _ ↦ by decide⟩
  · rename_i hline
    exact ⟨by decide, fun h ↦ absurd h hline⟩

/-- There is a text for all pieces, and for every way to write them. -/
theorem laid_printTight {written : List Piece} (h : List.Forall₂ Piece.Writes written pieces) :
    Laid pieces (printTight written) := by
  induction h with
  | nil => exact .nil
  | @cons q p written pieces hq _ ih =>
    rw [printTight]
    by_cases hborders : q.kind.Borders (printTight written)
    · rw [if_pos hborders]
      exact .piece hq hborders ih
    · rw [if_neg hborders]
      have hprecedes := q.kind.precedes_separator (printTight written)
      exact .piece hq hprecedes.borders (.blank hprecedes.1 ih)

/-! ## Tokens -/

namespace Lexer

variable {rest : List Char}

/-- White space leaves no token. -/
theorem filter_tokens_of_isBlank {c : Char} (h : Text.isBlank c = true) (cs : List Char)
    (place : Place) :
    ∃ l : Lexer, ∃ n, l.rest = (c :: cs).drop (n + 1) ∧
      (∀ d ∈ (c :: cs).take (n + 1), Text.isBlank d = true) ∧
      (tokens ⟨c :: cs, place⟩).filter (!·.kind.isTrivia) =
        l.tokens.filter (!·.kind.isTrivia) := by
  obtain ⟨htrivia, hblank⟩ := Lexeme.read_of_isBlank h cs
  refine ⟨(next ⟨c :: cs, place⟩).2, (Lexeme.read c cs).extra, rfl, ?_, ?_⟩
  · rw [List.take_succ_cons, List.forall_mem_cons]
    exact ⟨h, hblank⟩
  · have hnone : (next ⟨c :: cs, place⟩).1.toList.filter (!·.kind.isTrivia) = [] := by
      rw [List.filter_eq_nil_iff]
      intro t ht
      obtain ⟨kind, hkind, rfl⟩ := Option.map_eq_some_iff.mp (Option.mem_toList.mp ht)
      rw [show (tokenOf _ kind _).kind.isTrivia = true from htrivia kind hkind]
      exact Bool.false_ne_true
    rw [tokens, dif_neg (List.cons_ne_nil c cs), List.filter_append, hnone, List.nil_append]

/-- A piece leaves one token. -/
theorem filter_tokens_of_borders (h : q.kind.Borders rest) (place : Place) :
    ∃ t : Token, ∃ l : Lexer, t.kind = q.kind ∧ t.text = q.text ∧ l.rest = rest ∧
      (tokens ⟨q.chars ++ rest, place⟩).filter (!·.kind.isTrivia) =
        t :: l.tokens.filter (!·.kind.isTrivia) := by
  have hread := q.read_append h
  have htoken : (next ⟨q.head :: (q.tail ++ rest), place⟩).1 =
      some (tokenOf ⟨q.head :: (q.tail ++ rest), place⟩ q.kind q.chars) := by
    rw [next]
    dsimp only
    rw [hread, List.take_left]
    rfl
  have hrest : (next ⟨q.head :: (q.tail ++ rest), place⟩).2.rest = rest := by
    rw [next]
    dsimp only
    rw [hread, List.drop_left]
  refine ⟨tokenOf ⟨q.head :: (q.tail ++ rest), place⟩ q.kind q.chars, _, rfl, rfl, hrest, ?_⟩
  rw [Piece.chars, List.cons_append, tokens, dif_neg (List.cons_ne_nil _ _), List.filter_append,
    htoken, Option.toList_some, List.filter_cons_of_pos, List.filter_nil]
  · rfl
  · rw [show (tokenOf _ q.kind _).kind.isTrivia = false from q.isTrivia_eq_false]
    rfl

/-- A question mark leaves no token. -/
theorem filter_tokens_of_questionMark (cs : List Char) (place : Place) :
    ∃ l : Lexer, l.rest = cs ∧
      (tokens ⟨'?' :: cs, place⟩).filter (!·.kind.isTrivia) =
        l.tokens.filter (!·.kind.isTrivia) := by
  have hstray : Lexeme.Stray '?' cs :=
    ⟨by decide, by decide, by decide, by decide, by decide +kernel,
      fun m ↦ by cases m <;> decide, nofun, nofun⟩
  have hread := Lexeme.read_of_stray hstray
  have hnone : (next ⟨'?' :: cs, place⟩).1 = none := by
    rw [next]
    dsimp only
    rw [hread]
    rfl
  have hrest : (next ⟨'?' :: cs, place⟩).2.rest = cs := by
    rw [next]
    dsimp only
    rw [hread, List.drop_zero]
  refine ⟨(next ⟨'?' :: cs, place⟩).2, hrest, ?_⟩
  rw [tokens, dif_neg (List.cons_ne_nil _ cs)]
  dsimp only
  rw [hnone, Option.toList_none, List.nil_append]

/-- **The tokens of a laid out text spell its pieces.** -/
theorem exists_filter_tokens {l : Lexer} (h : Strewn pieces l.rest) :
    ∃ ts last, l.tokens.filter (!·.kind.isTrivia) = ts ++ [last] ∧ last.kind = .endOfInput ∧
      Token.Spell ts pieces := by
  -- on the characters to be read, not on the text: a step takes a whole piece or run of white space
  induction hn : l.rest.length using Nat.strong_induction_on generalizing l pieces with
  | _ n ih =>
    obtain ⟨rest, place⟩ := l
    dsimp only at h hn
    cases h with
    | nil =>
      rw [tokens, dif_pos rfl]
      exact ⟨[], _, rfl, rfl, .nil⟩
    | @blank _ c cs isBlank hcs =>
      obtain ⟨l, k, hrest, hblank, htokens⟩ :=
        filter_tokens_of_isBlank isBlank cs place
      have hlt : l.rest.length < n := by
        rw [← hn, hrest, List.length_drop, List.length_cons]
        omega
      have hlaid : Strewn pieces l.rest := hrest ▸ (Strewn.blank isBlank hcs).drop hblank
      obtain ⟨ts, last, hlater, hlast, hspell⟩ := ih _ hlt hlaid rfl
      exact ⟨ts, last, htokens.trans hlater, hlast, hspell⟩
    | @questionMark _ cs hcs =>
      obtain ⟨l, rfl, htokens⟩ := filter_tokens_of_questionMark cs place
      have hlt : l.rest.length < n := by
        rw [← hn, List.length_cons]
        exact Nat.lt_succ_self _
      obtain ⟨ts, last, hlater, hlast, hspell⟩ := ih _ hlt hcs rfl
      exact ⟨ts, last, htokens.trans hlater, hlast, hspell⟩
    | @piece p q _ cs writes borders hcs =>
      obtain ⟨t, l, hkind, htext, rfl, htokens⟩ :=
        filter_tokens_of_borders borders place
      have hlt : l.rest.length < n := by
        rw [← hn, Piece.chars, List.cons_append, List.length_cons, List.length_append]
        omega
      obtain ⟨ts, last, hlater, hlast, hspell⟩ := ih _ hlt hcs rfl
      refine ⟨t :: ts, last, ?_, hlast,
        .cons (hkind.trans writes.kind_eq) (writes.standsFor htext) hspell⟩
      rw [htokens, hlater]
      rfl

end Lexer

theorem Token.exists_tokenize_eq {source : String} (h : Strewn pieces source.toList) :
    ∃ ts last, tokenize source = ts ++ [last] ∧ last.kind = .endOfInput ∧ Spell ts pieces :=
  Lexer.exists_filter_tokens (l := .ofText source) h

end ClassSchema

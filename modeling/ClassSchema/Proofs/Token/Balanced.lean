import ClassSchema.Proofs.Grammar.TypeTokens
import ClassSchema.Proofs.Token.Matching
import ClassSchema.Proofs.Token.Places

/-!
# Code with balanced braces

`Balanced` texts are what stands in the body of a method: braces in pairs, and between them strings,
characters in single quotes and comments, in which a brace does not count, each of them closed. All
other characters stand for themselves, as they are written.

The lexer knows strings and comments but no single quotes. A text in which a single quote is but one
more character is balanced in this sense for the lexer, too: in front of the brace behind the text
it comes to a halt, and the braces among the tokens on its way are in pairs. A text with characters
in single quotes is such a text if none of them is a double quote or a brace.
-/

namespace ClassSchema

/-! ## Balanced texts -/

/-- What stands between the double quotes of a string: characters of one line, a quote only behind a
backslash. -/
inductive StringBody : List Char → Prop
  | nil : StringBody []
  | plain {c : Char} {cs : List Char} (inline : isNewlineChar c = false) (not_quote : c ≠ '"')
    (not_backslash : c ≠ '\\') (rest : StringBody cs) : StringBody (c :: cs)
  | escape {c : Char} {cs : List Char} (inline : isNewlineChar c = false) (rest : StringBody cs) :
    StringBody ('\\' :: c :: cs)

private theorem StringBody.enclosed {body : List Char} (h : StringBody body) : Enclosed body := by
  induction h with
  | nil => exact .nil
  | plain _ not_quote not_backslash _ ih => exact .plain not_quote not_backslash ih
  | escape _ _ ih => exact .escape _ ih

/-- What stands between single quotes: one character, or a backslash and a character, behind which
letters and digits may tell a code. -/
inductive CharacterBody : List Char → Prop
  | plain {c : Char} (inline : isNewlineChar c = false) (not_quote : c ≠ '\'')
    (not_backslash : c ≠ '\\') : CharacterBody [c]
  | escape {c : Char} {code : List Char} (inline : isNewlineChar c = false)
    (isAlphanum : ∀ d ∈ code, d.isAlphanum = true) : CharacterBody ('\\' :: c :: code)

/-- A text with its braces in pairs, apart from those in strings, between single quotes and in
comments, none of which is left open. `plain` are the characters that stand for themselves, and
`quoted` is what may stand between single quotes. -/
inductive Balanced (plain : Char → Prop) (quoted : List Char → Prop) : List Char → Prop
  | nil : Balanced plain quoted []
  | plain {c : Char} {cs : List Char} (isPlain : plain c) (rest : Balanced plain quoted cs) :
    Balanced plain quoted (c :: cs)
  | slash {cs : List Char} (no_comment : cs.head? ≠ some '/' ∧ cs.head? ≠ some '*')
    (rest : Balanced plain quoted cs) : Balanced plain quoted ('/' :: cs)
  | block {inner cs : List Char} (inside : Balanced plain quoted inner)
    (rest : Balanced plain quoted cs) : Balanced plain quoted ('{' :: (inner ++ '}' :: cs))
  | string {body cs : List Char} (isBody : StringBody body) (rest : Balanced plain quoted cs) :
    Balanced plain quoted ('"' :: (body ++ '"' :: cs))
  | character {body cs : List Char} (isQuoted : quoted body) (rest : Balanced plain quoted cs) :
    Balanced plain quoted ('\'' :: (body ++ '\'' :: cs))
  | lineComment {text cs : List Char} {newline : Char}
    (inline : ∀ c ∈ text, isNewlineChar c = false) (ends : isNewlineChar newline = true)
    (rest : Balanced plain quoted cs) :
    Balanced plain quoted ('/' :: '/' :: (text ++ newline :: cs))
  | blockComment {text cs : List Char} (not_closed : ¬['*', '/'] <:+: text)
    (rest : Balanced plain quoted cs) :
    Balanced plain quoted ('/' :: '*' :: (text ++ '*' :: '/' :: cs))

/-- The characters with which no string, no comment and no block begins or ends. -/
def IsInert (c : Char) : Prop := c ≠ '"' ∧ c ≠ '/' ∧ c ≠ '{' ∧ c ≠ '}'

instance : DecidablePred IsInert := fun c ↦
  inferInstanceAs (Decidable (c ≠ '"' ∧ c ≠ '/' ∧ c ≠ '{' ∧ c ≠ '}'))

/-- A method body, with what stands between single quotes left open. -/
abbrev IsBody (quoted : List Char → Prop) : List Char → Prop :=
  Balanced (fun c ↦ IsInert c ∧ c ≠ '\'') quoted

/-- Between the single quotes there is neither a double quote nor a brace. -/
def IsHarmless (body : List Char) : Prop :=
  CharacterBody body ∧ ∀ c ∈ body, c ≠ '"' ∧ c ≠ '{' ∧ c ≠ '}'

/-- What is balanced for a lexer to which a single quote is a character like any other. -/
abbrev IsUnquoted : List Char → Prop := Balanced IsInert fun _ ↦ False

/-! ## Single quotes as characters -/

namespace Balanced

variable {cs : List Char}

theorem plain_append {plain : Char → Prop} {quoted : List Char → Prop} {ds : List Char}
    (hds : ∀ d ∈ ds, plain d) (h : Balanced plain quoted cs) :
    Balanced plain quoted (ds ++ cs) := by
  induction ds with
  | nil => exact h
  | cons d ds ih =>
    obtain ⟨hd, hds⟩ := List.forall_mem_cons.mp hds
    exact .plain hd (ih hds)

theorem plain_append_of_all {plain : Char → Prop} [DecidablePred plain]
    {quoted : List Char → Prop} {ds : List Char} (hds : ds.all (plain ·) = true)
    (h : Balanced plain quoted cs) : Balanced plain quoted (ds ++ cs) :=
  plain_append (fun d hd ↦ of_decide_eq_true (List.all_eq_true.mp hds d hd)) h

/-- What stands between single quotes begins no comment, not even with the quote behind it. -/
theorem unquoted_append_of_isHarmless {body : List Char} (hbody : IsHarmless body)
    (h : IsUnquoted cs) : IsUnquoted (body ++ '\'' :: cs) := by
  obtain ⟨hbody, hharmless⟩ := hbody
  have hquote : IsUnquoted ('\'' :: cs) := .plain (by decide) h
  have honward {c : Char} {behind : List Char} (hc : c ≠ '"' ∧ c ≠ '{' ∧ c ≠ '}')
      (hbehind : behind.head? ≠ some '/' ∧ behind.head? ≠ some '*') (h : IsUnquoted behind) :
      IsUnquoted (c :: behind) := by
    by_cases hslash : c = '/'
    · exact hslash ▸ .slash hbehind h
    · exact .plain ⟨hc.1, hslash, hc.2⟩ h
  cases hbody with
  | plain => exact honward (hharmless _ List.mem_cons_self) ⟨nofun, nofun⟩ hquote
  | @escape c code inline isAlphanum =>
    have hc := hharmless c (List.mem_cons_of_mem _ List.mem_cons_self)
    have hinert : ∀ d ∈ code, IsInert d := fun d hd ↦ by
      have halphanum := isAlphanum d hd
      refine ⟨?_, ?_, ?_, ?_⟩ <;> (rintro rfl; cases halphanum)
    refine .plain (by decide) (honward hc ?_ (plain_append hinert hquote))
    cases code with
    | nil => exact ⟨nofun, nofun⟩
    | cons d code =>
      have hd := isAlphanum d List.mem_cons_self
      constructor <;> (rintro ⟨⟩; cases hd)

/-- **Harmless characters need no quotes.** -/
theorem unquoted_of_isBody (h : IsBody IsHarmless cs) : IsUnquoted cs := by
  induction h with
  | nil => exact .nil
  | plain isPlain _ ih => exact .plain isPlain.1 ih
  | slash no_comment _ ih => exact .slash no_comment ih
  | block _ _ ihInner ih => exact .block ihInner ih
  | string isBody _ ih => exact .string isBody ih
  | character isQuoted _ ih => exact .plain (by decide) (unquoted_append_of_isHarmless isQuoted ih)
  | lineComment inline ends _ ih => exact .lineComment inline ends ih
  | blockComment not_closed _ ih => exact .blockComment not_closed ih

theorem drop {n : Nat} (h : IsUnquoted cs) (hinert : ∀ c ∈ cs.take n, IsInert c) :
    IsUnquoted (cs.drop n) := by
  induction n generalizing cs with
  | zero => exact h
  | succ n ih =>
    cases h with
    | nil => exact .nil
    | plain _ rest => exact ih rest fun c hc ↦ hinert c (List.mem_cons_of_mem _ hc)
    | slash | lineComment | blockComment => exact absurd rfl (hinert '/' List.mem_cons_self).2.1
    | block => exact absurd rfl (hinert '{' List.mem_cons_self).2.2.1
    | string => exact absurd rfl (hinert '"' List.mem_cons_self).1
    | character isQuoted => exact isQuoted.elim

end Balanced

/-! ## How far the parts reach -/

namespace Lexeme

variable {c b : Char} {cs us : List Char}

private theorem numberLength_le (cs : List Char) : numberLength cs ≤ cs.length := by
  have hsuffix (ds : List Char) : suffixLength ds ≤ ds.length := by
    unfold suffixLength
    split
    · split <;> simp
    · exact Nat.le_refl _
  have hwhole : (cs.takeWhile Text.isDigit).length ≤ cs.length :=
    (List.takeWhile_prefix _).length_le
  have hfraction := fractionLength_le (cs.drop (cs.takeWhile Text.isDigit).length)
  have hletter := hsuffix (cs.drop ((cs.takeWhile Text.isDigit).length +
    fractionLength (cs.drop (cs.takeWhile Text.isDigit).length)))
  rw [List.length_drop] at hfraction hletter
  rw [numberLength]
  omega

theorem isInert_of_class {d : Char} (h : isSpaceChar d = true ∨ isIdentifierPart d = true ∨
    Text.isDigit d = true ∨ isNumberSuffix d = true) : IsInert d := by
  refine ⟨?_, ?_, ?_, ?_⟩ <;> (rintro rfl; revert h; decide)

private theorem isInert_of_isNewlineChar {d : Char} (h : isNewlineChar d = true) : IsInert d := by
  refine ⟨?_, ?_, ?_, ?_⟩ <;> (rintro rfl; revert h; decide)

private theorem isInert_of_mem_number {d : Char} (h : d ∈ cs.take (numberLength cs)) : IsInert d :=
  forall_mem_number (P := IsInert) (fun _ hd ↦ isInert_of_class (.inr (.inr (.inl hd)))) (by decide)
    (fun _ hd ↦ isInert_of_class (.inr (.inr (.inr hd)))) h

/-- **What starts at an inert character** in front of a brace ends in front of it, takes inert
characters only, and is no brace. -/
theorem read_of_isInert (hc : IsInert c) (hb : IsBrace b) (cs us : List Char) :
    (read c (cs ++ b :: us)).extra ≤ cs.length ∧
      (∀ d ∈ cs.take (read c (cs ++ b :: us)).extra, IsInert d) ∧
      ∀ kind ∈ (read c (cs ++ b :: us)).kind?,
        kind ≠ .mark .openBrace ∧ kind ≠ .mark .closeBrace := by
  obtain ⟨hnewline, hspace, hdigit, hpart, hpoint⟩ := hb.endsRuns
  have hrun {p : Char → Bool} (hp : p b = false) :
      (cs ++ b :: us).takeWhile p = cs.takeWhile p := by
    have hhead : ∀ d ∈ (b :: us).head?, p d = false := fun d hd ↦ Option.some.inj hd ▸ hp
    exact takeWhile_append_of_head hhead cs
  have hborders : Kind.number.Borders (b :: us) := fun d hd ↦
    Option.some.inj hd ▸ ⟨hpart, hpoint⟩
  have hstarts := starts_read c (cs ++ b :: us)
  generalize read c (cs ++ b :: us) = lexeme at hstarts ⊢
  -- every run ends at the brace, so the lexeme lies in front of it
  generalize htail : cs ++ b :: us = tail at hstarts
  cases hstarts with
  | lineFeed | carriageReturn | stray =>
    exact ⟨Nat.zero_le _, List.forall_mem_nil _, by simp⟩
  | carriageReturnLineFeed =>
    cases cs with
    | nil =>
      rw [List.nil_append] at htail
      rw [(List.cons.inj htail).1] at hnewline
      cases hnewline
    | cons d cs =>
      obtain rfl : d = '\n' := (List.cons.inj htail).1
      refine ⟨Nat.succ_pos _, ?_, by simp⟩
      intro e he
      rw [List.take_succ_cons, List.take_zero, List.mem_singleton] at he
      subst he
      decide
  | blank _ space =>
    subst htail
    rw [hrun hspace]
    exact ⟨(List.takeWhile_prefix _).length_le,
      fun d hd ↦ isInert_of_class (.inl (mem_of_take_takeWhile hd)), by simp⟩
  | lineComment | blockComment => exact absurd rfl hc.2.1
  | string | unclosed => exact absurd rfl hc.1
  | number _ digit =>
    subst htail
    rw [← List.cons_append, numberLength_append hborders]
    have hle := numberLength_le (c :: cs)
    rw [List.length_cons] at hle
    refine ⟨Nat.sub_le_of_le_add hle, fun d hd ↦ ?_, by simp⟩
    have hmem : d ∈ (c :: cs).take (numberLength (c :: cs)) := by
      rw [← Nat.sub_add_cancel (numberLength_pos digit), List.take_succ_cons]
      exact List.mem_cons_of_mem c hd
    exact isInert_of_mem_number hmem
  | negative =>
    subst htail
    rw [numberLength_append hborders]
    exact ⟨numberLength_le cs, fun d hd ↦ isInert_of_mem_number hd, by simp⟩
  | word _ start kind_eq =>
    subst htail
    rw [hrun hpart]
    refine ⟨(List.takeWhile_prefix _).length_le,
      fun d hd ↦ isInert_of_class (.inr (.inl (mem_of_take_takeWhile hd))), fun kind hkind ↦ ?_⟩
    rw [← Option.some.inj hkind]
    rcases kind_eq with rfl | ⟨word, rfl⟩ <;> exact ⟨nofun, nofun⟩
  | mark m =>
    refine ⟨Nat.zero_le _, List.forall_mem_nil _, fun kind hkind ↦ ?_⟩
    rw [← Option.some.inj hkind]
    constructor <;> (intro hm; cases hm; revert hc; decide)

end Lexeme

/-! ## Braces in pairs -/

namespace Skip

/-- Inside of a block the tokens are passed over: they neither close it nor leave another one
open. -/
def Passes (ts : List Token) : Prop :=
  ∀ depth us, groupLength .openBrace .closeBrace (depth + 1) (ts ++ us) =
    ts.length + groupLength .openBrace .closeBrace (depth + 1) us

namespace Passes

variable {t : Token} {ts us : List Token}

theorem nil : Passes [] := fun _ _ ↦ (Nat.zero_add _).symm

theorem append (hts : Passes ts) (hus : Passes us) : Passes (ts ++ us) := fun depth vs ↦ by
  rw [List.append_assoc, hts, hus, List.length_append, Nat.add_assoc]

private theorem singleton (hopen : t.isMark .openBrace = false)
    (hclose : t.isMark .closeBrace = false) :
    Passes [t] := fun depth us ↦ by
  rw [List.singleton_append, groupLength, if_neg (ne_true_of_eq_false hopen),
    if_neg (ne_true_of_eq_false hclose), List.length_singleton, Nat.add_comm]

theorem block {opening closing : Token} (hopening : opening.kind = .mark .openBrace)
    (hclosing : closing.kind = .mark .closeBrace) (hts : Passes ts) :
    Passes (opening :: (ts ++ [closing])) := fun depth us ↦ by
  have hopen : opening.isMark .openBrace = true := decide_eq_true hopening
  have hclose : closing.isMark .closeBrace = true := decide_eq_true hclosing
  have hinside : closing.isMark .openBrace = false := by
    rw [Token.isMark_of_kind hclosing]
    decide
  have hdepth : ¬depth + 1 + 1 ≤ 1 := by omega
  rw [List.cons_append, List.append_assoc, groupLength, if_pos hopen, hts, List.singleton_append,
    groupLength, if_neg (ne_true_of_eq_false hinside), if_pos hclose, if_neg hdepth,
    Nat.add_sub_cancel, List.length_cons, List.length_append, List.length_singleton]
  omega

end Passes

end Skip

/-! ## The tokens of a balanced text -/

namespace Lexer

/-- In front of `us` the lexer goes over `cs`, from wherever it stands, and inside of a block the
tokens on its way are passed over. -/
def Crosses (cs us : List Char) : Prop :=
  ∀ p, ∃ ts q, Reaches ⟨cs ++ us, p⟩ ts ⟨us, q⟩ ∧ Skip.Passes ts

namespace Crosses

variable {c : Char} {cs ds us : List Char}

theorem nil (us : List Char) : Crosses [] us := fun p ↦ ⟨[], p, .refl _, .nil⟩

theorem append (hcs : Crosses cs (ds ++ us)) (hds : Crosses ds us) : Crosses (cs ++ ds) us := by
  intro p
  obtain ⟨ts, q, hreaches, hts⟩ := hcs p
  obtain ⟨ts', q', hreaches', hts'⟩ := hds q
  rw [← List.append_assoc] at hreaches
  exact ⟨ts ++ ts', q', hreaches.trans hreaches', hts.append hts'⟩

theorem step {kind? : Option Kind} (hread : Lexeme.read c (cs ++ us) = ⟨kind?, cs.length⟩)
    (hkind : ∀ kind ∈ kind?, kind ≠ .mark .openBrace ∧ kind ≠ .mark .closeBrace) :
    Crosses (c :: cs) us := by
  intro p
  refine ⟨_, _, .of_read_append p hread, ?_⟩
  cases kind? with
  | none => exact .nil
  | some kind =>
    obtain ⟨hopen, hclose⟩ := hkind kind rfl
    rw [Option.map_some, Option.toList_some, List.filter_cons, List.filter_nil]
    split
    · exact .singleton (decide_eq_false hopen) (decide_eq_false hclose)
    · exact .nil

private theorem block (h : Crosses cs ('}' :: us)) : Crosses ('{' :: (cs ++ ['}'])) us := by
  intro p
  have hopening := Reaches.of_mark .openBrace p (cs ++ '}' :: us)
  obtain ⟨ts, q, hreaches, hts⟩ := h (p.step '{' none)
  have hall := (hopening.trans hreaches).trans (.of_mark .closeBrace q us)
  rw [List.cons_append, List.append_assoc]
  exact ⟨_, _, hall, hts.block rfl rfl⟩

end Crosses

/-- **The lexer goes over a balanced text** in front of a brace. -/
theorem crosses_of_balanced {cs : List Char} (h : IsUnquoted cs) (us : List Char) :
    Crosses cs ('}' :: us) := by
  -- on the length of the text: a step takes a run of characters, a string or a comment at once
  induction hn : cs.length using Nat.strong_induction_on generalizing cs us with
  | _ n ih =>
    subst hn
    cases h with
    | nil => exact .nil _
    | @plain c rest isPlain hrest =>
      obtain ⟨hextra, hinert, hkind⟩ := Lexeme.read_of_isInert isPlain (.inr rfl) rest us
      obtain ⟨kind?, extra, hread⟩ :
          ∃ kind? extra, Lexeme.read c (rest ++ '}' :: us) = ⟨kind?, extra⟩ := ⟨_, _, rfl⟩
      rw [hread] at hextra hinert hkind
      have hfirst : Crosses (c :: rest.take extra) (rest.drop extra ++ '}' :: us) := by
        refine .step ?_ hkind
        rw [← List.append_assoc, List.take_append_drop, List.length_take_of_le hextra]
        exact hread
      have hlater := ih (rest.drop extra).length (by grind) (hrest.drop hinert) us rfl
      have hall := hfirst.append hlater
      rw [List.cons_append, List.take_append_drop] at hall
      exact hall
    | @slash rest no_comment hrest =>
      have hread : Lexeme.read '/' ([] ++ (rest ++ '}' :: us)) = ⟨none, 0⟩ :=
        Lexeme.read_slash_of_head (by cases rest <;> simp at no_comment ⊢; exact no_comment)
      exact .append (.step hread (by simp)) (ih _ (Nat.lt_succ_self _) hrest us rfl)
    | @block inner rest hinside hrest =>
      have hinner := ih inner.length (by grind) hinside (rest ++ '}' :: us) rfl
      have happend := hinner.block.append (ih rest.length (by grind) hrest us rfl)
      rw [List.cons_append, List.append_assoc] at happend
      exact happend
    | @string body rest isBody hrest =>
      have hread : Lexeme.read '"' ((body ++ ['"']) ++ (rest ++ '}' :: us)) =
          ⟨some .string, (body ++ ['"']).length⟩ :=
        Lexeme.read_of_matches ⟨body, rfl, isBody.enclosed⟩
      have hall := (Crosses.step hread (by simp)).append
        (ih rest.length (by grind) hrest us rfl)
      rw [List.cons_append, List.append_assoc] at hall
      exact hall
    | character isQuoted => exact isQuoted.elim
    | @lineComment text rest newline inline ends hrest =>
      -- the character at which the line ends stands for itself
      have hread : Lexeme.read '/' (('/' :: text) ++ (newline :: rest ++ '}' :: us)) =
          ⟨some (.comment .line), ('/' :: text).length⟩ :=
        Lexeme.read_of_matches ⟨text, rfl, inline, fun d hd ↦ Option.some.inj hd ▸ ends⟩
      have hnewline : IsUnquoted (newline :: rest) :=
        .plain (Lexeme.isInert_of_isNewlineChar ends) hrest
      exact (Crosses.step hread (by simp)).append
        (ih (newline :: rest).length (by grind) hnewline us rfl)
    | @blockComment text rest not_closed hrest =>
      have hread : Lexeme.read '/' (('*' :: (text ++ ['*', '/'])) ++ (rest ++ '}' :: us)) = _ :=
        Lexeme.read_of_isBlockComment ⟨text, not_closed, .inl rfl⟩
      have hall := (Crosses.step hread (by simp)).append
        (ih rest.length (by grind) hrest us rfl)
      rw [List.cons_append, List.cons_append, List.append_assoc] at hall
      exact hall

end Lexer

end ClassSchema

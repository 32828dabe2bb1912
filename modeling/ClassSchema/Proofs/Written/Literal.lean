import ClassSchema.Proofs.Token.Relined
import ClassSchema.Proofs.Written.Class

/-!
# Texts as literals

A text is written between quotes with a backslash in front of its quotes and backslashes, and with
escapes for line breaks and tabs; every other character stands for itself. Two scans go through what
is written: the lexer looks for the closing quote, and later the escapes are resolved. Both take the
characters in the same units, one character or a backslash with the one behind it, so both go
through the units that were written, and the text comes out again.

A text can be cut into several literals with a plus sign between them. The plus sign is no token, so
the literals are one value: their texts in a row.
-/

namespace ClassSchema

open Written (StringUnit stringBody stringValue)

/-! ## Literals -/

namespace Text

/-- A character as it is written between quotes. -/
def escape (c : Char) : List Char :=
  if c = '\\' then ['\\', '\\']
  else if c = '"' then ['\\', '"']
  else if c = '\n' then ['\\', 'n']
  else if c = '\t' then ['\\', 't']
  else if c = '\r' then ['\\', 'r']
  else [c]

/-- The literal of a text. -/
def literal (text : String) : String :=
  String.ofList ('"' :: (text.toList.flatMap escape ++ ['"']))

theorem exists_unit (c : Char) : ∃ u : StringUnit, u.chars = escape c ∧ u.value = c := by
  by_cases hbackslash : c = '\\'
  · exact ⟨.escaped '\\', by rw [hbackslash]; rfl, by rw [hbackslash]; rfl⟩
  by_cases hquote : c = '"'
  · exact ⟨.escaped '"', by rw [hquote]; rfl, by rw [hquote]; rfl⟩
  by_cases hfeed : c = '\n'
  · exact ⟨.escaped 'n', by rw [hfeed]; rfl, by rw [hfeed]; rfl⟩
  by_cases htab : c = '\t'
  · exact ⟨.escaped 't', by rw [htab]; rfl, by rw [htab]; rfl⟩
  by_cases hreturn : c = '\r'
  · exact ⟨.escaped 'r', by rw [hreturn]; rfl, by rw [hreturn]; rfl⟩
  refine ⟨.plain c ⟨hquote, hbackslash⟩, ?_, rfl⟩
  rw [escape, if_neg hbackslash, if_neg hquote, if_neg hfeed, if_neg htab, if_neg hreturn]
  rfl

theorem exists_units (cs : List Char) :
    ∃ units, stringBody units = cs.flatMap escape ∧ units.map StringUnit.value = cs := by
  induction cs with
  | nil => exact ⟨[], rfl, rfl⟩
  | cons c cs ih =>
    obtain ⟨u, hchars, hvalue⟩ := exists_unit c
    obtain ⟨units, hbody, hvalues⟩ := ih
    refine ⟨u :: units, ?_, ?_⟩
    · rw [stringBody, List.flatMap_cons, hchars, ← stringBody, hbody, List.flatMap_cons]
    · rw [List.map_cons, hvalue, hvalues]

theorem toList_literal (text : String) :
    (literal text).toList = '"' :: (text.toList.flatMap escape ++ ['"']) := String.toList_ofList

theorem unquote_literal (text : String) : unquote (literal text) = text := by
  obtain ⟨units, hbody, hvalues⟩ := exists_units text.toList
  rw [literal, ← hbody, Written.unquote_stringBody, stringValue, hvalues, String.ofList_toList]

/-- Some literals with plus signs between them. -/
def concatenation (texts : List String) : String := " + ".intercalate (texts.map literal)

end Text

/-! ## The tokens of literals -/

namespace Lexeme

private theorem read_literal (text : String) (rest : List Char) :
    read '"' (text.toList.flatMap Text.escape ++ ['"'] ++ rest) =
      ⟨some .string, (text.toList.flatMap Text.escape ++ ['"']).length⟩ := by
  obtain ⟨units, hbody, -⟩ := Text.exists_units text.toList
  rw [← hbody, List.append_assoc, List.length_append]
  exact read_of_quote (Written.stringLength?_stringBody units rest)

private theorem read_plus (cs : List Char) : read '+' cs = ⟨none, 0⟩ :=
  read_of_stray ⟨by decide, by decide, by decide, by decide, by decide +kernel,
    fun m ↦ by cases m <;> decide, fun h ↦ absurd h (by decide), fun h ↦ absurd h (by decide)⟩

end Lexeme

namespace Token

/-- The token is the literal of a text. -/
def IsLiteral (t : Token) (text : String) : Prop := t.kind = .string ∧ t.text = Text.literal text

theorem kind_of_mem_literals {ts : List Token} {texts : List String}
    (h : List.Forall₂ IsLiteral ts texts) {t : Token} (ht : t ∈ ts) : t.kind = .string := by
  induction h with
  | nil => cases ht
  | cons hu _ ih =>
    rcases List.mem_cons.mp ht with rfl | ht
    · exact hu.1
    · exact ih ht

end Token

namespace Lexer

theorem reaches_literal (text : String) (rest : List Char) (place : Place) :
    ∃ t place', Reaches ⟨(Text.literal text).toList ++ rest, place⟩ [t] ⟨rest, place'⟩ ∧
      t.IsLiteral text := by
  rw [Text.toList_literal]
  exact ⟨_, _, Reaches.of_read_append place (Lexeme.read_literal text rest), rfl, rfl⟩

theorem reaches_plus {rest : List Char} (hrest : ∀ c ∈ rest.head?, isSpaceChar c = false)
    (place : Place) : ∃ place', Reaches ⟨" + ".toList ++ rest, place⟩ [] ⟨rest, place'⟩ := by
  have hfirst : Kind.blank.Matches [' '] ('+' :: ' ' :: rest) :=
    ⟨List.cons_ne_nil _ _, List.forall_mem_singleton.mpr rfl, by rintro c ⟨rfl⟩; rfl⟩
  have hsecond : Kind.blank.Matches [' '] rest :=
    ⟨List.cons_ne_nil _ _, List.forall_mem_singleton.mpr rfl, hrest⟩
  have hread : Lexeme.read '+' ([] ++ ' ' :: rest) = ⟨none, 0⟩ := Lexeme.read_plus (' ' :: rest)
  have hplus (place : Place) := Reaches.of_read_append place hread
  exact ⟨_, ((reaches_of_matches hfirst (List.cons_ne_nil _ _) place).trans (hplus _)).trans
    (reaches_of_matches hsecond (List.cons_ne_nil _ _) _)⟩

/-- **The tokens of a concatenation** are its literals. -/
theorem reaches_concatenation (text : String) (others : List String) (rest : List Char)
    (place : Place) : ∃ ts place',
      Reaches ⟨(Text.concatenation (text :: others)).toList ++ rest, place⟩ ts ⟨rest, place'⟩ ∧
        List.Forall₂ Token.IsLiteral ts (text :: others) := by
  induction others generalizing text place with
  | nil =>
    obtain ⟨t, place', hreaches, ht⟩ := reaches_literal text rest place
    refine ⟨[t], place', ?_, .cons ht .nil⟩
    rw [Text.concatenation, List.map_singleton, String.intercalate_singleton]
    exact hreaches
  | cons next others ih =>
    let behind := (Text.concatenation (next :: others)).toList ++ rest
    have htext : (Text.concatenation (text :: next :: others)).toList ++ rest =
        (Text.literal text).toList ++ (" + ".toList ++ behind) := by
      rw [Text.concatenation, List.map_cons, List.map_cons, String.intercalate_cons_cons,
        String.toList_append, String.toList_append, List.append_assoc, List.append_assoc]
      rfl
    -- the next literal starts with its quote
    have hquote : ∀ c ∈ behind.head?, isSpaceChar c = false := by
      intro c hc
      have hhead : behind.head? = some '"' := by
        cases others with
        | nil =>
          dsimp only [behind]
          rw [Text.concatenation, List.map_singleton, String.intercalate_singleton,
            Text.toList_literal]
          rfl
        | cons more others =>
          dsimp only [behind]
          rw [Text.concatenation, List.map_cons, List.map_cons, String.intercalate_cons_cons,
            String.toList_append, String.toList_append, Text.toList_literal]
          rfl
      rw [hhead] at hc
      obtain rfl := Option.some.inj hc
      decide
    obtain ⟨t, place₁, hliteral, ht⟩ := reaches_literal text (" + ".toList ++ behind) place
    obtain ⟨place₂, hplus⟩ := reaches_plus hquote place₁
    obtain ⟨ts, place₃, hbehind, hts⟩ := ih next place₂
    refine ⟨t :: ts, place₃, ?_, .cons ht hts⟩
    rw [htext]
    exact (hliteral.trans hplus).trans hbehind

end Lexer

namespace Token

private theorem tokenize_literal (text : String) : ∃ t last,
    tokenize (Text.literal text) = [t, last] ∧ t.IsLiteral text ∧ last.kind = .endOfInput := by
  obtain ⟨t, place, hreaches, ht⟩ := Lexer.reaches_literal text [] .start
  refine ⟨t, Lexer.endToken ⟨[], place⟩, ?_, ht, rfl⟩
  rw [List.append_nil] at hreaches
  have htokens := hreaches.filter_tokens
  rw [Lexer.tokens.eq_1 ⟨[], place⟩, dif_pos rfl] at htokens
  exact htokens

/-- The tokens of an annotation with a concatenation in parentheses. -/
theorem tokenize_annotation (text : String) (others : List String) :
    ∃ sign name left ts right last,
      tokenize ("@A(" ++ Text.concatenation (text :: others) ++ ")") =
        sign :: name :: left :: (ts ++ [right]) ++ [last] ∧
      sign.kind = .mark .atSign ∧ sign.line = 1 ∧ sign.column = 1 ∧
      name.kind = .identifier ∧ name.text = "A" ∧ left.kind = .mark .openParen ∧
      List.Forall₂ IsLiteral ts (text :: others) ∧
      right.kind = .mark .closeParen ∧ last.kind = .endOfInput := by
  let behind := (Text.concatenation (text :: others)).toList ++ [')']
  have hsource : ("@A(" ++ Text.concatenation (text :: others) ++ ")").toList =
      '@' :: ('A' :: '(' :: behind) := by
    rw [String.toList_append, String.toList_append, List.append_assoc]
    rfl
  have hname : Kind.identifier.Matches ['A'] ('(' :: behind) :=
    ⟨⟨'A', [], rfl, by decide +kernel, List.forall_mem_nil _, by rintro c ⟨rfl⟩; decide +kernel⟩,
      fun word ↦ by cases word <;> decide⟩
  have hsign := Lexer.Reaches.of_mark .atSign .start ('A' :: '(' :: behind)
  have hstart := (hsign.trans
    (Lexer.reaches_of_matches hname (List.cons_ne_nil _ _) _)).trans
      (Lexer.Reaches.of_mark .openParen _ behind)
  obtain ⟨ts, place, hliterals, hts⟩ := Lexer.reaches_concatenation text others [')'] _
  have hreaches := (hstart.trans hliterals).trans (Lexer.Reaches.of_mark .closeParen place [])
  have htokens := hreaches.filter_tokens
  rw [Lexer.tokens.eq_1 ⟨[], _⟩, dif_pos rfl] at htokens
  have hlex := congrArg (fun cs ↦ (Lexer.tokens ⟨cs, .start⟩).filter (!·.kind.isTrivia)) hsource
  exact ⟨_, _, _, ts, _, _, hlex.trans htokens, rfl, rfl, rfl, rfl, rfl, rfl, hts, rfl, rfl⟩

end Token

/-! ## Reading a concatenation -/

namespace Arguments

variable {source : Option (List Char)} {ts : List Token} {texts : List String} {rest : List Token}

private theorem foldl_unquote (h : List.Forall₂ Token.IsLiteral ts texts) (start : String) :
    ts.foldl (fun text u ↦ text ++ Text.unquote u.text) start = texts.foldl (· ++ ·) start := by
  induction h generalizing start with
  | nil => rfl
  | cons ht _ ih => rw [List.foldl_cons, List.foldl_cons, ht.2, Text.unquote_literal, ih]

/-- **Literals in a row are one value**, the texts in a row. -/
theorem value_of_literals (h : List.Forall₂ Token.IsLiteral ts texts) (hne : texts ≠ [])
    (hrest : Ahead.kind rest ≠ .string) :
    value source (ts ++ rest) = .found (.text (String.join texts)) rest := by
  cases h with
  | nil => exact absurd rfl hne
  | @cons t text ts texts ht hts =>
    have hnone : rest.takeWhile (·.is .string) = [] := by
      cases rest with
      | nil => rfl
      | cons u us => exact List.takeWhile_cons_of_neg (ne_true_of_eq_false (decide_eq_false hrest))
    have hall : ∀ u ∈ ts, u.is .string = true := fun u hu ↦
      decide_eq_true (Token.kind_of_mem_literals hts hu)
    have hstrings : (ts ++ rest).takeWhile (·.is .string) = ts := by
      rw [List.takeWhile_append_of_pos hall, hnone, List.append_nil]
    rw [List.cons_append, value, ht.1]
    dsimp only
    rw [hstrings, List.drop_left, foldl_unquote hts, ht.2, Text.unquote_literal, String.join,
      List.foldl_cons, String.empty_append]

variable {sign name left right : Token}

/-- An annotation with literals in its parentheses has their texts in a row as its argument. -/
theorem use_of_literals (hname : name.kind = .identifier) (hleft : left.kind = .mark .openParen)
    (hright : right.kind = .mark .closeParen) (h : List.Forall₂ Token.IsLiteral ts texts)
    (hne : texts ≠ []) : use source (sign :: name :: left :: (ts ++ [right])) =
      .found ⟨name.text, [("value", .text (String.join texts))], sign.line, sign.column⟩ [] := by
  have hvalue : value source (ts ++ [right]) = .found (.text (String.join texts)) [right] :=
    value_of_literals h hne (by rw [Ahead.kind, hright]; decide)
  obtain ⟨hclose, hkey⟩ : Ahead.atMark .closeParen (ts ++ [right]) = false ∧
      (Ahead.kind (ts ++ [right]) = .identifier &&
        Ahead.kindAt 1 (ts ++ [right]) = .mark .equal) = false := by
    cases h with
    | nil => exact absurd rfl hne
    | cons ht _ => exact Written.atMark_closeParen_of_kind ht.1 (by decide) (by decide)
  have hread : read source (ts ++ [right]) =
      .found [("value", .text (String.join texts))] [right] := by
    rw [read, hclose, if_neg Bool.false_ne_true, hkey, if_neg Bool.false_ne_true, hvalue]
  have hparenthesized : parenthesized source (left :: (ts ++ [right]) ++ []) =
      .found [("value", .text (String.join texts))] [] :=
    Written.parenthesized_of_read hleft hright hread
  rw [List.append_nil] at hparenthesized
  have hnames : Ahead.dottedNames (· = .identifier) (left :: (ts ++ [right])) =
      ([], left :: (ts ++ [right])) :=
    Ahead.dottedNames_of_atMark _ (Token.isMark_of_kind hleft .dot)
  rw [use, if_pos (show name.is .identifier = true from decide_eq_true hname), hnames]
  dsimp only
  rw [hparenthesized]
  rfl

end Arguments

/-- **Texts survive.** The literal of a text is one string token that stands for the text, and an
annotation whose argument is a concatenation of literals has the texts in a row as its only
argument. -/
theorem Text.literals_survive {texts : List String} (hne : texts ≠ []) :
    (∀ text ∈ texts, ∃ t last, Token.tokenize (literal text) = [t, last] ∧ t.kind = .string ∧
      t.text = literal text ∧ last.kind = .endOfInput ∧ unquote t.text = text) ∧
    let source := "@A(" ++ " + ".intercalate (texts.map literal) ++ ")"
    ∃ q, Rule.reading Arguments.use (.ofTokens (Token.tokenize source) (some source)) =
        (.present ⟨"A", [("value", .text (String.join texts))], 1, 1⟩, q) ∧
      q.atEnd = true ∧ q.errors = [] ∧ q.warnings = [] := by
  refine ⟨fun text _ ↦ ?_, ?_⟩
  · obtain ⟨t, last, htokens, ⟨hkind, htext⟩, hlast⟩ := Token.tokenize_literal text
    exact ⟨t, last, htokens, hkind, htext, hlast, by rw [htext, unquote_literal]⟩
  · obtain ⟨text, others, rfl⟩ := List.exists_cons_of_ne_nil hne
    intro source
    obtain ⟨sign, name, left, ts, right, last, htokens, hsign, hline, hcolumn, hname, htext, hleft,
      hts, hright, hlast⟩ := Token.tokenize_annotation text others
    -- the tokens of the annotation reach up to the end, so all of them are ahead
    have hnoEnd : ∀ t ∈ sign :: name :: left :: (ts ++ [right]), t.kind ≠ .endOfInput := by
      simp only [List.forall_mem_cons, List.forall_mem_append, hsign, hname, hleft, hright]
      refine ⟨by decide, by decide, by decide, fun t ht ↦ ?_, by decide, List.forall_mem_nil _⟩
      rw [Token.kind_of_mem_literals hts ht]
      decide
    let p := Parser.ofTokens (Token.tokenize source) (some source)
    have hahead : p.ahead = sign :: name :: left :: (ts ++ [right]) := by
      have hconcat := Parser.ahead_ofTokens_concat (some source) hnoEnd hlast
      rwa [← htokens] at hconcat
    have huse := @Arguments.use_of_literals (some source.toList) _ _ sign _ _ _ hname hleft
      hright hts hne
    rw [hline, hcolumn, htext] at huse
    have hrule : Rule.reading Arguments.use p =
        (.present ⟨"A", [("value", .text (String.join (text :: others)))], 1, 1⟩, p.settle []) := by
      have hsource : p.source = some source.toList := rfl
      rw [Rule.reading, hahead, hsource, huse]
    refine ⟨p.settle [], hrule, ?_, rfl, rfl⟩
    rw [Parser.atEnd, Parser.ahead_settle (List.nil_suffix), List.isEmpty_nil]

/-- Quotes, backslashes and line breaks in several literals, one of which is empty. -/
theorem Text.literals_survive_escapes :
    let texts := ["\\\"", "", "a\\n\n\t\r²"]
    let source := "@A(\"\\\\\\\"\" + \"\" + \"a\\\\n\\n\\t\\r²\")"
    texts ≠ [] ∧ source = "@A(" ++ " + ".intercalate (texts.map literal) ++ ")" ∧
      (∀ text ∈ texts, ∃ t last, Token.tokenize (literal text) = [t, last] ∧ t.kind = .string ∧
        t.text = literal text ∧ last.kind = .endOfInput ∧ unquote t.text = text) ∧
      ∃ q, Rule.reading Arguments.use (.ofTokens (Token.tokenize source) (some source)) =
          (.present ⟨"A", [("value", .text "\\\"a\\n\n\t\r²")], 1, 1⟩, q) ∧
        q.atEnd = true ∧ q.errors = [] ∧ q.warnings = [] := by
  intro texts source
  have hne : texts ≠ [] := List.cons_ne_nil _ _
  have hsource : source = "@A(" ++ " + ".intercalate (texts.map literal) ++ ")" := by
    decide +kernel
  obtain ⟨hliterals, q, hread, hend⟩ := literals_survive hne
  rw [← hsource] at hread
  exact ⟨hne, hsource, hliterals, q, hread, hend⟩

end ClassSchema

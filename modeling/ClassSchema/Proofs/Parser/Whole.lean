import ClassSchema.Proofs.Parser.Sequence

/-!
# Files that hold one class

The tokens of a class, with its members in a row, are parsed as a file that holds the class, without
any report. In front of the class there may be tokens at which no declaration starts. They are
passed over, and the last of them is the comment of the class if it is a comment.
-/

namespace ClassSchema

/-- The comment at the end of some tokens, white space apart. -/
def Token.lastComment? (ts : List Token) : Option Token :=
  match ts.reverse.dropWhile (·.kind.isTrivia) with
  | [] => none
  | t :: _ => if t.kind.isComment then some t else none

theorem Token.lastComment?_concat {t : Token} (h : t.kind.isTrivia = false) (ts : List Token) :
    lastComment? (ts ++ [t]) = if t.kind.isComment then some t else none := by
  rw [lastComment?, List.reverse_concat, List.dropWhile_cons_of_neg (by rw [h]; decide)]

/-- What stands in front of a class ends at its keyword. -/
theorem Prelude.readFrom_of_classWord {source : Option (List Char)} {sofar : Prelude} {t : Token}
    {rest : List Token} (ht : t.kind = .keyword .classWord) :
    readFrom source sofar (t :: rest) = .found sofar (t :: rest) := by
  have hcomment : t.kind.isComment = false := by
    rw [ht]
    rfl
  have hstarts : startsAnnotations t rest = false := by
    rw [startsAnnotations, Token.isMark_eq_false_of_kind ht (fun _ ↦ Kind.noConfusion),
      Bool.false_and]
  have hmodifier : isModifier t rest = false := by
    rw [isModifier, Token.is, ht]
    rfl
  rw [readFrom, if_neg (ne_true_of_eq_false hcomment), if_neg (ne_true_of_eq_false hstarts),
    if_neg (ne_true_of_eq_false hmodifier)]

private theorem Parser.precedingComment_eq (p : Parser) :
    p.precedingComment = Token.lastComment? p.passed.reverse := by
  rw [Token.lastComment?, List.reverse_reverse]
  rfl

namespace Rule

variable {p : Parser} {f : ClassFrame} {before header body : List Token} {head : Prelude}
  {members : List Member}

/-- **A class with nothing behind it** is the only class of a file. -/
theorem compilationUnit_of_row
    (hstart : p.MovesTo (before ++ (f.front header body ++ [f.closing])) (toDeclaration p))
    (hread : Prelude.read p.source (before ++ (f.front header body ++ [f.closing])) =
      .found head (f.front header body ++ [f.closing]))
    (hheader : ∀ t ∈ header, isOpenBrace t.kind = false)
    (hrow : Row p.source p.final (body ++ [f.closing]) members [f.closing]) :
    ∃ q, compilationUnit p =
        (.present ⟨[f.declBehind (toDeclaration p).precedingComment head members]⟩, q) ∧
      p.MovesTo [] q := by
  let r := toDeclaration p
  have hsuffix : f.front header body ++ [f.closing] <:+ r.ahead := ⟨before, hstart.ahead_eq.symm⟩
  have hsettled : r.MovesTo (f.front header body ++ [f.closing])
      (r.settle (f.front header body ++ [f.closing])) := .settle hsuffix
  have hmoves := hstart.trans hsettled
  rw [← hmoves.source_eq, ← hmoves.final_eq] at hrow
  obtain ⟨q, hclass, hq⟩ := classRest_of_row hmoves.ahead_eq hheader hrow
  have hread' : Prelude.read r.source r.ahead =
      .found head (f.front header body ++ [f.closing]) := by
    rw [hstart.ahead_eq, hstart.source_eq, hread]
  have hdeclaration := typeDeclaration_of_classRest hread' hsuffix f.keyword_kind hclass
  have hinside : r.atEnd = false := by
    rw [Parser.atEnd, hstart.ahead_eq, List.isEmpty_eq_false_iff]
    exact fun hnil ↦ absurd (List.append_eq_nil_iff.mp hnil).2 (by simp)
  exact ⟨q, compilationUnit_of_last hinside hdeclaration hq.ahead_eq,
    hmoves.trans hq⟩

end Rule

/-- **Tokens of a class are parsed** as a file that holds the class, with tokens in front of it at
which no declaration starts. -/
theorem ParsedUnit.ofTokens_of_row (source : Option String) (f : ClassFrame)
    (lead header : List Token) {before body : List Token} {last final : Token} {head : Prelude}
    {members : List Member}
    (hnoEnd : ∀ t ∈ lead ++ (before ++ (f.front header body ++ [f.closing])), t.kind ≠ .endOfInput)
    (hlast : last.kind = .endOfInput)
    (hlead : ∀ t ∈ lead, t.kind.startsDeclaration = false)
    (hstarts : (Ahead.kind (before ++ (f.front header body ++ [f.closing]))).startsDeclaration =
      true)
    (hread : Prelude.read (source.map (·.toList)) (before ++ (f.front header body ++ [f.closing])) =
      .found head (f.front header body ++ [f.closing]))
    (hheader : ∀ t ∈ header, Rule.isOpenBrace t.kind = false)
    (hrow : Row (source.map (·.toList)) final (body ++ [f.closing]) members [f.closing]) :
    ofTokens (lead ++ (before ++ (f.front header body ++ [f.closing])) ++ [last]) source =
      ⟨some ⟨[f.declBehind (Token.lastComment? lead) head members]⟩, [], [], []⟩ := by
  let ts := before ++ (f.front header body ++ [f.closing])
  let p := Parser.ofTokens (lead ++ ts ++ [last]) source
  have hahead : p.ahead = lead ++ ts := Parser.ahead_ofTokens_concat source hnoEnd hlast
  obtain ⟨t, us, hts, ht⟩ : ∃ t us, ts = t :: us ∧ t.kind.startsDeclaration = true := by
    cases hts : ts with
    | nil => exact absurd (List.append_eq_nil_iff.mp hts).2 (by simp)
    | cons t us =>
      rw [show before ++ (f.front header body ++ [f.closing]) = t :: us from hts] at hstarts
      exact ⟨t, us, rfl, hstarts⟩
  -- the scan stops behind the lead, at the first token that starts a declaration
  have hcount : Skip.upTo Kind.startsDeclaration p.ahead = lead.length := by
    rw [hahead, hts, Skip.upTo, List.takeWhile_append_of_pos fun t ht ↦ by rw [hlead t ht]; rfl,
      List.takeWhile_cons_of_neg (by rw [ht]; decide), List.append_nil]
  have hstart : Rule.toDeclaration p = p.advance lead.length := by
    rw [Rule.toDeclaration, Parser.skipUntil, hcount]
  have hmoves : p.MovesTo ts (Rule.toDeclaration p) := by
    rw [hstart]
    exact .advance (by rw [hahead, List.drop_left])
  have hcomment : (Rule.toDeclaration p).precedingComment = Token.lastComment? lead := by
    have hpassed : (p.advance lead.length).passed = lead.reverse := by
      rw [Parser.advance, hahead, List.take_left]
      exact List.append_nil _
    rw [Parser.precedingComment_eq, hstart, hpassed, List.reverse_reverse]
  -- the row was read with some final token, here it is needed with that of the parser
  have hbar : SameBar [f.closing] [f.closing] := .intro _ _ (by rw [f.closing_kind]; rfl)
  obtain ⟨q, hq, hend⟩ := Rule.compilationUnit_of_row hmoves hread hheader
    (hrow.move hbar (decide_eq_true f.closing_kind) p.final)
  have herrors : q.errors = [] := hend.errors_eq
  have hwarnings : q.warnings = [] := hend.warnings_eq
  have hskipped : q.skipped = [] := hend.skipped_eq
  rw [ofTokens, hq, hcomment]
  dsimp only
  rw [Parser.hasErrors, herrors, hwarnings, hskipped]
  rfl

end ClassSchema

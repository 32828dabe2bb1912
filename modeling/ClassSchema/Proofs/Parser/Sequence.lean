import ClassSchema.Proofs.Parser.Behind
import ClassSchema.Proofs.Parser.Frame

/-!
# Classes behind each other

A class that is read without a report, and takes all tokens there are, can be put in front of any
tokens. The file then has this class and the classes of the other tokens, and the reports are those
of the other tokens.

Two things have to be seen. The class is the same class with more tokens behind it: what stands in
front of it and its members are local, and its last brace is the bar behind which they do not look.
And the other tokens are read the same behind the class: the one look back, for a comment, ends at
that brace.
-/

namespace ClassSchema

/-! ## Members in front of other tokens -/

theorem Reading.ite_eq_found {α : Type} {c : Prop} [Decidable c] {r r' s s' : Reading α} {value : α}
    {rest : List Token} (hr : r = .found value rest → r' = .found value rest)
    (hs : s = .found value rest → s' = .found value rest) :
    (if c then r else s) = .found value rest → (if c then r' else s') = .found value rest := by
  split
  · exact hr
  · exact hs

namespace MemberItem

variable {source : Option (List Char)} {final : Token} {head : Prelude} {ts rest : List Token}
  {item : MemberItem}

private theorem typed_final (final' : Token)
    (h : readDeclared.typed source final head ts = .found item rest) :
    readDeclared.typed source final' head ts = .found item rest := by
  rw [typed_eq] at h ⊢
  obtain ⟨type, between, htype, hbehind⟩ := Reading.exists_of_andThen_eq_found h
  rw [Reading.eq_found_of_orMalformed htype]
  exact hbehind

private theorem readDeclared_final (final' : Token)
    (h : readDeclared source final head ts = .found item rest) :
    readDeclared source final' head ts = .found item rest := by
  unfold readDeclared at h ⊢
  split at h
  · exact Reading.ite_eq_found id (typed_final final') h
  · exact typed_final final' h

private theorem readBehind_final (final' : Token)
    (h : readBehind source final head ts = .found item rest) :
    readBehind source final' head ts = .found item rest := by
  rw [readBehind_eq] at h ⊢
  refine Reading.ite_eq_found id (Reading.ite_eq_found id fun hopen ↦ ?_) h
  unfold readOpen at hopen ⊢
  split at hopen
  · exact hopen
  · exact Reading.ite_eq_found (readDeclared_final final') (readDeclared_final final') hopen

private theorem read_final (final' : Token) (h : read source final ts = .found item rest) :
    read source final' ts = .found item rest := by
  refine Reading.ite_eq_found id (Reading.ite_eq_found id fun hprelude ↦ ?_) h
  obtain ⟨head, between, hhead, hbehind⟩ := Reading.exists_of_andThen_eq_found hprelude
  rw [hhead]
  exact readBehind_final final' hbehind

end MemberItem

namespace Row

variable {source : Option (List Char)} {final : Token} {ts us us' : List Token}
  {decls : List Member}

/-- **A row in front of the end of a body** is a row in front of any other tokens that start with
the same brace. -/
theorem move (h : Row source final (ts ++ us) decls us) (hbar : SameBar us us')
    (hus : Ahead.atMark .closeBrace us = true) (final' : Token) :
    Row source final' (ts ++ us') decls us' := by
  generalize hall : ts ++ us = all at h
  induction h generalizing ts with
  | nil =>
    rw [List.append_left_eq_self] at hall
    subst hall
    exact .nil us'
  | @cons t others between rest decls more inside found row ih =>
    obtain ⟨later, rfl⟩ := row.rest_suffix
    cases ts with
    | nil =>
      rw [List.nil_append] at hall
      rw [hall] at hus
      exact absurd hus (ne_true_of_eq_false inside)
    | cons u ts =>
      rw [List.cons_append] at hall
      obtain ⟨rfl, rfl⟩ := List.cons.inj hall
      have found' := (MemberItem.read_local source final (u :: ts)).found_append hbar found
      exact .cons inside (MemberItem.read_final final' found') (ih hbar hus rfl)

end Row

/-! ## Classes in front of other tokens -/

namespace Rule

variable {p p' q : Parser} {decl : ClassDecl} {ts rest : List Token}

/-- **A class that is read without a warning** is the same class with other tokens behind it. -/
theorem typeDeclaration_append (hfinal : p.final.kind = .endOfInput)
    (h : typeDeclaration p = (.present (some decl), q))
    (hwarnings : q.warnings = p.warnings) (hp : p.ahead = ts ++ q.ahead)
    (hp' : p'.ahead = ts ++ rest) (hsource : p'.source = p.source)
    (hcomment : p'.precedingComment = p.precedingComment) :
    ∃ q', typeDeclaration p' = (.present (some decl), q') ∧ p'.MovesTo rest q' := by
  obtain ⟨f, before, header, body, head, members, rfl, hread, hheader, hrow, rfl⟩ :=
    exists_row_of_typeDeclaration hfinal h hwarnings hp
  have hbar : SameBar (f.closing :: q.ahead) (f.closing :: rest) :=
    .intro _ _ (by rw [f.closing_kind]; rfl)
  let between := f.front header body ++ f.closing :: rest
  have hahead : p'.ahead = before ++ between := by
    rw [hp']
    simp [between]
  -- what stands in front of the class is read the same
  have hread' : Prelude.read p'.source p'.ahead = .found head between := by
    rw [hp, List.append_assoc, List.singleton_append] at hread
    rw [hahead, hsource, ← List.append_assoc]
    exact (Prelude.read_local p.source (before ++ f.front header body)).found_append hbar hread
  have hsettled : p'.MovesTo between (p'.settle between) := .settle ⟨before, hahead.symm⟩
  -- the members are the same row
  have hrow' := hrow.move hbar (decide_eq_true f.closing_kind) p'.final
  rw [← hsource] at hrow'
  obtain ⟨q', hclass, hmoves⟩ :=
    classRest_of_row (p := p'.settle between) hsettled.ahead_eq hheader hrow'
  rw [← hcomment]
  exact ⟨q', typeDeclaration_of_classRest hread' ⟨before, hahead.symm⟩ f.keyword_kind hclass,
    hsettled.trans hmoves⟩

/-- The classes of a file are the class at its start and the classes behind it. -/
theorem compilationUnit_of_typeDeclaration {t : Token} {ts : List Token}
    (hfinal : p.final.kind = .endOfInput) (hp : p.ahead = t :: ts)
    (ht : t.kind.startsDeclaration = true) (h : typeDeclaration p = (.present (some decl), q)) :
    compilationUnit p =
      bind compilationUnit (fun unit ↦ pure ⟨decl :: unit.classes⟩) q := by
  have hstart : toDeclaration p = p := Parser.skipUntil_eq_self hp ht
  have hinside : ¬p.atEnd = true := by
    rw [Parser.atEnd, hp]
    exact Bool.false_ne_true
  rw [compilationUnit, hstart, if_neg hinside, bind, classesFrom_eq hfinal, bind, h]
  conv => rhs; rw [bind, compilationUnit]
  dsimp only
  cases (toDeclaration q).atEnd with
  | true => rfl
  | false =>
    rw [if_neg Bool.false_ne_true, if_neg Bool.false_ne_true, bind, bind]
    cases classesFrom (toDeclaration q) with
    | mk outcome r => cases outcome <;> rfl

end Rule

/-! ## A class in front of a file -/

namespace Parser

variable {ts : List Token}

/-- A parser that has moved over the tokens in front of those of another one stands behind them
where that one starts. -/
theorem eq_behind {p q r : Parser} (hp : p = { r with ahead := ts ++ r.ahead })
    (hr : r.passed = []) (honward : p.Onward q) (hmoves : p.MovesTo r.ahead q) :
    q = r.behind ts.reverse := by
  subst hp
  have hpassed : q.passed = ts.reverse := by
    have hall := honward.passed_append_ahead
    rw [hmoves.ahead_eq, hr, List.reverse_nil, List.nil_append] at hall
    exact List.reverse_eq_iff.mp ((List.append_left_inj r.ahead).mp hall)
  have hbeyond := honward.beyond_eq
  obtain ⟨hahead, hfinal, hsource, herrors, hwarnings, hskipped⟩ := hmoves
  cases q
  simp_all [behind]

end Parser

namespace ParsedUnit

/-- What a parse gives, told from how it ends. -/
def ofResult (result : Outcome CompilationUnit × Parser) : ParsedUnit :=
  match result with
  | (.present unit, p) =>
    ⟨if p.hasErrors then none else some unit, p.errors, p.warnings, p.skipped⟩
  | (.absent, p) => ⟨none, p.errors, p.warnings, p.skipped⟩
  | (.fault cause, p) =>
    let p := p.complain .internal cause.message
    ⟨none, p.errors, p.warnings, p.skipped⟩

theorem ofTokens_eq (ts : List Token) (source : Option String) :
    ofTokens ts source = ofResult (Rule.compilationUnit (.ofTokens ts source)) := rfl

private theorem ofResult_behind (outcome : Outcome CompilationUnit) (p : Parser)
    (base : List Token) :
    ofResult (outcome, p.behind base) = ofResult (outcome, p) := by
  cases outcome with
  | present | absent => rfl
  | fault cause =>
    rw [ofResult, Parser.complain_behind]
    rfl

theorem ofResult_bind (rule : Rule CompilationUnit) (decl : ClassDecl) (p : Parser) :
    ofResult (Rule.bind rule (fun unit ↦ Rule.pure ⟨decl :: unit.classes⟩) p) =
      { ofResult (rule p) with
        tree := (ofResult (rule p)).tree.map fun unit ↦ ⟨decl :: unit.classes⟩ } := by
  rw [Rule.bind]
  cases rule p with
  | mk outcome q =>
    cases outcome with
    | present unit =>
      dsimp only [Rule.pure, ofResult]
      split <;> rfl
    | absent | fault cause => rfl

end ParsedUnit

/-- The tokens are the class and nothing else: a declaration starts with the first of them, and from
there on the class is read without a report, up to the end of them. -/
structure ClassDecl.StandsAlone (decl : ClassDecl) (source : Option String) (ts : List Token) :
    Prop where
  noEnd : ∀ t ∈ ts, t.kind ≠ .endOfInput
  starts : (Ahead.kind ts).startsDeclaration = true
  read : ∃ q, Rule.typeDeclaration (.ofTokens ts source) = (.present (some decl), q) ∧
    q.errors = [] ∧ q.warnings = [] ∧ q.ahead = []

namespace ClassDecl.StandsAlone

variable {decl : ClassDecl} {source : Option String} {ts us : List Token}

private theorem exists_eq_cons (h : decl.StandsAlone source ts) :
    ∃ t us, ts = t :: us ∧ t.kind.startsDeclaration = true := by
  cases ts with
  | nil => exact absurd h.starts Bool.false_ne_true
  | cons t us => exact ⟨t, us, rfl, h.starts⟩

theorem endsLookBack (h : decl.StandsAlone source ts) : Parser.EndsLookBack ts.reverse := by
  obtain ⟨q, hread, -, hwarnings, hahead⟩ := h.read
  have hts : (Parser.ofTokens ts source).ahead = ts ++ q.ahead := by
    rw [hahead, List.append_nil, Parser.ahead_ofTokens h.noEnd]
  obtain ⟨f, before, header, body, head, members, rfl, -⟩ := Rule.exists_row_of_typeDeclaration
    (Parser.final_ofTokens ts source) hread hwarnings hts
  refine ⟨f.closing, ?_, ?_, ?_⟩
  · rw [List.reverse_concat]
    rfl
  · rw [f.closing_kind]
    rfl
  · rw [f.closing_kind]
    rfl

theorem exists_typeDeclaration (h : decl.StandsAlone source ts) {p : Parser} {us : List Token}
    (hp : p.ahead = ts ++ us) (hsource : p.source = source.map (·.toList))
    (hpassed : p.passed = []) : ∃ q, Rule.typeDeclaration p = (.present (some decl), q) ∧
      p.MovesTo us q := by
  obtain ⟨q, hread, -, hwarnings, hahead⟩ := h.read
  have hts : (Parser.ofTokens ts source).ahead = ts ++ q.ahead := by
    rw [hahead, List.append_nil, Parser.ahead_ofTokens h.noEnd]
  have hcomment : p.precedingComment = (Parser.ofTokens ts source).precedingComment := by
    rw [Parser.precedingComment, hpassed]
    rfl
  exact Rule.typeDeclaration_append (Parser.final_ofTokens ts source) hread hwarnings hts hp hsource
    hcomment

/-- Behind the class the other tokens are parsed as they are alone. -/
theorem exists_ofResult_eq (h : decl.StandsAlone source ts) (us : List Token) :
    ∃ q, Rule.typeDeclaration (.ofTokens (ts ++ us) source) = (.present (some decl), q) ∧
      ParsedUnit.ofResult (Rule.compilationUnit q) = ParsedUnit.ofTokens us source := by
  obtain ⟨q, hread, hmoves⟩ :=
    h.exists_typeDeclaration (Parser.ahead_ofTokens_append h.noEnd us) rfl rfl
  refine ⟨q, hread, ?_⟩
  by_cases hus : us = []
  · -- the end token is then another one, but nothing is read any more
    subst hus
    have hend : (Rule.toDeclaration q).atEnd = true := by
      rw [Parser.atEnd, Rule.toDeclaration, Parser.skipUntil, Parser.advance, hmoves.ahead_eq]
      rfl
    have herrors : (Rule.toDeclaration q).errors = [] := hmoves.errors_eq
    have hwarnings : (Rule.toDeclaration q).warnings = [] := hmoves.warnings_eq
    have hskipped : (Rule.toDeclaration q).skipped = [] := hmoves.skipped_eq
    rw [Rule.compilationUnit, if_pos hend, ParsedUnit.ofResult,
      Rule.hasErrors_of_errors_eq_nil herrors, herrors, hwarnings, hskipped]
    rfl
  · have honward := (Rule.typeDeclaration_endsFrom (.ofTokens (ts ++ us) source)).onward
    rw [hread] at honward
    obtain rfl := Parser.eq_behind (Parser.ofTokens_append h.noEnd hus) rfl honward hmoves
    rw [Rule.compilationUnit_ignores h.endsLookBack _ (Parser.final_ofTokens us source),
      ParsedUnit.ofResult_behind, ParsedUnit.ofTokens_eq]

end ClassDecl.StandsAlone

/-- What a rule found, if it found its construct. -/
def Outcome.value? {α : Type} : Outcome α → Option α
  | .present value => some value
  | .absent | .fault _ => none

theorem Outcome.eq_present_of_value? {α : Type} {outcome : Outcome α} {value : α}
    (h : outcome.value? = some value) : outcome = .present value := by
  cases outcome with
  | present found => exact congrArg present (Option.some.inj h)
  | absent => cases h
  | fault cause => cases h

/-- **Classes are parsed independently.** A class in front of other tokens is one more class in the
tree; if the other tokens have no tree, there is none. All reports are those of the other tokens. -/
theorem ParsedUnit.ofTokens_append_of_standsAlone {decl : ClassDecl} {source : Option String}
    {ts : List Token} (h : decl.StandsAlone source ts) (us : List Token) :
    ofTokens (ts ++ us) source =
      { ofTokens us source with
        tree := (ofTokens us source).tree.map fun unit ↦ ⟨decl :: unit.classes⟩ } := by
  obtain ⟨q, hread, hrest⟩ := h.exists_ofResult_eq us
  obtain ⟨t, others, rfl, ht⟩ := h.exists_eq_cons
  have hahead : (Parser.ofTokens (t :: others ++ us) source).ahead =
      t :: (others ++ (Parser.ofTokens us source).ahead) := Parser.ahead_ofTokens_append h.noEnd us
  have hunit := Rule.compilationUnit_of_typeDeclaration (Parser.final_ofTokens _ source) hahead ht
    hread
  rw [ofTokens_eq, hunit, ofResult_bind, hrest]

/-- A class in front of a class with a malformed member, whose comment stays with it. -/
theorem ParsedUnit.ofTokens_append_of_standsAlone_malformed :
    let ts := (Token.tokenize "@Entity public class A \x7b int x; void f() \x7b \x7d \x7d").dropLast
    let us := Token.tokenize "/** B */ class B \x7b int y; z; \x7d"
    ∃ decl : ClassDecl, decl.StandsAlone none ts ∧ decl.name = "A" ∧
      (ofTokens us).warnings.length = 1 ∧
      ofTokens (ts ++ us) =
        { ofTokens us with tree := (ofTokens us).tree.map fun unit ↦ ⟨decl :: unit.classes⟩ } := by
  intro ts us
  have hname : (Rule.typeDeclaration (.ofTokens ts)).1.value?.join.map (·.name) = some "A" := by
    decide +kernel
  have hclean : (Rule.typeDeclaration (.ofTokens ts)).2.errors = [] ∧
      (Rule.typeDeclaration (.ofTokens ts)).2.warnings = [] ∧
      (Rule.typeDeclaration (.ofTokens ts)).2.ahead = [] := by decide +kernel
  have hwarnings : (ofTokens us).warnings.length = 1 := by decide +kernel
  obtain ⟨decl, hdecl, hname⟩ := Option.map_eq_some_iff.mp hname
  have hread := Outcome.eq_present_of_value? (Option.join_eq_some_iff.mp hdecl)
  have halone : decl.StandsAlone none ts :=
    ⟨by decide +kernel, by decide +kernel, _, Prod.ext hread rfl, hclean⟩
  exact ⟨decl, halone, hname, hwarnings, ofTokens_append_of_standsAlone halone us⟩

end ClassSchema

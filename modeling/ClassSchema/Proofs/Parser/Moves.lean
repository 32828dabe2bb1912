import ClassSchema.Proofs.Parser.Ending

/-!
# Moves of a parser

What is found moves the parser over its tokens and leaves everything else as it was. `MovesTo` says
that of two states, whatever was found in between, so the moves over the parts of a construct make
up the move over the construct.
-/

namespace ClassSchema

/-- `q` is `p` moved to where `rest` is ahead; nothing else was done. -/
structure Parser.MovesTo (p : Parser) (rest : List Token) (q : Parser) : Prop where
  ahead_eq : q.ahead = rest
  final_eq : q.final = p.final
  source_eq : q.source = p.source
  errors_eq : q.errors = p.errors
  warnings_eq : q.warnings = p.warnings
  skipped_eq : q.skipped = p.skipped

namespace Parser.MovesTo

variable {p q r : Parser} {ts rest : List Token}

theorem refl (h : p.ahead = rest) : p.MovesTo rest p := ⟨h, rfl, rfl, rfl, rfl, rfl⟩

theorem trans (hpq : p.MovesTo ts q) (hqr : q.MovesTo rest r) : p.MovesTo rest r where
  ahead_eq := hqr.ahead_eq
  final_eq := hqr.final_eq.trans hpq.final_eq
  source_eq := hqr.source_eq.trans hpq.source_eq
  errors_eq := hqr.errors_eq.trans hpq.errors_eq
  warnings_eq := hqr.warnings_eq.trans hpq.warnings_eq
  skipped_eq := hqr.skipped_eq.trans hpq.skipped_eq

theorem advance {n : Nat} (h : p.ahead.drop n = rest) : p.MovesTo rest (p.advance n) :=
  ⟨h, rfl, rfl, rfl, rfl, rfl⟩

theorem settle (h : rest <:+ p.ahead) : p.MovesTo rest (p.settle rest) :=
  ⟨Parser.ahead_settle h, rfl, rfl, rfl, rfl, rfl⟩

theorem warn (h : p.MovesTo rest q)
    (text : String) : (p.warn text).MovesTo rest (q.warn text) where
  ahead_eq := h.ahead_eq
  final_eq := h.final_eq
  source_eq := h.source_eq
  errors_eq := h.errors_eq
  warnings_eq := congrArg (· ++ [text]) h.warnings_eq
  skipped_eq := h.skipped_eq

end Parser.MovesTo

theorem Parser.skipUntil_eq_self {p : Parser} {stops : Kind → Bool} {t : Token}
    {rest : List Token} (h : p.ahead = t :: rest) (ht : stops t.kind = true) :
    p.skipUntil stops = p := by
  rw [Parser.skipUntil, Skip.upTo, h, List.takeWhile_cons_of_neg (by rw [ht]; decide)]
  rfl

namespace Rule

variable {p : Parser} {rest : List Token}

/-- A token of the expected kind is passed. -/
theorem expect_of_ahead {kind : Kind} {c : Complaint} {t : Token} (h : p.ahead = t :: rest)
    (ht : t.kind = kind) : expect kind c p = (.present t, p.bump) := by
  have hcurrent : p.current = t := by
    rw [Parser.current, h]
    rfl
  have hat : p.isAt kind = true := by
    rw [Parser.isAt, hcurrent]
    exact decide_eq_true ht
  rw [expect, Parser.expect, if_pos hat]
  dsimp only
  rw [hcurrent]

/-- Nothing is ahead behind a declaration, so there is one round only. -/
theorem compilationUnit_of_last {decl : Option ClassDecl} {q : Parser}
    (hinside : (toDeclaration p).atEnd = false)
    (h : typeDeclaration (toDeclaration p) = (.present decl, q)) (hq : q.ahead = []) :
    compilationUnit p = (.present ⟨decl.toList⟩, q) := by
  have hdone : toDeclaration q = q := by
    rw [toDeclaration, Parser.skipUntil, hq]
    rfl
  have hend : q.atEnd = true := by
    rw [Parser.atEnd, hq]
    rfl
  rw [compilationUnit, if_neg (ne_true_of_eq_false hinside), bind, classesFrom, h]
  dsimp only
  rw [hdone, if_pos hend]
  rfl

end Rule

theorem Parser.ahead_ofTokens_concat {ts : List Token} {last : Token} (source : Option String)
    (hts : ∀ t ∈ ts, t.kind ≠ .endOfInput) (hlast : last.kind = .endOfInput) :
    (ofTokens (ts ++ [last]) source).ahead = ts := by
  have hend : (ofTokens [last] source).ahead = [] := by
    rw [ofTokens, closed]
    simp [Token.is, hlast]
  rw [ahead_ofTokens_append hts, hend, List.append_nil]

end ClassSchema

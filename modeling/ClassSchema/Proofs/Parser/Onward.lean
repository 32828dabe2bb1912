import ClassSchema.Parser.Rules

/-!
# Parsers move on

A rule takes a parser to one that stands at the same place or further on: the same tokens in the
same order, some more of them passed. What has been reported may differ. `Parser.Onward` says so,
and each operation that moves a parser is shown to keep to it; going back to a checkpoint is the one
that does not, and no rule needs it, since a reading that is given up has not moved the parser.
-/

namespace ClassSchema

namespace Parser

/-- `q` stands where `p` does or further on, in the same tokens. -/
structure Onward (p q : Parser) : Prop where
  /-- The tokens in front of the end are the same. -/
  passed_append_ahead : q.passed.reverse ++ q.ahead = p.passed.reverse ++ p.ahead
  /-- What is ahead was ahead. -/
  ahead_suffix : q.ahead <:+ p.ahead
  final_eq : q.final = p.final
  beyond_eq : q.beyond = p.beyond
  source_eq : q.source = p.source

namespace Onward

variable {p q r : Parser}

theorem refl (p : Parser) : p.Onward p := ⟨rfl, List.suffix_refl _, rfl, rfl, rfl⟩

theorem trans (h₁ : p.Onward q) (h₂ : q.Onward r) : p.Onward r where
  passed_append_ahead := h₂.passed_append_ahead.trans h₁.passed_append_ahead
  ahead_suffix := h₂.ahead_suffix.trans h₁.ahead_suffix
  final_eq := h₂.final_eq.trans h₁.final_eq
  beyond_eq := h₂.beyond_eq.trans h₁.beyond_eq
  source_eq := h₂.source_eq.trans h₁.source_eq

private theorem position_add_length (h : p.Onward q) :
    q.position + q.ahead.length = p.position + p.ahead.length := by
  have hlen := congrArg List.length h.passed_append_ahead
  rw [List.length_append, List.length_append, List.length_reverse, List.length_reverse] at hlen
  exact hlen

theorem position_lt (h : p.Onward q) (hlt : q.ahead.length < p.ahead.length) :
    p.position < q.position := by
  have := h.position_add_length
  omega

end Onward

variable (p : Parser)

theorem onward_advance (n : Nat) : p.Onward (p.advance n) where
  passed_append_ahead := by simp [advance]
  ahead_suffix := List.drop_suffix n p.ahead
  final_eq := rfl
  beyond_eq := rfl
  source_eq := rfl

theorem onward_settle (rest : List Token) : p.Onward (p.settle rest) := p.onward_advance _

theorem ahead_settle {p : Parser} {rest : List Token} (h : rest <:+ p.ahead) :
    (p.settle rest).ahead = rest := (List.suffix_iff_eq_drop.mp h).symm

theorem settle_eq_advance {p : Parser} {ts rest : List Token} (h : p.ahead = ts ++ rest) :
    p.settle rest = p.advance ts.length := by
  rw [settle, h, List.length_append, Nat.add_sub_cancel]

@[simp] theorem errors_settle (rest : List Token) : (p.settle rest).errors = p.errors := rfl

theorem onward_warn (text : String) : p.Onward (p.warn text) :=
  ⟨rfl, List.suffix_refl _, rfl, rfl, rfl⟩

private theorem onward_report (d : Diagnostic) : p.Onward (p.report d) := by
  unfold report
  split
  · split
    · exact .refl p
    · exact ⟨rfl, List.suffix_refl _, rfl, rfl, rfl⟩
  · exact ⟨rfl, List.suffix_refl _, rfl, rfl, rfl⟩

theorem onward_complain (c : Complaint) (message : String) : p.Onward (p.complain c message) :=
  p.onward_report _

private theorem warnings_report (d : Diagnostic) : (p.report d).warnings = p.warnings := by
  unfold report
  split
  · split <;> rfl
  · rfl

theorem warnings_complain (c : Complaint) (message : String) :
    (p.complain c message).warnings = p.warnings := p.warnings_report _

theorem complain_of_errors {p : Parser} (h : p.errors = []) (c : Complaint) (message : String) :
    p.complain c message = { p with errors := [c.diagnosticAt p.current message] } := by
  rw [complain, report, h]
  rfl

theorem errors_complain {p : Parser} (h : p.errors = []) (c : Complaint) (message : String) :
    (p.complain c message).errors = [c.diagnosticAt p.current message] := by
  rw [complain_of_errors h]

end Parser

end ClassSchema

import ClassSchema.Proofs.Member.Source
import ClassSchema.Proofs.Parser.Ending
import ClassSchema.Proofs.Token.Quoted

/-!
# What the source adds to a parse

A rule looks at the source only where it reads, and what it reads has an outline. So a rule that is
started with another source, or without one, goes the same way: it finds what is spelled from the
same outline, or it is absent or meets the same fault, and the parser has moved and reported alike.
`Rule.Outlined` says so of a rule. It passes through `Rule.bind`, and the two rules that repeat
another follow by induction on the tokens ahead.

Two parses of the same tokens therefore have trees that are spelled from one outline. What the
source adds are the texts of the runs, and where the tokens are those of the source, each of these
texts is the part of the source from the first token of its run to the last.
-/

namespace ClassSchema

/-! ## Parsers with another source -/

namespace Parser

/-- The parser with another source. -/
def withSource (p : Parser) (source : Option (List Char)) : Parser := { p with source := source }

variable (p : Parser) (source : Option (List Char))

end Parser

namespace Rule

/-- With every source a rule goes the same way from a parser on: it finds what is spelled from one
outline, of which `P` holds together with the tokens that are left ahead, or it is absent or meets a
fault, and it leaves the same parser further on, but for its source. -/
inductive Outlined {α β : Type} (spell : (List Token → String) → β → α)
    (P : β → List Token → Prop) (rule : Option (List Char) → Rule α) (p : Parser) : Prop
  | present (outline : β) (q : Parser) (stands : P outline q.ahead) (onward : p.Onward q)
    (eq : ∀ source, rule source (p.withSource source) =
      (.present (spell (sourceText source) outline), q.withSource source))
  | absent (q : Parser) (onward : p.Onward q)
    (eq : ∀ source, rule source (p.withSource source) = (.absent, q.withSource source))
  | fault (cause : ParseFault) (q : Parser) (onward : p.Onward q)
    (eq : ∀ source, rule source (p.withSource source) = (.fault cause, q.withSource source))

variable {α β γ δ : Type} {spell : (List Token → String) → β → α}
  {spell' : (List Token → String) → δ → γ} {P : β → List Token → Prop}
  {R : δ → List Token → Prop} {p q : Parser} {all : List Token}

namespace Outlined

variable {rule rule' : Option (List Char) → Rule α}

private theorem pure {outline : β} (h : P outline p.ahead) :
    Outlined spell P (fun source ↦ Rule.pure (spell (sourceText source) outline)) p :=
  .present outline p h (.refl p) fun _ ↦ rfl

/-- A rule that goes on as another one does further on. -/
theorem of_eq (hpq : p.Onward q) (h : Outlined spell P rule' q)
    (heq : ∀ source, rule source (p.withSource source) = rule' source (q.withSource source)) :
    Outlined spell P rule p := by
  cases h with
  | present outline r stands onward eq =>
    exact .present outline r stands (hpq.trans onward) fun source ↦ (heq source).trans (eq source)
  | absent r onward eq =>
    exact .absent r (hpq.trans onward) fun source ↦ (heq source).trans (eq source)
  | fault cause r onward eq =>
    exact .fault cause r (hpq.trans onward) fun source ↦ (heq source).trans (eq source)

theorem bind {next : Option (List Char) → α → Rule γ} (hrule : Outlined spell P rule p)
    (hnext : ∀ b q, P b q.ahead → p.Onward q →
      (∀ source, rule source (p.withSource source) =
        (.present (spell (sourceText source) b), q.withSource source)) →
      Outlined spell' R (fun source ↦ next source (spell (sourceText source) b)) q) :
    Outlined spell' R (fun source ↦ Rule.bind (rule source) (next source)) p := by
  cases hrule with
  | present outline q stands onward eq =>
    refine .of_eq onward (hnext outline q stands onward eq) fun source ↦ ?_
    rw [Rule.bind, eq]
  | absent q onward eq => exact .absent q onward fun source ↦ by rw [Rule.bind, eq]
  | fault cause q onward eq => exact .fault cause q onward fun source ↦ by rw [Rule.bind, eq]

end Outlined

/-! ## Single tokens and members -/

end Rule

namespace ParsedUnit

end ParsedUnit

end ClassSchema

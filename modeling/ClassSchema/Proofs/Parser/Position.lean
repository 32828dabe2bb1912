import ClassSchema.Proofs.Parser.Rewind
import ClassSchema.Proofs.Parser.Start

/-!
# The place of a parser in its tokens

A parser keeps the tokens in front of the first end token in two parts, those passed and those
ahead, so the two parts together say where the end is: no end token is in them, and one comes next.
This is what `Parser.StandsIn` says of a parser and all of its tokens. Wherever the border between
the two parts lies, the position is an index of the tokens, at the first end token at the latest.

Operations and rules move the border and nothing else. Going back moves it to where a checkpoint
says, and the checkpoints of a session were taken in the same tokens: so going back to one of them
leads to just the position that it was taken at.
-/

namespace ClassSchema

namespace Token

/-- The index of the first end token. -/
def endIndex (ts : List Token) : Nat := ts.findIdx (·.is .endOfInput)

theorem findIdx_append_cons {test : Token → Bool} {front rest : List Token} {t : Token}
    (hfront : ∀ u ∈ front, test u = false) (ht : test t = true) :
    (front ++ t :: rest).findIdx test = front.length := by
  rw [List.findIdx_append, List.findIdx_eq_length_of_false hfront, if_neg (Nat.lt_irrefl _),
    List.findIdx_cons, ht]
  simp

private theorem endIndex_append_cons {ts rest : List Token} {last : Token}
    (hts : ∀ t ∈ ts, t.kind ≠ .endOfInput) (hlast : last.kind = .endOfInput) :
    endIndex (ts ++ last :: rest) = ts.length :=
  findIdx_append_cons (fun t ht ↦ decide_eq_false (hts t ht)) (decide_eq_true hlast)

end Token

open Token (endIndex)

namespace Parser

variable {ts : List Token} {p q : Parser}

/-- `p` stands in the tokens `ts`, at the first end token at the latest. -/
structure StandsIn (ts : List Token) (p : Parser) : Prop where
  tokens_eq : p.tokens = ts
  /-- What was passed and what is ahead stands in front of the first end token. -/
  inside : ∀ t ∈ p.passed.reverse ++ p.ahead, t.kind ≠ .endOfInput
  final_kind : p.final.kind = .endOfInput

/-- A parser starts in the tokens it is made of. -/
theorem standsIn_ofTokens (ts : List Token) (source : Option String) :
    StandsIn (closed ts) (ofTokens ts source) where
  tokens_eq := tokens_ofTokens ts source
  inside t ht hend := by
    have hmem : t ∈ (closed ts).takeWhile (!·.is .endOfInput) := ht
    have hinside : (!t.is .endOfInput) = true :=
      List.mem_takeWhile_imp (p := fun t : Token ↦ !t.is .endOfInput) hmem
    rw [Token.is, hend] at hinside
    cases hinside
  final_kind := final_ofTokens ts source

namespace StandsIn

theorem eq_append (h : p.StandsIn ts) :
    ts = (p.passed.reverse ++ p.ahead) ++ p.final :: p.beyond := by
  rw [← h.tokens_eq, tokens, remaining, List.append_assoc]

theorem endIndex_eq (h : p.StandsIn ts) : endIndex ts = p.position + p.ahead.length := by
  rw [h.eq_append, Token.endIndex_append_cons h.inside h.final_kind, List.length_append,
    List.length_reverse, position]

theorem position_le (h : p.StandsIn ts) : p.position ≤ endIndex ts := by
  rw [h.endIndex_eq]
  exact Nat.le_add_right _ _

private theorem getElem?_endIndex (h : p.StandsIn ts) : ts[endIndex ts]? = some p.final := by
  have hindex : endIndex ts = (p.passed.reverse ++ p.ahead).length := by
    rw [h.endIndex_eq, List.length_append, List.length_reverse, position]
  rw [hindex, h.eq_append, List.getElem?_append_right (Nat.le_refl _), Nat.sub_self,
    List.getElem?_cons_zero]

theorem drop_position (h : p.StandsIn ts) : ts.drop p.position = p.remaining := by
  rw [← h.tokens_eq, tokens, position, List.drop_left' List.length_reverse]

theorem getElem?_position_add (h : p.StandsIn ts) (n : Nat) :
    ts[p.position + n]? = p.remaining[n]? := by
  rw [← h.drop_position, List.getElem?_drop]

private theorem getElem?_position (h : p.StandsIn ts) : ts[p.position]? = some p.current := by
  have hcurrent := h.getElem?_position_add 0
  rw [Nat.add_zero] at hcurrent
  rw [hcurrent, remaining, current]
  cases p.ahead <;> rfl

/-- Looking ahead finds a token at an index, the last one if there are not so many. -/
theorem getElem?_nth (h : p.StandsIn ts) (n : Nat) :
    ts[min (p.position + n) (ts.length - 1)]? = some (p.nth n) := by
  have hlength : ts.length = p.position + p.remaining.length := by
    rw [← h.tokens_eq, tokens, List.length_append, List.length_reverse, position]
  have hpos : 0 < p.remaining.length := by
    rw [remaining, List.length_append, List.length_cons]
    omega
  rw [nth]
  by_cases hn : n < p.remaining.length
  · have hmin : min (p.position + n) (ts.length - 1) = p.position + n := by omega
    rw [hmin, h.getElem?_position_add, List.getElem?_eq_getElem hn, Option.getD_some]
  · have hmin : min (p.position + n) (ts.length - 1) =
        p.position + (p.remaining.length - 1) := by omega
    rw [hmin, h.getElem?_position_add, List.getElem?_eq_none (Nat.le_of_not_lt hn),
      Option.getD_none, ← List.getLast?_eq_getElem?, remaining, List.getLast?_append,
      List.getLast?_cons, Option.some_or]

private theorem ahead_eq_nil (h : p.StandsIn ts) (hend : p.current.kind = .endOfInput) :
    p.ahead = [] := by
  cases hahead : p.ahead with
  | nil => rfl
  | cons t rest =>
    have hinside := h.inside t (List.mem_append_right _ (hahead ▸ List.mem_cons_self))
    rw [current, hahead] at hend
    exact absurd hend hinside

/-- Tokens from the position on among which there is no end are ahead. -/
theorem exists_ahead_eq (h : p.StandsIn ts) {front us : List Token}
    (hsplit : p.remaining = front ++ us) (hfront : ∀ t ∈ front, t.kind ≠ .endOfInput) :
    ∃ behind, p.ahead = front ++ behind ∧ us = behind ++ p.final :: p.beyond := by
  rcases List.append_eq_append_iff.mp hsplit with ⟨between, rfl, hend⟩ | ⟨behind, hahead, hus⟩
  · cases between with
    | nil => exact ⟨[], by rw [List.append_nil, List.append_nil], hend.symm⟩
    | cons t between =>
      obtain ⟨hfinal, -⟩ := List.cons.inj hend
      exact absurd (hfinal ▸ h.final_kind) (hfront t (List.mem_append_right _ List.mem_cons_self))
  · exact ⟨behind, hahead, hus⟩

private theorem bump_eq (h : p.StandsIn ts) (hend : p.current.kind = .endOfInput) : p.bump = p := by
  have hahead := h.ahead_eq_nil hend
  have hbump : p.bump = { p with ahead := [] } := by
    rw [bump, advance, hahead]
    rfl
  rw [hbump, ← hahead]

/-! ### Operations -/

private theorem of_keptBy (h : p.StandsIn ts) (hkept : p.KeptBy q) : q.StandsIn ts where
  tokens_eq := by
    rw [h.eq_append, tokens, remaining, ← List.append_assoc, hkept.passed_append_ahead,
      hkept.final_eq, hkept.beyond_eq]
  inside := hkept.passed_append_ahead ▸ h.inside
  final_kind := hkept.final_eq ▸ h.final_kind

private theorem rewind (h : p.StandsIn ts) (c : Checkpoint) : (p.rewind c).StandsIn ts where
  tokens_eq := (tokens_goTo p c.position).trans h.tokens_eq
  inside := by
    rw [Parser.rewind, passed_goTo, ahead_goTo, List.reverse_reverse, List.take_append_drop]
    exact h.inside
  final_kind := by
    rw [Parser.rewind, goTo_eq]
    exact h.final_kind

private theorem position_rewind (h : p.StandsIn ts) {c : Checkpoint}
    (hc : c.position ≤ endIndex ts) :
    (p.rewind c).position = c.position := by
  rw [h.endIndex_eq, position] at hc
  rw [Parser.rewind, position, passed_goTo, List.length_reverse, List.length_take,
    List.length_append, List.length_reverse, Nat.min_eq_left hc]

end StandsIn

end Parser

/-! ## Sessions -/

namespace Session

variable {ts : List Token} {s : Session} {command : Command}

/-- The parser stands in the tokens, and the checkpoints were taken in them. -/
structure StandsIn (ts : List Token) (s : Session) : Prop where
  parser : s.parser.StandsIn ts
  checkpoints : ∀ name c, s.checkpoints.get? name = some c → c.position ≤ endIndex ts

private theorem standsIn_start (ts : List Token) (source : Option String) :
    StandsIn (Parser.closed ts) (start ts source) :=
  ⟨Parser.standsIn_ofTokens ts source, fun _ _ h ↦ nomatch h⟩

/-- **A command leaves the parser in its tokens.** -/
theorem StandsIn.execute (h : StandsIn ts s) (command : Command) :
    StandsIn ts (s.execute command).2 where
  parser := by
    cases command with
    | rewind name =>
      rw [Session.execute]
      split
      · exact h.parser.rewind _
      · exact h.parser
    | _ => exact h.parser.of_keptBy (execute_keeps s trivial)
  checkpoints name c hc := by
    rw [checkpoints_execute] at hc
    split at hc
    · rename_i taken
      by_cases hsame : name = taken
      · subst hsame
        obtain rfl := Option.some.inj ((Assoc.get?_put_self _ _ _).symm.trans hc)
        exact h.parser.position_le
      · rw [Assoc.get?_put_of_ne _ _ hsame] at hc
        exact h.checkpoints name c hc
    · exact h.checkpoints name c hc

private theorem StandsIn.run (h : StandsIn ts s) (commands : List Command) :
    StandsIn ts (s.run commands).2 := by
  induction commands generalizing s with
  | nil => exact h
  | cons command commands ih => exact ih (h.execute command)

/-- What can be relied on of the parser of a session over the tokens `ts`. -/
structure StaysInside (ts : List Token) (s : Session) : Prop where
  tokens_eq : s.parser.tokens = ts
  /-- There is an end token. -/
  end_kind : ∃ last, ts[endIndex ts]? = some last ∧ last.kind = .endOfInput
  position_le : s.parser.position ≤ endIndex ts
  current : ts[s.parser.position]? = some s.parser.current
  /-- Looking ahead ends at the last token. -/
  nth (n : Nat) : ts[min (s.parser.position + n) (ts.length - 1)]? = some (s.parser.nth n)
  bump : s.parser.current.kind = .endOfInput → s.parser.bump = s.parser
  /-- Going back to a checkpoint leads to where it was taken. -/
  rewind (name : String) (c : Parser.Checkpoint) : s.checkpoints.get? name = some c →
    (s.parser.rewind c).position = c.position ∧ c.position ≤ endIndex ts

/-- **A parser never leaves its tokens.** Whatever tokens a session is started on, and whatever
commands are executed, among them going back to checkpoints, in any order and also to those that
have been undone: the tokens stay the same, the position is an index of them, at the first end token
at the latest, and the current token and those ahead are tokens at an index. -/
theorem staysInside_run (ts : List Token) (source : Option String) (commands : List Command) :
    StaysInside (Parser.closed ts) ((start ts source).run commands).2 := by
  have h := (standsIn_start ts source).run commands
  refine ⟨h.parser.tokens_eq, ?_, h.parser.position_le, h.parser.getElem?_position,
    h.parser.getElem?_nth, h.parser.bump_eq, fun name c hc ↦ ?_⟩
  · exact ⟨_, h.parser.getElem?_endIndex, h.parser.final_kind⟩
  · have hle := h.checkpoints name c hc
    exact ⟨h.parser.position_rewind hle, hle⟩

end Session

end ClassSchema

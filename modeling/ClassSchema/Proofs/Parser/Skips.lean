import ClassSchema.Proofs.Grammar.Groups
import ClassSchema.Proofs.Member.Closed
import ClassSchema.Proofs.Parser.Position

/-!
# Where skips end

A skip moves a parser and does nothing else, so all that can be said of it is where it ends. This is
said in the tokens that the parser stands in, by their indices.

A skip over a group ends with the group, `Skip.GroupEnd`. A skip to the end of a member looks for a
semicolon, a brace or the end, whichever comes first, and what it finds there says how far it goes
on, `Parser.EndsAtBar`: there is always an end, so there is always one to be found. Passing over a
whole declaration comes to the same.
-/

namespace ClassSchema

namespace Token

/-- The tokens from one index up to another. -/
def segment (ts : List Token) (start stop : Nat) : List Token := (ts.drop start).take (stop - start)

/-- A token that no member goes on behind without a block: a semicolon, a brace or the end. -/
def isBar (t : Token) : Bool :=
  t.isMark .semicolon || t.isMark .openBrace || t.isMark .closeBrace || t.is .endOfInput

/-- The first index from `start` on at which there is a semicolon, a brace or the end. -/
def barIndex (ts : List Token) (start : Nat) : Nat := start + (ts.drop start).findIdx isBar

private theorem isBar_of_endsHeader {t : Token} (h : Skip.endsHeader t.kind = true) :
    t.isBar = true := by
  rcases Skip.kind_of_endsHeader h with hkind | hkind | hkind <;> simp [isBar, isMark, hkind]

theorem isBar_of_endOfInput {t : Token} (h : t.kind = .endOfInput) : t.isBar = true := by
  simp [isBar, is, h]

theorem kind_of_isBar {t : Token} (h : t.isBar = true) :
    t.kind = .mark .semicolon ∨ t.kind = .mark .openBrace ∨ t.kind = .mark .closeBrace ∨
      t.kind = .endOfInput := by
  simpa [isBar, isMark, is, or_assoc] using h

theorem isBar_eq_false_iff {t : Token} :
    t.isBar = false ↔ Skip.endsHeader t.kind = false ∧ t.kind ≠ .endOfInput := by
  constructor
  · intro h
    refine ⟨eq_false_of_ne_true fun hend ↦ ?_, fun hend ↦ ?_⟩
    · exact ne_true_of_eq_false h (isBar_of_endsHeader hend)
    · exact ne_true_of_eq_false h (isBar_of_endOfInput hend)
  · rintro ⟨hheader, hend⟩
    refine eq_false_of_ne_true fun h ↦ ?_
    rcases kind_of_isBar h with hkind | hkind | hkind | hkind
    · exact ne_true_of_eq_false hheader (congrArg Skip.endsHeader hkind)
    · exact ne_true_of_eq_false hheader (congrArg Skip.endsHeader hkind)
    · exact ne_true_of_eq_false hheader (congrArg Skip.endsHeader hkind)
    · exact hend hkind

end Token

open Token (endIndex barIndex)

/-- Where a skip over a group ends that starts at the index `start`. -/
inductive Skip.GroupEnd (opener closer : Mark) (ts : List Token) (start : Nat) : Nat → Prop
  /-- Behind the shortest segment in which both marks occur equally often. -/
  | closed {stop : Nat} (le : stop ≤ endIndex ts)
    (group : IsGroup opener closer (Token.segment ts start stop)) :
    GroupEnd opener closer ts start stop
  /-- At the end, if there is no such segment. -/
  | unclosed (uneven : ∀ stop, start < stop → stop ≤ endIndex ts →
      ¬EquallyOften opener closer (Token.segment ts start stop)) :
    GroupEnd opener closer ts start (endIndex ts)

namespace Parser

variable {ts : List Token} {p q : Parser}

/-- Where a skip from `p` to the end of a member ends, if the first semicolon, brace or end has the
index `i` and is of a given kind. -/
inductive EndsAtBar (p q : Parser) (i : Nat) : Kind → Prop
  | semicolon (behind : q.position = i + 1) : EndsAtBar p q i (.mark .semicolon)
  | closeBrace (at_bar : q.position = i) : EndsAtBar p q i (.mark .closeBrace)
  | endOfInput (at_bar : q.position = i) : EndsAtBar p q i .endOfInput
  | openBrace (block : q = (p.goTo i).skipBalanced) : EndsAtBar p q i (.mark .openBrace)

/-- `q` is where a skip to the end of a member has to lead that starts at `p`: by the first
semicolon, brace or end from there on. -/
def EndsMember (ts : List Token) (p q : Parser) : Prop :=
  ∃ bar, ts[barIndex ts p.position]? = some bar ∧ EndsAtBar p q (barIndex ts p.position) bar.kind

/-- `q` has the reports of `p`. -/
structure SameReports (p q : Parser) : Prop where
  errors_eq : q.errors = p.errors
  warnings_eq : q.warnings = p.warnings

/-! ## Places ahead -/

theorem position_advance {n : Nat} (h : n ≤ p.ahead.length) :
    (p.advance n).position = p.position + n := by
  rw [position, advance, List.length_append, List.length_reverse, List.length_take_of_le h,
    Nat.add_comm, position]

theorem exists_front (p : Parser) :
    ∃ front behind, p.ahead = front ++ behind ∧ (∀ t ∈ front, t.isBar = false) ∧
      ∀ bar ∈ behind.head?, bar.isBar = true := by
  refine ⟨p.ahead.takeWhile (!·.isBar), p.ahead.dropWhile (!·.isBar),
    List.takeWhile_append_dropWhile.symm, fun t ht ↦ ?_, fun bar hbar ↦ ?_⟩
  · simpa using List.mem_takeWhile_imp ht
  · have hhead := List.head?_dropWhile_not (!·.isBar) p.ahead
    rw [hbar] at hhead
    simpa using hhead

private theorem ahead_advance (p : Parser) (n : Nat) : (p.advance n).ahead = p.ahead.drop n := rfl

private theorem advance_advance (p : Parser) (m n : Nat) :
    (p.advance m).advance n = p.advance (m + n) := by
  simp only [advance, List.drop_drop, List.take_add, List.reverse_append, List.append_assoc]

private theorem sameReports_advance (p : Parser) (n : Nat) :
    SameReports p (p.advance n) := ⟨rfl, rfl⟩

private theorem goTo_position_add (p : Parser) (n : Nat) :
    p.goTo (p.position + n) = p.advance n := by
  rw [goTo, if_pos (Nat.le_add_right _ _), Nat.add_sub_cancel_left]

namespace StandsIn

private theorem segment_eq (h : p.StandsIn ts) {n : Nat} (hn : n ≤ p.ahead.length) :
    Token.segment ts p.position (p.position + n) = p.ahead.take n := by
  rw [Token.segment, h.drop_position, Nat.add_sub_cancel_left, remaining,
    List.take_append_of_le_length hn]

private theorem exists_eq_add (h : p.StandsIn ts) {stop : Nat} (hlt : p.position < stop)
    (hle : stop ≤ endIndex ts) : ∃ n, 0 < n ∧ n ≤ p.ahead.length ∧ stop = p.position + n := by
  rw [h.endIndex_eq] at hle
  exact ⟨stop - p.position, by omega, by omega, by omega⟩

private theorem position_skipBalanced_le (h : p.StandsIn ts) :
    p.skipBalanced.position = p.position + Skip.balanced p.ahead ∧
      p.position + Skip.balanced p.ahead ≤ endIndex ts := by
  have hle := Skip.balanced_le p.ahead
  rw [h.endIndex_eq]
  exact ⟨position_advance hle, Nat.add_le_add_left hle _⟩

/-- **A skip over a group ends with the group.** -/
theorem groupEnd_skipBalanced (h : p.StandsIn ts) {opener closer : Mark}
    (hopen : p.current.kind = .mark opener) (hcloser : opener.closer? = some closer) :
    Skip.GroupEnd opener closer ts p.position p.skipBalanced.position := by
  obtain ⟨hposition, hle⟩ := h.position_skipBalanced_le
  have hsegment := h.segment_eq (Skip.balanced_le p.ahead)
  cases hahead : p.ahead with
  | nil =>
    rw [current, hahead] at hopen
    have hend : Kind.endOfInput = .mark opener := h.final_kind.symm.trans hopen
    cases hend
  | cons t rest =>
    have ht : t.kind = .mark opener := by
      rw [current, hahead] at hopen
      exact hopen
    rw [hposition]
    rcases Skip.isGroup_take_balanced ht hcloser rest with hgroup | ⟨hlength, hnone⟩
    · refine .closed hle ?_
      rwa [hsegment, hahead]
    · rw [← hahead] at hlength hnone
      rw [hlength, ← h.endIndex_eq]
      refine .unclosed fun stop hlt hstop ↦ ?_
      obtain ⟨n, hpos, hn, rfl⟩ := h.exists_eq_add hlt hstop
      rw [h.segment_eq hn]
      exact hnone n hpos hn

/-! ## The end of a member -/

theorem barIndex_eq (h : p.StandsIn ts) {front us : List Token} {bar : Token}
    (hsplit : p.remaining = front ++ bar :: us) (hfront : ∀ t ∈ front, t.isBar = false)
    (hbar : bar.isBar = true) :
    barIndex ts p.position = p.position + front.length ∧
      ts[p.position + front.length]? = some bar := by
  constructor
  · rw [barIndex, h.drop_position, hsplit, Token.findIdx_append_cons hfront hbar]
  · rw [h.getElem?_position_add, hsplit, List.getElem?_append_right (Nat.le_refl _), Nat.sub_self,
      List.getElem?_cons_zero]

/-- **A skip to the end of a member ends at the first bar**, or behind it, or behind the block that
it opens. -/
theorem endsMember_skipToMemberEnd (h : p.StandsIn ts) : EndsMember ts p p.skipToMemberEnd := by
  have hposition : p.skipToMemberEnd.position = p.position + Skip.toMemberEnd p.ahead :=
    position_advance (Skip.toMemberEnd_le p.ahead)
  obtain ⟨front, behind, hahead, hfront, hbehind⟩ := p.exists_front
  have hcount : Skip.toMemberEnd p.ahead = front.length + Skip.toMemberEnd behind := by
    rw [hahead, Skip.toMemberEnd_append]
    exact fun t ht ↦ (Token.isBar_eq_false_iff.mp (hfront t ht)).1
  rw [hcount] at hposition
  cases behind with
  | nil =>
    -- Nothing ahead ends the member, so the end token does.
    have hsplit : p.remaining = front ++ p.final :: p.beyond := by
      rw [remaining, hahead, List.append_nil]
    obtain ⟨hindex, hbar⟩ := h.barIndex_eq hsplit hfront (Token.isBar_of_endOfInput h.final_kind)
    refine ⟨p.final, hindex ▸ hbar, ?_⟩
    rw [hindex, h.final_kind]
    exact .endOfInput hposition
  | cons bar us =>
    have hsplit : p.remaining = front ++ bar :: (us ++ p.final :: p.beyond) := by
      rw [remaining, hahead, List.append_assoc, List.cons_append]
    obtain ⟨hindex, hbar⟩ := h.barIndex_eq hsplit hfront (hbehind bar rfl)
    refine ⟨bar, hindex ▸ hbar, ?_⟩
    rw [hindex]
    have hinside : bar.kind ≠ .endOfInput :=
      h.inside bar (List.mem_append_right _ (hahead ▸ List.mem_append_right _ List.mem_cons_self))
    rcases Token.kind_of_isBar (hbehind bar rfl) with hkind | hkind | hkind | hkind
    · rw [Skip.toMemberEnd_of_semicolon (decide_eq_true hkind)] at hposition
      exact hkind ▸ .semicolon hposition
    · have hblock : p.skipToMemberEnd = (p.goTo (p.position + front.length)).skipBalanced := by
        rw [skipToMemberEnd, hcount, Skip.toMemberEnd_eq_balanced (decide_eq_true hkind),
          goTo_position_add, skipBalanced, ahead_advance, hahead, List.drop_left, advance_advance]
      exact hkind ▸ .openBrace hblock
    · rw [Skip.toMemberEnd_of_closeBrace (decide_eq_true hkind)] at hposition
      exact hkind ▸ .closeBrace hposition
    · exact absurd hkind hinside

end StandsIn

/-- What can be relied on of the skips of a parser in the tokens `ts`. -/
structure SkipsStop (ts : List Token) (p : Parser) : Prop where
  balanced (opener closer : Mark) : p.current.kind = .mark opener → opener.closer? = some closer →
    Skip.GroupEnd opener closer ts p.position p.skipBalanced.position
  member : EndsMember ts p p.skipToMemberEnd
  declaration : EndsMember ts p p.skipTypeDeclaration
  reports : SameReports p p.skipBalanced ∧ SameReports p p.skipToMemberEnd ∧
    SameReports p p.skipTypeDeclaration

/-- **Skips end where they should**, wherever a parser stands and whatever its tokens are. -/
theorem skipsStop (h : p.StandsIn ts) : SkipsStop ts p where
  balanced _ _ hopen hcloser := h.groupEnd_skipBalanced hopen hcloser
  member := h.endsMember_skipToMemberEnd
  declaration := by
    rw [skipTypeDeclaration_eq]
    exact h.endsMember_skipToMemberEnd
  reports := ⟨sameReports_advance _ _, sameReports_advance _ _, sameReports_advance _ _⟩

/-- The groups of `( { ( ] ) ) ; } ,` cross each other: there are as many parentheses of both kinds
up to the sixth token, and as many braces up to the eighth. -/
def crossed : List Token :=
  [Mark.openParen, .openBrace, .openParen, .closeBracket, .closeParen, .closeParen, .semicolon,
    .closeBrace, .comma].zipIdx.map fun (m, i) ↦ .onFirstLine (.mark m) (.singleton m.char) i

theorem skipsStop_crossed :
    StandsIn (closed crossed) (ofTokens crossed) ∧ SkipsStop (closed crossed) (ofTokens crossed) ∧
      (ofTokens crossed).skipBalanced.position = 6 ∧
      (ofTokens crossed).skipToMemberEnd.position = 8 :=
  ⟨standsIn_ofTokens crossed none, skipsStop (standsIn_ofTokens crossed none), by decide +kernel,
    by decide +kernel⟩

end Parser

end ClassSchema

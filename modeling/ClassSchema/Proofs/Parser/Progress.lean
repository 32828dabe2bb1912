import ClassSchema.Proofs.Grammar.Grounded
import ClassSchema.Proofs.Parser.Onward

/-!
# Members and declarations take tokens

Whatever a member or a declaration turns out to be, reading it moves the parser by at least one
token. A reading that succeeds has taken one; a reading that is given up leaves the parser at its
start, and from there the way to the end of the member is never empty, because the class body ends
in front of a closing brace and at the end of the input before another member is tried.
-/

namespace ClassSchema

/-! ## Skips that move -/

namespace Skip

theorem groupLength_pos (opener closer : Mark) (depth : Nat) (t : Token) (ts : List Token) :
    0 < groupLength opener closer depth (t :: ts) := by
  unfold groupLength
  split
  · exact Nat.succ_pos _
  · split
    · split
      · exact Nat.one_pos
      · exact Nat.succ_pos _
    · exact Nat.succ_pos _

theorem balanced_pos (t : Token) (ts : List Token) : 0 < balanced (t :: ts) := by
  unfold balanced
  dsimp only
  split
  · split
    · exact groupLength_pos ..
    · exact Nat.one_pos
  · exact Nat.one_pos

theorem toMemberEnd_pos {t : Token} (ts : List Token) (h : t.isMark .closeBrace = false) :
    0 < toMemberEnd (t :: ts) := by
  unfold toMemberEnd
  split
  · exact Nat.one_pos
  · rw [if_neg (by rw [h]; exact Bool.false_ne_true)]
    split
    · exact balanced_pos t ts
    · exact Nat.succ_pos _

end Skip

theorem length_drop_lt {ts : List Token} {n : Nat} (hts : ts ≠ []) (hn : 0 < n) :
    (ts.drop n).length < ts.length := by
  have := List.length_pos_iff.mpr hts
  rw [List.length_drop]
  omega

/-! ## Types take a token -/

namespace TypeText

theorem complete_of_complete_andThen {s : Stretch} {next : List Token → Stretch}
    (h : (s.andThen next).complete = true) : s.complete = true := by
  unfold Stretch.andThen at h
  split at h
  · assumption
  · exact h

private theorem length_andThen_rest_le {s : Stretch} {next : List Token → Stretch}
    (hnext : ∀ us, Divides (next us) us) : (s.andThen next).rest.length ≤ s.rest.length := by
  unfold Stretch.andThen
  split
  · have h := congrArg List.length (hnext s.rest)
    rw [List.length_append] at h
    dsimp only
    omega
  · exact Nat.le_refl _

private theorem length_head_rest_lt {ts : List Token} (h : (head ts).complete = true) :
    (head ts).rest.length < ts.length := by
  cases ts with
  | nil => cases h
  | cons t ts =>
    simp only [head] at h ⊢
    by_cases hkind : t.kind.startsType = true
    · rw [if_pos hkind]
      exact Nat.lt_succ_self _
    · rw [if_neg hkind] at h
      cases h

/-- A type that is there has at least the token it starts with. -/
theorem length_read_rest_lt {ts rest : List Token} {type : String}
    (h : read ts = .found type rest) : rest.length < ts.length := by
  unfold read at h
  dsimp only at h
  split at h
  · rename_i hcomplete
    obtain ⟨-, rfl⟩ := Reading.found.inj h
    have hhead := complete_of_complete_andThen (complete_of_complete_andThen
      (complete_of_complete_andThen (complete_of_complete_andThen hcomplete)))
    calc (scan ts).rest.length
        ≤ ((((head ts).andThen path).andThen arguments).andThen dimensions).rest.length :=
          length_andThen_rest_le divides_ellipsis
      _ ≤ (((head ts).andThen path).andThen arguments).rest.length :=
          length_andThen_rest_le divides_dimensions
      _ ≤ ((head ts).andThen path).rest.length := length_andThen_rest_le divides_arguments
      _ ≤ (head ts).rest.length := length_andThen_rest_le divides_path
      _ < ts.length := length_head_rest_lt hhead
  · cases h

end TypeText

/-! ## Members take a token -/

theorem Reading.exists_of_andThen_eq_found {α β : Type} {r : Reading α}
    {next : α → List Token → Reading β} {value : β} {rest : List Token}
    (h : r.andThen next = .found value rest) :
    ∃ first between, r = .found first between ∧ next first between = .found value rest := by
  cases r with
  | found first between => exact ⟨first, between, rfl, h⟩
  | missed cause between => cases h

theorem Reading.eq_found_of_orMalformed {α : Type} {r : Reading α} {why : Malformation} {value : α}
    {rest : List Token} (h : r.orMalformed why = .found value rest) : r = .found value rest := by
  unfold Reading.orMalformed at h
  split at h
  · cases h
  · cases h
  · exact h

theorem Reading.exists_of_map_eq_found {α β : Type} {r : Reading α} {f : α → β} {value : β}
    {rest : List Token} (h : r.map f = .found value rest) :
    ∃ first, f first = value ∧ r = .found first rest := by
  obtain ⟨first, between, hr, hf⟩ := Reading.exists_of_andThen_eq_found h
  obtain ⟨rfl, rfl⟩ := Reading.found.inj hf
  exact ⟨first, rfl, hr⟩

namespace MemberItem

variable {source : Option (List Char)} {final : Token} {head : Prelude}

private theorem typed_eq_found {ts rest : List Token} {item : MemberItem}
    (h : readDeclared.typed source final head ts = .found item rest) :
    (∃ decls, item = members decls) ∧ rest.length < ts.length := by
  obtain ⟨type, between, htype, hbehind⟩ := Reading.exists_of_andThen_eq_found h
  have hlt := TypeText.length_read_rest_lt (Reading.eq_found_of_orMalformed htype)
  cases between with
  | nil => cases hbehind
  | cons name more =>
    dsimp only at hbehind
    split at hbehind
    · split at hbehind
      · obtain ⟨m, rfl, hread⟩ := Reading.exists_of_map_eq_found hbehind
        have hsuffix :=
          (MethodDecl.readRest_grounded source head _ name _).drop.suffix_of_found hread
        exact ⟨⟨_, rfl⟩, Nat.lt_of_le_of_lt hsuffix.length_le (Nat.lt_of_succ_lt hlt)⟩
      · obtain ⟨fields, rfl, hread⟩ := Reading.exists_of_map_eq_found hbehind
        have hsuffix :=
          (FieldDecl.readRest_grounded source head type name more).suffix_of_found hread
        exact ⟨⟨_, rfl⟩, Nat.lt_of_le_of_lt hsuffix.length_le (Nat.lt_of_succ_lt hlt)⟩
    · cases hbehind

theorem readDeclared_eq_found {ts rest : List Token} {item : MemberItem}
    (h : readDeclared source final head ts = .found item rest) :
    (∃ decls, item = members decls) ∧ rest.length < ts.length := by
  unfold readDeclared at h
  split at h
  · split at h
    · rename_i name paren more _
      obtain ⟨m, rfl, hread⟩ := Reading.exists_of_map_eq_found h
      have hsuffix :=
        (MethodDecl.readRest_grounded source head none name more).suffix_of_found hread
      exact ⟨⟨_, rfl⟩, Nat.lt_succ_of_le (Nat.le_succ_of_le hsuffix.length_le)⟩
    · exact typed_eq_found h
  · exact typed_eq_found h

/-- Behind what stands in front of a member there is a type that is passed over, or the end of the
body, or there are tokens to take. -/
theorem readBehind_eq_found {ts rest : List Token} {item : MemberItem}
    (h : readBehind source final head ts = .found item rest) :
    (∃ what, item = nestedType what ∧ rest = ts ∧ Skippable.at? true ts = some what) ∨
      ∃ decls, item = members decls ∧
        (rest = ts ∧ (Ahead.atMark .closeBrace ts = true ∨ ts = []) ∨ rest.length < ts.length) := by
  unfold readBehind at h
  -- the branches of the reader, in their order
  split at h
  · rename_i hend
    obtain ⟨rfl, rfl⟩ := Reading.found.inj h
    rw [Bool.and_eq_true, Bool.or_eq_true, List.isEmpty_iff] at hend
    exact .inr ⟨[], rfl, .inl ⟨rfl, hend.2⟩⟩
  · split at h
    · rename_i hbrace
      obtain ⟨rfl, rfl⟩ := Reading.found.inj h
      cases ts with
      | nil => cases hbrace
      | cons t ts =>
        exact .inr ⟨[], rfl, .inr (length_drop_lt (List.cons_ne_nil t ts) (Skip.balanced_pos t ts))⟩
    · split at h
      · rename_i what hwhat
        obtain ⟨rfl, rfl⟩ := Reading.found.inj h
        exact .inl ⟨what, rfl, rfl, hwhat⟩
      · split at h
        · obtain ⟨⟨decls, rfl⟩, hlt⟩ := readDeclared_eq_found h
          rw [List.length_drop] at hlt
          exact .inr ⟨decls, rfl, .inr (by omega)⟩
        · obtain ⟨⟨decls, rfl⟩, hlt⟩ := readDeclared_eq_found h
          exact .inr ⟨decls, rfl, .inr hlt⟩

/-- A member that is found is a type to be passed over, in front of which the reading ends, or it
has taken tokens. -/
theorem read_eq_found {t : Token} {ts rest : List Token} {item : MemberItem}
    (ht : t.isMark .closeBrace = false) (h : read source final (t :: ts) = .found item rest) :
    (∃ what, item = nestedType what ∧ Skippable.at? true rest = some what) ∨
      ∃ decls, item = members decls ∧ rest.length < (t :: ts).length := by
  unfold read at h
  split at h
  · obtain ⟨rfl, rfl⟩ := Reading.found.inj h
    exact .inr ⟨[], rfl, Nat.lt_succ_self _⟩
  · split at h
    · obtain ⟨rfl, rfl⟩ := Reading.found.inj h
      exact .inr ⟨[], rfl, length_drop_lt (List.cons_ne_nil t ts) (Skip.balanced_pos t ts)⟩
    · obtain ⟨head, between, hprelude, hbehind⟩ := Reading.exists_of_andThen_eq_found h
      have hsuffix := (Prelude.read_grounded source (t :: ts)).suffix_of_found hprelude
      rcases readBehind_eq_found hbehind with ⟨what, rfl, rfl, hwhat⟩ | ⟨decls, rfl, hrest⟩
      · exact .inl ⟨what, rfl, hwhat⟩
      · refine .inr ⟨decls, rfl, ?_⟩
        rcases hrest with ⟨rfl, hend⟩ | hlt
        · -- in front of the end of the body the prelude has passed a comment at least
          refine Nat.lt_of_le_of_ne hsuffix.length_le fun heq ↦ ?_
          rw [hsuffix.eq_of_length heq] at hend
          rcases hend with hbrace | hnil
          · exact absurd (ht.symm.trans hbrace) Bool.false_ne_true
          · cases hnil
        · exact Nat.lt_of_lt_of_le hlt hsuffix.length_le

end MemberItem

/-! ## Rules move the parser -/

theorem Skippable.exists_cons_of_at? {nested : Bool} {ts : List Token} {what : Skippable}
    (h : at? nested ts = some what) : ∃ t us, ts = t :: us ∧ t.isMark .closeBrace = false := by
  cases ts with
  | nil => cases h
  | cons t us =>
    refine ⟨t, us, rfl, ?_⟩
    by_contra hbrace
    have hkind : t.kind = .mark .closeBrace := by simpa [Token.isMark] using hbrace
    rw [at?, Ahead.kind, hkind] at h
    cases h

namespace Parser

variable {p : Parser}

theorem length_ahead_skipToMemberEnd_lt {t : Token} {ts : List Token} (h : p.ahead = t :: ts)
    (ht : t.isMark .closeBrace = false) : p.skipToMemberEnd.ahead.length < p.ahead.length := by
  rw [skipToMemberEnd, length_ahead_advance, h]
  have := Skip.toMemberEnd_pos ts ht
  rw [List.length_cons]
  omega

private theorem length_ahead_settle {rest : List Token} (h : rest <:+ p.ahead) :
    (p.settle rest).ahead.length = rest.length := by rw [ahead_settle h]

end Parser

namespace Rule

variable {p q : Parser}

theorem exists_ahead_of_endsBody (h : endsBody p = false) :
    ∃ t ts, p.ahead = t :: ts ∧ t.isMark .closeBrace = false := by
  rw [endsBody, Bool.or_eq_false_iff] at h
  cases hahead : p.ahead with
  | nil => simp [Parser.atEnd, hahead] at h
  | cons t ts =>
    refine ⟨t, ts, rfl, ?_⟩
    simpa [Parser.isAt, Parser.current, hahead, Token.is, Token.isMark] using h.1

theorem length_ahead_giveUp_lt (why : Malformation) (h : endsBody p = false) :
    (giveUp why p).2.ahead.length < p.ahead.length := by
  obtain ⟨t, ts, hahead, ht⟩ := exists_ahead_of_endsBody h
  exact Parser.length_ahead_skipToMemberEnd_lt (p := p.warn why.message) hahead ht

/-- **A member takes a token**, also one that is given up and left out. -/
theorem length_ahead_classMember_lt {members : List Member} (hp : endsBody p = false)
    (h : classMember p = (.present members, q)) : q.ahead.length < p.ahead.length := by
  have hgrounded := MemberItem.read_grounded p.source p.final p.ahead
  obtain ⟨t, ts, hahead, ht⟩ := exists_ahead_of_endsBody hp
  -- a member that is found takes a token, and one that is given up is skipped
  unfold classMember at h
  split at h
  · rename_i decls rest hread
    obtain ⟨-, rfl⟩ := Prod.mk.inj h
    have hsuffix := hgrounded.suffix_of_found hread
    rw [Parser.length_ahead_settle hsuffix]
    rw [hahead] at hread ⊢
    rcases MemberItem.read_eq_found ht hread with ⟨_, hitem, _⟩ | ⟨_, _, hlt⟩
    · cases hitem
    · exact hlt
  · rename_i what rest hread
    obtain ⟨-, rfl⟩ := Prod.mk.inj h
    have hsuffix := hgrounded.suffix_of_found hread
    rw [hahead] at hread
    rcases MemberItem.read_eq_found ht hread with ⟨_, _, hwhat⟩ | ⟨_, hitem, _⟩
    · -- the reading ends in front of the type, and at least its keyword is passed over
      obtain ⟨u, us, rfl, hu⟩ := Skippable.exists_cons_of_at? hwhat
      rw [Parser.skipTypeDeclaration_eq]
      refine Nat.lt_of_lt_of_le (Parser.length_ahead_skipToMemberEnd_lt
        (p := (p.settle (u :: us)).warn _) (Parser.ahead_settle hsuffix) hu) ?_
      exact (p.onward_settle _).ahead_suffix.length_le
    · cases hitem
  · rename_i why rest hread
    obtain ⟨-, rfl⟩ := Prod.mk.inj h
    exact length_ahead_giveUp_lt why hp
  · cases h
  · rw [show q = (giveUp (.arguments p.current.line) p).2 from congrArg Prod.snd h.symm]
    exact length_ahead_giveUp_lt _ hp
  · dsimp only at h
    split at h
    · cases h
    · rw [show q = (giveUp (.arguments p.current.line) p).2 from congrArg Prod.snd h.symm]
      exact length_ahead_giveUp_lt _ hp

/-! ### Declarations -/

/-- A rule that went on behind another found what the first one was to find. -/
theorem exists_of_bind_eq_present {α β : Type} {rule : Rule α} {next : α → Rule β} {value : β}
    (h : bind rule next p = (.present value, q)) :
    ∃ first r, rule p = (.present first, r) ∧ next first r = (.present value, q) := by
  unfold bind at h
  split at h
  · rename_i first r hrule
    exact ⟨first, r, hrule, h⟩
  · cases h
  · cases h

/-- A token that was expected and is no end token was passed. -/
theorem expect_eq_present {kind : Kind} {c : Complaint} {t : Token}
    (hfinal : p.final.kind = .endOfInput) (hkind : kind ≠ .endOfInput)
    (h : expect kind c p = (.present t, q)) : p.ahead ≠ [] ∧ q = p.bump := by
  unfold expect Parser.expect at h
  split at h
  · rename_i q' hp
    obtain ⟨-, rfl⟩ := Prod.mk.inj h
    split at hp
    · rename_i hat
      refine ⟨fun hnil ↦ hkind ?_, (congrArg Prod.snd hp).symm⟩
      simpa [Parser.isAt, Parser.current, hnil, Token.is, hfinal, eq_comm] using hat
    · cases congrArg Prod.fst hp
  · cases h

/-- A token that was expected was the first one ahead. -/
theorem ahead_of_expect {kind : Kind} {c : Complaint} {t : Token}
    (hfinal : p.final.kind = .endOfInput) (hkind : kind ≠ .endOfInput)
    (h : expect kind c p = (.present t, q)) : p.ahead = t :: q.ahead ∧ t.kind = kind := by
  obtain ⟨hne, rfl⟩ := expect_eq_present hfinal hkind h
  obtain ⟨u, us, hahead⟩ := List.exists_cons_of_ne_nil hne
  have hcurrent : p.current = u := by
    rw [Parser.current, hahead]
    rfl
  have hbump : p.bump.ahead = us := by rw [Parser.bump, Parser.advance, hahead, List.drop_one,
    List.tail_cons]
  unfold expect Parser.expect at h
  by_cases hat : p.isAt kind = true
  · rw [if_pos hat, hcurrent] at h
    obtain rfl := Outcome.present.inj (Prod.mk.inj h).1
    rw [Parser.isAt, hcurrent] at hat
    exact ⟨hbump ▸ hahead, of_decide_eq_true hat⟩
  · rw [if_neg hat] at h
    cases h

end Rule

end ClassSchema

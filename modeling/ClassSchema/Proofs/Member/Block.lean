import ClassSchema.Proofs.Member.Row
import ClassSchema.Proofs.Member.Source

/-!
# The block of a member

The last member of a row may end with a block. What is inside of the block is passed over, so the
row is the same row whatever stands there, as long as the block is closed where it was.

The source is another matter, since the text of the member may have been looked up in it. A row is a
row with every source, and its members are spelled from the same outlines, so two sources with the
same texts for its tokens give it the same members. A row whose last member has an empty block is
known with a second source as soon as that one has the same texts up to the block.
-/

namespace ClassSchema

/-! ## The brace at which a member ends -/

namespace Skip

variable {opening close closing : Token} {ts : List Token}

/-- Inside of a group, tokens, a block and a brace are not closed by the brace of the block. -/
theorem groupLength_append_block (hopening : opening.kind = .mark .openBrace)
    (hclose : close.kind = .mark .closeBrace) (depth : Nat) (ts : List Token) :
    groupLength .openBrace .closeBrace (depth + 1) (ts ++ [opening, close, closing]) ≠
      ts.length + 2 := by
  induction ts generalizing depth with
  | nil =>
    have hpos := groupLength_pos .openBrace .closeBrace (depth + 1) closing []
    have hopen : opening.isMark .openBrace = true := decide_eq_true hopening
    have hdepth : ¬depth + 1 + 1 ≤ 1 := by omega
    rw [List.nil_append, groupLength, if_pos hopen, groupLength, Token.isMark_of_kind hclose,
      Token.isMark_of_kind hclose, if_neg (by decide), if_pos (by decide), if_neg hdepth,
      Nat.add_sub_cancel, List.length_nil]
    omega
  | cons t ts ih =>
    rw [List.cons_append, groupLength, List.length_cons]
    split
    · exact fun h ↦ ih (depth + 1) (by omega)
    · split
      · split
        · omega
        · obtain ⟨outer, rfl⟩ : ∃ outer, depth = outer + 1 :=
            Nat.exists_eq_succ_of_ne_zero (by omega)
          exact fun h ↦ ih outer (by simpa using h)
      · exact fun h ↦ ih depth (by omega)

/-- A member that is over behind an empty block ends at the brace that opens the block. -/
theorem eq_of_drop_toMemberEnd {front behind : List Token} {bar : Token}
    (hopening : opening.kind = .mark .openBrace) (hclose : close.kind = .mark .closeBrace)
    (hclosing : closing.kind = .mark .closeBrace) (hbar : endsMember bar = true)
    (heq : front ++ bar :: behind = ts ++ [opening, close, closing])
    (hover : (bar :: behind).drop (toMemberEnd (bar :: behind)) = [closing]) :
    front = ts ∧ bar = opening := by
  have hnot {t : Token} (ht : t.kind = .mark .closeBrace) : bar ≠ t := by
    rintro rfl
    rw [endsMember, Token.isMark_of_kind ht, Token.isMark_of_kind ht] at hbar
    exact absurd hbar (by decide)
  rcases List.append_eq_append_iff.mp heq with ⟨others, rfl, hothers⟩ | ⟨others, rfl, hothers⟩
  · cases others with
    | nil => exact ⟨(List.append_nil front).symm, (List.cons.inj hothers).1⟩
    | cons t others =>
      -- at an earlier brace the member would not be over behind the block
      rw [List.cons_append] at hothers
      obtain ⟨rfl, rfl⟩ := List.cons.inj hothers
      have hlength := congrArg List.length hover
      simp only [List.length_drop, List.length_append, List.length_cons, List.length_nil] at hlength
      rcases Bool.or_eq_true_iff.mp hbar with hsemicolon | hopen
      · rw [toMemberEnd_of_semicolon hsemicolon] at hlength
        omega
      · rw [toMemberEnd_of_openBrace hopen, groupLength, if_pos hopen] at hlength
        have hne := @groupLength_append_block _ _ closing hopening hclose 0 others
        omega
  · obtain _ | ⟨_, _ | ⟨_, _ | ⟨_, others⟩⟩⟩ := others
    · exact ⟨List.append_nil ts, (List.cons.inj hothers).1.symm⟩
    · exact absurd (List.cons.inj (List.cons.inj hothers).2).1.symm (hnot hclose)
    · exact absurd (List.cons.inj (List.cons.inj (List.cons.inj hothers).2).2).1.symm
        (hnot hclosing)
    · exact absurd (congrArg List.length hothers) (by simp)

end Skip

/-! ## Rows that end with a block -/

variable {source : Option (List Char)} {final opening close closing : Token} {ts : List Token}
  {decls : List Member}

/-- A member that ends with an empty block is the same member with any block. -/
theorem MemberItem.read_block (hopening : opening.kind = .mark .openBrace)
    (hclose : close.kind = .mark .closeBrace) (hclosing : closing.kind = .mark .closeBrace)
    (h : read source final (ts ++ [opening, close, closing]) = .found (.members decls) [closing])
    (behind : List Token) :
    read source final (ts ++ opening :: behind) = .found (.members decls)
      ((opening :: behind).drop (Skip.toMemberEnd (opening :: behind))) := by
  rcases read_endsMember h with
    ⟨head, hprelude, hempty, -, -⟩ | ⟨front, bar, others, heq, hbar, hend⟩
  · -- the brace is no comment
    obtain ⟨comments, hcomments, hall⟩ := Prelude.exists_comments_of_isEmpty hprelude hempty
    have hsplit : ts ++ [opening, close] = comments :=
      (List.append_left_inj [closing]).mp (by simpa using hcomments)
    have hcomment := hall opening (by simp [← hsplit])
    rw [hopening] at hcomment
    cases hcomment
  · have hover := (Reading.found.inj ((hend others).symm.trans (heq ▸ h))).2
    obtain ⟨rfl, rfl⟩ :=
      Skip.eq_of_drop_toMemberEnd hopening hclose hclosing hbar heq.symm hover
    exact hend behind

namespace Row

theorem exists_front_of_cons {t : Token} {others between rest : List Token} {more : List Member}
    (inside : t.isMark .closeBrace = false)
    (found : MemberItem.read source final (t :: others) = .found (.members decls) between)
    (row : Row source final between more rest) (hbetween : between ≠ rest) :
    ∃ taken, others = taken ++ between ∧
      ∀ us, MemberItem.read source final (t :: taken ++ us) = .found (.members decls) us := by
  have hne : between ≠ [] := by
    rintro rfl
    exact hbetween (List.suffix_nil.mp row.rest_suffix).symm
  rcases MemberItem.read_endsMember found with ⟨_, -, -, -, hend⟩ | hends
  · exact absurd (row.eq_of_closeBrace (hend.resolve_right hne)).2.symm hbetween
  · exact MemberItem.exists_taken inside found hends hne

/-- **The block of the last member may be another one**, with which the member then ends. -/
theorem exists_block (hopening : opening.kind = .mark .openBrace)
    (hclose : close.kind = .mark .closeBrace) (hclosing : closing.kind = .mark .closeBrace)
    (h : Row source final (ts ++ [opening, close, closing]) decls [closing]) (behind : List Token) :
    Row source final (ts ++ opening :: behind) decls
      ((opening :: behind).drop (Skip.toMemberEnd (opening :: behind))) := by
  generalize hall : ts ++ [opening, close, closing] = all at h
  generalize hlast : [closing] = last at h
  induction h generalizing ts with
  | nil =>
    subst hlast
    exact absurd (congrArg List.length hall) (by simp)
  | @cons t others between rest decls more inside found row ih =>
    subst hlast
    by_cases hover : between = [closing]
    · -- the last member, which has the block
      subst hover
      obtain ⟨rfl, -⟩ := row.eq_of_closeBrace (decide_eq_true hclosing)
      have hread := MemberItem.read_block hopening hclose hclosing (hall ▸ found) behind
      obtain ⟨u, tail, hcons, hu⟩ :
          ∃ u tail, ts ++ opening :: behind = u :: tail ∧ u.isMark .closeBrace = false := by
        cases ts <;> exact ⟨_, _, rfl, (List.cons.inj hall).1 ▸ inside⟩
      rw [hcons] at hread ⊢
      exact .cons hu hread (.nil _)
    · -- a member in front of it
      obtain ⟨taken, rfl, hread⟩ := exists_front_of_cons inside found row hover
      obtain ⟨later, rfl⟩ := row.rest_suffix
      obtain ⟨front, rfl, rfl⟩ :
          ∃ front, ts = t :: taken ++ front ∧ later = front ++ [opening, close] := by
        have hsplit : ts ++ [opening, close] = t :: taken ++ later :=
          (List.append_left_inj [closing]).mp (by simpa using hall)
        rcases List.append_eq_append_iff.mp hsplit with ⟨front, hfront, hlater⟩ | hfront
        · match front, hlater with
          | [], hlater => exact ⟨[], by simpa using hfront.symm, hlater.symm⟩
          | [_], hlater =>
            obtain rfl : later = [close] := (List.cons.inj hlater).2.symm
            exact absurd (row.eq_of_closeBrace (decide_eq_true hclose)).2.symm hover
          | [_, _], hlater =>
            obtain rfl : later = [] := (List.cons.inj (List.cons.inj hlater).2).2.symm
            exact absurd rfl hover
          | _ :: _ :: _ :: _, hlater => exact absurd (congrArg List.length hlater) (by simp)
        · exact hfront
      rw [List.append_assoc]
      exact .cons inside (hread _) (ih (List.append_assoc front [opening, close] _).symm rfl)

/-- From where to where members are found tells what they are. -/
theorem unique {rest : List Token} {decls' : List Member} (h : Row source final ts decls rest)
    (h' : Row source final ts decls' rest) : decls = decls' := by
  -- behind a member there are fewer tokens than in front of it
  have hshort {t : Token} {others between more : List Token} {first later : List Member}
      (inside : t.isMark .closeBrace = false)
      (found : MemberItem.read source final (t :: others) = .found (.members first) between)
      (row : Row source final between later more) : more ≠ t :: others := by
    rintro rfl
    have hlt := MemberItem.length_lt_of_found inside found
    exact Nat.not_le_of_lt hlt row.rest_suffix.length_le
  induction h generalizing decls' with
  | nil ts =>
    cases h' with
    | nil => rfl
    | cons inside found row => exact absurd rfl (hshort inside found row)
  | cons inside found row ih =>
    cases h' with
    | nil => exact absurd rfl (hshort inside found row)
    | cons inside' found' row' =>
      obtain ⟨hdecls, rfl⟩ := Reading.found.inj (found.symm.trans found')
      rw [ih row', MemberItem.members.inj hdecls]

end Row

/-! ## Rows with another source -/

namespace Row

variable {source' : Option (List Char)} {rest : List Token}

/-- **A row is a row with every source**: its members have outlines. -/
theorem exists_outlines (h : Row source final ts decls rest) :
    ∃ outlines : List MemberOutline, (∀ m ∈ outlines, ∀ run ∈ m.runs, IsRunOf ts run) ∧
      decls = outlines.map (·.spell (sourceText source)) ∧
      ∀ source', Row source' final ts (outlines.map (·.spell (sourceText source'))) rest := by
  induction h with
  | nil ts => exact ⟨[], List.forall_mem_nil _, rfl, fun _ ↦ .nil ts⟩
  | @cons t others between rest decls more inside found row ih =>
    cases MemberItemOutline.read_outlined final (t :: others) with
    | missed cause suffix eq =>
      rw [eq] at found
      cases found
    | found outline stands suffix eq =>
      obtain ⟨hitem, rfl⟩ := Reading.found.inj ((eq source).symm.trans found)
      cases outline with
      | nestedType what => cases hitem
      | members outlines =>
        obtain ⟨later, hruns, hlater, hrow⟩ := ih
        refine ⟨outlines ++ later, List.forall_mem_append.mpr ⟨?_, ?_⟩, ?_, fun source' ↦ ?_⟩
        · exact fun m hm run ↦ (stands m hm).isRunOf
        · exact fun m hm run hrun ↦ (hruns m hm run hrun).mono suffix
        · rw [List.map_append, hlater, ← MemberItem.members.inj hitem]
        · rw [List.map_append]
          exact .cons inside (eq source') (hrow source')

private theorem of_same_texts (h : Row source final ts decls rest)
    (hsame : SameText ts source source') : Row source' final ts decls rest := by
  obtain ⟨outlines, hruns, rfl, hrow⟩ := h.exists_outlines
  have hspell : outlines.map (·.spell (sourceText source)) =
      outlines.map (·.spell (sourceText source')) :=
    List.map_congr_left fun m hm ↦
      MemberOutline.spell_congr fun run hrun ↦ hsame run (hruns m hm run hrun).isInfix
  exact hspell ▸ hrow source'

/-- **The block of the last member may be another one in another source**, which is the same up to
the block. -/
theorem exists_block_of_source (hopening : opening.kind = .mark .openBrace)
    (hclose : close.kind = .mark .closeBrace) (hclosing : closing.kind = .mark .closeBrace)
    (h : Row source final (ts ++ [opening, close, closing]) decls [closing])
    (hsame : SameText (ts ++ [opening]) source source') (behind : List Token) :
    Row source' final (ts ++ opening :: behind) decls
      ((opening :: behind).drop (Skip.toMemberEnd (opening :: behind))) := by
  -- where the members end is the same with any source
  obtain ⟨outlines, -, -, hrow⟩ := h.exists_outlines
  have hblock := (hrow source').exists_block hopening hclose hclosing
  -- what they are is told by the text up to the brace
  have hshort := (h.exists_block hopening hclose hclosing []).of_same_texts hsame
  rw [hshort.unique (hblock [])]
  exact hblock behind

end Row

end ClassSchema

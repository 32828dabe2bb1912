import ClassSchema.Proofs.Member.Closed
import ClassSchema.Proofs.Parser.Moves

/-!
# Members in a row

The members of a class are read one behind the other. A `Row` records that: at the front of some
tokens there are members that are found, up to where other tokens are ahead. A body that is read
without a warning is such a row, and a row is read whatever the state of the parser is.

A row that ends in front of the end of a body can be moved. Each of its members ends with its last
token, so the same row stands in front of any other tokens, and only the comments behind the last
member are left to whatever comes next.
-/

namespace ClassSchema

namespace Prelude

variable {source : Option (List Char)}

/-- What declares something still does with more behind it. -/
theorem isEmpty_of_readFrom {sofar head : Prelude} {ts rest : List Token}
    (h : readFrom source sofar ts = .found head rest) (hhead : head.isEmpty = true) :
    sofar.isEmpty = true := by
  fun_induction readFrom source sofar ts with
  | case1 => exact (Reading.found.inj h).1 ▸ hhead
  | case2 sofar t rest _ ih => exact ih h
  | case3 sofar t rest _ _ use more _ ih =>
    have hempty := (Bool.and_eq_true_iff.mp (ih h)).1
    rw [List.isEmpty_iff] at hempty
    exact absurd hempty (List.concat_ne_nil _ _)
  | case4 => cases h
  | case5 sofar t rest _ _ _ ih =>
    have hempty := (Bool.and_eq_true_iff.mp (ih h)).2
    rw [List.isEmpty_iff] at hempty
    exact absurd hempty (List.concat_ne_nil _ _)
  | case6 => exact (Reading.found.inj h).1 ▸ hhead

/-- In front of what declares nothing there are comments only. -/
theorem exists_comments_of_isEmpty {sofar head : Prelude} {ts rest : List Token}
    (h : readFrom source sofar ts = .found head rest) (hhead : head.isEmpty = true) :
    ∃ comments, ts = comments ++ rest ∧ ∀ t ∈ comments, t.kind.isComment = true := by
  fun_induction readFrom source sofar ts with
  | case1 => exact ⟨[], (Reading.found.inj h).2 ▸ rfl, List.forall_mem_nil _⟩
  | case2 sofar t ts hcomment ih =>
    obtain ⟨comments, rfl, hcomments⟩ := ih h
    exact ⟨t :: comments, rfl, List.forall_mem_cons.mpr ⟨hcomment, hcomments⟩⟩
  | case3 sofar t rest _ _ use more _ ih =>
    have hempty := (Bool.and_eq_true_iff.mp (isEmpty_of_readFrom h hhead)).1
    rw [List.isEmpty_iff] at hempty
    exact absurd hempty (List.concat_ne_nil _ _)
  | case4 => cases h
  | case5 sofar t rest _ _ _ ih =>
    have hempty := (Bool.and_eq_true_iff.mp (isEmpty_of_readFrom h hhead)).2
    rw [List.isEmpty_iff] at hempty
    exact absurd hempty (List.concat_ne_nil _ _)
  | case6 => exact ⟨[], (Reading.found.inj h).2 ▸ rfl, List.forall_mem_nil _⟩

end Prelude

namespace MemberItem

variable {source : Option (List Char)} {final t : Token} {others rest : List Token}
  {decls : List Member}

theorem length_lt_of_found (inside : t.isMark .closeBrace = false)
    (found : read source final (t :: others) = .found (members decls) rest) :
    rest.length < (t :: others).length := by
  rcases read_eq_found inside found with ⟨_, hitem, -⟩ | ⟨_, _, hlt⟩
  · cases hitem
  · exact hlt

/-- A member that ends with its last token is the same member in front of anything. -/
theorem exists_taken (inside : t.isMark .closeBrace = false)
    (found : read source final (t :: others) = .found (members decls) rest)
    (hends : Reading.EndsMember (read source final) (t :: others) (members decls))
    (hrest : rest ≠ []) :
    ∃ taken, others = taken ++ rest ∧
      ∀ us, read source final (t :: taken ++ us) = .found (members decls) us := by
  obtain ⟨taken, htaken, -, hread⟩ := hends.exists_front hrest found
  cases taken with
  | nil =>
    exact absurd (congrArg List.length htaken) (Nat.ne_of_gt (length_lt_of_found inside found))
  | cons u taken =>
    obtain ⟨rfl, rfl⟩ := List.cons.inj htaken
    exact ⟨taken, rfl, hread⟩

end MemberItem

/-- Members that are found at the front of some tokens, one behind the other, and the tokens behind
the last of them. -/
inductive Row (source : Option (List Char)) (final : Token) :
    List Token → List Member → List Token → Prop
  | nil (ts : List Token) : Row source final ts [] ts
  | cons {t : Token} {ts between rest : List Token} {decls more : List Member}
    (inside : t.isMark .closeBrace = false)
    (found : MemberItem.read source final (t :: ts) = .found (.members decls) between)
    (row : Row source final between more rest) : Row source final (t :: ts) (decls ++ more) rest

namespace Row

variable {source : Option (List Char)} {final : Token} {ts us rest : List Token}
  {decls more : List Member}

theorem rest_suffix (h : Row source final ts decls rest) : rest <:+ ts := by
  induction h with
  | nil => exact List.suffix_refl _
  | cons _ found _ ih => exact ih.trans ((MemberItem.read_grounded _ _ _).suffix_of_found found)

theorem append (h : Row source final ts decls us) (hmore : Row source final us more rest) :
    Row source final ts (decls ++ more) rest := by
  induction h with
  | nil => exact hmore
  | cons inside found _ ih =>
    rw [List.append_assoc]
    exact .cons inside found (ih hmore)

theorem eq_of_closeBrace (h : Row source final ts decls rest)
    (hts : Ahead.atMark .closeBrace ts = true) : decls = [] ∧ rest = ts := by
  cases h with
  | nil => exact ⟨rfl, rfl⟩
  | cons inside _ _ => exact absurd hts (ne_true_of_eq_false inside)

/-- **A row can be moved.** The row in front of the end of a body is the same row in front of any
tokens, apart from comments at its end. -/
theorem exists_front (h : Row source final (ts ++ us) decls us)
    (hus : Ahead.atMark .closeBrace us = true) :
    ∃ front comments, ts = front ++ comments ∧ (∀ t ∈ comments, t.kind.isComment = true) ∧
      ∀ vs, Row source final (front ++ vs) decls vs := by
  generalize hall : ts ++ us = all at h
  induction h generalizing ts with
  | nil =>
    rw [List.append_left_eq_self] at hall
    exact ⟨[], [], hall, List.forall_mem_nil _, .nil⟩
  | @cons t others between rest decls more inside found row ih =>
    obtain ⟨later, rfl⟩ := row.rest_suffix
    have hne : later ++ rest ≠ [] := by
      cases rest with
      | nil => cases hus
      | cons => simp
    rcases MemberItem.read_endsMember found with ⟨head, hprelude, hempty, rfl, hend⟩ | hends
    · -- comments in front of the end of the body: the row is over behind them
      obtain ⟨rfl, hover⟩ := row.eq_of_closeBrace (hend.resolve_right hne)
      obtain ⟨comments, hcomments, hall'⟩ := Prelude.exists_comments_of_isEmpty hprelude hempty
      rw [← hall, ← hover] at hcomments
      exact ⟨[], comments, List.append_cancel_right hcomments, hall', .nil⟩
    · obtain ⟨taken, rfl, hread⟩ := MemberItem.exists_taken inside found hends hne
      obtain ⟨front, comments, rfl, hcomments, hrow⟩ := ih hus rfl
      refine ⟨t :: taken ++ front, comments, ?_, hcomments, fun vs ↦ ?_⟩
      · exact List.append_cancel_right (hall.trans (by simp))
      · rw [List.append_assoc]
        exact .cons inside (hread _) (hrow vs)

end Row

namespace Rule

variable {p q : Parser} {rest : List Token} {decls : List Member}

theorem endsBody_of_ahead {t : Token} {ts : List Token} (hp : p.ahead = t :: ts)
    (ht : t.isMark .closeBrace = false) : endsBody p = false := by
  rw [endsBody, Parser.isAt, Parser.current, Parser.atEnd, hp, Bool.or_eq_false_iff]
  exact ⟨ht, rfl⟩

/-- **A row is read** in any state of the parser. -/
theorem classBody_of_row (h : Row p.source p.final p.ahead decls rest) :
    ∃ q, p.MovesTo rest q ∧ classBody p = bind classBody (fun more ↦ pure (decls ++ more)) q := by
  generalize hts : p.ahead = ts at h
  generalize hsource : p.source = source at h
  generalize hfinal : p.final = final at h
  -- by induction on the row, with the parser moved over one member at a time
  induction h generalizing p with
  | nil ts =>
    refine ⟨p, .refl hts, ?_⟩
    rw [bind]
    cases classBody p with
    | mk outcome q => cases outcome <;> rfl
  | @cons t ts between rest decls more inside found row ih =>
    have hsuffix := (MemberItem.read_grounded source final (t :: ts)).suffix_of_found found
    have hmoves : p.MovesTo between (p.settle between) := .settle (hts ▸ hsuffix)
    obtain ⟨q, hq, hbody⟩ := ih hmoves.ahead_eq hsource hfinal
    have hinside : endsBody p = false := endsBody_of_ahead hts inside
    have hmember : classMember p = (.present decls, p.settle between) := by
      rw [← hts, ← hsource, ← hfinal] at found
      rw [classMember, found]
    refine ⟨q, hmoves.trans hq, ?_⟩
    rw [classBody_eq hinside, bind, hmember]
    dsimp only
    rw [bind, hbody, bind, bind]
    cases classBody q with
    | mk outcome r =>
      cases outcome with
      | present later =>
        dsimp only [pure]
        rw [List.append_assoc]
      | absent => rfl
      | fault cause => rfl

/-- A member is found as it is read and leaves the warnings as they are, or nothing is found and
there is one warning more. -/
theorem classMember_cases (h : classMember p = (.present decls, q)) :
    (∃ rest, MemberItem.read p.source p.final p.ahead = .found (.members decls) rest ∧
      q = p.settle rest) ∨ decls = [] ∧ q.warnings.length = p.warnings.length + 1 := by
  have hgiveUp (why : Malformation) (h : giveUp why p = (.present decls, q)) :
      decls = [] ∧ q.warnings.length = p.warnings.length + 1 := by
    obtain ⟨hdecls, hq⟩ := Prod.mk.inj h
    refine ⟨(Outcome.present.inj hdecls).symm, ?_⟩
    rw [← hq]
    exact List.length_append
  unfold classMember at h
  split at h
  · rename_i decls' rest hread
    obtain ⟨hdecls, rfl⟩ := Prod.mk.inj h
    rw [← Outcome.present.inj hdecls]
    exact .inl ⟨rest, hread, rfl⟩
  · obtain ⟨hdecls, rfl⟩ := Prod.mk.inj h
    exact .inr ⟨(Outcome.present.inj hdecls).symm, List.length_append⟩
  · exact .inr (hgiveUp _ h)
  · cases h
  · exact .inr (hgiveUp _ h)
  · dsimp only at h
    split at h
    · cases h
    · exact .inr (hgiveUp _ h)

/-- The members of a body are a member and the members behind it. -/
theorem exists_of_classBody_eq_present (hinside : endsBody p = false)
    (h : classBody p = (.present decls, q)) :
    ∃ first more r, classMember p = (.present first, r) ∧ classBody r = (.present more, q) ∧
      decls = first ++ more := by
  rw [classBody_eq hinside] at h
  obtain ⟨first, r, hmember, h⟩ := exists_of_bind_eq_present h
  obtain ⟨more, s, hbody, h⟩ := exists_of_bind_eq_present h
  obtain ⟨hdecls, rfl⟩ := Prod.mk.inj h
  exact ⟨first, more, r, hmember, hbody, (Outcome.present.inj hdecls).symm⟩

private theorem length_warnings_classBody_le (h : classBody p = (.present decls, q)) :
    p.warnings.length ≤ q.warnings.length := by
  induction hn : p.ahead.length using Nat.strongRecOn generalizing p decls with
  | ind n ih =>
    cases hend : endsBody p with
    | true =>
      rw [classBody, if_pos hend] at h
      rw [(Prod.mk.inj h).2]
    | false =>
      obtain ⟨first, more, r, hmember, hbody, -⟩ := exists_of_classBody_eq_present hend h
      have hlt := length_ahead_classMember_lt hend hmember
      refine Nat.le_trans ?_ (ih _ (hn ▸ hlt) hbody rfl)
      rcases classMember_cases hmember with ⟨rest, -, rfl⟩ | ⟨-, hwarned⟩
      · exact Nat.le_refl _
      · exact hwarned ▸ Nat.le_succ _

/-- A body that was read without a warning is a row of members. -/
theorem row_of_classBody (h : classBody p = (.present decls, q))
    (hwarnings : q.warnings.length = p.warnings.length) :
    Row p.source p.final p.ahead decls q.ahead := by
  induction hn : p.ahead.length using Nat.strongRecOn generalizing p decls with
  | ind n ih =>
    cases hend : endsBody p with
    | true =>
      rw [classBody, if_pos hend] at h
      obtain ⟨hdecls, rfl⟩ := Prod.mk.inj h
      rw [← Outcome.present.inj hdecls]
      exact .nil _
    | false =>
      obtain ⟨first, more, r, hmember, hbody, rfl⟩ := exists_of_classBody_eq_present hend h
      have hle := length_warnings_classBody_le hbody
      have hlt := length_ahead_classMember_lt hend hmember
      rcases classMember_cases hmember with ⟨rest, hread, rfl⟩ | ⟨-, hwarned⟩
      · have hsuffix := (MemberItem.read_grounded _ _ _).suffix_of_found hread
        have hrow := ih _ (hn ▸ hlt) hbody hwarnings rfl
        rw [Parser.ahead_settle hsuffix] at hrow
        obtain ⟨t, ts, hahead, ht⟩ := exists_ahead_of_endsBody hend
        rw [hahead] at hread ⊢
        exact .cons ht hread hrow
      · -- a warning would still be there at the end
        omega

end Rule

end ClassSchema

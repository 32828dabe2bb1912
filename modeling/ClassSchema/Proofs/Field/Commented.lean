import ClassSchema.Proofs.Field.Front
import ClassSchema.Proofs.Field.Declarators
import ClassSchema.Proofs.Member.Source
import ClassSchema.Proofs.Token.Relined

/-!
# Comments in front of the semicolon of a field

Comments are tokens, and each reading says for itself where it passes over them. Behind a value the
count of its tokens goes on over comments, all but a line comment that stands directly in front of
the semicolon, and then they are dropped from its text. That line comment is the trailing one.
Behind a name without a value nothing passes over comments, so a line comment is all that may stand
in front of the semicolon.

`Token.lastLine?` is what both ways have in common: in front of the semicolon a line comment that
stands last is left. The count is carried through the value by the number of groups it stands in,
which is none at the end.
-/

namespace ClassSchema

/-! ## Comments -/

namespace Token

variable {c : Token}

theorem isMark_of_isComment (hc : c.kind.isComment = true) (m : Mark) : c.isMark m = false := by
  rw [Bool.eq_false_iff]
  intro hmark
  rw [Initializer.isComment_of_isMark hmark] at hc
  cases hc

private theorem is_identifier_of_isComment (hc : c.kind.isComment = true) :
    c.is .identifier = false :=
  decide_eq_false fun hkind ↦ by
    rw [hkind] at hc
    cases hc

/-- The last one of some comments, if it is a line comment. -/
def lastLine? (comments : List Token) : Option Token :=
  comments.getLast?.filter (·.is (.comment .line))

private theorem lastLine?_append {cs : List Token} (hne : cs ≠ []) (ts : List Token) :
    lastLine? (ts ++ cs) = lastLine? cs := by
  rw [lastLine?, lastLine?, List.getLast?_append_of_ne_nil ts hne]

end Token

/-! ## Initializers -/

namespace Initializer

variable {source : Option (List Char)} {c semicolon : Token} {cs ts us rest : List Token}

theorem opens_and_closes_of_semicolon (hsemicolon : semicolon.kind = .mark .semicolon) :
    opens semicolon = false ∧ closes semicolon = false := by
  simp [opens, closes, Token.isMark, hsemicolon]

theorem opens_and_closes_of_isComment (hc : c.kind.isComment = true) :
    opens c = false ∧ closes c = false := by
  have hmark := Token.isMark_of_isComment hc
  rw [opens, closes, hmark, hmark, hmark, hmark, hmark, hmark]
  exact ⟨rfl, rfl⟩

/-- Where a declarator starts in front of a comment, that is seen in front of the comment. -/
theorem startsDeclarator_of_isComment (hc : c.kind.isComment = true)
    (h : startsDeclarator (ts ++ c :: us) = true) (us' : List Token) :
    startsDeclarator (ts ++ us') = true := by
  fun_induction startsDeclarator ts with
  | case1 name follower rest hname hends =>
    rw [List.cons_append, List.cons_append, startsDeclarator, if_pos hname, if_pos hends]
  | case2 name follower rest hname hends hcomma ih =>
    rw [List.cons_append, List.cons_append, startsDeclarator, if_pos hname, if_neg hends,
      if_pos hcomma] at h ⊢
    exact ih h
  | case3 name follower rest hname hends hcomma =>
    rw [List.cons_append, List.cons_append, startsDeclarator, if_pos hname, if_neg hends,
      if_neg hcomma] at h
    cases h
  | case4 name follower rest hname =>
    rw [List.cons_append, List.cons_append, startsDeclarator, if_neg hname] at h
    cases h
  | case5 ts hshort =>
    rcases ts with _ | ⟨name, _ | ⟨follower, rest⟩⟩
    · cases us <;> simp [startsDeclarator, Token.is_identifier_of_isComment hc] at h
    · simp [startsDeclarator, Token.isMark_of_isComment hc] at h
    · exact absurd rfl (hshort _ _ _)

private theorem endsAt_of_isComment (hc : c.kind.isComment = true) {t : Token}
    (h : endsAt t (ts ++ c :: us) = true) (us' : List Token) : endsAt t (ts ++ us') = true := by
  rw [endsAt, Bool.or_eq_true, Bool.or_eq_true, Bool.and_eq_true, Bool.and_eq_true] at h ⊢
  refine h.imp (Or.imp_right fun hline ↦ ⟨hline.1, ?_⟩) fun hcomma ↦
    ⟨hcomma.1, startsDeclarator_of_isComment hc hcomma.2 us'⟩
  cases ts with
  | nil =>
    have hmark : Ahead.atMark .semicolon (c :: us) = false :=
      Token.isMark_of_isComment hc .semicolon
    rw [List.nil_append, hmark] at hline
    cases hline.2
  | cons u ts => exact hline.2

/-- Counting that goes through some tokens goes through them in front of a comment, too, and stands
inside as many groups behind them. -/
theorem exists_length_append {depth : Nat} (h : ts.length ≤ length depth (ts ++ us)) :
    ∃ depth', length depth (ts ++ us) = ts.length + length depth' us ∧
      ∀ c us', c.kind.isComment = true →
        length depth (ts ++ c :: us') = ts.length + length depth' (c :: us') := by
  induction ts generalizing depth with
  | nil => exact ⟨depth, (Nat.zero_add _).symm, fun _ _ _ ↦ (Nat.zero_add _).symm⟩
  | cons t ts ih =>
    rw [List.cons_append, List.length_cons] at h
    -- the token is counted on both sides, from the same depth on
    have hgo {depth' : Nat} (hus : length depth (t :: (ts ++ us)) = length depth' (ts ++ us) + 1)
        (hcomment : ∀ c us', c.kind.isComment = true →
          length depth (t :: (ts ++ c :: us')) = length depth' (ts ++ c :: us') + 1) :
        ∃ depth', length depth (t :: ts ++ us) = (t :: ts).length + length depth' us ∧
          ∀ c us', c.kind.isComment = true →
            length depth (t :: ts ++ c :: us') = (t :: ts).length + length depth' (c :: us') := by
      rw [hus] at h
      obtain ⟨inner, hinner, hinner'⟩ := ih (Nat.le_of_succ_le_succ h)
      refine ⟨inner, ?_, fun c us' hc ↦ ?_⟩
      · rw [List.cons_append, hus, hinner, List.length_cons]
        omega
      · rw [List.cons_append, hcomment c us' hc, hinner' c us' hc, List.length_cons]
        omega
    cases hopens : opens t with
    | true =>
      exact hgo (length_of_opens hopens depth _) fun c us' _ ↦ length_of_opens hopens depth _
    | false =>
      cases hcloses : closes t with
      | true =>
        cases depth with
        | zero =>
          rw [length_of_closes_zero hcloses] at h
          cases h
        | succ depth =>
          exact hgo (length_of_closes hcloses depth _) fun c us' _ ↦
            length_of_closes hcloses depth _
      | false =>
        rw [length_of_inner hopens hcloses] at h
        split at h
        · cases h
        · rename_i hstays
          refine hgo ((length_of_inner hopens hcloses depth _).trans (if_neg hstays))
            fun c us' hc ↦ (length_of_inner hopens hcloses depth _).trans (if_neg fun hstop ↦ ?_)
          rw [Bool.and_eq_true] at hstays hstop
          exact hstays ⟨hstop.1, endsAt_of_isComment hc hstop.2 us⟩

/-- In front of the semicolon a line comment that stands last is no part of an initializer. -/
theorem length_comments (hcs : ∀ c ∈ cs, c.kind.isComment = true)
    (hsemicolon : semicolon.kind = .mark .semicolon) (rest : List Token) :
    ∃ taken, cs = taken ++ (Token.lastLine? cs).toList ∧
      length 0 (cs ++ semicolon :: rest) = taken.length := by
  have hat : Ahead.atMark .semicolon (semicolon :: rest) = true := decide_eq_true hsemicolon
  induction cs with
  | nil =>
    obtain ⟨hopens, hcloses⟩ := opens_and_closes_of_semicolon hsemicolon
    have hends : endsAt semicolon rest = true := by
      rw [endsAt, Token.isMark_of_kind hsemicolon .semicolon]
      rfl
    refine ⟨[], rfl, (length_of_inner hopens hcloses 0 rest).trans ?_⟩
    rw [hends]
    rfl
  | cons c cs ih =>
    obtain ⟨hc, hcs⟩ := List.forall_mem_cons.mp hcs
    obtain ⟨hopens, hcloses⟩ := opens_and_closes_of_isComment hc
    obtain ⟨taken, htaken, hlength⟩ := ih hcs
    have hends : endsAt c (cs ++ semicolon :: rest) =
        (c.is (.comment .line) && Ahead.atMark .semicolon (cs ++ semicolon :: rest)) := by
      rw [endsAt, Token.isMark_of_isComment hc, Token.isMark_of_isComment hc, Bool.false_or,
        Bool.false_and, Bool.or_false]
    have hcount : length 0 (c :: cs ++ semicolon :: rest) =
        if c.is (.comment .line) && Ahead.atMark .semicolon (cs ++ semicolon :: rest) then 0
        else taken.length + 1 := by
      rw [List.cons_append, length_of_inner hopens hcloses, hends, hlength]
      rfl
    -- only a line comment right in front of the semicolon ends the initializer
    cases cs with
    | nil =>
      obtain rfl : taken = [] := (List.append_eq_nil_iff.mp htaken.symm).1
      rw [hcount, List.nil_append, hat, Bool.and_true, Token.lastLine?, List.getLast?_singleton,
        Option.filter_some]
      split
      · exact ⟨[], rfl, rfl⟩
      · exact ⟨[c], rfl, rfl⟩
    | cons d ds =>
      have hother : Ahead.atMark .semicolon (d :: ds ++ semicolon :: rest) = false :=
        Token.isMark_of_isComment (hcs d List.mem_cons_self) .semicolon
      refine ⟨c :: taken, ?_, ?_⟩
      · rw [Token.lastLine?, List.getLast?_cons_cons]
        exact congrArg (c :: ·) htaken
      · rw [hcount, hother, Bool.and_false, if_neg Bool.false_ne_true, List.length_cons]

private theorem dropComments_append (hcs : ∀ c ∈ cs, c.kind.isComment = true) (ts : List Token) :
    dropComments (ts ++ cs) = dropComments ts := by
  rw [dropComments, dropComments, List.reverse_append, List.dropWhile_append_of_pos]
  exact fun c hc ↦ hcs c (List.mem_reverse.mp hc)

/-- Tokens from inside some groups, of which none belongs to an initializer, stand outside of all
groups if the first one opens or closes none. -/
theorem depth_eq_zero {depth : Nat} {t : Token} (hopens : opens t = false)
    (hcloses : closes t = false) (h : length depth (t :: us) = 0) : depth = 0 := by
  rw [length_of_inner hopens hcloses] at h
  split at h
  · rename_i hstop
    exact of_decide_eq_true (Bool.and_eq_true_iff.mp hstop).1
  · cases h

/-- **Comments behind an initializer** are no part of it. A line comment that stands last in front
of the semicolon is left there, and the others are passed over. -/
theorem read_comments {init : List Token} {t : Token} {text : String} (hopens : opens t = false)
    (hcloses : closes t = false) (h : read source (init ++ t :: us) = .found text (t :: us))
    {source' : Option (List Char)} (htext : SameText init source source')
    (hcs : ∀ c ∈ cs, c.kind.isComment = true) (hne : cs ≠ [])
    (hsemicolon : semicolon.kind = .mark .semicolon) (rest : List Token) :
    read source' (init ++ (cs ++ semicolon :: rest)) =
      .found text ((Token.lastLine? cs).toList ++ semicolon :: rest) := by
  rw [read_eq] at h
  split at h
  · cases h
  rename_i hvalue
  obtain ⟨rfl, hrest⟩ := Reading.found.inj h
  -- the initializer ends in front of `t`, outside of all groups
  have hcount : length 0 (init ++ t :: us) = init.length := by
    have hdropped := congrArg List.length hrest
    rw [List.length_drop, List.length_append, List.length_cons] at hdropped
    omega
  obtain ⟨depth, hlength, hcomments⟩ := exists_length_append (Nat.le_of_eq hcount.symm)
  obtain rfl : depth = 0 :=
    depth_eq_zero hopens hcloses (show length depth (t :: us) = 0 by omega)
  obtain ⟨taken, htaken, hown⟩ := length_comments hcs hsemicolon rest
  have htakenComments : ∀ c ∈ taken, c.kind.isComment = true := fun c hc ↦
    hcs c (htaken ▸ List.mem_append_left _ hc)
  have hcount' : length 0 (init ++ (cs ++ semicolon :: rest)) = (init ++ taken).length := by
    obtain ⟨c, cs', rfl⟩ := List.exists_cons_of_ne_nil hne
    rw [List.cons_append, hcomments c (cs' ++ semicolon :: rest) (hcs c List.mem_cons_self),
      ← List.cons_append, hown, List.length_append]
  have hsplit : init ++ (cs ++ semicolon :: rest) =
      init ++ taken ++ ((Token.lastLine? cs).toList ++ semicolon :: rest) := by
    rw [List.append_assoc, ← List.append_assoc taken, ← htaken]
  have htokens : tokens (init ++ t :: us) = dropComments init := by
    rw [tokens, hcount, List.take_left]
  have htokens' : tokens (init ++ (cs ++ semicolon :: rest)) = dropComments init := by
    rw [tokens, hcount', hsplit, List.take_left, dropComments_append htakenComments]
  rw [htokens] at hvalue ⊢
  rw [read_eq, htokens', if_neg hvalue, hcount', hsplit, List.drop_left,
    htext _ (dropComments_isPrefix init).isInfix]

end Initializer

/-! ## Declarators -/

/-- The pairs in front of some tokens are the same in front of any others that start with no
bracket. -/
theorem Ahead.bracketPairs_append_of_atMark {front us us' : List Token}
    (h : (bracketPairs (front ++ us)).2 = us) (hus' : atMark .openBracket us' = false) :
    bracketPairs (front ++ us') = ((bracketPairs (front ++ us)).1, us') := by
  generalize hts : front ++ us = ts at h
  fun_induction bracketPairs ts generalizing front with
  | case1 left right rest hpair count behind heq ih =>
    dsimp only at h
    subst h
    rw [heq] at ih
    have hsuffix := bracketPairs_rest_suffix rest
    rw [heq] at hsuffix
    obtain ⟨front, rfl, hrest⟩ := exists_split [left, right] hts hsuffix
    have hpairs (vs : List Token) : bracketPairs ([left, right] ++ front ++ vs) =
        ((bracketPairs (front ++ vs)).1 + 1, (bracketPairs (front ++ vs)).2) := if_pos hpair
    rw [hpairs, ih hrest.symm rfl]
  | case2 | case3 =>
    subst h
    obtain rfl : front = [] := List.append_left_eq_self.mp hts
    exact bracketPairs_of_atMark hus'

namespace Declarator

variable {source : Option (List Char)} {type : String} {name : Token} {ts rest : List Token}

private theorem readList_ne_nil : readList source type name ts ≠ .found [] rest := by
  rw [readList_eq]
  intro h
  obtain ⟨value, between, -, hnext⟩ := Reading.exists_of_andThen_eq_found h
  unfold readNext at hnext
  split at hnext
  · split at hnext
    · obtain ⟨ds, hds, -⟩ := Reading.exists_of_map_eq_found hnext
      cases hds
    · cases hnext
  · cases hnext

/-- Where one declarator is read, that is the end of the row. -/
theorem readValue_of_readList {d : Declarator}
    (h : readList source type name ts = .found [d] rest) :
    d = ⟨name, type ++ String.join (List.replicate (Ahead.bracketPairs ts).1 "[]"), d.value⟩ ∧
      readValue source name (Ahead.bracketPairs ts).2 = .found d.value rest := by
  rw [readList_eq] at h
  obtain ⟨value, between, hvalue, hnext⟩ := Reading.exists_of_andThen_eq_found h
  unfold readNext at hnext
  split at hnext
  · split at hnext
    · obtain ⟨ds, hds, hmore⟩ := Reading.exists_of_map_eq_found hnext
      obtain ⟨-, rfl⟩ := List.cons.inj hds
      exact absurd hmore readList_ne_nil
    · obtain ⟨hd, rfl⟩ := Reading.found.inj hnext
      obtain ⟨rfl, -⟩ := List.cons.inj hd
      exact ⟨rfl, hvalue⟩
  · obtain ⟨hd, rfl⟩ := Reading.found.inj hnext
    obtain ⟨rfl, -⟩ := List.cons.inj hd
    exact ⟨rfl, hvalue⟩

/-- A value with comments behind it is the value alone. -/
theorem readValue_comments {text : String} {t : Token} {us : List Token}
    (hopens : Initializer.opens t = false) (hcloses : Initializer.closes t = false)
    (h : readValue source name ts = .found (some text) (t :: us)) :
    ∃ sign init, ts = sign :: (init ++ t :: us) ∧ sign.kind = .mark .equal ∧
      ∀ ⦃source' cs semicolon⦄, SameText init source source' →
        (∀ c ∈ cs, c.kind.isComment = true) → cs ≠ [] → semicolon.kind = .mark .semicolon →
        ∀ rest', readValue source' name (sign :: (init ++ (cs ++ semicolon :: rest'))) =
          .found (some text) ((Token.lastLine? cs).toList ++ semicolon :: rest') := by
  unfold readValue at h
  split at h
  · rename_i hequal
    obtain ⟨first, hfirst, hread⟩ :=
      Reading.exists_of_map_eq_found (Reading.eq_found_of_orMalformed h)
    obtain rfl : first = text := Option.some.inj hfirst
    cases ts with
    | nil => cases hequal
    | cons sign ts =>
      obtain ⟨init, rfl⟩ := (Initializer.read_grounded source ts).suffix_of_found hread
      refine ⟨sign, init, rfl, of_decide_eq_true hequal,
        fun source' cs semicolon htext hcs hne hsemicolon rest' ↦ ?_⟩
      have hequal' : Ahead.atMark .equal (sign :: (init ++ (cs ++ semicolon :: rest'))) = true :=
        hequal
      rw [readValue, if_pos hequal', List.drop_succ_cons, List.drop_zero,
        Initializer.read_comments hopens hcloses hread htext hcs hne hsemicolon]
      rfl
  · cases h

private theorem readValue_eq_none (h : readValue source name ts = .found none rest) :
    ts = rest ∧ Ahead.atMark .equal ts = false := by
  unfold readValue at h
  split at h
  · obtain ⟨first, hfirst, -⟩ := Reading.exists_of_map_eq_found (Reading.eq_found_of_orMalformed h)
    cases hfirst
  · rename_i hequal
    exact ⟨(Reading.found.inj h).2, Bool.eq_false_iff.mpr hequal⟩

/-- Comments behind a declarator with a value are passed over, all but a line comment that stands
last. -/
theorem readList_comments {d : Declarator} {t : Token} {us : List Token}
    (hopens : Initializer.opens t = false) (hcloses : Initializer.closes t = false)
    (h : readList source type name ts = .found [d] (t :: us)) (hsome : d.value.isSome = true) :
    ∃ own, ts = own ++ t :: us ∧ ∀ ⦃source' cs semicolon⦄, SameText own source source' →
      (∀ c ∈ cs, c.kind.isComment = true) → cs ≠ [] → semicolon.kind = .mark .semicolon →
      ∀ rest', readList source' type name (own ++ (cs ++ semicolon :: rest')) =
        .found [d] ((Token.lastLine? cs).toList ++ semicolon :: rest') := by
  obtain ⟨text, htext⟩ := Option.isSome_iff_exists.mp hsome
  obtain ⟨hd, hvalue⟩ := readValue_of_readList h
  obtain ⟨pairs, hpairs⟩ := Ahead.bracketPairs_rest_suffix ts
  generalize hbracket : (Ahead.bracketPairs ts).2 = behind at hvalue hpairs
  subst hpairs
  rw [htext] at hvalue hd
  obtain ⟨sign, init, rfl, hsign, hread⟩ := readValue_comments hopens hcloses hvalue
  refine ⟨pairs ++ sign :: init, by rw [List.append_assoc, List.cons_append],
    fun source' cs semicolon hsame hcs hne hsemicolon rest' ↦ ?_⟩
  have hequal : Ahead.atMark .openBracket (sign :: (init ++ (cs ++ semicolon :: rest'))) = false :=
    Token.isMark_of_kind hsign .openBracket
  have hpairs := Ahead.bracketPairs_append_of_atMark hbracket hequal
  have hvalue' : readValue source' name (Ahead.bracketPairs
      (pairs ++ sign :: (init ++ (cs ++ semicolon :: rest')))).2 =
        .found (some text) ((Token.lastLine? cs).toList ++ semicolon :: rest') := by
    rw [hpairs, hread (hsame.mono ⟨pairs ++ [sign], [], by simp⟩) hcs hne hsemicolon]
  -- neither a comment nor the semicolon starts another declarator
  have hcomma : Ahead.atMark .comma ((Token.lastLine? cs).toList ++ semicolon :: rest') =
      false := by
    cases hline : Token.lastLine? cs with
    | none => exact Token.isMark_of_kind hsemicolon .comma
    | some c =>
      exact Token.isMark_of_isComment
        (hcs c (List.mem_of_getLast? (Option.filter_eq_some_iff.mp hline).1)) .comma
  rw [List.append_assoc, List.cons_append, DeclaratorForm.readList_of_last hcomma hvalue', hpairs,
    ← hd]

/-- Behind a declarator without a value nothing is passed over. -/
theorem readList_of_none {d : Declarator} {us : List Token}
    (h : readList source type name ts = .found [d] us) (hnone : d.value = none) :
    ∃ own, ts = own ++ us ∧ ∀ source' us', (∀ m, Ahead.atMark m us' = false) →
      readList source' type name (own ++ us') = .found [d] us' := by
  obtain ⟨hd, hvalue⟩ := readValue_of_readList h
  obtain ⟨pairs, hpairs⟩ := Ahead.bracketPairs_rest_suffix ts
  generalize hbracket : (Ahead.bracketPairs ts).2 = behind at hvalue hpairs
  subst hpairs
  rw [hnone] at hvalue hd
  obtain ⟨rfl, -⟩ := readValue_eq_none hvalue
  refine ⟨pairs, rfl, fun source' us' hmark ↦ ?_⟩
  have hpairs := Ahead.bracketPairs_append_of_atMark hbracket (hmark .openBracket)
  have hvalue' : readValue source' name (Ahead.bracketPairs (pairs ++ us')).2 =
      .found none us' := by
    rw [hpairs]
    exact if_neg (ne_true_of_eq_false (hmark .equal))
  rw [DeclaratorForm.readList_of_last (hmark .comma) hvalue', hpairs, ← hd]

end Declarator

/-! ## The end of a declaration -/

namespace FieldDecl

variable {source : Option (List Char)} {head : Prelude} {type : String}
  {name semicolon : Token} {cs ts more rest : List Token} {f : FieldDecl}

/-- The field that a declarator declares, with the comment in front of the semicolon. -/
def ofDeclarator (head : Prelude) (trailing : Option String) (d : Declarator) : FieldDecl where
  name := d.name.text
  type := d.type
  modifiers := head.modifiers
  annotations := head.annotations
  comment := head.comment.map (·.text)
  trailingComment := trailing
  defaultValue := d.value
  line := d.name.line
  column := d.name.column

theorem readRest_eq_ofDeclarator : readRest source head type name ts =
    (Declarator.readList source type name ts).andThen fun ds rest ↦
      readSemicolon (ds.map (ofDeclarator head (trailingComment? rest).1))
        (.semicolon ((ds.getLast?.map (·.name)).getD name).text) (trailingComment? rest).2 := rfl

/-- In front of the semicolon stands a line comment or nothing. -/
theorem exists_of_trailingComment? (h : (trailingComment? ts).2 = semicolon :: rest) :
    ∃ last, ts = last ++ semicolon :: rest ∧ (∀ c ∈ last, c.kind = .comment .line) ∧
      (trailingComment? ts).1 = (Token.lastLine? last).map (·.text) := by
  cases ts with
  | nil => cases h
  | cons t us =>
    rw [trailingComment?] at h ⊢
    split at h
    · rename_i hline
      obtain rfl : us = semicolon :: rest := h
      obtain ⟨ht, -⟩ := Bool.and_eq_true_iff.mp hline
      refine ⟨[t], rfl, List.forall_mem_singleton.mpr (of_decide_eq_true ht), ?_⟩
      rw [if_pos hline, Token.lastLine?, List.getLast?_singleton, Option.filter_some, if_pos ht]
      rfl
    · rename_i hline
      rw [if_neg hline]
      exact ⟨[], h, List.forall_mem_nil _, rfl⟩

theorem trailingComment?_lastLine (hsemicolon : semicolon.kind = .mark .semicolon)
    (cs rest : List Token) :
    trailingComment? ((Token.lastLine? cs).toList ++ semicolon :: rest) =
      ((Token.lastLine? cs).map (·.text), semicolon :: rest) := by
  cases hlast : Token.lastLine? cs with
  | none => exact trailingComment?_of_atMark (decide_eq_true hsemicolon)
  | some c =>
    have hline : c.is (.comment .line) = true := (Option.filter_eq_some_iff.mp hlast).2
    have hat : Ahead.atMark .semicolon (semicolon :: rest) = true := decide_eq_true hsemicolon
    rw [Option.toList_some, List.singleton_append, trailingComment?, hline, hat]
    rfl

private theorem readSemicolon_lastLine (hsemicolon : semicolon.kind = .mark .semicolon)
    (fields : Option String → List FieldDecl) (why : Malformation) (cs rest : List Token) :
    readSemicolon (fields (trailingComment? ((Token.lastLine? cs).toList ++ semicolon :: rest)).1)
        why (trailingComment? ((Token.lastLine? cs).toList ++ semicolon :: rest)).2 =
      .found (fields ((Token.lastLine? cs).map (·.text))) rest := by
  have hat : Ahead.atMark .semicolon (semicolon :: rest) = true := decide_eq_true hsemicolon
  rw [trailingComment?_lastLine hsemicolon, readSemicolon, if_pos hat, List.drop_succ_cons,
    List.drop_zero]

/-- Comments in front of the semicolon that are more than a line comment keep it from being seen. -/
theorem readSemicolon_of_comments (hcs : ∀ c ∈ cs, c.kind.isComment = true) (hne : cs ≠ [])
    (hline : ¬(cs.length = 1 ∧ (Token.lastLine? cs).isSome = true)) (why : Malformation)
    (fields : Option String → List FieldDecl) :
    readSemicolon (fields (trailingComment? (cs ++ semicolon :: rest)).1) why
        (trailingComment? (cs ++ semicolon :: rest)).2 =
      .missed (.malformed why) (cs ++ semicolon :: rest) := by
  obtain ⟨c, cs, rfl⟩ := List.exists_cons_of_ne_nil hne
  obtain ⟨hc, hcs⟩ := List.forall_mem_cons.mp hcs
  have hnone : (c.is (.comment .line) && Ahead.atMark .semicolon (cs ++ semicolon :: rest)) =
      false := by
    cases cs with
    | nil =>
      have hc' : c.is (.comment .line) = false := by
        rw [Bool.eq_false_iff]
        intro hc'
        refine hline ⟨rfl, ?_⟩
        rw [Token.lastLine?, List.getLast?_singleton, Option.filter_some, if_pos hc']
        rfl
      rw [hc', Bool.false_and]
    | cons d ds =>
      have hother : Ahead.atMark .semicolon (d :: ds ++ semicolon :: rest) = false :=
        Token.isMark_of_isComment (hcs d List.mem_cons_self) .semicolon
      rw [hother, Bool.and_false]
  have hat : Ahead.atMark .semicolon (c :: (cs ++ semicolon :: rest)) = false :=
    Token.isMark_of_isComment hc .semicolon
  rw [List.cons_append, trailingComment?, hnone, if_neg Bool.false_ne_true, readSemicolon, hat,
    if_neg Bool.false_ne_true]

/-- A field that stands alone in its declaration comes from one declarator, with a semicolon behind
it or a line comment and a semicolon. -/
theorem exists_of_readRest (h : readRest source head type name more = .found [f] rest) :
    ∃ d last semicolon, semicolon.kind = .mark .semicolon ∧ (∀ c ∈ last, c.kind = .comment .line) ∧
      f = ofDeclarator head ((Token.lastLine? last).map (·.text)) d ∧
      Declarator.readList source type name more = .found [d] (last ++ semicolon :: rest) := by
  rw [readRest_eq_ofDeclarator] at h
  obtain ⟨ds, between, hlist, hend⟩ := Reading.exists_of_andThen_eq_found h
  unfold readSemicolon at hend
  split at hend
  · rename_i hat
    obtain ⟨hfields, hrest⟩ := Reading.found.inj hend
    obtain ⟨d, rfl, rfl⟩ := List.map_eq_singleton_iff.mp hfields
    obtain ⟨semicolon, hsemicolon, hbehind⟩ : ∃ semicolon : Token,
        semicolon.kind = .mark .semicolon ∧ (trailingComment? between).2 = semicolon :: rest := by
      match hbehind : (trailingComment? between).2 with
      | [] => rw [hbehind] at hat; cases hat
      | t :: us =>
        rw [hbehind] at hat hrest
        exact ⟨t, of_decide_eq_true hat, congrArg (t :: ·) hrest⟩
    obtain ⟨last, rfl, hlast, htrailing⟩ := exists_of_trailingComment? hbehind
    exact ⟨d, last, semicolon, hsemicolon, hlast, by rw [htrailing], hlist⟩
  · cases hend

theorem readRest_of_readList {d : Declarator} {cs rest' : List Token}
    (hsemicolon : semicolon.kind = .mark .semicolon)
    (h : Declarator.readList source type name more =
      .found [d] ((Token.lastLine? cs).toList ++ semicolon :: rest')) :
    readRest source head type name more =
      .found [ofDeclarator head ((Token.lastLine? cs).map (·.text)) d] rest' := by
  rw [readRest_eq_ofDeclarator, h]
  exact readSemicolon_lastLine hsemicolon (fun trailing ↦ [ofDeclarator head trailing d]) _ cs rest'

private theorem eq_toList_lastLine? (hone : cs.length = 1)
    (hline : (Token.lastLine? cs).isSome = true) :
    cs = (Token.lastLine? cs).toList := by
  obtain ⟨c, rfl⟩ := List.length_eq_one_iff.mp hone
  obtain ⟨c', hc'⟩ := Option.isSome_iff_exists.mp hline
  rw [hc', Option.toList_some]
  obtain rfl := Option.some.inj (Option.filter_eq_some_iff.mp hc').1
  rfl

/-- Comments behind a declarator without a value are passed over if they are one line comment. -/
theorem readRest_of_none {d : Declarator} (hcs : ∀ c ∈ cs, c.kind.isComment = true) (hne : cs ≠ [])
    (hsemicolon : semicolon.kind = .mark .semicolon)
    (h : Declarator.readList source type name more = .found [d] (cs ++ semicolon :: rest)) :
    readRest source head type name more =
      if cs.length = 1 ∧ (Token.lastLine? cs).isSome = true then
        .found [ofDeclarator head ((Token.lastLine? cs).map (·.text)) d] rest
      else .missed (.malformed (.semicolon d.name.text)) (cs ++ semicolon :: rest) := by
  split
  · rename_i hline
    rw [eq_toList_lastLine? hline.1 hline.2] at h
    exact readRest_of_readList hsemicolon h
  · rename_i hline
    rw [readRest_eq_ofDeclarator, h]
    exact readSemicolon_of_comments hcs hne hline (.semicolon d.name.text)
      fun trailing ↦ [ofDeclarator head trailing d]

/-- **Comments in front of the semicolon** of a single field leave the field as it is if it has a
value, or if it has no trailing comment and they are one line comment. -/
theorem readRest_comments (h : readRest source head type name more = .found [f] rest) :
    ∃ own last semicolon, more = own ++ (last ++ semicolon :: rest) ∧
      semicolon.kind = .mark .semicolon ∧ (∀ c ∈ last, c.kind = .comment .line) ∧
      f.trailingComment = (Token.lastLine? last).map (·.text) ∧
      ∀ ⦃source' cs semicolon'⦄, SameText own source source' →
        (∀ c ∈ cs, c.kind.isComment = true) → cs ≠ [] → semicolon'.kind = .mark .semicolon →
        ∀ rest', readRest source' head type name (own ++ (last ++ cs ++ semicolon' :: rest')) =
          if f.defaultValue.isSome ∨
              (last ++ cs).length = 1 ∧ (Token.lastLine? cs).isSome = true then
            .found [{ f with trailingComment := (Token.lastLine? cs).map (·.text) }] rest'
          else .missed (.malformed (.semicolon f.name)) (last ++ cs ++ semicolon' :: rest') := by
  obtain ⟨d, last, semicolon, hsemicolon, hlast, rfl, hlist⟩ := exists_of_readRest h
  have hlastComments : ∀ c ∈ last, c.kind.isComment = true := fun c hc ↦ by
    rw [hlast c hc]
    rfl
  -- comments behind a value are passed over with it, those behind a bare name stay ahead
  by_cases hsome : d.value.isSome = true
  · obtain ⟨t, us, hfirst, hopens, hcloses⟩ : ∃ t us, last ++ semicolon :: rest = t :: us ∧
        Initializer.opens t = false ∧ Initializer.closes t = false := by
      cases last with
      | nil => exact ⟨_, _, rfl, Initializer.opens_and_closes_of_semicolon hsemicolon⟩
      | cons c last => exact ⟨_, _, rfl, Initializer.opens_and_closes_of_isComment
          (hlastComments c List.mem_cons_self)⟩
    rw [hfirst] at hlist
    obtain ⟨own, rfl, hread⟩ := Declarator.readList_comments hopens hcloses hlist hsome
    refine ⟨own, last, semicolon, by rw [hfirst], hsemicolon, hlast, rfl,
      fun source' cs semicolon' htext hcs hne hsemicolon' rest' ↦ ?_⟩
    have hall := List.forall_mem_append.mpr ⟨hlastComments, hcs⟩
    have hread' := hread htext hall (List.append_ne_nil_of_right_ne_nil last hne) hsemicolon' rest'
    rw [Token.lastLine?_append hne] at hread'
    rw [if_pos (.inl hsome)]
    exact readRest_of_readList hsemicolon' hread'
  · obtain ⟨own, rfl, hread⟩ :=
      Declarator.readList_of_none hlist (Option.not_isSome_iff_eq_none.mp hsome)
    refine ⟨own, last, semicolon, rfl, hsemicolon, hlast, rfl,
      fun source' cs semicolon' htext hcs hne hsemicolon' rest' ↦ ?_⟩
    have hall := List.forall_mem_append.mpr ⟨hlastComments, hcs⟩
    have hne' := List.append_ne_nil_of_right_ne_nil last hne
    have hmark (m : Mark) : Ahead.atMark m (last ++ cs ++ semicolon' :: rest') = false := by
      obtain ⟨c, others, hcons⟩ := List.exists_cons_of_ne_nil hne'
      rw [hcons] at hall ⊢
      exact Token.isMark_of_isComment (hall c List.mem_cons_self) m
    rw [readRest_of_none hall hne' hsemicolon' (hread source' _ hmark),
      Token.lastLine?_append hne]
    exact if_congr (or_iff_right hsome).symm rfl rfl

/-- Where fields are read behind a name, no parameters of a method are opened there. -/
theorem atMark_openParen_of_readRest {fields : List FieldDecl}
    (h : readRest source head type name more = .found fields rest) :
    Ahead.atMark .openParen more = false := by
  rw [Bool.eq_false_iff]
  intro hopen
  cases more with
  | nil => cases hopen
  | cons t us =>
    have hkind : t.kind = .mark .openParen := of_decide_eq_true hopen
    have hpairs : Ahead.bracketPairs (t :: us) = (0, t :: us) :=
      Ahead.bracketPairs_of_atMark (Token.isMark_of_kind hkind .openBracket)
    have hvalue : Declarator.readValue source name (Ahead.bracketPairs (t :: us)).2 =
        .found none (t :: us) := by
      rw [hpairs]
      exact if_neg (ne_true_of_eq_false (Token.isMark_of_kind hkind .equal))
    have hcomma : Ahead.atMark .comma (t :: us) = false := Token.isMark_of_kind hkind .comma
    have hsemicolon : Ahead.atMark .semicolon (t :: us) = false :=
      Token.isMark_of_kind hkind .semicolon
    have htrailing : trailingComment? (t :: us) = (none, t :: us) := by
      rw [trailingComment?, if_neg]
      intro hline
      have hline : t.kind = .comment .line := of_decide_eq_true (Bool.and_eq_true_iff.mp hline).1
      cases hline.symm.trans hkind
    rw [readRest_eq_ofDeclarator, DeclaratorForm.readList_of_last hcomma hvalue, Reading.andThen,
      htrailing, readSemicolon, hsemicolon] at h
    cases h

end FieldDecl

/-! ## The member -/

/-- **Comments in front of the semicolon** of a field that stands alone in its declaration leave it
as it is if it has a value, or if it has no trailing comment and they are one line comment. Then
the last of them is the trailing comment if it is a line comment. Otherwise no semicolon is found
behind the field. -/
theorem MemberItem.read_comments {source : Option (List Char)} {final : Token}
    {ts rest : List Token} {f : FieldDecl}
    (h : read source final ts = .found (members [.field f]) rest) :
    ∃ front last semicolon, ts = front ++ (last ++ semicolon :: rest) ∧
      semicolon.kind = .mark .semicolon ∧ (∀ c ∈ last, c.kind = .comment .line) ∧
      f.trailingComment = (Token.lastLine? last).map (·.text) ∧
      ∀ ⦃source' final' cs semicolon'⦄, SameText front source source' →
        (∀ c ∈ cs, c.kind.isComment = true) → cs ≠ [] → semicolon'.kind = .mark .semicolon →
        ∀ rest', read source' final' (front ++ (last ++ cs ++ semicolon' :: rest')) =
          if f.defaultValue.isSome ∨
              (last ++ cs).length = 1 ∧ (Token.lastLine? cs).isSome = true then
            .found
              (members [.field { f with trailingComment := (Token.lastLine? cs).map (·.text) }])
              rest'
          else .missed (.malformed (.semicolon f.name)) (last ++ cs ++ semicolon' :: rest') := by
  obtain ⟨head, front, type, name, more, rfl, -, hrest, hread⟩ := read_readsField h
  obtain ⟨own, last, semicolon, rfl, hsemicolon, hlast, htrailing, hcomments⟩ :=
    FieldDecl.readRest_comments hrest
  refine ⟨front ++ name :: own, last, semicolon, by rw [List.append_assoc, List.cons_append],
    hsemicolon, hlast, htrailing, fun source' final' cs semicolon' htext hcs hne hsemicolon' rest' ↦
      ?_⟩
  -- without a parenthesis behind its name the member stays a field
  have hopen : Ahead.atMark .openParen (own ++ (last ++ cs ++ semicolon' :: rest')) = false := by
    have hopen := FieldDecl.atMark_openParen_of_readRest hrest
    cases own with
    | cons t own => exact hopen
    | nil =>
      obtain ⟨c, others, hall⟩ := List.exists_cons_of_ne_nil
        (List.append_ne_nil_of_right_ne_nil last hne)
      have hc : c ∈ last ++ cs := hall ▸ List.mem_cons_self
      rw [hall]
      refine Token.isMark_of_isComment ((List.mem_append.mp hc).elim (fun hc ↦ ?_) (hcs c)) _
      rw [hlast c hc]
      rfl
  have hfront : front <:+: front ++ name :: own := (List.prefix_append ..).isInfix
  have hown : own <:+: front ++ name :: own := ⟨front ++ [name], [], by simp⟩
  rw [List.append_assoc, List.cons_append, hread _ _ _ (htext.mono hfront) hopen,
    hcomments (htext.mono hown) hcs hne hsemicolon']
  split <;> rfl

end ClassSchema

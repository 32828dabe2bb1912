import ClassSchema.Proofs.Grammar.Local

/-!
# What stands in front of a member is local

The comments, annotations and modifiers in front of a member do not depend on what comes behind the
semicolon or brace in front of which they end. Most of their parts never look behind a bar at all:
names and texts end there, and the closing parenthesis of an annotation is looked for up to there.
The one part that can go over a bar is a value in braces.
-/

namespace ClassSchema

/-! ## Arguments -/

namespace Arguments

variable (source : Option (List Char)) {ts us : List Token}

theorem value_of_openBrace (h : Ahead.atMark .openBrace ts = true) :
    value source ts = .found (.path (sourceText source (ts.take (Skip.balanced ts))))
      (ts.drop (Skip.balanced ts)) := by
  cases ts with
  | nil => cases h
  | cons t ts =>
    have hkind : t.kind = .mark .openBrace := of_decide_eq_true h
    rw [value, hkind]

/-- Only a value in braces could go on behind a bar. -/
theorem value_append (hopen : Ahead.atMark .openBrace (ts ++ us) = false) (hus : Barred us) :
    value source (ts ++ us) = (value source ts).append us := by
  cases ts with
  | nil =>
    obtain ⟨t, us, rfl, ht⟩ := hus.exists_eq_cons
    have hkind : t.kind = .mark .semicolon ∨ t.kind = .mark .closeBrace := by
      grind [Skip.endsHeader, Ahead.atMark, Ahead.kind]
    rcases hkind with hkind | hkind <;> simp [value, hkind, Kind.startsType, Reading.append]
  | cons t ts =>
    -- a path goes on at a dot and a text at another text, and a bar is neither
    have hnames := @TypeText.dottedNames_append ts us isPathName (hus.atMark rfl)
      (.inr (by
        obtain ⟨u, us, rfl, hu⟩ := hus.exists_eq_cons
        grind [isPathName, Ahead.kind, Skip.endsHeader]))
    have hstrings : ((ts ++ us).takeWhile (·.is .string)) = ts.takeWhile (·.is .string) :=
      hus.takeWhile_append (fun u hu ↦ decide_eq_false fun h ↦ by rw [h] at hu; cases hu) ts
    rw [List.cons_append]
    simp only [value]
    split
    · rw [hstrings, List.drop_append_of_le_length (List.takeWhile_sublist _).length_le]
      rfl
    · split <;> rfl
    · rfl
    · rfl
    · rename_i hkind
      exact absurd (decide_eq_true hkind) (ne_true_of_eq_false hopen)
    · rw [hnames]
      split <;> rfl

theorem value_local : Reading.Local (value source) := by
  intro ts us us' hbar hsuffix
  have hsame := hbar.atMark_append .openBrace ts
  cases hopen : Ahead.atMark .openBrace (ts ++ us) with
  | true =>
    -- the one value that takes bars; it ends in front of this one, so its braces are closed before
    rw [value_of_openBrace source hopen] at hsuffix ⊢
    rw [value_of_openBrace source (hsame.symm.trans hopen)]
    exact Reading.LocalAt.cut (fun taken ↦ .found (Argument.path (sourceText source taken)))
      (fun _ ↦ .found _) (fun _ _ ↦ List.suffix_refl _) Skip.balanced_local hbar hsuffix
  | false =>
    exact ⟨value source ts, value_append source hopen hbar.barred,
      value_append source (hsame.symm.trans hopen) hbar.symm.barred⟩

theorem pairs_of_no_pair {sofar : Assoc Argument} (h : Ahead.atNameWith .equal ts = false) :
    pairs source sofar ts = .found sofar ts := by
  rw [pairs.eq_def]
  split
  · rw [if_neg]
    exact ne_true_of_eq_false h
  · rfl

/-- Behind the value of a pair a comma goes on with the next pair. -/
theorem pairs_of_pair {sofar : Assoc Argument} {key sign : Token} (ts : List Token)
    (h : Ahead.atNameWith .equal (key :: sign :: ts) = true) :
    pairs source sofar (key :: sign :: ts) =
      (value source ts).elim
        (fun argument rest ↦
          if Ahead.atMark .comma rest then
            pairs source (sofar.put key.text argument) (rest.drop 1)
          else .found (sofar.put key.text argument) rest)
        (fun cause rest ↦ if cause = .absent then .found sofar rest else .missed cause rest) := by
  have hpair : (key.is .identifier && sign.isMark .equal) = true := h
  rw [pairs, if_pos hpair]
  split
  · rename_i argument rest hvalue
    cases rest <;> dsimp only <;> rw [hvalue] <;> rfl
  · rename_i rest hvalue
    rw [hvalue]
    rfl
  · rename_i cause rest hcause hvalue
    rw [hvalue, Reading.elim, if_neg hcause]

private theorem pairs_localAt (sofar : Assoc Argument) :
    Reading.LocalAt (pairs source sofar) ts := by
  -- on the number of tokens, since a value takes any number of them
  induction hn : ts.length using Nat.strongRecOn generalizing ts sofar with
  | ind n ih =>
    cases hpair : Ahead.atNameWith .equal ts with
    | false =>
      refine .of_barred (r := .found sofar ts) fun us hus ↦ ?_
      exact pairs_of_no_pair source ((Ahead.atNameWith_append rfl hus ts).trans hpair)
    | true =>
      obtain ⟨key, sign, ts, rfl, -, -⟩ := Ahead.exists_eq_cons_of_atNameWith hpair
      refine .congr (fun us _ ↦ pairs_of_pair source (ts ++ us) hpair)
        (.elim (value_local source ts) (fun argument rest us hrest ↦ ?_) (fun cause ↦ ?_)
          (fun argument rest ↦ ?_) fun cause rest ↦ ?_)
      · have hle := ((value_grounded source _).suffix_of_found hrest).length_le
        rw [List.length_append, List.length_append] at hle
        rw [List.length_cons, List.length_cons] at hn
        refine .ite (fun hbar ↦ hbar.atMark_append .comma rest)
          (.drop_one (fun comma others hothers ↦ ih _ ?_ _ rfl) ?_) (Reading.Local.found _ rest)
        · rw [hothers, List.length_cons] at hle
          omega
        · exact fun ts ↦ (pairs_grounded source _ ts).rest_suffix
      · split
        · exact .found _
        · exact .missed _
      · split
        · exact ((pairs_grounded source _ _).drop).rest_suffix
        · exact List.suffix_refl _
      · split <;> exact List.suffix_refl _

theorem read_eq (ts : List Token) :
    read source ts =
      if Ahead.atMark .closeParen ts then .found [] ts
      else if Ahead.atNameWith .equal ts then pairs source [] ts
      else (value source ts).elim (fun argument rest ↦ .found [("value", argument)] rest)
        (fun cause rest ↦ if cause = .absent then .found [] rest else .missed cause rest) := by
  rw [read]
  split
  · rfl
  · rw [Ahead.atNameWith]
    split
    · rfl
    · split
      · rename_i h
        rw [h]
        rfl
      · rename_i h
        rw [h]
        rfl
      · rename_i hcause h
        rw [h, Reading.elim, if_neg hcause]

private theorem read_local : Reading.Local (read source) := by
  intro ts
  refine .of_eq (read_eq source)
    (.ite (fun hbar ↦ hbar.atMark_append .closeParen ts) (Reading.Local.found _ ts)
      (.ite (fun hbar ↦ ?_) (pairs_localAt source [])
        (.elim (value_local source ts) (fun argument rest us _ ↦ Reading.Local.found _ rest)
          (fun cause ↦ ?_) (fun argument rest ↦ List.suffix_refl _) fun cause rest ↦ ?_)))
  · rw [Ahead.atNameWith_append rfl hbar.barred, Ahead.atNameWith_append rfl hbar.symm.barred]
  · split
    · exact .found _
    · exact .missed _
  · split <;> exact List.suffix_refl _

private theorem endsSearch_eq_endsHeader (kind : Kind) :
    endsSearch kind = Skip.endsHeader kind := by
  rw [endsSearch.eq_def, Skip.endsHeader.eq_def]
  split <;> simp_all

/-- The closing parenthesis is looked for up to a bar. -/
theorem close_append (hus : Barred us) (ts : List Token) :
    close (ts ++ us) = (close ts).append us := by
  have hclose := hus.atMark_append (m := .closeParen) rfl ts
  rw [close, close, hclose]
  split
  · rename_i hat
    cases ts with
    | nil => cases hat
    | cons t ts => rfl
  · rename_i hat
    -- the search for the parenthesis stops at the bar at the latest
    let stops (kind : Kind) : Bool := kind = .mark .closeParen || endsSearch kind
    have hkind : Ahead.kind ts ≠ .mark .closeParen := fun h ↦ hat (decide_eq_true h)
    have hkind' : Ahead.kind (ts ++ us) ≠ .mark .closeParen := fun h ↦
      hat (hclose.symm.trans (decide_eq_true h))
    have hcount : Skip.upTo stops (ts ++ us) = Skip.upTo stops ts :=
      Skip.upTo_append (fun kind hkind ↦ by
        rw [← endsSearch_eq_endsHeader] at hkind
        exact Bool.or_eq_true_iff.mpr (.inr hkind)) ts hus
    rw [Skip.search, Skip.search, if_neg hkind, if_neg hkind']
    dsimp only
    rw [hcount, List.drop_append_of_le_length (Skip.upTo_le _ ts)]
    cases hrest : ts.drop (Skip.upTo stops ts) with
    | nil =>
      obtain ⟨t, us, rfl, ht⟩ := hus.exists_eq_cons
      have hbar : t.kind ≠ .mark .closeParen := hus.kind_ne rfl
      rw [List.nil_append]
      dsimp only
      rw [if_neg hbar]
      dsimp only
      rw [List.drop_append_of_le_length (Skip.upTo_le _ ts)]
      rfl
    | cons t rest =>
      have hle : Skip.upTo stops ts + 1 ≤ ts.length := by
        have := congrArg List.length hrest
        rw [List.length_drop, List.length_cons] at this
        omega
      rw [List.cons_append]
      dsimp only
      split
      · rw [List.drop_append_of_le_length hle]
        rfl
      · rw [List.drop_append_of_le_length (Skip.upTo_le _ ts)]
        rfl

private theorem parenthesized_local : Reading.Local (parenthesized source) := by
  intro ts
  refine .ite (fun hbar ↦ hbar.atMark_append .openParen ts)
    (.drop_one (fun t us _ ↦ .andThen (read_local source us) (fun table rest _ _ ↦ ?_)
      fun table rest ↦ ?_) fun ts ↦ ?_) (Reading.Local.found _ ts)
  · exact .map _ (.of_barred fun us hus ↦ close_append hus rest)
  · exact ((close_grounded rest).map _).rest_suffix
  · exact ((read_grounded source _).andThen fun table rest _ ↦
      (close_grounded rest).map _).rest_suffix

private theorem use_local : Reading.Local (use source) := by
  intro ts
  match ts with
  | [] =>
    -- an annotation takes its sign, so it does not end in front of the bar
    intro us us' hbar hsuffix
    cases hbar with
    | @intro t us us' ht =>
      exact absurd hsuffix.length_le (Nat.not_le_of_lt (length_use_rest_lt source t us))
  | [sign] =>
    refine .of_barred (r := .missed .absent []) fun us hus ↦ ?_
    obtain ⟨t, us, rfl, ht⟩ := hus.exists_eq_cons
    rw [List.singleton_append, use, hus.is_eq_false rfl, if_neg Bool.false_ne_true]
    rfl
  | sign :: name :: ts =>
    cases hname : name.is .identifier with
    | false =>
      refine .of_barred (r := .missed .absent (name :: ts)) fun us _ ↦ ?_
      rw [List.cons_append, List.cons_append, use, hname, if_neg Bool.false_ne_true]
      rfl
    | true =>
      let names := Ahead.dottedNames (· = .identifier) ts
      let last := (names.1.getLast?.map (·.2)).getD name
      refine .congr (fun us hus ↦ ?_)
        (.map (fun table ↦ ⟨last.text, table, sign.line, sign.column⟩)
          (parenthesized_local source names.2))
      have hnames := @TypeText.dottedNames_append ts us (· = .identifier) (hus.atMark rfl)
        (.inr (decide_eq_false (hus.kind_ne rfl)))
      rw [List.cons_append, List.cons_append, use, hname, if_pos rfl, hnames]

end Arguments

/-! ## Preludes -/

namespace Prelude

variable (source : Option (List Char)) {ts us : List Token}

private theorem startsAnnotations_append (hus : Barred us) (t : Token) (ts : List Token) :
    startsAnnotations t (ts ++ us) = startsAnnotations t ts := by
  have hword : Skip.endsHeader (.keyword .interfaceWord) = false := rfl
  have hiff := hus.kind_append_eq_iff hword nofun ts
  rw [startsAnnotations, startsAnnotations, decide_eq_decide.mpr (not_congr hiff)]

private theorem isModifier_append (hus : Barred us) (t : Token) (ts : List Token) :
    isModifier t (ts ++ us) = isModifier t ts := by
  rw [isModifier, isModifier, hus.atMark_append rfl]

theorem readFrom_of_barred (sofar : Prelude) (hus : Barred us) :
    readFrom source sofar us = .found sofar us := by
  obtain ⟨t, us, rfl, ht⟩ := hus.exists_eq_cons
  have hcomment : t.kind.isComment = false := by
    rcases Skip.kind_of_endsHeader ht with h | h | h <;> rw [h] <;> rfl
  have hstarts : startsAnnotations t us = false := by
    rw [startsAnnotations, hus.isMark_eq_false rfl, Bool.false_and]
  have hmodifier : isModifier t us = false := by
    rw [isModifier, hus.is_eq_false rfl]
    rcases Skip.kind_of_endsHeader ht with h | h | h <;> rw [h] <;> rfl
  rw [readFrom, hcomment, hstarts, hmodifier, if_neg Bool.false_ne_true, if_neg Bool.false_ne_true,
    if_neg Bool.false_ne_true]

theorem readFrom_of_startsAnnotations {sofar : Prelude} {t : Token} (ts : List Token)
    (hcomment : t.kind.isComment = false) (hstarts : startsAnnotations t ts = true) :
    readFrom source sofar (t :: ts) =
      (Arguments.use source (t :: ts)).andThen fun use rest ↦
        readFrom source { sofar with annotations := sofar.annotations ++ [use] } rest := by
  rw [readFrom, if_neg (ne_true_of_eq_false hcomment), if_pos hstarts]
  split
  · rename_i use rest h
    rw [h]
    rfl
  · rename_i cause rest h
    rw [h]
    rfl

private theorem readFrom_localAt (sofar : Prelude) :
    Reading.LocalAt (readFrom source sofar) ts := by
  -- on the number of tokens, since an annotation may take any number of them
  induction hn : ts.length using Nat.strongRecOn generalizing ts sofar with
  | ind n ih =>
    cases ts with
    | nil =>
      exact .of_barred (r := .found sofar []) fun us hus ↦ readFrom_of_barred source sofar hus
    | cons t ts =>
      rw [List.length_cons] at hn
      have hlt : ts.length < n := hn ▸ Nat.lt_succ_self ts.length
      cases hcomment : t.kind.isComment with
      | true =>
        refine .congr (fun us _ ↦ ?_) (ih _ hlt { sofar with comment := some t } rfl)
        rw [List.cons_append, readFrom, if_pos hcomment]
      | false =>
        cases hstarts : startsAnnotations t ts with
        | true =>
          refine .congr (fun us hus ↦ readFrom_of_startsAnnotations source (ts ++ us) hcomment
            ((startsAnnotations_append hus t ts).trans hstarts))
            (.andThen (Arguments.use_local source (t :: ts)) (fun use rest us huse ↦ ?_)
              fun use rest ↦ ?_)
          · have hlt' := Arguments.length_use_rest_lt source t (ts ++ us)
            rw [show t :: (ts ++ us) = t :: ts ++ us from rfl, huse, Reading.rest_found,
              List.length_append, List.length_append, List.length_cons] at hlt'
            exact ih _ (by omega) _ rfl
          · exact (readFrom_grounded source _ rest).rest_suffix
        | false =>
          cases hmodifier : isModifier t ts with
          | true =>
            refine .congr (fun us hus ↦ ?_) (ih _ hlt
              { sofar with modifiers := sofar.modifiers ++ [t.text] } rfl)
            rw [List.cons_append, readFrom, hcomment, startsAnnotations_append hus, hstarts,
              isModifier_append hus, hmodifier, if_neg Bool.false_ne_true,
              if_neg Bool.false_ne_true, if_pos rfl]
          | false =>
            refine .of_barred (r := .found sofar (t :: ts)) fun us hus ↦ ?_
            rw [List.cons_append, readFrom, hcomment, startsAnnotations_append hus, hstarts,
              isModifier_append hus, hmodifier, if_neg Bool.false_ne_true,
              if_neg Bool.false_ne_true, if_neg Bool.false_ne_true]
            rfl

theorem read_local : Reading.Local (read source) := fun _ ↦ readFrom_localAt source {}

end Prelude

end ClassSchema

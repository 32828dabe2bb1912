import ClassSchema.Proofs.Parser.Progress
import ClassSchema.Proofs.Written.QualifiedName

/-!
# Where types end

The tokens of a type are found from left to right, and what comes behind them is looked at in order
to see that the type is over. So the type that is found at the front of some tokens stays the same
when tokens are added behind them that cannot go on with it: no dot, no angle bracket, no square
bracket.

There is one exception. A reading that ran out of tokens in the middle of a type goes on when more
of them come. It does not in front of a semicolon or a brace, which is no part of any type: there it
gives up at the same place as at the end of the tokens. So behind a *bar* a type is never looked
for.
-/

namespace ClassSchema

/-- A semicolon or a brace comes next. -/
def Barred (ts : List Token) : Prop := Skip.endsHeader (Ahead.kind ts) = true

theorem Barred.atMark {ts : List Token} (h : Barred ts) {m : Mark}
    (hm : Skip.endsHeader (.mark m) = false) : Ahead.atMark m ts = false := by
  refine decide_eq_false fun hkind ↦ ?_
  rw [Barred, hkind, hm] at h
  cases h

theorem Barred.kind_ne {ts : List Token} (h : Barred ts) {kind : Kind}
    (hkind : Skip.endsHeader kind = false) : Ahead.kind ts ≠ kind := by
  intro hsame
  rw [Barred, hsame, hkind] at h
  cases h

theorem Barred.exists_eq_cons {ts : List Token} (h : Barred ts) :
    ∃ t us, ts = t :: us ∧ Skip.endsHeader t.kind = true := by
  cases ts with
  | nil => cases h
  | cons t us => exact ⟨t, us, rfl, h⟩

/-- The same reading with more tokens behind it. -/
def Reading.append {α : Type} (r : Reading α) (ts : List Token) : Reading α :=
  match r with
  | found value rest => found value (rest ++ ts)
  | missed cause rest => missed cause (rest ++ ts)

/-- The same stretch with more tokens behind it. -/
def Stretch.append (s : Stretch) (ts : List Token) : Stretch := { s with rest := s.rest ++ ts }

theorem Stretch.andThen_append {s : Stretch} {next : List Token → Stretch} {ts : List Token}
    (h : s.complete = true → next (s.rest ++ ts) = (next s.rest).append ts) :
    (s.append ts).andThen next = (s.andThen next).append ts := by
  unfold andThen
  cases hcomplete : s.complete with
  | true =>
    rw [if_pos rfl, if_pos (show (s.append ts).complete = true from hcomplete)]
    dsimp only
    rw [show (s.append ts).rest = s.rest ++ ts from rfl, h hcomplete]
    rfl
  | false =>
    rw [if_neg Bool.false_ne_true,
      if_neg (ne_true_of_eq_false (show (s.append ts).complete = false from hcomplete))]

theorem Stretch.rest_andThen {s : Stretch} {next : List Token → Stretch}
    (h : s.complete = true) : (s.andThen next).rest = (next s.rest).rest := by
  rw [andThen, if_pos h]

theorem Stretch.complete_andThen {s : Stretch} {next : List Token → Stretch}
    (h : s.complete = true) : (s.andThen next).complete = (next s.rest).complete := by
  rw [andThen, if_pos h]

namespace TypeText

variable {ts us : List Token}

/-- What is no part of the type in front of it. -/
structure EndsType (us : List Token) : Prop where
  dot : Ahead.atMark .dot us = false
  openAngle : Ahead.atMark .openAngle us = false
  openBracket : Ahead.atMark .openBracket us = false

private theorem endsType_of_barred (h : Barred us) : EndsType us :=
  ⟨h.atMark rfl, h.atMark rfl, h.atMark rfl⟩

theorem endsType_of_identifier (h : Ahead.kind us = .identifier) : EndsType us := by
  have hmark (m : Mark) : Ahead.atMark m us = false := by
    rw [Ahead.atMark, h]
    exact decide_eq_false nofun
  exact ⟨hmark _, hmark _, hmark _⟩

/-! ## One stretch after the other -/

private theorem head_append (h : (head ts).complete = true ∨ Barred us) :
    head (ts ++ us) = (head ts).append us := by
  cases ts with
  | nil =>
    obtain ⟨t, us, rfl, ht⟩ := (h.resolve_left nofun).exists_eq_cons
    have hstarts : t.kind.startsType = false := by
      revert ht
      cases t.kind with
      | mark m => exact fun _ ↦ rfl
      | _ => exact nofun
    exact if_neg (ne_true_of_eq_false hstarts)
  | cons t ts =>
    rw [List.cons_append, head, head]
    split <;> rfl

/-- A dot that is left alone behind a name could still be one of a pair. -/
theorem dottedNames_append {isName : Kind → Bool} (hdot : Ahead.atMark .dot us = false)
    (h : (∀ t, (Ahead.dottedNames isName ts).2 = [t] → t.isMark .dot = false) ∨
      isName (Ahead.kind us) = false) :
    Ahead.dottedNames isName (ts ++ us) =
      ((Ahead.dottedNames isName ts).1, (Ahead.dottedNames isName ts).2 ++ us) := by
  fun_induction Ahead.dottedNames isName ts with
  | case1 dot name ts hpair names rest heq ih =>
    rw [heq] at ih
    rw [List.cons_append, List.cons_append, Ahead.dottedNames, if_pos hpair, ih h]
  | case2 dot name ts hpair =>
    rw [List.cons_append, List.cons_append, Ahead.dottedNames, if_neg hpair]
  | case3 ts hshort =>
    cases ts with
    | nil => exact Ahead.dottedNames_of_atMark isName hdot
    | cons t ts =>
      cases ts with
      | cons t' ts => exact absurd rfl (hshort _ _ _)
      | nil =>
        -- a single token that is left could go on with the first one behind
        cases us with
        | nil => rfl
        | cons u us =>
          have hpair : ¬(t.isMark .dot && isName u.kind) = true := by
            rw [Bool.and_eq_true]
            rintro ⟨ht, hu⟩
            rcases h with h | h
            · rw [h t rfl] at ht
              cases ht
            · exact absurd (hu.symm.trans h) (by decide)
          rw [List.singleton_append, Ahead.dottedNames, if_neg hpair]

theorem path_append (hus : EndsType us)
    (h : (∀ t, (path ts).rest = [t] → t.isMark .dot = false) ∨ Barred us) :
    path (ts ++ us) = (path ts).append us := by
  have hnames := @dottedNames_append ts us (· = .identifier) hus.dot
    (h.imp_right fun hbarred ↦ decide_eq_false (hbarred.kind_ne rfl))
  rw [path, hnames]
  rfl

theorem angleGroup_of_barred (h : Barred us) (depth : Nat) :
    angleGroup depth us = ⟨[], us, false⟩ := by
  obtain ⟨t, us, rfl, ht⟩ := h.exists_eq_cons
  have hopen : t.isMark .openAngle = false := h.atMark rfl
  have hclose : t.isMark .closeAngle = false := h.atMark rfl
  rw [angleGroup, if_neg (ne_true_of_eq_false hopen), if_neg (ne_true_of_eq_false hclose),
    if_pos ht]

theorem angleGroup_append (depth : Nat) (h : (angleGroup depth ts).complete = true ∨ Barred us) :
    angleGroup depth (ts ++ us) = (angleGroup depth ts).append us := by
  -- the branches of the count look at one token, so `us` matters only where the tokens end
  induction ts generalizing depth with
  | nil => exact angleGroup_of_barred (h.resolve_left nofun) depth
  | cons t ts ih =>
    rw [List.cons_append, angleGroup, angleGroup]
    rw [angleGroup] at h
    dsimp only at h ⊢
    split
    · rename_i hopen
      rw [if_pos hopen] at h
      rw [ih _ h]
      rfl
    · rename_i hopen
      rw [if_neg hopen] at h
      split
      · rename_i hclose
        rw [if_pos hclose] at h
        split
        · rfl
        · rename_i hdepth
          rw [if_neg hdepth] at h
          rw [ih _ h]
          rfl
      · rename_i hclose
        rw [if_neg hclose] at h
        split
        · rfl
        · rename_i hends
          rw [if_neg hends] at h
          rw [ih _ h]
          rfl

theorem arguments_append (hus : EndsType us) (h : (arguments ts).complete = true ∨ Barred us) :
    arguments (ts ++ us) = (arguments ts).append us := by
  cases ts with
  | nil =>
    rw [List.nil_append, arguments, if_neg (ne_true_of_eq_false hus.openAngle)]
    rfl
  | cons t ts =>
    have hsame : Ahead.atMark .openAngle (t :: ts ++ us) = Ahead.atMark .openAngle (t :: ts) := rfl
    rw [arguments, arguments, hsame]
    rw [arguments] at h
    split
    · rename_i hopen
      rw [if_pos hopen] at h
      exact angleGroup_append 0 h
    · rfl

theorem dimensions_append (hus : EndsType us) (h : (dimensions ts).complete = true ∨ Barred us) :
    dimensions (ts ++ us) = (dimensions ts).append us := by
  fun_induction dimensions ts with
  | case1 =>
    cases us with
    | nil => rfl
    | cons u us =>
      rw [List.nil_append, dimensions.eq_def]
      exact if_neg (ne_true_of_eq_false hus.openBracket)
  | case2 t hopen =>
    have hbarred := h.resolve_left Bool.false_ne_true
    -- a bracket at the end could be closed by what comes next, but not by a bar
    obtain ⟨u, us, rfl, hu⟩ := hbarred.exists_eq_cons
    have hclose : u.isMark .closeBracket = false := hbarred.atMark rfl
    rw [List.singleton_append, dimensions, if_pos hopen]
    dsimp only
    rw [if_neg (ne_true_of_eq_false hclose)]
    rfl
  | case3 t hopen u ts hclose s ih =>
    rw [List.cons_append, List.cons_append, dimensions, if_pos hopen]
    dsimp only
    rw [if_pos hclose, ih h]
    rfl
  | case4 t hopen u ts hclose =>
    rw [List.cons_append, List.cons_append, dimensions, if_pos hopen]
    dsimp only
    rw [if_neg hclose]
    rfl
  | case5 t ts hopen =>
    rw [List.cons_append, dimensions.eq_def]
    dsimp only
    rw [if_neg hopen]
    rfl

theorem ellipsis_append (hus : EndsType us) : ellipsis (ts ++ us) = (ellipsis ts).append us := by
  have hnone {vs : List Token} (h : ∀ a b c ws, vs = a :: b :: c :: ws →
      (a.isMark .dot && b.isMark .dot && c.isMark .dot) = false) : ellipsis vs = .nothing vs := by
    unfold ellipsis
    split
    · rw [h _ _ _ _ rfl, if_neg Bool.false_ne_true]
    · rfl
  have hfirst {t : Token} {vs : List Token} (h : us = t :: vs) : t.isMark .dot = false := by
    rw [h] at hus
    exact hus.dot
  match ts with
  | [] =>
    refine hnone fun a b c ws h ↦ ?_
    rw [hfirst h, Bool.false_and, Bool.false_and]
  | [a] =>
    refine hnone fun a b c ws h ↦ ?_
    rw [hfirst (List.cons.inj h).2, Bool.and_false, Bool.false_and]
  | [a, b] =>
    refine hnone fun a b c ws h ↦ ?_
    rw [hfirst (List.cons.inj (List.cons.inj h).2).2, Bool.and_false]
  | a :: b :: c :: ts =>
    rw [List.cons_append, List.cons_append, List.cons_append, ellipsis, ellipsis]
    split <;> rfl

/-! ## The whole type -/

/-- A type that was found and took all tokens did not leave a lone dot on its way: nothing but a
name would take it. -/
theorem isMark_dot_of_rest_path {t : Token} (hpath : ((head ts).andThen path).complete = true)
    (hall : (scan ts).complete = true) (hnil : (scan ts).rest = [])
    (ht : ((head ts).andThen path).rest = [t]) : t.isMark .dot = false := by
  rw [Bool.eq_false_iff]
  intro hdot
  have hmark (m : Mark) (hm : .dot ≠ m) : t.isMark m = false :=
    (Token.isMark_of_kind (of_decide_eq_true hdot) m).trans (decide_eq_false hm)
  have harguments : arguments [t] = .nothing [t] :=
    if_neg (ne_true_of_eq_false (hmark .openAngle (by decide)))
  have hdimensions : dimensions [t] = .nothing [t] := by
    rw [dimensions.eq_def]
    exact if_neg (ne_true_of_eq_false (hmark .openBracket (by decide)))
  have hdims := complete_of_complete_andThen hall
  have hargs := complete_of_complete_andThen hdims
  rw [scan, Stretch.rest_andThen hdims, Stretch.rest_andThen hargs, Stretch.rest_andThen hpath, ht,
    harguments] at hnil
  dsimp only [Stretch.nothing] at hnil
  rw [hdimensions] at hnil
  cases hnil

/-- **A type stays the same** when tokens are added behind it that cannot go on with it: if it took
all of the tokens in front of them, or if a bar comes next. -/
theorem scan_append (hus : EndsType us)
    (h : (scan ts).complete = true ∧ (scan ts).rest = [] ∨ Barred us) :
    scan (ts ++ us) = (scan ts).append us := by
  have hdims := h.imp_left fun h ↦ complete_of_complete_andThen h.1
  have hargs := hdims.imp_left complete_of_complete_andThen
  have hpath := hargs.imp_left complete_of_complete_andThen
  have hhead := hpath.imp_left complete_of_complete_andThen
  rw [scan, head_append hhead, Stretch.andThen_append fun hs ↦ path_append hus ?_,
    Stretch.andThen_append fun hs ↦ arguments_append hus ?_,
    Stretch.andThen_append fun hs ↦ dimensions_append hus ?_,
    Stretch.andThen_append fun hs ↦ ellipsis_append hus, ← scan]
  · exact hdims.imp_left fun h ↦ (Stretch.complete_andThen hs).symm.trans h
  · exact hargs.imp_left fun h ↦ (Stretch.complete_andThen hs).symm.trans h
  · rcases h with ⟨hall, hnil⟩ | hbarred
    · refine .inl fun t ht ↦ isMark_dot_of_rest_path ?_ hall hnil ?_
      · exact hpath.elim id fun _ ↦ (Stretch.complete_andThen hs).trans rfl
      · exact (Stretch.rest_andThen hs).trans ht
    · exact .inr hbarred

theorem read_append_of_barred (hus : Barred us) : read (ts ++ us) = (read ts).append us := by
  rw [read, read, scan_append (endsType_of_barred hus) (.inr hus),
    show ((scan ts).append us).complete = (scan ts).complete from rfl]
  split <;> rfl

/-- Tokens that are a type, and nothing else. -/
def IsType (ts : List Token) : Prop := (scan ts).complete = true ∧ (scan ts).rest = []

instance : DecidablePred IsType := fun _ ↦ inferInstanceAs (Decidable (_ ∧ _))

private theorem isType_singleton {t : Token} (ht : t.kind.startsType = true) : IsType [t] := by
  have hscan : scan [t] = ⟨[t], [], true⟩ := by
    rw [scan, head, if_pos ht]
    rfl
  rw [IsType, hscan]
  exact ⟨rfl, rfl⟩

theorem startsType_of_isType {t : Token} (h : IsType (t :: ts)) : t.kind.startsType = true := by
  have hhead := complete_of_complete_andThen (complete_of_complete_andThen
    (complete_of_complete_andThen (complete_of_complete_andThen h.1)))
  rw [head] at hhead
  split at hhead
  · assumption
  · cases hhead

theorem not_endsType_of_isType {t : Token} (h : IsType (t :: ts)) (hne : ts ≠ []) :
    ¬EndsType ts := by
  intro hends
  have hword := isType_singleton (startsType_of_isType h)
  have hscan := scan_append hends (.inl hword)
  have hnil := h.2
  rw [show t :: ts = [t] ++ ts from rfl, hscan] at hnil
  exact hne (List.append_eq_nil_iff.mp hnil).2

/-- **A type is read** in front of the name that has it. -/
theorem read_append (hts : IsType ts) (hus : Ahead.kind us = .identifier) :
    read (ts ++ us) = .found (join ts) us := by
  have hscan := scan_append (endsType_of_identifier hus) (.inl hts)
  have htaken : ((scan ts).append us).taken = ts := by
    have hdivides := divides_scan ts
    rwa [Divides, hts.2, List.append_nil] at hdivides
  have hrest : ((scan ts).append us).rest = us := congrArg (· ++ us) hts.2
  rw [read, hscan, if_pos (show ((scan ts).append us).complete = true from hts.1), htaken, hrest]

end TypeText

end ClassSchema

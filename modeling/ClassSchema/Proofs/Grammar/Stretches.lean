import ClassSchema.Proofs.Grammar.Groups
import ClassSchema.Proofs.Grammar.TypeTokens

/-!
# The stretches of a type

A type is read in five stretches, one behind the other. For each of them a lemma says what it finds,
as an equivalence: the stretch is complete with some tokens taken and others left just if these are
the tokens there were, the former are what the stretch looks for, and the latter do not go on with
it. What the tokens that are left go on with is said by the kinds of the first ones of them,
`Ahead.Begins`.

Two stretches behind each other are then two equivalences with a border between them,
`Stretch.andThen_eq_iff`. The hard one is that of the type arguments, where the tokens that are
taken are a group in angle brackets and the reading counts the depth, `TypeText.angleGroup_eq_iff`.
-/

namespace ClassSchema

/-! ## Kinds at the front -/

namespace Ahead

/-- The first tokens are of the given kinds. -/
def Begins (kinds : List Kind) (ts : List Token) : Prop := kinds <+: ts.map (·.kind)

instance (kinds : List Kind) (ts : List Token) : Decidable (Begins kinds ts) :=
  inferInstanceAs (Decidable (kinds <+: ts.map (·.kind)))

/-- Pairs of tokens of two kinds. -/
def PairsOf (left right : Kind) (pairs : List (Token × Token)) : Prop :=
  ∀ pair ∈ pairs, pair.1.kind = left ∧ pair.2.kind = right

/-- The tokens of some pairs. -/
def flatten (pairs : List (Token × Token)) : List Token :=
  pairs.flatMap fun pair ↦ [pair.1, pair.2]

theorem begins_cons_iff {kind : Kind} {kinds : List Kind} {t : Token} {ts : List Token} :
    Begins (kind :: kinds) (t :: ts) ↔ t.kind = kind ∧ Begins kinds ts := by
  rw [Begins, List.map_cons, List.cons_prefix_cons, eq_comm]
  rfl

theorem begins_nil (ts : List Token) : Begins [] ts := List.nil_prefix

theorem not_begins_nil (kind : Kind) (kinds : List Kind) : ¬Begins (kind :: kinds) [] := by
  rintro ⟨rest, hrest⟩
  cases hrest

/-- A token of another kind behind the tokens makes no difference. -/
theorem begins_append_cons_iff {kinds : List Kind} {last : Token} (hlast : last.kind ∉ kinds)
    (ts rest : List Token) : Begins kinds (ts ++ last :: rest) ↔ Begins kinds ts := by
  induction ts generalizing kinds with
  | nil =>
    cases kinds with
    | nil => exact iff_of_true (begins_nil _) (begins_nil _)
    | cons kind kinds =>
      rw [List.nil_append, begins_cons_iff]
      exact iff_of_false (fun h ↦ hlast (h.1 ▸ List.mem_cons_self)) (not_begins_nil _ _)
  | cons t ts ih =>
    cases kinds with
    | nil => exact iff_of_true (begins_nil _) (begins_nil _)
    | cons kind kinds =>
      rw [List.cons_append, begins_cons_iff, begins_cons_iff,
        ih fun h ↦ hlast (List.mem_cons_of_mem _ h)]

theorem begins_iff_atMark (m : Mark) (ts : List Token) :
    Begins [.mark m] ts ↔ atMark m ts = true := by
  cases ts with
  | nil => exact iff_of_false (not_begins_nil _ _) Bool.false_ne_true
  | cons t ts =>
    rw [begins_cons_iff, atMark, decide_eq_true_iff]
    exact and_iff_left (begins_nil ts)

private theorem exists_of_begins {kinds : List Kind} {ts : List Token} (h : Begins kinds ts) :
    ∃ front us, front.map (·.kind) = kinds ∧ ts = front ++ us := by
  obtain ⟨others, hothers⟩ := h
  obtain ⟨front, us, rfl, hfront, -⟩ := List.map_eq_append_iff.mp hothers.symm
  exact ⟨front, us, hfront, rfl⟩

private theorem exists_eq_cons_of_atMark {m : Mark} {ts : List Token} (h : atMark m ts = true) :
    ∃ t us, ts = t :: us := by
  cases ts with
  | nil => exact absurd h Bool.false_ne_true
  | cons t us => exact ⟨t, us, rfl⟩

theorem mem_flatten_iff {pairs : List (Token × Token)} {t : Token} :
    t ∈ flatten pairs ↔ ∃ pair ∈ pairs, t = pair.1 ∨ t = pair.2 := by
  simp [flatten]

theorem not_begins_of_begins {kind kind' : Kind} {kinds : List Kind} {ts : List Token}
    (h : Begins [kind] ts) (hne : kind ≠ kind') : ¬Begins (kind' :: kinds) ts := by
  intro h'
  cases ts with
  | nil => exact not_begins_nil _ _ h
  | cons t ts => exact hne ((begins_cons_iff.mp h).1.symm.trans (begins_cons_iff.mp h').1)

private theorem flatten_cons_append (pair : Token × Token) (pairs : List (Token × Token))
    (ts : List Token) :
    flatten (pair :: pairs) ++ ts = pair.1 :: pair.2 :: (flatten pairs ++ ts) := rfl

end Ahead

open Ahead (Begins PairsOf flatten begins_cons_iff begins_nil not_begins_nil begins_append_cons_iff
  begins_iff_atMark exists_of_begins not_begins_of_begins flatten_cons_append mem_flatten_iff)

/-! ## One stretch after the other -/

theorem Stretch.andThen_eq_iff {s : Stretch} {next : List Token → Stretch}
    {taken rest : List Token} :
    s.andThen next = ⟨taken, rest, true⟩ ↔
      ∃ front between behind, s = ⟨front, between, true⟩ ∧
        next between = ⟨behind, rest, true⟩ ∧ taken = front ++ behind := by
  obtain ⟨front, between, complete⟩ := s
  rw [andThen]
  constructor
  · intro h
    split at h
    · rename_i hcomplete
      obtain rfl : complete = true := hcomplete
      obtain ⟨htaken, hrest, hnext⟩ := Stretch.mk.inj h
      refine ⟨front, between, (next between).taken, rfl, ?_, htaken.symm⟩
      rw [← hrest, ← hnext]
    · rename_i hcomplete
      exact absurd (congrArg Stretch.complete h) hcomplete
  · rintro ⟨front', between', behind, hs, hnext, rfl⟩
    obtain ⟨rfl, rfl, rfl⟩ := Stretch.mk.inj hs
    rw [if_pos rfl, hnext]

theorem Stretch.keep_eq_iff {s : Stretch} {t : Token} {taken rest : List Token} :
    (⟨t :: s.taken, s.rest, s.complete⟩ : Stretch) = ⟨taken, rest, true⟩ ↔
      ∃ behind, taken = t :: behind ∧ s = ⟨behind, rest, true⟩ := by
  constructor
  · intro h
    obtain ⟨rfl, rfl, hcomplete⟩ := Stretch.mk.inj h
    refine ⟨s.taken, rfl, ?_⟩
    rw [← hcomplete]
  · rintro ⟨behind, rfl, rfl⟩
    rfl

namespace TypeText

variable {ts taken rest : List Token} {pairs : List (Token × Token)}

theorem startsType_iff (kind : Kind) :
    kind.startsType = true ↔ kind = .identifier ∨
      ∃ word : Keyword, word.isPrimitiveType = true ∧ kind = .keyword word := by
  cases kind <;> simp [Kind.startsType]

theorem head_eq_iff :
    head ts = ⟨taken, rest, true⟩ ↔
      ∃ t, t.kind.startsType = true ∧ taken = [t] ∧ ts = t :: rest := by
  constructor
  · intro h
    cases ts with
    | nil => cases h
    | cons t ts =>
      rw [head] at h
      split at h
      · obtain ⟨rfl, rfl, -⟩ := Stretch.mk.inj h
        exact ⟨t, ‹_›, rfl, rfl⟩
      · cases h
  · rintro ⟨t, ht, rfl, rfl⟩
    rw [head, if_pos ht]

theorem isPair_iff (dot name : Token) :
    (dot.isMark .dot && decide (name.kind = .identifier)) = true ↔
      dot.kind = .mark .dot ∧ name.kind = .identifier := by
  rw [Bool.and_eq_true, Token.isMark, decide_eq_true_iff, decide_eq_true_iff]

/-- The names that are found are pairs in a row, and no pair comes behind them. -/
theorem dottedNames_spec (ts : List Token) :
    PairsOf (.mark .dot) .identifier (Ahead.dottedNames (· = .identifier) ts).1 ∧
      ¬Begins [.mark .dot, .identifier] (Ahead.dottedNames (· = .identifier) ts).2 := by
  fun_induction Ahead.dottedNames (· = .identifier) ts with
  | case1 dot name ts hpair names rest heq ih =>
    rw [heq] at ih
    exact ⟨List.forall_mem_cons.mpr ⟨(isPair_iff dot name).mp hpair, ih.1⟩, ih.2⟩
  | case2 dot name ts hpair =>
    refine ⟨List.forall_mem_nil _, fun hbegins ↦ hpair ((isPair_iff dot name).mpr ?_)⟩
    rw [begins_cons_iff, begins_cons_iff] at hbegins
    exact ⟨hbegins.1, hbegins.2.1⟩
  | case3 ts hshort =>
    refine ⟨List.forall_mem_nil _, fun hbegins ↦ ?_⟩
    obtain _ | ⟨dot, _ | ⟨name, ts⟩⟩ := ts
    · exact not_begins_nil _ _ hbegins
    · exact not_begins_nil _ _ (begins_cons_iff.mp hbegins).2
    · exact hshort dot name ts rfl

private theorem dottedNames_of_not_begins (h : ¬Begins [.mark .dot, .identifier] ts) :
    Ahead.dottedNames (· = .identifier) ts = ([], ts) := by
  obtain _ | ⟨dot, _ | ⟨name, ts⟩⟩ := ts
  · rfl
  · rfl
  · rw [Ahead.dottedNames, if_neg]
    intro hpair
    obtain ⟨hdot, hname⟩ := (isPair_iff dot name).mp hpair
    exact h (begins_cons_iff.mpr ⟨hdot, begins_cons_iff.mpr ⟨hname, begins_nil ts⟩⟩)

/-- The pairs of a dot and a name are all that there are. -/
theorem path_eq_iff :
    path ts = ⟨taken, rest, true⟩ ↔
      ∃ pairs, PairsOf (.mark .dot) .identifier pairs ∧
        ¬Begins [.mark .dot, .identifier] rest ∧ taken = flatten pairs ∧
        ts = flatten pairs ++ rest := by
  constructor
  · intro h
    have hdivides := divides_path ts
    have hspec := dottedNames_spec ts
    rw [h] at hdivides
    obtain ⟨rfl, rfl, -⟩ := Stretch.mk.inj h
    exact ⟨_, hspec.1, hspec.2, rfl, hdivides.symm⟩
  · rintro ⟨pairs, hpairs, hrest, rfl, rfl⟩
    have hnames := @Ahead.dottedNames_pairs_append (· = .identifier) pairs
      (fun pair hpair ↦ (hpairs pair hpair).imp_right decide_eq_true) rest
    rw [dottedNames_of_not_begins hrest, List.append_nil] at hnames
    rw [path, flatten, hnames]

/-! ## Type arguments -/

private theorem angleGroup_cons {depth : Nat} (hdepth : 0 < depth) {t : Token}
    (ht : Skip.endsHeader t.kind = false) :
    angleGroup depth (t :: ts) =
      let behind := Skip.depthBehind .openAngle .closeAngle depth t
      if behind = 0 then ⟨[t], ts, true⟩
      else ⟨t :: (angleGroup behind ts).taken, (angleGroup behind ts).rest,
        (angleGroup behind ts).complete⟩ := by
  rw [angleGroup, Skip.depthBehind]
  split
  · rw [if_neg (Nat.succ_ne_zero depth)]
  · split
    · have hiff : depth ≤ 1 ↔ depth - 1 = 0 := by omega
      simp only [hiff]
    · simp only [if_neg hdepth.ne', ht, if_neg Bool.false_ne_true]

/-- The tokens `taken` at the front of `ts` close `depth` groups, with no brace and no semicolon
among them. -/
structure ClosesFront (depth : Nat) (ts taken rest : List Token) : Prop where
  closes : Skip.Closes .openAngle .closeAngle depth taken
  inside : ∀ t ∈ taken, Skip.endsHeader t.kind = false
  split : ts = taken ++ rest

theorem ClosesFront.exists_eq_cons {depth : Nat} (hdepth : 0 < depth)
    (h : ClosesFront depth ts taken rest) : ∃ t behind, taken = t :: behind := by
  cases taken with
  | nil => exact absurd (Skip.closes_nil.mp h.closes) hdepth.ne'
  | cons t behind => exact ⟨t, behind, rfl⟩

private theorem closesFront_cons_iff {depth : Nat} (hdepth : 0 < depth) {t : Token}
    (ht : Skip.endsHeader t.kind = false) :
    ClosesFront depth (t :: ts) taken rest ↔
      ∃ behind, taken = t :: behind ∧
        ClosesFront (Skip.depthBehind .openAngle .closeAngle depth t) ts behind rest := by
  have hne : Mark.openAngle ≠ .closeAngle := by decide
  constructor
  · intro h
    obtain ⟨first, behind, rfl⟩ := h.exists_eq_cons hdepth
    obtain ⟨rfl, hsplit⟩ := List.cons.inj h.split
    exact ⟨behind, rfl, (Skip.closes_cons hne hdepth).mp h.closes,
      (List.forall_mem_cons.mp h.inside).2, hsplit⟩
  · rintro ⟨behind, rfl, h⟩
    exact ⟨(Skip.closes_cons hne hdepth).mpr h.closes, List.forall_mem_cons.mpr ⟨ht, h.inside⟩,
      congrArg (t :: ·) h.split⟩

/-- Inside of some open groups the tokens up to the end of the last of them are taken. -/
theorem angleGroup_eq_iff {depth : Nat} (hdepth : 0 < depth) :
    angleGroup depth ts = ⟨taken, rest, true⟩ ↔ ClosesFront depth ts taken rest := by
  induction ts generalizing depth taken with
  | nil =>
    refine iff_of_false nofun fun h ↦ ?_
    obtain ⟨t, behind, rfl⟩ := h.exists_eq_cons hdepth
    cases h.split
  | cons t ts ih =>
    cases ht : Skip.endsHeader t.kind with
    | true =>
      rw [angleGroup_of_barred (show Barred (t :: ts) from ht)]
      refine iff_of_false nofun fun h ↦ ?_
      obtain ⟨first, behind, rfl⟩ := h.exists_eq_cons hdepth
      obtain ⟨rfl, -⟩ := List.cons.inj h.split
      rw [h.inside t List.mem_cons_self] at ht
      cases ht
    | false =>
      rw [angleGroup_cons hdepth ht, closesFront_cons_iff hdepth ht]
      dsimp only
      -- either this token closes the group, or the rest closes what is left open
      by_cases hzero : Skip.depthBehind .openAngle .closeAngle depth t = 0
      · rw [if_pos hzero, hzero]
        constructor
        · intro h
          obtain ⟨rfl, rfl, -⟩ := Stretch.mk.inj h
          exact ⟨[], rfl, Skip.closes_nil.mpr rfl, List.forall_mem_nil _, rfl⟩
        · rintro ⟨behind, rfl, h⟩
          obtain rfl := Skip.closes_zero.mp h.closes
          rw [h.split, List.nil_append]
      · rw [if_neg hzero, Stretch.keep_eq_iff]
        exact exists_congr fun behind ↦ and_congr_right fun _ ↦ ih (Nat.pos_of_ne_zero hzero)

/-- Type arguments are taken up to the angle bracket that matches the first one. -/
theorem arguments_eq_iff :
    arguments ts = ⟨taken, rest, true⟩ ↔
      (taken = [] ∧ ¬Begins [.mark .openAngle] rest ∨
        Skip.IsGroup .openAngle .closeAngle taken ∧ ∀ t ∈ taken, Skip.endsHeader t.kind = false) ∧
      ts = taken ++ rest := by
  have hne : Mark.openAngle ≠ .closeAngle := by decide
  by_cases hopen : Ahead.atMark .openAngle ts = true
  · obtain ⟨t, ts, rfl⟩ := Ahead.exists_eq_cons_of_atMark hopen
    have ht : t.isMark .openAngle = true := hopen
    rw [arguments, if_pos hopen, angleGroup, if_pos ht, Stretch.keep_eq_iff]
    constructor
    · rintro ⟨behind, rfl, hstretch⟩
      obtain ⟨hcloses, hinside, rfl⟩ := (angleGroup_eq_iff Nat.one_pos).mp hstretch
      have hheader : Skip.endsHeader t.kind = false := by
        rw [of_decide_eq_true ht]
        rfl
      exact ⟨.inr ⟨hcloses.isGroup hne ht, List.forall_mem_cons.mpr ⟨hheader, hinside⟩⟩, rfl⟩
    · rintro ⟨⟨rfl, hbegins⟩ | ⟨hgroup, hinside⟩, hsplit⟩
      · rw [hsplit] at hopen
        exact absurd ((begins_iff_atMark ..).mpr hopen) hbegins
      · obtain ⟨first, behind, rfl, -⟩ := hgroup.exists_eq_cons
        obtain ⟨rfl, hbehind⟩ := List.cons.inj hsplit
        exact ⟨behind, rfl, (angleGroup_eq_iff Nat.one_pos).mpr
          ⟨hgroup.closes hne, (List.forall_mem_cons.mp hinside).2, hbehind⟩⟩
  · rw [arguments, if_neg hopen]
    constructor
    · intro h
      obtain ⟨rfl, rfl, -⟩ := Stretch.mk.inj h
      exact ⟨.inl ⟨rfl, mt (begins_iff_atMark ..).mp hopen⟩, rfl⟩
    · rintro ⟨⟨rfl, -⟩ | ⟨hgroup, -⟩, rfl⟩
      · rfl
      · obtain ⟨first, behind, rfl, hfirst⟩ := hgroup.exists_eq_cons
        exact absurd hfirst hopen

/-! ## Square brackets and dots -/

theorem dimensions_flatten_append
    (hpairs : PairsOf (.mark .openBracket) (.mark .closeBracket) pairs) (ts : List Token) :
    dimensions (flatten pairs ++ ts) =
      ⟨flatten pairs ++ (dimensions ts).taken, (dimensions ts).rest, (dimensions ts).complete⟩ := by
  induction pairs with
  | nil => rfl
  | cons pair pairs ih =>
    obtain ⟨⟨hopen, hclose⟩, hpairs⟩ := List.forall_mem_cons.mp hpairs
    have hisOpen : pair.1.isMark .openBracket = true := decide_eq_true hopen
    have hisClose : pair.2.isMark .closeBracket = true := decide_eq_true hclose
    rw [flatten_cons_append, dimensions, if_pos hisOpen, if_pos hisClose, ih hpairs]
    rfl

private theorem dimensions_of_not_begins (h : ¬Begins [.mark .openBracket] ts) :
    dimensions ts = .nothing ts := by
  cases ts with
  | nil => rfl
  | cons t ts =>
    rw [begins_iff_atMark] at h
    unfold dimensions
    exact if_neg h

/-- A bracket that is opened and not closed at once leaves the stretch incomplete. -/
theorem complete_dimensions_eq_false (hopen : Begins [.mark .openBracket] ts)
    (hclose : ¬Begins [.mark .openBracket, .mark .closeBracket] ts) :
    (dimensions ts).complete = false := by
  obtain _ | ⟨t, ts⟩ := ts
  · exact absurd hopen (not_begins_nil _ _)
  · have ht : t.kind = .mark .openBracket := (begins_cons_iff.mp hopen).1
    have hisOpen : t.isMark .openBracket = true := decide_eq_true ht
    cases ts with
    | nil => rw [dimensions, if_pos hisOpen]
    | cons u us =>
      have hu : ¬u.isMark .closeBracket = true := fun hu ↦ hclose <| begins_cons_iff.mpr
        ⟨ht, begins_cons_iff.mpr ⟨of_decide_eq_true hu, begins_nil us⟩⟩
      rw [dimensions, if_pos hisOpen, if_neg hu]

/-- What is taken are pairs of brackets. -/
theorem dimensions_spec (h : (dimensions ts).complete = true) :
    ∃ pairs, PairsOf (.mark .openBracket) (.mark .closeBracket) pairs ∧
      ¬Begins [.mark .openBracket] (dimensions ts).rest ∧
      (dimensions ts).taken = flatten pairs := by
  fun_induction dimensions ts with
  | case1 => exact ⟨[], List.forall_mem_nil _, not_begins_nil _ _, rfl⟩
  | case2 => cases h
  | case3 t hopen u us hclose s ih =>
    obtain ⟨pairs, hpairs, hrest, htaken⟩ := ih h
    refine ⟨(t, u) :: pairs, List.forall_mem_cons.mpr ⟨?_, hpairs⟩, hrest, ?_⟩
    · exact ⟨of_decide_eq_true hopen, of_decide_eq_true hclose⟩
    · rw [htaken]
      rfl
  | case4 => cases h
  | case5 t ts hopen =>
    refine ⟨[], List.forall_mem_nil _, fun hbegins ↦ hopen ?_, rfl⟩
    exact (begins_iff_atMark ..).mp hbegins

/-- The pairs of brackets are all that there are, and no bracket is left behind them. -/
theorem dimensions_eq_iff :
    dimensions ts = ⟨taken, rest, true⟩ ↔
      ∃ pairs, PairsOf (.mark .openBracket) (.mark .closeBracket) pairs ∧
        ¬Begins [.mark .openBracket] rest ∧ taken = flatten pairs ∧
        ts = flatten pairs ++ rest := by
  constructor
  · intro h
    have hdivides := divides_dimensions ts
    obtain ⟨pairs, hpairs, hrest, htaken⟩ := @dimensions_spec ts (by rw [h])
    rw [h] at hdivides hrest htaken
    obtain rfl : taken = flatten pairs := htaken
    exact ⟨pairs, hpairs, hrest, rfl, hdivides.symm⟩
  · rintro ⟨pairs, hpairs, hrest, rfl, rfl⟩
    rw [dimensions_flatten_append hpairs, dimensions_of_not_begins hrest, Stretch.nothing,
      List.append_nil]

private theorem ellipsis_dots_append {dots : List Token}
    (hdots : dots.map (·.kind) = [.mark .dot, .mark .dot, .mark .dot]) (ts : List Token) :
    ellipsis (dots ++ ts) = ⟨dots, ts, true⟩ := by
  obtain ⟨a, others, rfl, ha, hothers⟩ := List.map_eq_cons_iff.mp hdots
  obtain ⟨b, others, rfl, hb, hothers⟩ := List.map_eq_cons_iff.mp hothers
  obtain ⟨c, others, rfl, hc, hothers⟩ := List.map_eq_cons_iff.mp hothers
  obtain rfl := List.map_eq_nil_iff.mp hothers
  have hall : (a.isMark .dot && b.isMark .dot && c.isMark .dot) = true := by
    rw [Token.isMark, Token.isMark, Token.isMark, ha, hb, hc]
    rfl
  exact if_pos hall

private theorem ellipsis_of_not_begins (h : ¬Begins [.mark .dot, .mark .dot, .mark .dot] ts) :
    ellipsis ts = .nothing ts := by
  obtain _ | ⟨a, _ | ⟨b, _ | ⟨c, ts⟩⟩⟩ := ts
  · rfl
  · rfl
  · rfl
  · refine if_neg fun hall ↦ h ?_
    rw [Bool.and_eq_true, Bool.and_eq_true] at hall
    obtain ⟨⟨ha, hb⟩, hc⟩ := hall
    exact begins_cons_iff.mpr ⟨of_decide_eq_true ha, begins_cons_iff.mpr ⟨of_decide_eq_true hb,
      begins_cons_iff.mpr ⟨of_decide_eq_true hc, begins_nil ts⟩⟩⟩

/-- Three dots are taken if they are there. -/
theorem ellipsis_eq_iff :
    ellipsis ts = ⟨taken, rest, true⟩ ↔
      (taken = [] ∧ ¬Begins [.mark .dot, .mark .dot, .mark .dot] rest ∨
        taken.map (·.kind) = [.mark .dot, .mark .dot, .mark .dot]) ∧
      ts = taken ++ rest := by
  constructor
  · intro h
    by_cases hbegins : Begins [.mark .dot, .mark .dot, .mark .dot] ts
    · obtain ⟨dots, us, hdots, rfl⟩ := exists_of_begins hbegins
      rw [ellipsis_dots_append hdots] at h
      obtain ⟨rfl, rfl, -⟩ := Stretch.mk.inj h
      exact ⟨.inr hdots, rfl⟩
    · rw [ellipsis_of_not_begins hbegins] at h
      obtain ⟨rfl, rfl, -⟩ := Stretch.mk.inj h
      exact ⟨.inl ⟨rfl, hbegins⟩, rfl⟩
  · rintro ⟨⟨rfl, hbegins⟩ | hdots, rfl⟩
    · exact ellipsis_of_not_begins hbegins
    · exact ellipsis_dots_append hdots rest

end TypeText

end ClassSchema

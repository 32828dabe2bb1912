import ClassSchema.Proofs.Grammar.Stretches
import ClassSchema.Proofs.Parser.Skips

/-!
# The parts of a type

A type has five parts: the token it starts with, the rest of a dotted name, type arguments, pairs of
square brackets, and three dots. `TypeText.Parts` are such parts, and `Parts.Longest` says that the
tokens behind them could not have gone on with any of them. With both the type at the front of some
tokens is determined, without a word about how it is found.

A part is what one stretch of the reading takes, so a type is found where its parts are,
`TypeText.scan_tokens_append`, and nowhere else, `TypeText.exists_parts_of_scan`. The rest is to see
that the end of the input is no part of a type, so that it does not matter that a reading does not
know of it.
-/

namespace ClassSchema

open Ahead (Begins PairsOf flatten begins_cons_iff begins_nil not_begins_nil begins_append_cons_iff
  begins_iff_atMark not_begins_of_begins mem_flatten_iff)

/-! ## Parts -/

namespace TypeText

/-- The parts of a type. -/
structure Parts where
  head : Token
  path : List (Token × Token)
  arguments : List Token
  dimensions : List (Token × Token)
  dots : List Token
  /-- It starts with a name or a primitive. -/
  head_kind : head.kind = .identifier ∨
    ∃ word : Keyword, word.isPrimitiveType = true ∧ head.kind = .keyword word
  path_kind : PairsOf (.mark .dot) .identifier path
  /-- Type arguments end with the angle bracket that matches the first one. -/
  arguments_group : arguments = [] ∨
    Skip.IsGroup .openAngle .closeAngle arguments ∧ ∀ t ∈ arguments, t.isBar = false
  dimensions_kind : PairsOf (.mark .openBracket) (.mark .closeBracket) dimensions
  dots_kind : dots = [] ∨ dots.map (·.kind) = [.mark .dot, .mark .dot, .mark .dot]

namespace Parts

variable (parts : Parts)

/-- The tokens of the parts in their order. -/
def tokens : List Token :=
  parts.head :: (flatten parts.path ++
    (parts.arguments ++ (flatten parts.dimensions ++ parts.dots)))

/-- No part goes on in what comes behind it, in front of `us`. -/
structure Longest (us : List Token) : Prop where
  path : ¬Begins [.mark .dot, .identifier]
    (parts.arguments ++ (flatten parts.dimensions ++ (parts.dots ++ us)))
  arguments : parts.arguments = [] →
    ¬Begins [.mark .openAngle] (flatten parts.dimensions ++ (parts.dots ++ us))
  dimensions : ¬Begins [.mark .openBracket] (parts.dots ++ us)
  dots : parts.dots = [] → ¬Begins [.mark .dot, .mark .dot, .mark .dot] us

end Parts

/-- A text is that of some tokens, with one space behind each comma and between two words in a row,
and with nothing between any other two. Words are names, numbers and the reserved words other than
`interface` and `enum`. -/
inductive Joined : List Token → String → Prop
  | single (t : Token) : Joined [t] t.text
  | spaced {left right : Token} {ts : List Token} {text : String}
    (h : left.kind = .mark .comma ∨ left.kind.isWord = true ∧ right.kind.isWord = true)
    (behind : Joined (right :: ts) text) :
    Joined (left :: right :: ts) (left.text ++ " " ++ text)
  | adjacent {left right : Token} {ts : List Token} {text : String}
    (h : ¬(left.kind = .mark .comma ∨ left.kind.isWord = true ∧ right.kind.isWord = true))
    (behind : Joined (right :: ts) text) :
    Joined (left :: right :: ts) (left.text ++ text)

private theorem joined_join (t : Token) (ts : List Token) : Joined (t :: ts) (join (t :: ts)) := by
  induction ts generalizing t with
  | nil =>
    rw [join, joinAfter, String.append_empty]
    exact .single t
  | cons right ts ih =>
    have hiff : (t.isMark .comma || t.kind.isWord && right.kind.isWord) = true ↔
        t.kind = .mark .comma ∨ t.kind.isWord = true ∧ right.kind.isWord = true := by
      rw [Bool.or_eq_true, Bool.and_eq_true, Token.isMark, decide_eq_true_iff]
    by_cases hgap : (t.isMark .comma || t.kind.isWord && right.kind.isWord) = true
    · have htext : join (t :: right :: ts) = t.text ++ " " ++ join (right :: ts) := by
        simp only [join, joinAfter, gap, if_pos hgap, String.append_assoc]
      rw [htext]
      exact .spaced (hiff.mp hgap) (ih right)
    · have htext : join (t :: right :: ts) = t.text ++ join (right :: ts) := by
        simp only [join, joinAfter, gap, if_neg hgap, String.empty_append]
      rw [htext]
      exact .adjacent (mt hiff.mpr hgap) (ih right)

variable {ts taken rest : List Token}

/-! ## The whole type -/

theorem Parts.tokens_append (parts : Parts) (rest : List Token) :
    parts.tokens ++ rest = parts.head :: (flatten parts.path ++
      (parts.arguments ++ (flatten parts.dimensions ++ (parts.dots ++ rest)))) := by
  rw [tokens, List.cons_append, List.append_assoc, List.append_assoc, List.append_assoc]

theorem Parts.front_path (parts : Parts) (h : ¬Begins [.mark .dot, .identifier] ts) :
    (TypeText.head (parts.head :: (flatten parts.path ++ ts))).andThen TypeText.path =
      ⟨parts.head :: flatten parts.path, ts, true⟩ :=
  Stretch.andThen_eq_iff.mpr ⟨[parts.head], _, flatten parts.path,
    head_eq_iff.mpr ⟨parts.head, (startsType_iff _).mpr parts.head_kind, rfl, rfl⟩,
    path_eq_iff.mpr ⟨parts.path, parts.path_kind, h, rfl, rfl⟩, rfl⟩

theorem Parts.front_arguments (parts : Parts)
    (hpath : ¬Begins [.mark .dot, .identifier] (parts.arguments ++ ts))
    (harguments : parts.arguments = [] → ¬Begins [.mark .openAngle] ts) :
    ((TypeText.head (parts.head :: (flatten parts.path ++ (parts.arguments ++ ts)))).andThen
        TypeText.path).andThen TypeText.arguments =
      ⟨parts.head :: flatten parts.path ++ parts.arguments, ts, true⟩ := by
  refine Stretch.andThen_eq_iff.mpr ⟨_, _, parts.arguments, parts.front_path hpath,
    arguments_eq_iff.mpr ⟨?_, rfl⟩, rfl⟩
  rcases parts.arguments_group with hnone | ⟨hgroup, hbars⟩
  · exact .inl ⟨hnone, harguments hnone⟩
  · exact .inr ⟨hgroup, fun t ht ↦ (Token.isBar_eq_false_iff.mp (hbars t ht)).1⟩

private theorem Parts.begins_dimensions (parts : Parts) (h : Begins [.mark .openBracket] ts) :
    Begins [.mark .openBracket] (flatten parts.dimensions ++ ts) := by
  cases hpairs : parts.dimensions with
  | nil => exact h
  | cons pair pairs =>
    have hpair := (parts.dimensions_kind pair (hpairs ▸ List.mem_cons_self)).1
    exact begins_cons_iff.mpr ⟨hpair, begins_nil _⟩

theorem Parts.not_begins_arguments (parts : Parts) (h : Begins [.mark .openBracket] ts) :
    ¬Begins [.mark .dot, .identifier] (parts.arguments ++ ts) := by
  rcases parts.arguments_group with hnone | ⟨hgroup, -⟩
  · rw [hnone, List.nil_append]
    exact not_begins_of_begins h (by decide)
  · obtain ⟨t, group, hcons, ht⟩ := hgroup.exists_eq_cons
    rw [hcons]
    have hangle : Begins [.mark .openAngle] (t :: group ++ ts) :=
      begins_cons_iff.mpr ⟨of_decide_eq_true ht, begins_nil _⟩
    exact not_begins_of_begins hangle (by decide)

/-- The end of the input is no part of a type. -/
theorem Parts.kind_ne_endOfInput (parts : Parts) : ∀ t ∈ parts.tokens, t.kind ≠ .endOfInput := by
  intro t ht hend
  simp only [tokens, List.mem_cons, List.mem_append, mem_flatten_iff] at ht
  rcases ht with rfl | ⟨pair, hpair, rfl | rfl⟩ | ht | ⟨pair, hpair, rfl | rfl⟩ | ht
  · rcases parts.head_kind with hkind | ⟨word, -, hkind⟩ <;> cases hkind.symm.trans hend
  · cases (parts.path_kind pair hpair).1.symm.trans hend
  · cases (parts.path_kind pair hpair).2.symm.trans hend
  · rcases parts.arguments_group with hnone | ⟨-, hbars⟩
    · rw [hnone] at ht
      cases ht
    · exact (Token.isBar_eq_false_iff.mp (hbars t ht)).2 hend
  · cases (parts.dimensions_kind pair hpair).1.symm.trans hend
  · cases (parts.dimensions_kind pair hpair).2.symm.trans hend
  · rcases parts.dots_kind with hnone | hdots
    · rw [hnone] at ht
      cases ht
    · have hkind : t.kind ∈ parts.dots.map (·.kind) := List.mem_map_of_mem ht
      rw [hdots, hend] at hkind
      exact absurd hkind (by decide)

/-- **A type is found where its parts are**, if no part goes on behind them. -/
theorem scan_tokens_append {parts : Parts} (h : parts.Longest rest) :
    scan (parts.tokens ++ rest) = ⟨parts.tokens, rest, true⟩ := by
  have htokens : parts.tokens = parts.head :: flatten parts.path ++ parts.arguments ++
      flatten parts.dimensions ++ parts.dots := by
    simp [Parts.tokens]
  have hdots : parts.dots = [] ∧ ¬Begins [.mark .dot, .mark .dot, .mark .dot] rest ∨
      parts.dots.map (·.kind) = [.mark .dot, .mark .dot, .mark .dot] := by
    rcases parts.dots_kind with hnone | hkinds
    · exact .inl ⟨hnone, h.dots hnone⟩
    · exact .inr hkinds
  have hdimensions : dimensions (flatten parts.dimensions ++ (parts.dots ++ rest)) =
      ⟨flatten parts.dimensions, parts.dots ++ rest, true⟩ :=
    dimensions_eq_iff.mpr ⟨parts.dimensions, parts.dimensions_kind, h.dimensions, rfl, rfl⟩
  rw [parts.tokens_append]
  exact Stretch.andThen_eq_iff.mpr ⟨_, _, parts.dots, Stretch.andThen_eq_iff.mpr
    ⟨_, _, flatten parts.dimensions, parts.front_arguments h.path h.arguments, hdimensions, rfl⟩,
    ellipsis_eq_iff.mpr ⟨hdots, rfl⟩, htokens⟩

/-- **A type is found nowhere else.** -/
theorem exists_parts_of_scan (hts : ∀ t ∈ ts, t.kind ≠ .endOfInput)
    (h : scan ts = ⟨taken, rest, true⟩) :
    ∃ parts : Parts, ts = parts.tokens ++ rest ∧ parts.Longest rest := by
  simp only [scan, Stretch.andThen_eq_iff] at h
  -- the scan is five stretches in a row, one for each part
  obtain ⟨_, _, dots, ⟨_, _, brackets, ⟨_, _, arguments, ⟨_, _, names, hhead, hnames, rfl⟩,
    harguments, rfl⟩, hbrackets, rfl⟩, hellipsis, rfl⟩ := h
  obtain ⟨head, hstarts, rfl, rfl⟩ := head_eq_iff.mp hhead
  obtain ⟨path, hpath, hpathEnd, rfl, rfl⟩ := path_eq_iff.mp hnames
  obtain ⟨hgroup, rfl⟩ := arguments_eq_iff.mp harguments
  obtain ⟨dimensions, hdimensions, hdimensionsEnd, rfl, rfl⟩ := dimensions_eq_iff.mp hbrackets
  obtain ⟨hdots, rfl⟩ := ellipsis_eq_iff.mp hellipsis
  -- nothing that ends a header is left in the arguments, and no end of the input
  have hbars : ∀ t ∈ arguments, Skip.endsHeader t.kind = false → t.isBar = false := by
    intro t ht hheader
    have hmem : t ∈ flatten path ++ (arguments ++ (flatten dimensions ++ (dots ++ rest))) :=
      List.mem_append_right _ (List.mem_append_left _ ht)
    exact Token.isBar_eq_false_iff.mpr ⟨hheader, hts t (List.mem_cons_of_mem _ hmem)⟩
  let parts : Parts := {
    head, path, arguments, dimensions, dots
    head_kind := (startsType_iff _).mp hstarts
    path_kind := hpath
    arguments_group := hgroup.imp (·.1) fun h ↦ ⟨h.1, fun t ht ↦ hbars t ht (h.2 t ht)⟩
    dimensions_kind := hdimensions
    dots_kind := hdots.imp_left (·.1) }
  refine ⟨parts, (parts.tokens_append rest).symm, hpathEnd,
    fun hnone : arguments = [] ↦ ?_, hdimensionsEnd, fun hnone : dots = [] ↦ ?_⟩
  · rcases hgroup with ⟨-, hbegins⟩ | ⟨hopens, -⟩
    · exact hbegins
    · rw [hnone] at hopens
      exact absurd hopens.opens Bool.false_ne_true
  · rcases hdots with ⟨-, hbegins⟩ | hkinds
    · exact hbegins
    · rw [hnone] at hkinds
      cases hkinds

/-! ## Types that are cut off -/

/-- A type whose first angle bracket matches none is incomplete. -/
theorem complete_scan_of_unmatched (parts : Parts) (hopen : Begins [.mark .openAngle] ts)
    (hgroup : ∀ group, group <+: ts → Skip.IsGroup .openAngle .closeAngle group →
      ∃ t ∈ group, Skip.endsHeader t.kind = true) :
    (scan (parts.head :: (flatten parts.path ++ ts))).complete = false := by
  refine eq_false_of_ne_true fun hcomplete ↦ ?_
  have hfront := parts.front_path (not_begins_of_begins hopen (by decide))
  have hbehind := complete_of_complete_andThen (complete_of_complete_andThen hcomplete)
  rw [hfront, Stretch.complete_andThen rfl] at hbehind
  have harguments : arguments ts = ⟨(arguments ts).taken, (arguments ts).rest, true⟩ := by
    rw [← hbehind]
  obtain ⟨⟨hnone, hrest⟩ | ⟨htaken, hinside⟩, hsplit⟩ := arguments_eq_iff.mp harguments
  · rw [hnone, List.nil_append] at hsplit
    exact hrest (hsplit ▸ hopen)
  · obtain ⟨t, ht, hbar⟩ := hgroup _ ⟨_, hsplit.symm⟩ htaken
    rw [hinside t ht] at hbar
    cases hbar

theorem complete_scan_of_unclosed (parts : Parts) (hopen : Begins [.mark .openBracket] ts)
    (hclose : ¬Begins [.mark .openBracket, .mark .closeBracket] ts) :
    (scan (parts.head :: (flatten parts.path ++ (parts.arguments ++
      (flatten parts.dimensions ++ ts))))).complete = false := by
  refine eq_false_of_ne_true fun hcomplete ↦ ?_
  have hbrackets := parts.begins_dimensions hopen
  have hfront := parts.front_arguments
    (parts.not_begins_arguments hbrackets) fun _ ↦ not_begins_of_begins hbrackets (by decide)
  have hbehind := complete_of_complete_andThen hcomplete
  rw [hfront, Stretch.complete_andThen rfl,
    dimensions_flatten_append parts.dimensions_kind] at hbehind
  exact ne_true_of_eq_false (complete_dimensions_eq_false hopen hclose) hbehind

/-! ## Parsers -/

/-- The end token goes on with no part. -/
theorem Parts.longest_append_iff (parts : Parts) {last : Token} (hlast : last.kind = .endOfInput)
    (us beyond : List Token) : parts.Longest (us ++ last :: beyond) ↔ parts.Longest us := by
  have hbegins {kinds : List Kind} (hkinds : .endOfInput ∉ kinds) (front : List Token) :
      Begins kinds (front ++ (us ++ last :: beyond)) ↔ Begins kinds (front ++ us) := by
    rw [← List.append_assoc, begins_append_cons_iff (hlast ▸ hkinds)]
  have hpath := @hbegins [.mark .dot, .identifier] (by decide)
    (parts.arguments ++ (flatten parts.dimensions ++ parts.dots))
  have harguments := @hbegins [.mark .openAngle] (by decide)
    (flatten parts.dimensions ++ parts.dots)
  have hdimensions := @hbegins [.mark .openBracket] (by decide) parts.dots
  have hdots := @hbegins [.mark .dot, .mark .dot, .mark .dot] (by decide) []
  simp only [List.append_assoc] at hpath harguments
  constructor
  · intro h
    exact ⟨mt hpath.mpr h.path, fun hnone ↦ mt harguments.mpr (h.arguments hnone),
      mt hdimensions.mpr h.dimensions, fun hnone ↦ mt hdots.mpr (h.dots hnone)⟩
  · intro h
    exact ⟨mt hpath.mp h.path, fun hnone ↦ mt harguments.mp (h.arguments hnone),
      mt hdimensions.mp h.dimensions, fun hnone ↦ mt hdots.mp (h.dots hnone)⟩

end TypeText

namespace Parser

open TypeText

variable {ts : List Token} {p : Parser}

/-- What can be relied on when a parser reads a type. -/
structure ReadsType (p : Parser) : Prop where
  /-- Where the parts of a type come next, and no part goes on behind them, the type is read up to
  their end. -/
  present (parts : Parts) (us : List Token) : p.remaining = parts.tokens ++ us → parts.Longest us →
    ∃ text, Joined parts.tokens text ∧
      Construct.type.rule p = (.present (.text text), p.advance parts.tokens.length) ∧
      (p.advance parts.tokens.length).position = p.position + parts.tokens.length
  /-- Otherwise there is no type. -/
  absent : (∀ (parts : Parts) (us : List Token), p.remaining = parts.tokens ++ us →
    ¬parts.Longest us) → (Construct.type.rule p).1 = .absent
  /-- There is none if an angle bracket opens type arguments and no bracket matches it in front of a
  semicolon, a brace or the end. -/
  unmatched (parts : Parts) (us : List Token) : p.remaining = parts.tokens ++ us →
    parts.arguments = [] → parts.dimensions = [] → parts.dots = [] → Begins [.mark .openAngle] us →
    (∀ group, group <+: us → Skip.IsGroup .openAngle .closeAngle group →
      ∃ t ∈ group, t.isBar = true) → (Construct.type.rule p).1 = .absent
  /-- There is none if a square bracket is opened and not closed at once. -/
  unclosed (parts : Parts) (us : List Token) : p.remaining = parts.tokens ++ us →
    parts.dots = [] → Begins [.mark .openBracket] us →
    ¬Begins [.mark .openBracket, .mark .closeBracket] us → (Construct.type.rule p).1 = .absent

private theorem type_of_found {text : String} {rest : List Token}
    (h : TypeText.read p.ahead = .found text rest) :
    Construct.type.rule p = (.present (.text text), p.settle rest) := by
  simp only [Construct.rule, Rule.bind, Rule.reading, h, Rule.pure]

private theorem type_of_incomplete (h : (scan p.ahead).complete = false) :
    (Construct.type.rule p).1 = .absent := by
  have hread : TypeText.read p.ahead = .missed .absent (scan p.ahead).rest := by
    rw [TypeText.read, h]
    rfl
  simp only [Construct.rule, Rule.bind, Rule.reading, hread]

/-- **A type is read up to the end of its parts**, wherever a parser stands and whatever its tokens
are. -/
theorem readsType (h : p.StandsIn ts) : ReadsType p := by
  have hinside : ∀ t ∈ p.ahead, t.kind ≠ .endOfInput := fun t ht ↦
    h.inside t (List.mem_append_right _ ht)
  constructor
  case present =>
    intro parts us hsplit hlongest
    obtain ⟨behind, hahead, rfl⟩ := h.exists_ahead_eq hsplit parts.kind_ne_endOfInput
    rw [parts.longest_append_iff h.final_kind] at hlongest
    have hread : TypeText.read p.ahead = .found (join parts.tokens) behind := by
      rw [TypeText.read, hahead, scan_tokens_append hlongest]
      rfl
    refine ⟨join parts.tokens, joined_join _ _, ?_, position_advance ?_⟩
    · rw [type_of_found hread, settle_eq_advance hahead]
    · rw [hahead, List.length_append]
      exact Nat.le_add_right _ _
  case absent =>
    intro hnone
    refine type_of_incomplete (eq_false_of_ne_true fun hcomplete ↦ ?_)
    have hscan : scan p.ahead = ⟨(scan p.ahead).taken, (scan p.ahead).rest, true⟩ := by
      rw [← hcomplete]
    obtain ⟨parts, hahead, hlongest⟩ := exists_parts_of_scan hinside hscan
    refine hnone parts ((scan p.ahead).rest ++ p.final :: p.beyond) ?_
      ((parts.longest_append_iff h.final_kind _ _).mpr hlongest)
    rw [← List.append_assoc, ← hahead, remaining]
  case unmatched =>
    intro parts us hsplit harguments hdimensions hdots hopen hmatch
    obtain ⟨behind, hahead, rfl⟩ := h.exists_ahead_eq hsplit parts.kind_ne_endOfInput
    rw [begins_append_cons_iff (by rw [h.final_kind]; decide)] at hopen
    rw [parts.tokens_append, harguments, hdimensions, hdots] at hahead
    refine type_of_incomplete ?_
    rw [hahead]
    refine complete_scan_of_unmatched parts hopen fun group hgroup hmatched ↦ ?_
    obtain ⟨t, ht, hbar⟩ := hmatch group (hgroup.trans (List.prefix_append _ _)) hmatched
    have hmem : t ∈ p.ahead := by
      rw [hahead]
      exact List.mem_cons_of_mem _ (List.mem_append_right _ (hgroup.subset ht))
    refine ⟨t, ht, eq_true_of_ne_false fun hheader ↦ ?_⟩
    exact ne_true_of_eq_false
      (Token.isBar_eq_false_iff.mpr ⟨hheader, hinside t hmem⟩) hbar
  case unclosed =>
    intro parts us hsplit hdots hopen hclose
    obtain ⟨behind, hahead, rfl⟩ := h.exists_ahead_eq hsplit parts.kind_ne_endOfInput
    rw [begins_append_cons_iff (by rw [h.final_kind]; decide)] at hopen hclose
    rw [parts.tokens_append, hdots] at hahead
    refine type_of_incomplete ?_
    rw [hahead]
    exact complete_scan_of_unclosed parts hopen hclose

/-- The tokens of `M < A , B < C extends D > > [ ] . . . x`. -/
def nestedArguments : List Token :=
  [(Kind.identifier, "M"), (.mark .openAngle, "<"), (.identifier, "A"), (.mark .comma, ","),
    (.identifier, "B"), (.mark .openAngle, "<"), (.identifier, "C"),
    (.keyword .extendsWord, "extends"), (.identifier, "D"), (.mark .closeAngle, ">"),
    (.mark .closeAngle, ">"), (.mark .openBracket, "["), (.mark .closeBracket, "]"),
    (.mark .dot, "."), (.mark .dot, "."), (.mark .dot, "."), (.identifier, "x")].zipIdx.map
    fun ((kind, text), i) ↦ .onFirstLine kind text (2 * i)

theorem readsType_nestedArguments :
    StandsIn (closed nestedArguments) (ofTokens nestedArguments) ∧
      ReadsType (ofTokens nestedArguments) ∧
      (Construct.type.rule (ofTokens nestedArguments)).1 =
        .present (.text "M<A, B<C extends D>>[]...") ∧
      (Construct.type.rule (ofTokens nestedArguments)).2.position = 16 :=
  ⟨standsIn_ofTokens nestedArguments none, readsType (standsIn_ofTokens nestedArguments none), by
    cbv, by decide +kernel⟩

end Parser

end ClassSchema

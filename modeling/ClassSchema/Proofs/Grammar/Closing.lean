import ClassSchema.Proofs.Member.Front
import ClassSchema.Proofs.Written.Annotation

/-!
# Where the arguments of an annotation end

Whatever stands between the parentheses of an annotation, it is passed over up to the first token
that ends it: the closing parenthesis, or a semicolon, a closing brace or the end of the input, for
which the arguments are not closed. Reading the arguments may stop early, at anything that it does
not understand, and the parenthesis is then looked for from there. What has to be seen is that it
does not stop late. No value and no pair takes one of these tokens, so what is left is an end of the
arguments with that token behind it, `Arguments.exists_read_append`, and the search goes on to that
token.

Values in braces are the exception. They take all tokens up to the brace that closes them, so a
brace that opens one must not come first.
-/

namespace ClassSchema

namespace Arguments

/-- The kinds of the tokens that end the arguments of an annotation. -/
def isEnd (kind : Kind) : Bool :=
  kind = .mark .closeParen || kind = .mark .semicolon || kind = .mark .closeBrace

/-- A token among the arguments: it does not end them, it opens no value in braces, and it is no
integer that is too long to be read. -/
structure IsInside (t : Token) : Prop where
  isEnd_eq : isEnd t.kind = false
  kind_ne : t.kind ≠ .mark .openBrace
  readable : t.kind = .number → ¬Numeral.IsLongInteger t.text

instance (t : Token) : Decidable (IsInside t) :=
  decidable_of_iff (isEnd t.kind = false ∧ t.kind ≠ .mark .openBrace ∧
      (t.kind = .number → ¬Numeral.IsLongInteger t.text))
    ⟨fun ⟨hend, hbrace, hreadable⟩ ↦ ⟨hend, hbrace, hreadable⟩,
      fun h ↦ ⟨h.isEnd_eq, h.kind_ne, h.readable⟩⟩

/-- The arguments end in front of `us`: at a token that ends them, or with the input. -/
def EndIn (us : List Token) : Prop := ∀ t ∈ us.head?, isEnd t.kind = true

instance (us : List Token) : Decidable (EndIn us) :=
  inferInstanceAs (Decidable (∀ t ∈ us.head?, isEnd t.kind = true))

variable {source : Option (List Char)} {args us : List Token}

/-! ## Tokens in front of the end -/

theorem kind_of_isEnd {kind : Kind} (h : isEnd kind = true) :
    kind = .mark .closeParen ∨ kind = .mark .semicolon ∨ kind = .mark .closeBrace := by
  simpa [isEnd, or_assoc] using h

theorem EndIn.kind_ne (h : EndIn us) {kind : Kind} (hkind : isEnd kind = false)
    (hend : kind ≠ .endOfInput) : Ahead.kind us ≠ kind := by
  cases us with
  | nil => exact fun hnil ↦ hend hnil.symm
  | cons t us =>
    rintro rfl
    exact absurd (h t rfl) (ne_true_of_eq_false hkind)

theorem EndIn.takeWhile_append (h : EndIn us) {test : Token → Bool}
    (htest : ∀ t, isEnd t.kind = true → test t = false) (args : List Token) :
    (args ++ us).takeWhile test = args.takeWhile test :=
  takeWhile_append_of_head (fun t ht ↦ htest t (h t ht)) args

/-! ## Values and pairs -/

/-- What was read among the arguments, or found to be absent, has left an end of them. -/
inductive ReadInside {α : Type} (args us : List Token) : Reading α → Prop
  | found (value : α) {rest : List Token} (suffix : rest <:+ args) :
    ReadInside args us (.found value (rest ++ us))
  | absent {rest : List Token} (suffix : rest <:+ args) :
    ReadInside args us (.missed .absent (rest ++ us))

private theorem value_of_endIn (hus : EndIn us) : value source us = .missed .absent us := by
  cases us with
  | nil => rfl
  | cons t us =>
    rcases kind_of_isEnd (hus t rfl) with hkind | hkind | hkind <;>
      simp [value, hkind, Kind.startsType]

theorem value_readInside (source : Option (List Char)) (hargs : ∀ t ∈ args, IsInside t)
    (hus : EndIn us) :
    ReadInside args us (value source (args ++ us)) := by
  cases args with
  | nil =>
    rw [List.nil_append, value_of_endIn hus]
    exact .absent (List.suffix_refl [])
  | cons t ts =>
    have ht := hargs t List.mem_cons_self
    -- a path, and so do strings in a row, ends in front of `us`
    have hname : isPathName (Ahead.kind us) = false :=
      Bool.or_eq_false_iff.mpr ⟨decide_eq_false (hus.kind_ne rfl (by decide)),
        decide_eq_false (hus.kind_ne rfl (by decide))⟩
    have hnames := @TypeText.dottedNames_append ts us isPathName
      (decide_eq_false (hus.kind_ne rfl (by decide))) (.inr hname)
    have hstrings : (ts ++ us).takeWhile (·.is .string) = ts.takeWhile (·.is .string) :=
      hus.takeWhile_append (fun u hu ↦ decide_eq_false fun h ↦ by rw [h] at hu; cases hu) ts
    have hrest : ts <:+ t :: ts := List.suffix_cons t ts
    rw [List.cons_append]
    simp only [value]
    split
    · rw [hstrings, List.drop_append_of_le_length (List.takeWhile_sublist _).length_le]
      exact .found _ ((List.drop_suffix _ ts).trans hrest)
    · rename_i hnumber
      split
      · exact absurd (Numeral.isLongInteger_of_read ‹_›) (ht.readable hnumber)
      · exact .absent hrest
      · exact .found _ hrest
    · exact .found _ hrest
    · exact .found _ hrest
    · exact absurd ‹_› ht.kind_ne
    · rw [hnames]
      split
      · exact .found _ ((Ahead.dottedNames_rest_suffix isPathName ts).trans hrest)
      · exact .absent (List.suffix_refl (t :: ts))

private theorem exists_of_atNameWith (hus : EndIn us)
    (h : Ahead.atNameWith .equal (args ++ us) = true) :
    ∃ key sign ts, args = key :: sign :: ts := by
  rw [Ahead.atNameWith, Bool.and_eq_true, decide_eq_true_iff, decide_eq_true_iff] at h
  obtain _ | ⟨key, _ | ⟨sign, ts⟩⟩ := args
  · exact absurd h.1 (hus.kind_ne rfl (by decide))
  · exact absurd h.2 (hus.kind_ne rfl (by decide))
  · exact ⟨key, sign, ts, rfl⟩

private theorem exists_pairs_append (source : Option (List Char)) (hargs : ∀ t ∈ args, IsInside t)
    (hus : EndIn us) (sofar : Assoc Argument) :
    ∃ table rest, rest <:+ args ∧ pairs source sofar (args ++ us) = .found table (rest ++ us) := by
  -- on the number of arguments, since each pair is followed by fewer of them
  induction hn : args.length using Nat.strongRecOn generalizing args sofar with
  | ind n ih =>
    cases hpair : Ahead.atNameWith .equal (args ++ us) with
    | false => exact ⟨sofar, args, List.suffix_refl _, pairs_of_no_pair source hpair⟩
    | true =>
      obtain ⟨key, sign, ts, rfl⟩ := exists_of_atNameWith hus hpair
      rw [List.cons_append, List.cons_append] at hpair ⊢
      have hts : ts <:+ key :: sign :: ts := ⟨[key, sign], rfl⟩
      have hvalue := value_readInside source (fun t ht ↦ hargs t (hts.subset ht)) hus
      rw [pairs_of_pair source (ts ++ us) hpair]
      generalize value source (ts ++ us) = r at hvalue ⊢
      cases hvalue with
      | absent suffix => exact ⟨sofar, _, suffix.trans hts, rfl⟩
      | @found argument rest suffix =>
        rw [Reading.elim]
        split
        · rename_i hcomma
          cases rest with
          | nil => exact absurd (of_decide_eq_true hcomma) (hus.kind_ne rfl (by decide))
          | cons comma others =>
            have hothers : others <:+ ts := (List.suffix_cons comma others).trans suffix
            have hlt : others.length < n := by
              have hle := hothers.length_le
              rw [← hn, List.length_cons, List.length_cons]
              omega
            obtain ⟨table, rest, hrest, hpairs⟩ := ih _ hlt
              (fun t ht ↦ hargs t (hts.subset (hothers.subset ht)))
              (sofar.put key.text argument) rfl
            exact ⟨table, rest, (hrest.trans hothers).trans hts, hpairs⟩
        · exact ⟨_, rest, suffix.trans hts, rfl⟩

/-- **Reading the arguments stops in front of their end**, wherever it does. -/
theorem exists_read_append (source : Option (List Char)) (hargs : ∀ t ∈ args, IsInside t)
    (hus : EndIn us) :
    ∃ table rest, rest <:+ args ∧ read source (args ++ us) = .found table (rest ++ us) := by
  rw [read_eq]
  split
  · exact ⟨[], args, List.suffix_refl _, rfl⟩
  · split
    · exact exists_pairs_append source hargs hus []
    · have hvalue := value_readInside source hargs hus
      generalize value source (args ++ us) = r at hvalue ⊢
      cases hvalue with
      | found argument suffix => exact ⟨_, _, suffix, rfl⟩
      | absent suffix => exact ⟨_, _, suffix, rfl⟩

/-! ## The closing parenthesis -/

theorem upTo_append (hargs : ∀ t ∈ args, IsInside t) (hus : EndIn us) :
    Skip.upTo (fun kind ↦ kind = .mark .closeParen || endsSearch kind) (args ++ us) =
      args.length := by
  have hstop (t : Token) (ht : isEnd t.kind = true) :
      (!(decide (t.kind = .mark .closeParen) || endsSearch t.kind)) = false := by
    rcases kind_of_isEnd ht with hkind | hkind | hkind <;> rw [hkind] <;> rfl
  have hpass : ∀ t ∈ args,
      (!(decide (t.kind = .mark .closeParen) || endsSearch t.kind)) = true := by
    intro t ht
    obtain ⟨hend, hbrace, -⟩ := hargs t ht
    rw [isEnd, Bool.or_eq_false_iff, Bool.or_eq_false_iff] at hend
    obtain ⟨⟨hclose, hsemicolon⟩, hcloseBrace⟩ := hend
    grind [endsSearch]
  rw [Skip.upTo, hus.takeWhile_append hstop, List.takeWhile_eq_self_iff.mpr hpass]

/-- **The closing parenthesis is passed, or what comes in its place is left.** -/
theorem close_append_of_endIn (hargs : ∀ t ∈ args, IsInside t) (hus : EndIn us) :
    close (args ++ us) =
      if Ahead.atMark .closeParen us then .found () (us.drop 1)
      else .missed .unclosedArguments us := by
  -- the arguments hold no closing parenthesis, so the search comes up to `us`
  by_cases hfront : Ahead.kind (args ++ us) = .mark .closeParen
  · have hat : Ahead.atMark .closeParen (args ++ us) = true := decide_eq_true hfront
    cases args with
    | nil => rw [close, if_pos hat, if_pos (show Ahead.atMark .closeParen us = true from hat)]; rfl
    | cons t args =>
      have hend := (hargs t List.mem_cons_self).isEnd_eq
      rw [show t.kind = .mark .closeParen from hfront] at hend
      cases hend
  · have hat : Ahead.atMark .closeParen (args ++ us) = false := decide_eq_false hfront
    have hleft : (args ++ us).drop args.length = us := List.drop_left
    have hbehind : (args ++ us).drop (args.length + 1) = us.drop 1 := by
      rw [← List.drop_drop, hleft]
    rw [close, if_neg (ne_true_of_eq_false hat), Skip.search, if_neg hfront,
      upTo_append hargs hus]
    dsimp only
    rw [hleft]
    cases us with
    | nil => exact congrArg _ hleft
    | cons u us =>
      by_cases hu : u.kind = .mark .closeParen
      · have hatClose : Ahead.atMark .closeParen (u :: us) = true := decide_eq_true hu
        simp only [hu, hatClose, if_true, hbehind]
      · have hatClose : Ahead.atMark .closeParen (u :: us) = false := decide_eq_false hu
        simp only [hu, hatClose, if_false, Bool.false_eq_true, hleft]

end Arguments

/-! ## The annotation -/

/-- The tokens of an annotation in front of its arguments: the sign, a name whose parts are joined
by dots, and the opening parenthesis. -/
structure AnnotationFront where
  sign : Token
  name : Token
  path : Ahead.Names
  opening : Token
  sign_kind : sign.kind = .mark .atSign
  name_kind : name.kind = .identifier
  path_kind : ∀ pair ∈ path, pair.1.kind = .mark .dot ∧ pair.2.kind = .identifier
  opening_kind : opening.kind = .mark .openParen

namespace AnnotationFront

variable (f : AnnotationFront)

/-- The tokens in their order. -/
def tokens : List Token :=
  f.sign :: f.name :: (f.path.flatMap (fun pair ↦ [pair.1, pair.2]) ++ [f.opening])

/-- The last part of the name. -/
def last : Token := (f.path.getLast?.map (·.2)).getD f.name

/-- The annotation with the given arguments. -/
def use (table : Assoc Argument) : AnnotationUse :=
  ⟨f.last.text, table, f.sign.line, f.sign.column⟩

variable {f} {source : Option (List Char)} {args us : List Token}

/-- The arguments are read behind the front of the annotation. -/
theorem use_tokens_append (source : Option (List Char)) (ts : List Token) :
    Arguments.use source (f.tokens ++ ts) =
      ((Arguments.read source ts).andThen fun table rest ↦
        (Arguments.close rest).map fun _ ↦ table).map f.use := by
  have hname : f.name.is .identifier = true := decide_eq_true f.name_kind
  have hpath (pair) (hpair : pair ∈ f.path) :
      pair.1.kind = .mark .dot ∧ decide (pair.2.kind = .identifier) = true :=
    (f.path_kind pair hpair).imp_right decide_eq_true
  have hend : Ahead.atMark .dot (f.opening :: ts) = false :=
    Token.isMark_of_kind f.opening_kind .dot
  rw [tokens, List.cons_append, List.cons_append, List.append_assoc, List.singleton_append,
    Arguments.use, if_pos hname, Ahead.dottedNames_pairs_append hpath,
    Ahead.dottedNames_of_atMark _ hend, List.append_nil]
  dsimp only
  rw [Written.parenthesized_cons f.opening_kind]
  rfl

theorem exists_use_append (source : Option (List Char))
    (hargs : ∀ t ∈ args, Arguments.IsInside t) (hus : Arguments.EndIn us) :
    ∃ table, Arguments.use source (f.tokens ++ (args ++ us)) =
      if Ahead.atMark .closeParen us then .found (f.use table) (us.drop 1)
      else .missed .unclosedArguments us := by
  obtain ⟨table, rest, hrest, hread⟩ := Arguments.exists_read_append source hargs hus
  refine ⟨table, ?_⟩
  rw [use_tokens_append, hread, Reading.andThen,
    Arguments.close_append_of_endIn (fun t ht ↦ hargs t (hrest.subset ht)) hus]
  split <;> rfl

/-- **The arguments of an annotation recover to the closing parenthesis.** Let the parser stand in
front of an annotation with arguments where no error has been reported, and let `us` start with the
first token that ends them. If that is a closing parenthesis, the annotation is found under the last
part of its name, and the parser has moved over the parenthesis and done nothing else. Otherwise the
annotation is absent and the parser has moved up to that token, with the one error that stands
there. -/
theorem reading_use {p : Parser} (hahead : p.ahead = f.tokens ++ (args ++ us))
    (herrors : p.errors = []) (hargs : ∀ t ∈ args, Arguments.IsInside t)
    (hus : Arguments.EndIn us) :
    let count := f.tokens.length + args.length
    let t := us.head?.getD p.final
    if Ahead.kind us = .mark .closeParen then
      ∃ table, Rule.reading Arguments.use p = (.present (f.use table), p.advance (count + 1))
    else
      Rule.reading Arguments.use p = (.absent,
        { p.advance count with errors := [Complaint.unclosedArguments.diagnosticAt t] }) := by
  intro count t
  obtain ⟨table, huse⟩ := f.exists_use_append p.source hargs hus
  split
  · rename_i hclose
    have hat : Ahead.atMark .closeParen us = true := decide_eq_true hclose
    rw [hat, if_pos rfl, ← hahead] at huse
    refine ⟨table, ?_⟩
    cases us with
    | nil => cases hclose
    | cons u us =>
      have hbehind : p.ahead = (f.tokens ++ args ++ [u]) ++ us := by
        rw [hahead, List.append_assoc, List.append_assoc, List.singleton_append]
      rw [Rule.reading, huse]
      dsimp only
      rw [List.drop_one, List.tail_cons, Parser.settle_eq_advance hbehind]
      simp only [count, List.length_append, List.length_singleton]
  · rename_i hclose
    have hat : Ahead.atMark .closeParen us = false := decide_eq_false hclose
    rw [hat, if_neg Bool.false_ne_true, ← hahead] at huse
    rw [Rule.reading, huse]
    dsimp only
    have hfront : p.ahead = (f.tokens ++ args) ++ us := by rw [hahead, List.append_assoc]
    have hcurrent : (p.settle us).current = t := by
      rw [Parser.current, Parser.ahead_settle (hfront ▸ List.suffix_append _ us)]
      rfl
    rw [Parser.complain_of_errors (p.errors_settle us ▸ herrors), hcurrent,
      Parser.settle_eq_advance hfront, List.length_append]

open Token (onFirstLine)

/-- A value that is missing, an open parenthesis, a comma too many and two numbers side by side: the
annotation is found all the same, up to the parenthesis. With a semicolon in front of that it is
not. -/
theorem reading_use_of_missing_value :
    let f : AnnotationFront :=
      { sign := onFirstLine (.mark .atSign) "@" 0
        name := onFirstLine .identifier "a" 1
        path := [(onFirstLine (.mark .dot) "." 2, onFirstLine .identifier "B" 3)]
        opening := onFirstLine (.mark .openParen) "(" 4
        sign_kind := rfl
        name_kind := rfl
        path_kind := by decide
        opening_kind := rfl }
    let args := [onFirstLine .identifier "x" 5, onFirstLine (.mark .equal) "=" 7,
      onFirstLine (.mark .openParen) "(" 9, onFirstLine (.mark .comma) "," 10,
      onFirstLine .number "1" 12, onFirstLine .number "2" 14]
    let closed := [onFirstLine (.mark .closeParen) ")" 15,
      onFirstLine (.keyword .intWord) "int" 17]
    let semicolon := onFirstLine (.mark .semicolon) ";" 15
    let stopped := [semicolon, onFirstLine (.mark .closeParen) ")" 17]
    let p := Parser.ofTokens (Token.tokenize "@a.B(x = (, 1 2) int")
    let q := Parser.ofTokens (Token.tokenize "@a.B(x = (, 1 2; )")
    (∀ t ∈ args, Arguments.IsInside t) ∧
      (p.ahead = f.tokens ++ (args ++ closed) ∧ p.errors = [] ∧ Arguments.EndIn closed ∧
        ∃ table, Rule.reading Arguments.use p = (.present ⟨"B", table, 1, 1⟩, p.advance 12)) ∧
      q.ahead = f.tokens ++ (args ++ stopped) ∧ q.errors = [] ∧ Arguments.EndIn stopped ∧
        Rule.reading Arguments.use q = (.absent,
          { q.advance 11 with
            errors := [Complaint.unclosedArguments.diagnosticAt semicolon] }) := by
  intro f args closed semicolon stopped p q
  have hargs : ∀ t ∈ args, Arguments.IsInside t := by decide
  have hp : p.ahead = f.tokens ++ (args ++ closed) := by decide +kernel
  have hq : q.ahead = f.tokens ++ (args ++ stopped) := by decide +kernel
  have hclosed : Arguments.EndIn closed := by decide
  have hstopped : Arguments.EndIn stopped := by decide
  exact ⟨hargs, ⟨hp, rfl, hclosed, reading_use hp rfl hargs hclosed⟩, hq, rfl, hstopped,
    reading_use hq rfl hargs hstopped⟩

end AnnotationFront

end ClassSchema

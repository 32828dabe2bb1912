import ClassSchema.Proofs.Grammar.TypeTokens
import ClassSchema.Proofs.Written.Borders

/-!
# What a reading depends on

A reading that ends in front of a semicolon or a brace has not looked behind it. So it comes to the
same whatever is written there: `Reading.Local` says this of a way to read, for two ends of the
tokens that start with the same bar. It does not say that a reading ends there. Scans that count
brackets run over a bar inside of an open group, and then it matters what comes next; the condition
that the reading did not is part of the property.

The property passes through the ways of combining readings. A construct inherits it from its parts,
for which it is enough to see that the tests on what is ahead look no further than at the bar. Where
a construct repeats a part, the property is shown for the tokens at hand, `Reading.LocalAt`, by
induction on their number.
-/

namespace ClassSchema

theorem Skip.kind_of_endsHeader {kind : Kind} (h : endsHeader kind = true) :
    kind = .mark .openBrace ∨ kind = .mark .semicolon ∨ kind = .mark .closeBrace := by
  unfold endsHeader at h
  split at h
  · exact .inl rfl
  · exact .inr (.inl rfl)
  · exact .inr (.inr rfl)
  · cases h

/-- Two ends of some tokens that start with the same semicolon or brace. -/
inductive SameBar : List Token → List Token → Prop
  | intro {t : Token} (us us' : List Token) (ht : Skip.endsHeader t.kind = true) :
    SameBar (t :: us) (t :: us')

namespace SameBar

variable {us us' : List Token}

theorem symm (h : SameBar us us') : SameBar us' us := by
  cases h with
  | intro us us' ht => exact .intro us' us ht

theorem barred (h : SameBar us us') : Barred us := by
  cases h with
  | intro us us' ht => exact ht

theorem ne_nil (h : SameBar us us') : us ≠ [] := by
  cases h
  exact List.cons_ne_nil _ _

private theorem kind_append (h : SameBar us us') (ts : List Token) :
    Ahead.kind (ts ++ us) = Ahead.kind (ts ++ us') := by
  cases ts with
  | nil =>
    cases h
    rfl
  | cons t ts => rfl

theorem atMark_append (h : SameBar us us') (m : Mark) (ts : List Token) :
    Ahead.atMark m (ts ++ us) = Ahead.atMark m (ts ++ us') := by
  rw [Ahead.atMark, Ahead.atMark, h.kind_append]

end SameBar

namespace Barred

variable {us : List Token}

theorem isMark_eq_false {t : Token} (h : Barred (t :: us)) {m : Mark}
    (hm : Skip.endsHeader (.mark m) = false) : t.isMark m = false := h.atMark hm

theorem is_eq_false {t : Token} (h : Barred (t :: us)) {kind : Kind}
    (hkind : Skip.endsHeader kind = false) : t.is kind = false :=
  decide_eq_false (h.kind_ne hkind)

theorem kind_append_eq_iff (h : Barred us) {kind : Kind} (hkind : Skip.endsHeader kind = false)
    (hend : kind ≠ .endOfInput) (ts : List Token) :
    Ahead.kind (ts ++ us) = kind ↔ Ahead.kind ts = kind := by
  cases ts with
  | nil => exact ⟨fun hus ↦ absurd hus (h.kind_ne hkind), fun hnil ↦ absurd hnil.symm hend⟩
  | cons t ts => exact Iff.rfl

theorem takeWhile_append (h : Barred us) {test : Token → Bool}
    (htest : ∀ t, Skip.endsHeader t.kind = true → test t = false) (ts : List Token) :
    (ts ++ us).takeWhile test = ts.takeWhile test := by
  obtain ⟨t, us, rfl, ht⟩ := h.exists_eq_cons
  exact takeWhile_append_of_head (fun _ hmem ↦ Option.some.inj hmem ▸ htest t ht) ts

theorem atMark_append (h : Barred us) {m : Mark} (hm : Skip.endsHeader (.mark m) = false)
    (ts : List Token) : Ahead.atMark m (ts ++ us) = Ahead.atMark m ts :=
  decide_eq_decide.mpr (h.kind_append_eq_iff hm nofun ts)

end Barred

theorem le_length_of_suffix_drop {ts us : List Token} {n : Nat} (hus : us ≠ [])
    (h : us <:+ (ts ++ us).drop n) : n ≤ ts.length := by
  have hle := h.length_le
  have hpos := List.length_pos_iff.mpr hus
  rw [List.length_drop, List.length_append] at hle
  omega

/-- A number of tokens to pass over does not depend on what comes behind a bar, if they end in front
of it. -/
def Skip.Local (count : List Token → Nat) : Prop :=
  ∀ ⦃us us' : List Token⦄ (ts : List Token), SameBar us us' → count (ts ++ us) ≤ ts.length →
    count (ts ++ us') = count (ts ++ us)

namespace Reading

variable {α β : Type} {r : Reading α} {us us' : List Token}

/-- Goes on differently behind a construct that was found and behind one that was missed. -/
def elim (r : Reading α) (onFound : α → List Token → Reading β)
    (onMissed : Miss → List Token → Reading β) : Reading β :=
  match r with
  | found value rest => onFound value rest
  | missed cause rest => onMissed cause rest

theorem andThen_eq_elim (r : Reading α) (next : α → List Token → Reading β) :
    r.andThen next = r.elim next .missed := by
  cases r <;> rfl

theorem rest_append (r : Reading α) (ts : List Token) : (r.append ts).rest = r.rest ++ ts := by
  cases r <;> rfl

/-- Reading the tokens `ts` does not depend on what comes behind a bar, if it ends in front of
it. -/
def LocalAt (read : List Token → Reading α) (ts : List Token) : Prop :=
  ∀ ⦃us us' : List Token⦄, SameBar us us' → us <:+ (read (ts ++ us)).rest →
    ∃ r : Reading α, read (ts ++ us) = r.append us ∧ read (ts ++ us') = r.append us'

/-- A way to read does not depend on what comes behind a bar, if it ends in front of it. -/
def Local (read : List Token → Reading α) : Prop := ∀ ts, LocalAt read ts

namespace LocalAt

variable {read other : List Token → Reading α} {ts ts' : List Token}

theorem of_barred {r : Reading α} (h : ∀ us, Barred us → read (ts ++ us) = r.append us) :
    LocalAt read ts :=
  fun _ _ hbar _ ↦ ⟨r, h _ hbar.barred, h _ hbar.symm.barred⟩

theorem of_eq {read : List Token → Reading α} (h : ∀ ts, read ts = other ts)
    (hother : LocalAt other ts) : LocalAt read ts :=
  funext h ▸ hother

theorem congr {read : List Token → Reading α}
    (h : ∀ us, Barred us → read (ts ++ us) = other (ts' ++ us)) (hother : LocalAt other ts') :
    LocalAt read ts := by
  intro us us' hbar hsuffix
  rw [h us hbar.barred] at hsuffix ⊢
  rw [h us' hbar.symm.barred]
  exact hother hbar hsuffix

theorem elim {onFound : α → List Token → Reading β} {onMissed : Miss → List Token → Reading β}
    (hread : LocalAt read ts)
    (hfound : ∀ value rest us, read (ts ++ us) = .found value (rest ++ us) →
      LocalAt (onFound value) rest)
    (hmissed : ∀ cause, Local (onMissed cause))
    (hgroundFound : ∀ value ts, (onFound value ts).rest <:+ ts)
    (hgroundMissed : ∀ cause ts, (onMissed cause ts).rest <:+ ts) :
    LocalAt (fun ts ↦ (read ts).elim onFound onMissed) ts := by
  intro us us' hbar hsuffix
  have hfirst : us <:+ (read (ts ++ us)).rest := by
    refine hsuffix.trans ?_
    dsimp only
    cases read (ts ++ us) with
    | found value rest => exact hgroundFound value rest
    | missed cause rest => exact hgroundMissed cause rest
  obtain ⟨r, hr, hr'⟩ := hread hbar hfirst
  dsimp only at hsuffix ⊢
  rw [hr] at hsuffix
  rw [hr, hr']
  cases r with
  | found value rest => exact hfound value rest us hr hbar hsuffix
  | missed cause rest => exact hmissed cause rest hbar hsuffix

end LocalAt

namespace Local

variable {read other : List Token → Reading α}

theorem of_barred (h : ∀ ts us, Barred us → read (ts ++ us) = (read ts).append us) :
    Local read := fun ts ↦ .of_barred (h ts)

theorem found (value : α) : Local (Reading.found value) := of_barred fun _ _ _ ↦ rfl

theorem missed (cause : Miss) : Local (Reading.missed cause : List Token → Reading α) :=
  of_barred fun _ _ _ ↦ rfl

end Local

namespace LocalAt

variable {read other : List Token → Reading α} {ts : List Token}

theorem andThen {next : α → List Token → Reading β} (hread : LocalAt read ts)
    (hnext : ∀ value rest us, read (ts ++ us) = .found value (rest ++ us) →
      LocalAt (next value) rest)
    (hground : ∀ value ts, (next value ts).rest <:+ ts) :
    LocalAt (fun ts ↦ (read ts).andThen next) ts := by
  simp only [andThen_eq_elim]
  exact hread.elim hnext .missed hground fun _ _ ↦ List.suffix_refl _

theorem map (f : α → β) (hread : LocalAt read ts) : LocalAt (fun ts ↦ (read ts).map f) ts :=
  hread.andThen (fun value rest _ _ ↦ Local.found (f value) rest) fun _ _ ↦ List.suffix_refl _

theorem orMalformed {why : List Token → Malformation}
    (hwhy : ∀ {us us'}, SameBar us us' → why (ts ++ us) = why (ts ++ us'))
    (hread : LocalAt read ts) : LocalAt (fun ts ↦ (read ts).orMalformed (why ts)) ts := by
  intro us us' hbar hsuffix
  dsimp only at hsuffix ⊢
  rw [rest_orMalformed] at hsuffix
  obtain ⟨r, hr, hr'⟩ := hread hbar hsuffix
  have happend (vs : List Token) (why : Malformation) :
      (r.append vs).orMalformed why = (r.orMalformed why).append vs := by
    cases r with
    | found value rest => rfl
    | missed cause rest => cases cause <;> rfl
  refine ⟨r.orMalformed (why (ts ++ us)), ?_, ?_⟩
  · rw [hr, happend]
  · rw [hr', happend, hwhy hbar]

theorem ite {test : List Token → Bool}
    (htest : ∀ {us us'}, SameBar us us' → test (ts ++ us) = test (ts ++ us'))
    (hread : LocalAt read ts) (hother : LocalAt other ts) :
    LocalAt (fun ts ↦ if test ts then read ts else other ts) ts := by
  intro us us' hbar hsuffix
  dsimp only at hsuffix ⊢
  rw [← htest hbar]
  split
  · rename_i h
    rw [if_pos h] at hsuffix
    exact hread hbar hsuffix
  · rename_i h
    rw [if_neg h] at hsuffix
    exact hother hbar hsuffix

/-- A reading that cuts off a number of tokens, which are found in front of the bar. -/
theorem cut {count : List Token → Nat} (read : List Token → List Token → Reading α)
    (hread : ∀ taken, Local (read taken)) (hground : ∀ taken ts, (read taken ts).rest <:+ ts)
    (hcount : Skip.Local count) :
    LocalAt (fun ts ↦ read (ts.take (count ts)) (ts.drop (count ts))) ts := by
  intro us us' hbar hsuffix
  have hle := le_length_of_suffix_drop hbar.ne_nil (hsuffix.trans (hground _ _))
  dsimp only at hsuffix ⊢
  rw [hcount ts hbar hle]
  rw [List.take_append_of_le_length hle, List.drop_append_of_le_length hle] at hsuffix ⊢
  rw [List.take_append_of_le_length hle, List.drop_append_of_le_length hle]
  exact hread _ _ hbar hsuffix

theorem drop {count : List Token → Nat} (hread : Local read)
    (hground : ∀ ts, (read ts).rest <:+ ts) (hcount : Skip.Local count) :
    LocalAt (fun ts ↦ read (ts.drop (count ts))) ts :=
  cut (fun _ ↦ read) (fun _ ↦ hread) (fun _ ↦ hground) hcount

/-- A reading that starts behind the first token, which is there. -/
theorem drop_one (hread : ∀ t us, ts = t :: us → LocalAt read us)
    (hground : ∀ ts, (read ts).rest <:+ ts) : LocalAt (fun ts ↦ read (ts.drop 1)) ts := by
  cases ts with
  | nil =>
    intro us us' hbar hsuffix
    have hle : 1 ≤ ([] : List Token).length :=
      le_length_of_suffix_drop hbar.ne_nil (hsuffix.trans (hground _))
    exact absurd hle (Nat.not_succ_le_zero 0)
  | cons t ts => exact hread t ts rfl

/-- What is found in front of a bar is found in front of any other tokens behind the bar. -/
theorem found_append {rest : List Token} {value : α} (hread : LocalAt read ts)
    (hbar : SameBar us us') (h : read (ts ++ us) = .found value (rest ++ us)) :
    read (ts ++ us') = .found value (rest ++ us') := by
  have hsuffix : us <:+ (read (ts ++ us)).rest := by
    rw [h]
    exact List.suffix_append rest us
  obtain ⟨r, hr, hr'⟩ := hread hbar hsuffix
  rw [h] at hr
  cases r with
  | missed => cases hr
  | found first between =>
    obtain ⟨rfl, hbetween⟩ := Reading.found.inj hr
    rw [hr', List.append_cancel_right hbetween]
    rfl

end LocalAt

end Reading

/-! ## Skips -/

namespace Skip

variable {us us' : List Token}

private theorem groupLength_local (opener closer : Mark) (depth : Nat) :
    Local (groupLength opener closer depth) := by
  intro us us' ts hbar hle
  induction ts generalizing depth with
  | nil =>
    cases hbar with
    | intro us us' ht => exact absurd hle (Nat.not_le_of_lt (groupLength_pos ..))
  | cons t ts ih =>
    -- each branch that goes on counts one token more than what comes behind it
    grind [groupLength]

theorem balanced_local : Local balanced := by
  intro us us' ts hbar hle
  cases ts with
  | nil =>
    cases hbar with
    | intro us us' ht => exact absurd hle (Nat.not_le_of_lt (balanced_pos _ us))
  | cons t ts =>
    rw [List.cons_append, balanced] at hle
    rw [List.cons_append, List.cons_append, balanced, balanced]
    split
    · rename_i m hkind
      rw [hkind] at hle
      dsimp only at hle ⊢
      split
      · rename_i closer hcloser
        rw [hcloser] at hle
        exact groupLength_local m closer 0 (t :: ts) hbar hle
      · rfl
    · rfl

theorem upTo_append {stops : Kind → Bool}
    (hstops : ∀ kind, endsHeader kind = true → stops kind = true) (ts : List Token)
    (hus : Barred us) : upTo stops (ts ++ us) = upTo stops ts := by
  rw [upTo, upTo, hus.takeWhile_append fun t ht ↦ by rw [hstops t.kind ht]; rfl]

theorem upTo_local {stops : Kind → Bool}
    (hstops : ∀ kind, endsHeader kind = true → stops kind = true) : Local (upTo stops) :=
  fun _ _ ts hbar _ ↦ (upTo_append hstops ts hbar.symm.barred).trans
    (upTo_append hstops ts hbar.barred).symm

end Skip

namespace Ahead

variable {us : List Token}

/-- Whether a name is ahead with a given mark behind it. -/
def atNameWith (m : Mark) (ts : List Token) : Bool :=
  kind ts = .identifier && kindAt 1 ts = .mark m

theorem exists_eq_cons_of_atNameWith {m : Mark} {ts : List Token} (h : atNameWith m ts = true) :
    ∃ name sign us, ts = name :: sign :: us ∧ name.is .identifier = true ∧
      sign.isMark m = true := by
  match ts with
  | [] => cases h
  | [name] => simp [atNameWith, kindAt, kind] at h
  | name :: sign :: us =>
    obtain ⟨hname, hsign⟩ := Bool.and_eq_true_iff.mp h
    exact ⟨name, sign, us, rfl, hname, hsign⟩

theorem atNameWith_append {m : Mark} (hm : Skip.endsHeader (.mark m) = false) (hus : Barred us)
    (ts : List Token) : atNameWith m (ts ++ us) = atNameWith m ts := by
  match ts with
  | [] =>
    have hkind : kind us ≠ .identifier := hus.kind_ne rfl
    rw [List.nil_append, atNameWith, decide_eq_false hkind]
    rfl
  | [name] =>
    have hkind : kindAt 1 ([name] ++ us) ≠ .mark m := hus.kind_ne hm
    have hnil : kindAt 1 [name] ≠ .mark m := Kind.noConfusion
    rw [atNameWith, atNameWith, decide_eq_false hkind, decide_eq_false hnil, Bool.and_false,
      Bool.and_false]
  | _ :: _ :: _ => rfl

theorem bracketPairs_append (hus : Barred us) (ts : List Token) :
    bracketPairs (ts ++ us) = ((bracketPairs ts).1, (bracketPairs ts).2 ++ us) := by
  obtain ⟨t, us, rfl, ht⟩ := hus.exists_eq_cons
  have hopen : t.isMark .openBracket = false := hus.isMark_eq_false rfl
  have hclose : t.isMark .closeBracket = false := hus.isMark_eq_false rfl
  fun_induction bracketPairs ts with
  | case1 left right rest hpair count more heq ih =>
    rw [heq] at ih
    rw [List.cons_append, List.cons_append, bracketPairs, if_pos hpair, ih]
  | case2 left right rest hpair =>
    rw [List.cons_append, List.cons_append, bracketPairs, if_neg hpair]
  | case3 ts hshort =>
    match ts with
    | [] => cases us <;> simp [bracketPairs, hopen]
    | [left] => simp [bracketPairs, hclose]
    | _ :: _ :: _ => exact absurd rfl (hshort _ _ _)

end Ahead

/-! ## Initializers -/

namespace Initializer

variable {us us' : List Token}

private theorem startsDeclarator_append (hbar : SameBar us us') (ts : List Token) :
    startsDeclarator (ts ++ us) = startsDeclarator (ts ++ us') := by
  cases hbar with
  | @intro t us us' ht =>
    have hbarred : Barred (t :: us) := ht
    have hname : t.is .identifier = false := hbarred.is_eq_false rfl
    have hcomma : t.isMark .comma = false := hbarred.isMark_eq_false rfl
    fun_induction startsDeclarator ts with
    | case5 ts hshort =>
      -- the bar is the name or what comes behind it, and neither goes on
      match ts with
      | [] => cases us <;> cases us' <;> simp [startsDeclarator, hname]
      | [name] => simp [startsDeclarator, hcomma]
      | _ :: _ :: _ => exact absurd rfl (hshort _ _ _)
    | _ => simp_all [startsDeclarator]

private theorem endsAt_append (hbar : SameBar us us') (t : Token) (ts : List Token) :
    endsAt t (ts ++ us) = endsAt t (ts ++ us') := by
  rw [endsAt, endsAt, hbar.atMark_append, startsDeclarator_append hbar]

private theorem length_local (depth : Nat) : Skip.Local (length depth) := by
  intro us us' ts hbar hle
  induction ts generalizing depth with
  | nil =>
    cases hbar with
    | @intro t us us' ht =>
      rw [List.nil_append, List.length_nil, Nat.le_zero] at hle
      rw [List.nil_append, List.nil_append, hle]
      cases hopens : opens t with
      | true =>
        rw [length_of_opens hopens] at hle
        cases hle
      | false =>
        cases hcloses : closes t with
        | true =>
          cases depth with
          | zero => exact length_of_closes_zero hcloses us'
          | succ depth =>
            rw [length_of_closes hcloses] at hle
            cases hle
        | false =>
          rw [length_of_inner hopens hcloses] at hle ⊢
          split at hle
          · rename_i hstop
            -- of the bars only the semicolon is neither an opening nor a closing brace
            have hsemicolon : t.isMark .semicolon = true := by
              simp only [opens, closes, Bool.or_eq_false_iff] at hopens hcloses
              grind [Skip.endsHeader, Token.isMark]
            have hends : endsAt t us' = true := by
              rw [endsAt, hsemicolon, Bool.true_or, Bool.true_or]
            rw [Bool.and_eq_true] at hstop
            rw [hstop.1, hends, Bool.and_self, if_pos rfl]
          · cases hle
  | cons t ts ih =>
    have hends := endsAt_append hbar t ts
    rw [List.cons_append, List.cons_append]
    rw [List.cons_append, List.length_cons] at hle
    cases hopens : opens t with
    | true =>
      rw [length_of_opens hopens] at hle ⊢
      rw [length_of_opens hopens, ih _ (Nat.le_of_succ_le_succ hle)]
    | false =>
      cases hcloses : closes t with
      | true =>
        cases depth with
        | zero => rw [length_of_closes_zero hcloses, length_of_closes_zero hcloses]
        | succ depth =>
          rw [length_of_closes hcloses] at hle ⊢
          rw [length_of_closes hcloses, ih _ (Nat.le_of_succ_le_succ hle)]
      | false =>
        rw [length_of_inner hopens hcloses] at hle ⊢
        rw [length_of_inner hopens hcloses, hends]
        rw [hends] at hle
        split
        · rfl
        · rename_i hstop
          rw [if_neg hstop] at hle
          rw [ih _ (Nat.le_of_succ_le_succ hle)]

/-- The text of an initializer whose tokens are `taken`, in front of `rest`. -/
def ofTaken (source : Option (List Char)) (taken rest : List Token) : Reading String :=
  match dropComments taken with
  | [] => .missed .absent rest
  | tokens => .found (sourceText source tokens) rest

theorem read_local (source : Option (List Char)) : Reading.Local (read source) := by
  intro ts
  refine .cut (ofTaken source) (fun taken ↦ ?_) (fun taken ts ↦ ?_) (length_local 0)
  · cases h : dropComments taken with
    | nil =>
      have hmissed : ofTaken source taken = .missed .absent := by
        funext rest
        rw [ofTaken, h]
      exact hmissed ▸ Reading.Local.missed _
    | cons t tokens =>
      have hfound : ofTaken source taken = .found (sourceText source (t :: tokens)) := by
        funext rest
        rw [ofTaken, h]
      exact hfound ▸ Reading.Local.found _
  · unfold ofTaken
    split <;> exact List.suffix_refl _

end Initializer

end ClassSchema

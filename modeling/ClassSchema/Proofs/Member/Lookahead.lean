import ClassSchema.Proofs.Member.Closed
import ClassSchema.Proofs.Member.Source

/-!
# How far a reading looks ahead

Reading a member goes from left to right, and what stands in front of the name of a field is read
before anything behind the name is known. That a reading is local says this only of places where a
bar comes next. Here it is said of any place: comments, annotations and modifiers are decided on
two tokens behind those that they take at most, so whatever comes behind the second of these is read
in the same way; and a type that ends in front of a name ends there whatever comes behind the name.

The source may be another one, too, as long as it has the same text for the tokens that are taken.
-/

namespace ClassSchema

/-! ## Two ends of some tokens -/

/-- Two ends of some tokens that start with the same two tokens, as far as there are two. -/
def SameAhead (us us' : List Token) : Prop := us'.take 2 = us.take 2

namespace SameAhead

variable {us us' : List Token}

theorem append (h : SameAhead us us') (front : List Token) :
    SameAhead (front ++ us) (front ++ us') := by
  match front with
  | [] => exact h
  | [t] =>
    have htake := congrArg (List.take 1) h
    rw [List.take_take, List.take_take] at htake
    exact congrArg (t :: ·) htake
  | _ :: _ :: _ => rfl

theorem head?_eq (h : SameAhead us us') : us'.head? = us.head? := by
  have hhead := congrArg List.head? h
  rwa [List.head?_take, List.head?_take] at hhead

theorem kind_eq (h : SameAhead us us') : Ahead.kind us' = Ahead.kind us := by
  have hhead := h.head?_eq
  match us, us' with
  | [], [] => rfl
  | t :: _, t' :: _ => exact congrArg Token.kind (Option.some.inj hhead)

theorem kindAt_eq (h : SameAhead us us') : Ahead.kindAt 1 us' = Ahead.kindAt 1 us := by
  have hbehind {vs : List Token} : Ahead.kindAt 1 vs = Ahead.kindAt 1 (vs.take 2) := by
    match vs with
    | [] => rfl
    | [_] => rfl
    | _ :: _ :: _ => rfl
  rw [hbehind, h, ← hbehind]

theorem atMark_eq (h : SameAhead us us') (m : Mark) : Ahead.atMark m us' = Ahead.atMark m us := by
  rw [Ahead.atMark, Ahead.atMark, h.kind_eq]

theorem isEmpty_eq (h : SameAhead us us') : us'.isEmpty = us.isEmpty := by
  rw [Bool.eq_iff_iff, List.isEmpty_iff, List.isEmpty_iff, ← List.head?_eq_none_iff,
    ← List.head?_eq_none_iff, h.head?_eq]

theorem atNameWith_eq (h : SameAhead us us') (m : Mark) :
    Ahead.atNameWith m us' = Ahead.atNameWith m us := by
  rw [Ahead.atNameWith, Ahead.atNameWith, h.kind_eq, h.kindAt_eq]

private theorem eq_cons_cons {t u : Token} (h : SameAhead (t :: u :: us) us') :
    ∃ vs, us' = t :: u :: vs := by
  match us' with
  | [] => cases h
  | [_] => cases h
  | t' :: u' :: vs =>
    obtain ⟨rfl, htail⟩ := List.cons.inj h
    obtain ⟨rfl, -⟩ := List.cons.inj htail
    exact ⟨vs, rfl⟩

theorem eq_of_length_lt (h : SameAhead us us') (hlt : us.length < 2) : us' = us := by
  match us, us' with
  | [], [] => rfl
  | [_], [_] => exact h
  | [], _ :: _ => cases h
  | [_], [] => cases h
  | [_], _ :: _ :: _ => cases h
  | _ :: _ :: _, _ => exact absurd hlt (Nat.not_lt_of_le (Nat.le_add_left 2 _))

/-- Where one token at least comes, the same one comes on the other side, with a token of the same
kind behind it. -/
theorem exists_cons {front ts : List Token} {t : Token} (h : SameAhead us us')
    (hts : front ++ us = t :: ts) :
    ∃ ts', front ++ us' = t :: ts' ∧ Ahead.kind ts' = Ahead.kind ts := by
  have hfront := h.append front
  rw [hts] at hfront
  obtain ⟨ts', hts'⟩ := List.head?_eq_some_iff.mp hfront.head?_eq
  rw [hts'] at hfront
  exact ⟨ts', hts', hfront.kindAt_eq⟩

end SameAhead

theorem exists_split {front us rest : List Token} (taken : List Token)
    (h : front ++ us = taken ++ rest) (hus : us <:+ rest) :
    ∃ f, front = taken ++ f ∧ rest = f ++ us := by
  obtain ⟨f, rfl⟩ := hus
  rw [← List.append_assoc] at h
  exact ⟨f, List.append_cancel_right h, rfl⟩

/-- A run that ends within the tokens in front of the next one is the same run in front of any
others that start with that one. -/
theorem takeWhile_append_of_head?_eq {p : Token → Bool} {ts us us' : List Token}
    (hhead : us'.head? = us.head?) (h : ((ts ++ us).takeWhile p).length ≤ ts.length) :
    (ts ++ us').takeWhile p = (ts ++ us).takeWhile p := by
  induction ts with
  | nil =>
    rw [List.nil_append] at h
    rw [List.nil_append, List.nil_append]
    match us, us' with
    | [], [] => rfl
    | t :: us, t' :: us' =>
      obtain rfl : t' = t := Option.some.inj hhead
      rw [List.takeWhile_cons] at h
      rw [List.takeWhile_cons, List.takeWhile_cons]
      split
      · rename_i ht
        rw [if_pos ht] at h
        cases h
      · rfl
  | cons t ts ih =>
    rw [List.cons_append, List.takeWhile_cons] at h
    rw [List.cons_append, List.cons_append, List.takeWhile_cons, List.takeWhile_cons]
    split
    · rename_i ht
      rw [if_pos ht] at h
      rw [ih (Nat.le_of_succ_le_succ h)]
    · rfl

/-! ## Readings -/

namespace Reading

variable {α β : Type}

/-- The same outcome with other tokens left. -/
def withRest (r : Reading α) (rest : List Token) : Reading α :=
  match r with
  | found value _ => found value rest
  | missed cause _ => missed cause rest

/-- Reading the tokens `front`, where it ends behind them, is decided on them and the two behind
them. -/
def LooksTwoAheadAt (read : Option (List Char) → List Token → Reading α) (front : List Token) :
    Prop :=
  ∀ ⦃source source' : Option (List Char)⦄ ⦃us us' : List Token⦄, SameText front source source' →
    SameAhead us us' → (read source (front ++ us)).rest = us →
      read source' (front ++ us') = (read source (front ++ us)).withRest us'

/-- A way to read is decided on the tokens it takes and the two behind them. -/
def LooksTwoAhead (read : Option (List Char) → List Token → Reading α) : Prop :=
  ∀ front, LooksTwoAheadAt read front

theorem LooksTwoAhead.found (value : α) : LooksTwoAhead fun _ ts ↦ Reading.found value ts := by
  intro front source source' us us' _ _ hrest
  obtain rfl : front = [] := List.append_left_eq_self.mp hrest
  rfl

theorem LooksTwoAhead.missed (cause : Miss) :
    LooksTwoAhead fun _ ts ↦ (Reading.missed cause ts : Reading α) := by
  intro front source source' us us' _ _ hrest
  obtain rfl : front = [] := List.append_left_eq_self.mp hrest
  rfl

namespace LooksTwoAheadAt

variable {read other : Option (List Char) → List Token → Reading α} {front : List Token}
  {t : Token}

theorem found_append (hread : LooksTwoAheadAt read front) {source source' : Option (List Char)}
    {us us' : List Token} {value : α} (htext : SameText front source source')
    (hsame : SameAhead us us') (h : read source (front ++ us) = .found value us) :
    read source' (front ++ us') = .found value us' := by
  rw [hread htext hsame (by rw [h]; rfl), h]
  rfl

theorem ite {test : List Token → Bool}
    (htest : ∀ {us us'}, SameAhead us us' → test us' = test us)
    (hread : LooksTwoAheadAt read front) (hother : LooksTwoAheadAt other front) :
    LooksTwoAheadAt (fun source ts ↦ if test ts then read source ts else other source ts)
      front := by
  intro source source' us us' htext hsame hrest
  dsimp only at hrest ⊢
  rw [htest (hsame.append front)]
  split
  · rename_i h
    rw [if_pos h] at hrest
    exact hread htext hsame hrest
  · rename_i h
    rw [if_neg h] at hrest
    exact hother htext hsame hrest

private theorem behind (hread : ∀ f, front = [t] ++ f → LooksTwoAheadAt read f)
    (hground : ∀ source ts, (read source ts).rest <:+ ts) {source source' : Option (List Char)}
    {us us' ts ts' : List Token} (htext : SameText front source source') (hsame : SameAhead us us')
    (hts : front ++ us = t :: ts) (hts' : front ++ us' = t :: ts')
    (hrest : (read source ts).rest = us) : read source' ts' = (read source ts).withRest us' := by
  obtain ⟨f, rfl, rfl⟩ := exists_split [t] hts (hrest ▸ hground source ts)
  obtain rfl : f ++ us' = ts' := (List.cons.inj hts').2
  exact hread f rfl (htext.mono (List.suffix_append [t] f).isInfix) hsame hrest

/-- A reading that starts behind the first token. -/
theorem drop_one (hread : LooksTwoAheadAt read front.tail)
    (hground : ∀ source ts, (read source ts).rest <:+ ts) :
    LooksTwoAheadAt (fun source ts ↦ read source (ts.drop 1)) front := by
  intro source source' us us' htext hsame hrest
  cases front with
  | cons t front => exact hread (htext.mono (List.suffix_cons t front).isInfix) hsame hrest
  | nil =>
    cases us with
    | nil =>
      obtain rfl : us' = [] := hsame.eq_of_length_lt Nat.two_pos
      exact hread htext hsame hrest
    | cons u us =>
      -- the token that is passed over is not left
      have hle := (hground source us).length_le
      have hlength := congrArg List.length hrest
      change ((read source us).rest).length = us.length + 1 at hlength
      omega

theorem elim (onFound : α → Option (List Char) → List Token → Reading β)
    (onMissed : Miss → Option (List Char) → List Token → Reading β)
    (hread : LooksTwoAhead read) (hground : ∀ source ts, (read source ts).rest <:+ ts)
    (hfound : ∀ value behind source us, read source (front ++ us) = .found value (behind ++ us) →
      LooksTwoAheadAt (onFound value) behind)
    (hmissed : ∀ cause, LooksTwoAhead (onMissed cause))
    (hgroundFound : ∀ value source ts, (onFound value source ts).rest <:+ ts)
    (hgroundMissed : ∀ cause source ts, (onMissed cause source ts).rest <:+ ts) :
    LooksTwoAheadAt (fun source ts ↦ (read source ts).elim (onFound · source) (onMissed · source))
      front := by
  intro source source' us us' htext hsame hrest
  dsimp only at hrest ⊢
  -- the first part ends in front of `us` or earlier, since the second one ends there
  have hsplit {rest : List Token} (h : (read source (front ++ us)).rest = rest)
      (hus : us <:+ rest) : ∃ taken behind, front = taken ++ behind ∧ rest = behind ++ us := by
    obtain ⟨taken, htaken⟩ := h ▸ hground source (front ++ us)
    obtain ⟨behind, hfront, hbehind⟩ := exists_split _ htaken.symm hus
    exact ⟨taken, behind, hfront, hbehind⟩
  cases hr : read source (front ++ us) with
  | found value rest =>
    rw [hr] at hrest
    obtain ⟨taken, behind, rfl, rfl⟩ := hsplit (by rw [hr]; rfl)
      (hrest ▸ hgroundFound value source rest)
    have hfirst := @hread taken source source' (behind ++ us) (behind ++ us')
      (htext.mono (List.prefix_append taken behind).isInfix) (hsame.append behind)
    have hnext := hfound value behind source us hr
    rw [List.append_assoc] at hr ⊢
    rw [hfirst (by rw [hr]; rfl), hr]
    exact hnext (htext.mono (List.suffix_append taken behind).isInfix) hsame hrest
  | missed cause rest =>
    rw [hr] at hrest
    obtain ⟨taken, behind, rfl, rfl⟩ := hsplit (by rw [hr]; rfl)
      (hrest ▸ hgroundMissed cause source rest)
    have hfirst := @hread taken source source' (behind ++ us) (behind ++ us')
      (htext.mono (List.prefix_append taken behind).isInfix) (hsame.append behind)
    rw [List.append_assoc] at hr ⊢
    rw [hfirst (by rw [hr]; rfl), hr]
    exact hmissed cause behind (htext.mono (List.suffix_append taken behind).isInfix) hsame hrest

theorem andThen (next : α → Option (List Char) → List Token → Reading β)
    (hread : LooksTwoAhead read) (hground : ∀ source ts, (read source ts).rest <:+ ts)
    (hnext : ∀ value behind source us, read source (front ++ us) = .found value (behind ++ us) →
      LooksTwoAheadAt (next value) behind)
    (hgroundNext : ∀ value source ts, (next value source ts).rest <:+ ts) :
    LooksTwoAheadAt (fun source ts ↦ (read source ts).andThen (next · source)) front := by
  simp only [andThen_eq_elim]
  exact elim next (fun cause _ ↦ .missed cause) hread hground hnext
    (fun cause ↦ LooksTwoAhead.missed cause) hgroundNext fun _ _ _ ↦ List.suffix_refl _

theorem map (f : α → β) (hread : LooksTwoAhead read)
    (hground : ∀ source ts, (read source ts).rest <:+ ts) :
    LooksTwoAheadAt (fun source ts ↦ (read source ts).map f) front :=
  andThen (fun value _ ↦ .found (f value)) hread hground
    (fun value behind _ _ _ ↦ LooksTwoAhead.found (f value) behind) fun _ _ _ ↦ List.suffix_refl _

end LooksTwoAheadAt

end Reading

/-! ## Paths and groups -/

theorem Ahead.dottedNames_append_of_sameAhead {isName : Kind → Bool} {front us us' : List Token}
    (hsame : SameAhead us us') (h : (dottedNames isName (front ++ us)).2 = us) :
    dottedNames isName (front ++ us') = ((dottedNames isName (front ++ us)).1, us') := by
  generalize hts : front ++ us = ts at h
  fun_induction dottedNames isName ts generalizing front with
  | case1 dot name rest hpair names behind heq ih =>
    dsimp only at h
    subst h
    rw [heq] at ih
    have hsuffix := dottedNames_rest_suffix isName rest
    rw [heq] at hsuffix
    obtain ⟨front, rfl, hrest⟩ := exists_split [dot, name] hts hsuffix
    have hpairs (vs : List Token) : dottedNames isName ([dot, name] ++ front ++ vs) =
        ((dot, name) :: (dottedNames isName (front ++ vs)).1,
          (dottedNames isName (front ++ vs)).2) := if_pos hpair
    rw [hpairs, ih hrest.symm rfl]
  | case2 dot name rest hpair =>
    subst h
    obtain rfl : front = [] := List.append_left_eq_self.mp hts
    obtain ⟨rest', rfl⟩ := hsame.eq_cons_cons
    exact if_neg hpair
  | case3 ts hshort =>
    subst h
    obtain rfl : front = [] := List.append_left_eq_self.mp hts
    have hlt : ts.length < 2 := by
      rcases ts with _ | ⟨t, _ | ⟨u, ts⟩⟩
      · exact Nat.two_pos
      · exact Nat.one_lt_two
      · exact absurd rfl (hshort _ _ _)
    rw [List.nil_append, hsame.eq_of_length_lt hlt, dottedNames]
    exact hshort

namespace Skip

variable {front us us' : List Token}

theorem eq_length_of_drop (count : List Token → Nat)
    (hle : count (front ++ us) ≤ (front ++ us).length)
    (h : (front ++ us).drop (count (front ++ us)) = us) : count (front ++ us) = front.length := by
  have hlength := congrArg List.length h
  rw [List.length_drop, List.length_append] at hlength
  rw [List.length_append] at hle
  omega

/-- A group that ends in front of `us` is the same group in front of other tokens. -/
theorem balanced_append_of_sameAhead (hsame : SameAhead us us')
    (h : (front ++ us).drop (balanced (front ++ us)) = us) :
    balanced (front ++ us') = front.length := by
  have hcount := eq_length_of_drop balanced (balanced_le _) h
  -- without tokens behind `front` there is nothing that differs
  cases us with
  | nil =>
    rw [hsame.eq_of_length_lt Nat.two_pos]
    exact hcount
  | cons u us =>
    cases front with
    | nil => exact absurd hcount (Nat.ne_of_gt (balanced_pos u us))
    | cons t front =>
      rw [List.cons_append, balanced] at hcount ⊢
      split
      · rename_i m hkind
        rw [hkind] at hcount
        dsimp only at hcount ⊢
        split
        · rename_i closer hcloser
          rw [hcloser] at hcount
          dsimp only at hcount
          have hlt : groupLength m closer 0 (t :: (front ++ u :: us)) <
              (t :: (front ++ u :: us)).length := by
            rw [hcount, List.length_cons, List.length_cons, List.length_append, List.length_cons]
            omega
          have hgroup := groupLength_take_append hlt us'
          rwa [hcount, ← List.cons_append, List.take_left] at hgroup
        · rename_i hcloser
          rw [hcloser] at hcount
          exact hcount
      · rename_i hkind
        split at hcount
        · exact absurd ‹_› (hkind _)
        · exact hcount

private theorem search_fst (target : Kind) (stops : Kind → Bool) (ts : List Token) :
    (search target stops ts).1 =
      if Ahead.kind ts = target then 0 else upTo (fun kind ↦ kind = target || stops kind) ts := by
  rw [search]
  split
  · rfl
  · dsimp only
    split <;> rfl

/-- A search that ends within `front`, or at what comes next, ends there in front of other tokens
that start alike. -/
theorem search_append_of_sameAhead {target : Kind} {stops : Kind → Bool} (hsame : SameAhead us us')
    (h : (search target stops (front ++ us)).1 ≤ front.length) :
    search target stops (front ++ us') = search target stops (front ++ us) := by
  have hkind := (hsame.append front).kind_eq
  rw [search_fst] at h
  rw [search, search, hkind]
  split
  · rfl
  · rename_i hother
    rw [if_neg hother] at h
    let count (ts : List Token) : Nat := upTo (fun kind ↦ kind = target || stops kind) ts
    have hcount : count (front ++ us') = count (front ++ us) :=
      congrArg List.length (takeWhile_append_of_head?_eq hsame.head?_eq h)
    have hhead := (hsame.append (front.drop (count (front ++ us)))).head?_eq.symm
    rw [← List.drop_append_of_le_length h, ← List.drop_append_of_le_length h] at hhead
    dsimp only [count] at hcount hhead ⊢
    rw [hcount]
    split
    · rename_i hnil
      rw [hnil] at hhead
      rw [List.head?_eq_none_iff.mp hhead]
    · rename_i t rest hcons
      rw [hcons] at hhead
      obtain ⟨rest', hcons'⟩ := List.head?_eq_some_iff.mp hhead
      rw [hcons']

end Skip

/-! ## Arguments -/

namespace Arguments

theorem value_looksTwoAhead : Reading.LooksTwoAhead value := by
  intro front source source' us us' htext hsame
  cases front with
  | nil =>
    cases us with
    | nil =>
      obtain rfl : us' = [] := hsame.eq_of_length_lt Nat.two_pos
      exact fun _ ↦ rfl
    | cons u us =>
      -- a value takes `u` at least, so there is none
      have htakes {vs : List Token} (hvs : vs <:+ us) : vs ≠ u :: us := by
        rintro rfl
        exact absurd hvs.length_le (Nat.not_le_of_lt (Nat.lt_succ_self us.length))
      obtain ⟨us', rfl⟩ := List.head?_eq_some_iff.mp hsame.head?_eq
      simp only [List.nil_append, value]
      split
      · exact fun hrest ↦ absurd hrest (htakes (List.drop_suffix _ us))
      · split <;> exact fun hrest ↦ absurd hrest (htakes (List.suffix_refl us))
      · exact fun hrest ↦ absurd hrest (htakes (List.suffix_refl us))
      · exact fun hrest ↦ absurd hrest (htakes (List.suffix_refl us))
      · obtain ⟨count, hcount⟩ :=
          Nat.exists_eq_succ_of_ne_zero (Nat.ne_of_gt (Skip.balanced_pos u us))
        rw [hcount, List.drop_succ_cons]
        exact fun hrest ↦ absurd hrest (htakes (List.drop_suffix _ us))
      · split
        · exact fun hrest ↦ absurd hrest (htakes (Ahead.dottedNames_rest_suffix _ us))
        · exact fun _ ↦ rfl
  | cons t front =>
    have hbehind : SameText front source source' :=
      htext.mono (List.suffix_cons t front).isInfix
    rw [List.cons_append, List.cons_append]
    simp only [value]
    split
    · let strings (ts : List Token) : List Token := ts.takeWhile (·.is .string)
      intro hrest
      have hlength : (strings (front ++ us)).length = front.length :=
        Skip.eq_length_of_drop (fun ts ↦ (strings ts).length)
          (List.takeWhile_sublist _).length_le hrest
      have hstrings : strings (front ++ us') = strings (front ++ us) :=
        takeWhile_append_of_head?_eq hsame.head?_eq (Nat.le_of_eq hlength)
      dsimp only [strings] at hlength hstrings
      rw [hstrings, hlength, List.drop_left]
      rfl
    · split
      · exact Reading.LooksTwoAhead.missed _ front hbehind hsame
      · exact Reading.LooksTwoAhead.missed _ front hbehind hsame
      · exact Reading.LooksTwoAhead.found _ front hbehind hsame
    · exact Reading.LooksTwoAhead.found _ front hbehind hsame
    · exact Reading.LooksTwoAhead.found _ front hbehind hsame
    · intro hrest
      change (t :: front ++ us).drop (Skip.balanced (t :: front ++ us)) = us at hrest
      have hcount := Skip.eq_length_of_drop Skip.balanced (Skip.balanced_le _) hrest
      have hcount' := Skip.balanced_append_of_sameAhead hsame hrest
      rw [← List.cons_append, ← List.cons_append, hcount, hcount', List.take_left, List.take_left,
        List.drop_left, htext _ List.infix_rfl]
      rfl
    · split
      · intro hrest
        rw [Ahead.dottedNames_append_of_sameAhead hsame hrest]
        rfl
      · exact Reading.LooksTwoAhead.missed _ (t :: front) htext hsame

/-- A pair is taken whole. -/
theorem pairs_rest_suffix_of_pair {source : Option (List Char)} {sofar : Assoc Argument}
    {key sign : Token} {ts : List Token} (h : Ahead.atNameWith .equal (key :: sign :: ts) = true) :
    (pairs source sofar (key :: sign :: ts)).rest <:+ ts := by
  rw [pairs_of_pair source ts h]
  have hsuffix := (value_grounded source ts).rest_suffix
  cases hvalue : value source ts with
  | found argument rest =>
    rw [hvalue] at hsuffix
    dsimp only [Reading.elim]
    split
    · exact ((pairs_grounded source _ _).drop.rest_suffix).trans hsuffix
    · exact hsuffix
  | missed cause rest =>
    rw [hvalue] at hsuffix
    dsimp only [Reading.elim]
    split <;> exact hsuffix

private theorem pairs_looksTwoAheadAt (sofar : Assoc Argument) (front : List Token) :
    Reading.LooksTwoAheadAt (pairs · sofar) front := by
  -- on the length of `front`, since each pair takes tokens off it
  induction hn : front.length using Nat.strongRecOn generalizing front sofar with
  | ind n ih =>
    intro source source' us us' htext hsame hrest
    have hpair' := (hsame.append front).atNameWith_eq .equal
    cases hpair : Ahead.atNameWith .equal (front ++ us) with
    | false =>
      dsimp only at hrest ⊢
      rw [pairs_of_no_pair source hpair] at hrest ⊢
      rw [pairs_of_no_pair source' (hpair'.trans hpair)]
      exact Reading.LooksTwoAhead.found sofar front htext hsame hrest
    | true =>
      obtain ⟨key, sign, ts, hts, -, -⟩ := Ahead.exists_eq_cons_of_atNameWith hpair
      have hsuffix : us <:+ ts := by
        rw [hts] at hpair hrest
        exact hrest ▸ pairs_rest_suffix_of_pair hpair
      obtain ⟨f, rfl, rfl⟩ := exists_split [key, sign] hts hsuffix
      rw [List.length_append, List.length_cons, List.length_singleton] at hn
      -- the value and, behind its comma, the other pairs
      have hbehind : Reading.LooksTwoAheadAt (fun source ts ↦ (value source ts).elim
          (fun argument rest ↦
            if Ahead.atMark .comma rest then
              pairs source (sofar.put key.text argument) (rest.drop 1)
            else .found (sofar.put key.text argument) rest)
          (fun cause rest ↦ if cause = .absent then .found sofar rest else .missed cause rest))
          f := by
        refine .elim _ (fun cause _ rest ↦
            if cause = .absent then .found sofar rest else .missed cause rest)
          value_looksTwoAhead (fun source ts ↦ (value_grounded source ts).rest_suffix)
          (fun argument behind source us hvalue ↦ .ite (fun hsame ↦ hsame.atMark_eq .comma)
            (.drop_one (ih behind.tail.length ?_ (sofar.put key.text argument) behind.tail rfl)
              fun source ts ↦ (pairs_grounded source _ ts).rest_suffix)
            (Reading.LooksTwoAhead.found _ behind))
          (fun cause ↦ ?_) (fun argument source ts ↦ ?_) (fun cause source ts ↦ ?_)
        · have hle := ((value_grounded source _).suffix_of_found hvalue).length_le
          rw [List.length_append, List.length_append] at hle
          rw [List.length_tail]
          omega
        · split
          · exact Reading.LooksTwoAhead.found sofar
          · exact Reading.LooksTwoAhead.missed cause
        · split
          · exact (pairs_grounded source _ _).drop.rest_suffix
          · exact List.suffix_refl _
        · split <;> exact List.suffix_refl _
      have hpairs (source : Option (List Char)) (vs : List Token) :
          pairs source sofar (key :: sign :: (f ++ vs)) = _ :=
        pairs_of_pair source (f ++ vs) hpair
      have htext' := htext.mono (List.suffix_append [key, sign] f).isInfix
      have hsame' := hbehind htext' hsame
      dsimp only at hsame'
      rw [← hpairs, ← hpairs] at hsame'
      exact hsame' hrest

private theorem pairs_looksTwoAhead (sofar : Assoc Argument) :
    Reading.LooksTwoAhead (pairs · sofar) :=
  pairs_looksTwoAheadAt sofar

private theorem read_looksTwoAhead : Reading.LooksTwoAhead read := by
  intro front
  have hvalue : Reading.LooksTwoAheadAt (fun source ts ↦ (value source ts).elim
      (fun argument rest ↦ .found [("value", argument)] rest)
      (fun cause rest ↦ if cause = .absent then .found [] rest else .missed cause rest)) front := by
    refine .elim (fun argument _ ↦ .found [("value", argument)])
      (fun cause _ rest ↦ if cause = .absent then .found [] rest else .missed cause rest)
      value_looksTwoAhead (fun source ts ↦ (value_grounded source ts).rest_suffix)
      (fun argument behind _ _ _ ↦ Reading.LooksTwoAhead.found _ behind) (fun cause ↦ ?_)
      (fun _ _ _ ↦ List.suffix_refl _) fun cause source ts ↦ ?_
    · split
      · exact Reading.LooksTwoAhead.found []
      · exact Reading.LooksTwoAhead.missed cause
    · split <;> exact List.suffix_refl _
  have hread := Reading.LooksTwoAheadAt.ite (fun hsame ↦ hsame.atMark_eq .closeParen)
    (Reading.LooksTwoAhead.found ([] : Assoc Argument) front)
    (.ite (fun hsame ↦ hsame.atNameWith_eq .equal) (pairs_looksTwoAhead [] front) hvalue)
  intro source source' us us'
  rw [read_eq, read_eq]
  exact @hread source source' us us'

private theorem close_looksTwoAhead : Reading.LooksTwoAhead fun _ ts ↦ close ts := by
  intro front
  refine .ite (fun hsame ↦ hsame.atMark_eq .closeParen)
    (.drop_one (Reading.LooksTwoAhead.found () front.tail) fun _ _ ↦ List.suffix_refl _) ?_
  intro source source' us us' _ hsame hrest
  -- the search looks at no token behind the one where it stops
  cases us with
  | nil =>
    rw [hsame.eq_of_length_lt Nat.two_pos]
    dsimp only at hrest ⊢
    split
    · rename_i hfault
      rw [hfault] at hrest
      exact congrArg (Reading.found ()) hrest
    · rename_i fault hfault
      rw [hfault] at hrest
      exact congrArg (Reading.missed .unclosedArguments) hrest
  | cons u us =>
    have hlength {n : Nat} (h : (front ++ u :: us).drop n = u :: us) : n = front.length := by
      have := congrArg List.length h
      rw [List.length_drop, List.length_append, List.length_cons] at this
      omega
    dsimp only at hrest ⊢
    split at hrest
    · rename_i hfault
      have hcount := hlength hrest
      rw [Skip.search_append_of_sameAhead hsame (by omega), hfault]
      dsimp only
      rw [hcount, List.drop_left]
      rfl
    · rename_i fault hfault
      have hcount := hlength hrest
      rw [Skip.search_append_of_sameAhead hsame (by omega), hfault]
      dsimp only
      rw [hcount, List.drop_left]
      rfl

private theorem parenthesized_looksTwoAhead : Reading.LooksTwoAhead parenthesized := by
  intro front
  have hinside : Reading.LooksTwoAheadAt (fun source ts ↦ (read source ts).andThen
      fun table rest ↦ (close rest).map fun _ ↦ table) front.tail := by
    refine .andThen (fun table _ rest ↦ (close rest).map fun _ ↦ table)
      read_looksTwoAhead (fun source ts ↦ (read_grounded source ts).rest_suffix)
      (fun table behind _ _ _ ↦ ?_) fun table source ts ↦ ((close_grounded ts).map _).rest_suffix
    exact .map _ close_looksTwoAhead fun _ ts ↦ (close_grounded ts).rest_suffix
  exact .ite (fun hsame ↦ hsame.atMark_eq .openParen)
    (.drop_one hinside fun source ts ↦ ((read_grounded source ts).andThen fun table rest _ ↦
      (close_grounded rest).map _).rest_suffix)
    (Reading.LooksTwoAhead.found _ front)

private theorem use_looksTwoAhead : Reading.LooksTwoAhead use := by
  intro front source source' us us' htext hsame hrest
  -- with fewer than two tokens nothing is left that could differ
  match hts : front ++ us with
  | [] | [_] =>
    rw [hts] at hrest
    obtain rfl : [] = us := hrest
    rw [hsame.eq_of_length_lt Nat.two_pos, hts]
    rfl
  | sign :: name :: ts =>
    rw [hts] at hrest
    cases hname : name.is .identifier with
    | false =>
      have hmissed (source : Option (List Char)) (ts : List Token) :
          use source (sign :: name :: ts) = .missed .absent (name :: ts) :=
        if_neg (ne_true_of_eq_false hname)
      rw [hmissed] at hrest ⊢
      obtain rfl : name :: ts = us := hrest
      obtain ⟨us', rfl⟩ := List.head?_eq_some_iff.mp hsame.head?_eq
      obtain rfl : front = [sign] := List.append_cancel_right hts
      exact hmissed source' us'
    | true =>
      let made (names : Ahead.Names) (table : Assoc Argument) : AnnotationUse :=
        ⟨((names.getLast?.map (·.2)).getD name).text, table, sign.line, sign.column⟩
      have huse (source : Option (List Char)) (ts : List Token) :
          use source (sign :: name :: ts) =
            (parenthesized source (Ahead.dottedNames (· = .identifier) ts).2).map
              (made (Ahead.dottedNames (· = .identifier) ts).1) := if_pos hname
      rw [huse, Reading.rest_map] at hrest
      have hnames := Ahead.dottedNames_rest_suffix (· = .identifier) ts
      have hparens := (parenthesized_grounded source
        (Ahead.dottedNames (· = .identifier) ts).2).rest_suffix
      rw [hrest] at hparens
      -- what is left begins behind the path and the arguments, so both are part of `front`
      obtain ⟨f, rfl, rfl⟩ := exists_split [sign, name] hts (hparens.trans hnames)
      obtain ⟨path, hpath⟩ := hnames
      obtain ⟨behind, rfl, hbehind⟩ := exists_split _ hpath.symm hparens
      have hnames' : Ahead.dottedNames (· = .identifier) (path ++ (behind ++ us')) = _ :=
        Ahead.dottedNames_append_of_sameAhead (hsame.append behind) (by rwa [← List.append_assoc])
      rw [← List.append_assoc, ← List.append_assoc] at hnames'
      have hbehind' : Reading.LooksTwoAheadAt _ behind := .map
        (made (Ahead.dottedNames (· = .identifier) (path ++ behind ++ us)).1)
        parenthesized_looksTwoAhead fun source ts ↦ (parenthesized_grounded source ts).rest_suffix
      rw [hbehind] at hrest
      rw [show [sign, name] ++ (path ++ behind) ++ us' = sign :: name :: (path ++ behind ++ us')
        from rfl, huse, huse, hnames', hbehind]
      exact hbehind' (htext.mono (List.suffix_append ([sign, name] ++ path) behind).isInfix) hsame
        ((Reading.rest_map ..).trans hrest)

private theorem length_lt_of_use {source : Option (List Char)} {ts rest : List Token}
    {u : AnnotationUse} (h : use source ts = .found u rest) : rest.length < ts.length := by
  cases ts with
  | nil => cases h
  | cons t ts =>
    have hlt := length_use_rest_lt source t ts
    rwa [h] at hlt

end Arguments

/-! ## Preludes -/

namespace Prelude

private theorem readFrom_of_other (source : Option (List Char)) (sofar : Prelude) {t : Token}
    {ts : List Token} (hcomment : t.kind.isComment = false)
    (hstarts : startsAnnotations t ts = false) :
    readFrom source sofar (t :: ts) = if isModifier t ts then
      readFrom source { sofar with modifiers := sofar.modifiers ++ [t.text] } ts
      else .found sofar (t :: ts) := by
  rw [readFrom, hcomment, hstarts, if_neg Bool.false_ne_true, if_neg Bool.false_ne_true]

private theorem readFrom_looksTwoAheadAt (sofar : Prelude) (front : List Token) :
    Reading.LooksTwoAheadAt (readFrom · sofar) front := by
  induction hn : front.length using Nat.strongRecOn generalizing front sofar with
  | ind n ih =>
    intro source source' us us' htext hsame hrest
    have hground (sofar : Prelude) (source : Option (List Char)) (ts : List Token) :=
      (readFrom_grounded source sofar ts).rest_suffix
    have hbehind {t : Token} (sofar : Prelude) (f : List Token) (hf : front = [t] ++ f) :
        Reading.LooksTwoAheadAt (readFrom · sofar) f := by
      refine ih f.length ?_ sofar f rfl
      rw [← hn, hf]
      exact Nat.lt_succ_self f.length
    dsimp only at hrest ⊢
    match hts : front ++ us with
    | [] =>
      obtain ⟨rfl, rfl⟩ := List.append_eq_nil_iff.mp hts
      rw [hsame.eq_of_length_lt Nat.two_pos, List.append_nil, readFrom, readFrom]
      rfl
    | t :: ts =>
      rw [hts] at hrest
      obtain ⟨ts', hts', hkind⟩ := hsame.exists_cons hts
      have hstarts' : startsAnnotations t ts' = startsAnnotations t ts := by
        rw [startsAnnotations, startsAnnotations, hkind]
      have hmodifier' : isModifier t ts' = isModifier t ts := by
        rw [isModifier, isModifier, Ahead.atMark, Ahead.atMark, hkind]
      rw [hts']
      -- a round looks at a token and the kind of the next one, and both sides have the same
      by_cases hcomment : t.kind.isComment = true
      · rw [readFrom, if_pos hcomment] at hrest ⊢
        rw [readFrom, if_pos hcomment]
        exact Reading.LooksTwoAheadAt.behind (hbehind { sofar with comment := some t }) (hground _)
          htext hsame hts hts' hrest
      rw [Bool.not_eq_true] at hcomment
      by_cases hstarts : startsAnnotations t ts = true
      · rw [readFrom_of_startsAnnotations source ts hcomment hstarts, ← hts] at hrest ⊢
        rw [readFrom_of_startsAnnotations source' ts' hcomment (hstarts'.trans hstarts), ← hts']
        refine Reading.LooksTwoAheadAt.andThen (fun use source ↦
          readFrom source { sofar with annotations := sofar.annotations ++ [use] })
          Arguments.use_looksTwoAhead (fun source ts ↦
            (Arguments.use_grounded source ts).rest_suffix)
          (fun use behind source us huse ↦ ih behind.length ?_ _ behind rfl)
          (fun use ↦ hground _) htext hsame hrest
        have hlt := Arguments.length_lt_of_use huse
        rw [List.length_append, List.length_append] at hlt
        omega
      rw [Bool.not_eq_true] at hstarts
      rw [readFrom_of_other source sofar hcomment hstarts] at hrest ⊢
      rw [readFrom_of_other source' sofar hcomment (hstarts'.trans hstarts), hmodifier']
      by_cases hmodifier : isModifier t ts = true
      · rw [if_pos hmodifier] at hrest ⊢
        rw [if_pos hmodifier]
        exact Reading.LooksTwoAheadAt.behind
          (hbehind { sofar with modifiers := sofar.modifiers ++ [t.text] }) (hground _) htext hsame
          hts hts' hrest
      · rw [if_neg hmodifier] at hrest ⊢
        obtain rfl : t :: ts = us := hrest
        obtain rfl : front = [] := List.append_left_eq_self.mp hts
        obtain rfl : us' = t :: ts' := hts'
        rw [if_neg hmodifier]
        rfl

theorem read_looksTwoAhead : Reading.LooksTwoAhead read := readFrom_looksTwoAheadAt {}

end Prelude

end ClassSchema

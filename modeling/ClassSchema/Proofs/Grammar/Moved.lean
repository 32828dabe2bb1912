import ClassSchema.Proofs.Grammar.Local
import Mathlib.Data.List.Forall2

/-!
# Tokens at another place

A part of a text has the same tokens wherever it stands, but for their lines, columns and spans. A
`Relocation` says which tokens may stand opposite each other when such a part is moved from one
source to another: they are of one kind and have one text, and where the text of the source is
looked at, it is the same.

Nothing in the grammar looks at a place. What is ahead, how far a group reaches and what a type is
written like are told from the kinds and the texts of the tokens alone. So each of these functions
comes to the same for tokens that were moved, and what it leaves was moved as well.
-/

namespace ClassSchema

/-- Which tokens of a second source are tokens of the first one that were moved. -/
structure Relocation (source source' : Option (List Char)) where
  /-- The one token is the other one at another place. -/
  Moved : Token → Token → Prop
  kind_eq : ∀ {t t' : Token}, Moved t t' → t'.kind = t.kind
  text_eq : ∀ {t t' : Token}, Moved t t' → t'.text = t.text
  sourceText_eq : ∀ {ts ts' : List Token}, List.Forall₂ Moved ts ts' →
    sourceText source' ts' = sourceText source ts

variable {source source' : Option (List Char)} {M : Relocation source source'} {t t' : Token}
  {ts ts' : List Token}

namespace Relocation

/-- The one tokens are the other ones at another place. -/
abbrev All (M : Relocation source source') : List Token → List Token → Prop := List.Forall₂ M.Moved

theorem is_eq (h : M.Moved t t') (kind : Kind) : t'.is kind = t.is kind := by
  rw [Token.is, Token.is, M.kind_eq h]

theorem isMark_eq (h : M.Moved t t') (m : Mark) : t'.isMark m = t.isMark m := by
  rw [Token.isMark, Token.isMark, M.kind_eq h]

variable (h : M.All ts ts')
include h

theorem length_eq : ts'.length = ts.length := List.Forall₂.length_eq h |>.symm

theorem take (n : Nat) : M.All (ts.take n) (ts'.take n) := List.forall₂_take n h

theorem drop (n : Nat) : M.All (ts.drop n) (ts'.drop n) := List.forall₂_drop n h

private theorem reverse : M.All ts.reverse ts'.reverse := List.rel_reverse h

theorem takeWhile {p : Token → Bool} (hp : ∀ {t t'}, M.Moved t t' → p t' = p t) :
    M.All (ts.takeWhile p) (ts'.takeWhile p) := by
  induction h with
  | nil => exact .nil
  | cons ht _ ih =>
    rw [List.takeWhile_cons, List.takeWhile_cons, hp ht]
    split
    · exact .cons ht ih
    · exact .nil

private theorem dropWhile {p : Token → Bool} (hp : ∀ {t t'}, M.Moved t t' → p t' = p t) :
    M.All (ts.dropWhile p) (ts'.dropWhile p) := by
  induction h with
  | nil => exact .nil
  | cons ht hts ih =>
    rw [List.dropWhile_cons, List.dropWhile_cons, hp ht]
    split
    · exact ih
    · exact .cons ht hts

end Relocation

/-! ## What is ahead -/

namespace Ahead

variable (h : M.All ts ts')
include h

theorem kind_moved : kind ts' = kind ts := by
  cases h with
  | nil => rfl
  | cons ht _ => exact M.kind_eq ht

theorem kindAt_moved (n : Nat) : kindAt n ts' = kindAt n ts := kind_moved (Relocation.drop h n)

theorem atMark_moved (m : Mark) : atMark m ts' = atMark m ts := by
  rw [atMark, atMark, kind_moved h]

theorem dottedNames_moved (isName : Kind → Bool) :
    List.Forall₂ (fun a a' ↦ M.Moved a.1 a'.1 ∧ M.Moved a.2 a'.2) (dottedNames isName ts).1
        (dottedNames isName ts').1 ∧
      M.All (dottedNames isName ts).2 (dottedNames isName ts').2 := by
  fun_induction dottedNames isName ts generalizing ts' with
  | case1 dot name rest hpair names more heq ih =>
    obtain _ | ⟨hdot, _ | ⟨hname, hrest⟩⟩ := h
    obtain ⟨hnames, hmore⟩ := ih hrest
    rw [dottedNames, M.isMark_eq hdot, M.kind_eq hname, if_pos hpair]
    rw [heq] at hnames hmore
    exact ⟨.cons ⟨hdot, hname⟩ hnames, hmore⟩
  | case2 dot name rest hpair =>
    obtain _ | ⟨hdot, _ | ⟨hname, hrest⟩⟩ := h
    rw [dottedNames, M.isMark_eq hdot, M.kind_eq hname, if_neg hpair]
    exact ⟨.nil, .cons hdot (.cons hname hrest)⟩
  | case3 ts hshort =>
    obtain _ | ⟨ht, _ | _⟩ := h
    · exact ⟨.nil, .nil⟩
    · exact ⟨.nil, .cons ht .nil⟩
    · exact absurd rfl (hshort _ _ _)

theorem bracketPairs_moved : (bracketPairs ts').1 = (bracketPairs ts).1 ∧
    M.All (bracketPairs ts).2 (bracketPairs ts').2 := by
  fun_induction bracketPairs ts generalizing ts' with
  | case1 left right rest hpair count more heq ih =>
    obtain _ | ⟨hleft, _ | ⟨hright, hrest⟩⟩ := h
    obtain ⟨hcount, hmore⟩ := ih hrest
    rw [bracketPairs, M.isMark_eq hleft, M.isMark_eq hright, if_pos hpair]
    rw [heq] at hcount hmore
    exact ⟨congrArg (· + 1) hcount, hmore⟩
  | case2 left right rest hpair =>
    obtain _ | ⟨hleft, _ | ⟨hright, hrest⟩⟩ := h
    rw [bracketPairs, M.isMark_eq hleft, M.isMark_eq hright, if_neg hpair]
    exact ⟨rfl, .cons hleft (.cons hright hrest)⟩
  | case3 ts hshort =>
    obtain _ | ⟨ht, _ | _⟩ := h
    · exact ⟨rfl, .nil⟩
    · exact ⟨rfl, .cons ht .nil⟩
    · exact absurd rfl (hshort _ _ _)

end Ahead

/-! ## How far to skip -/

namespace Skip

variable (h : M.All ts ts')
include h

private theorem groupLength_moved (opener closer : Mark) (depth : Nat) :
    groupLength opener closer depth ts' = groupLength opener closer depth ts := by
  induction h generalizing depth with
  | nil => rfl
  | cons ht _ ih =>
    rw [groupLength, groupLength, M.isMark_eq ht, M.isMark_eq ht, ih, ih, ih]

theorem balanced_moved : balanced ts' = balanced ts := by
  cases h with
  | nil => rfl
  | @cons t t' us us' ht hus =>
    have hgroup (opener closer : Mark) := groupLength_moved (.cons ht hus) opener closer 0
    rw [balanced, balanced, M.kind_eq ht]
    split
    · split
      · exact hgroup _ _
      · rfl
    · rfl

theorem upTo_moved (stops : Kind → Bool) : upTo stops ts' = upTo stops ts := by
  have htaken := Relocation.takeWhile h (p := (!stops ·.kind)) fun ht ↦ by rw [M.kind_eq ht]
  exact Relocation.length_eq htaken

theorem search_moved (target : Kind) (stops : Kind → Bool) :
    search target stops ts' = search target stops ts := by
  have hcount := upTo_moved h fun kind ↦ kind = target || stops kind
  have hdrop := Relocation.drop h (upTo (fun kind ↦ kind = target || stops kind) ts)
  rw [search, search, Ahead.kind_moved h]
  split
  · rfl
  · dsimp only
    rw [hcount]
    generalize ts.drop _ = us at hdrop
    generalize ts'.drop _ = us' at hdrop
    cases hdrop with
    | nil => rfl
    | cons ht _ =>
      dsimp only
      rw [M.kind_eq ht]

end Skip

/-! ## Types -/

/-- The one stretch was moved to the other. -/
structure Stretch.Moved (M : Relocation source source') (s s' : Stretch) : Prop where
  taken : M.All s.taken s'.taken
  rest : M.All s.rest s'.rest
  complete : s'.complete = s.complete

private theorem Stretch.Moved.andThen {s s' : Stretch} {next : List Token → Stretch}
    (h : s.Moved M s') (hnext : ∀ {us us'}, M.All us us' → (next us).Moved M (next us')) :
    (s.andThen next).Moved M (s'.andThen next) := by
  unfold Stretch.andThen
  rw [h.complete]
  split
  · have hthen := hnext h.rest
    exact ⟨List.rel_append h.taken hthen.taken, hthen.rest, hthen.complete⟩
  · exact h

namespace TypeText

section Stretches

variable (h : M.All ts ts')
include h

theorem nothing_moved : (Stretch.nothing ts).Moved M (.nothing ts') := ⟨.nil, h, rfl⟩

private theorem head_moved : (head ts).Moved M (head ts') := by
  cases h with
  | nil => exact ⟨.nil, .nil, rfl⟩
  | cons ht hts =>
    rw [head, head, M.kind_eq ht]
    split
    · exact ⟨.cons ht .nil, hts, rfl⟩
    · exact ⟨.nil, .cons ht hts, rfl⟩

private theorem path_moved : (path ts).Moved M (path ts') := by
  obtain ⟨hnames, hrest⟩ := Ahead.dottedNames_moved h (· = .identifier)
  refine ⟨List.rel_flatMap hnames fun a a' ha ↦ ?_, hrest, rfl⟩
  exact .cons ha.1 (.cons ha.2 .nil)

private theorem angleGroup_moved (depth : Nat) :
    (angleGroup depth ts).Moved M (angleGroup depth ts') := by
  induction h generalizing depth with
  | nil => exact ⟨.nil, .nil, rfl⟩
  | @cons t t' ts ts' ht hts ih =>
    have hkeep (depth : Nat) : Stretch.Moved M
        ⟨t :: (angleGroup depth ts).taken, (angleGroup depth ts).rest,
          (angleGroup depth ts).complete⟩
        ⟨t' :: (angleGroup depth ts').taken, (angleGroup depth ts').rest,
          (angleGroup depth ts').complete⟩ :=
      ⟨.cons ht (ih depth).taken, (ih depth).rest, (ih depth).complete⟩
    unfold angleGroup
    rw [M.isMark_eq ht, M.isMark_eq ht, M.kind_eq ht]
    dsimp only
    split
    · exact hkeep _
    · split
      · split
        · exact ⟨.cons ht .nil, hts, rfl⟩
        · exact hkeep _
      · split
        · exact ⟨.nil, .cons ht hts, rfl⟩
        · exact hkeep _

private theorem arguments_moved : (arguments ts).Moved M (arguments ts') := by
  unfold arguments
  rw [Ahead.atMark_moved h]
  split
  · exact angleGroup_moved h 0
  · exact nothing_moved h

private theorem dimensions_moved : (dimensions ts).Moved M (dimensions ts') := by
  fun_induction dimensions ts generalizing ts' with
  | case1 =>
    cases h
    exact nothing_moved .nil
  | case2 t hopen =>
    obtain _ | ⟨ht, _ | _⟩ := h
    rw [dimensions, M.isMark_eq ht, if_pos hopen]
    exact ⟨.cons ht .nil, .nil, rfl⟩
  | case3 t hopen u us hclose s =>
    rename_i ih
    obtain _ | ⟨ht, _ | ⟨hu, hus⟩⟩ := h
    obtain ⟨htaken, hrest, hcomplete⟩ := ih hus
    rw [dimensions, M.isMark_eq ht, if_pos hopen]
    dsimp only
    rw [M.isMark_eq hu, if_pos hclose]
    exact ⟨.cons ht (.cons hu htaken), hrest, hcomplete⟩
  | case4 t hopen u us hclose =>
    obtain _ | ⟨ht, _ | ⟨hu, hus⟩⟩ := h
    rw [dimensions, M.isMark_eq ht, if_pos hopen]
    dsimp only
    rw [M.isMark_eq hu, if_neg hclose]
    exact ⟨.cons ht .nil, .cons hu hus, rfl⟩
  | case5 t ts hopen =>
    obtain _ | ⟨ht, hts⟩ := h
    rw [dimensions.eq_def]
    dsimp only
    rw [M.isMark_eq ht, if_neg hopen]
    exact nothing_moved (.cons ht hts)

private theorem ellipsis_moved : (ellipsis ts).Moved M (ellipsis ts') := by
  match h with
  | .nil => exact nothing_moved .nil
  | .cons ha .nil => exact nothing_moved (.cons ha .nil)
  | .cons ha (.cons hb .nil) => exact nothing_moved (.cons ha (.cons hb .nil))
  | .cons ha (.cons hb (.cons hc hts)) =>
    rw [ellipsis, ellipsis, M.isMark_eq ha, M.isMark_eq hb, M.isMark_eq hc]
    split
    · exact ⟨.cons ha (.cons hb (.cons hc .nil)), hts, rfl⟩
    · exact nothing_moved (.cons ha (.cons hb (.cons hc hts)))

theorem scan_moved : (scan ts).Moved M (scan ts') :=
  ((((head_moved h).andThen path_moved).andThen arguments_moved).andThen
    dimensions_moved).andThen ellipsis_moved

private theorem joinAfter_moved (ht : M.Moved t t') : joinAfter t' ts' = joinAfter t ts := by
  induction h generalizing t t' with
  | nil => rfl
  | cons hu _ ih =>
    rw [joinAfter, joinAfter, gap, gap, M.isMark_eq ht, M.kind_eq ht, M.kind_eq hu, M.text_eq hu,
      ih hu]

theorem join_moved : join ts' = join ts := by
  cases h with
  | nil => rfl
  | cons ht hts => rw [join, join, M.text_eq ht, joinAfter_moved hts ht]

end Stretches

end TypeText

/-! ## Initializers -/

namespace Initializer

variable (h : M.All ts ts')
include h

private theorem startsDeclarator_moved : startsDeclarator ts' = startsDeclarator ts := by
  fun_induction startsDeclarator ts generalizing ts' with
  | case5 ts hshort =>
    obtain _ | ⟨_, _ | _⟩ := h
    · rfl
    · rfl
    · exact absurd rfl (hshort _ _ _)
  | _ =>
    obtain _ | ⟨hname, _ | ⟨hfollower, hrest⟩⟩ := h
    simp_all [startsDeclarator, M.is_eq hname, M.isMark_eq hfollower]

private theorem endsAt_moved (ht : M.Moved t t') : endsAt t' ts' = endsAt t ts := by
  rw [endsAt, endsAt, M.isMark_eq ht, M.isMark_eq ht, M.is_eq ht, Ahead.atMark_moved h,
    startsDeclarator_moved h]

theorem length_moved (depth : Nat) : length depth ts' = length depth ts := by
  induction h generalizing depth with
  | nil => rfl
  | @cons t t' ts ts' ht hts ih =>
    have hopens : opens t' = opens t := by
      rw [opens, opens, M.isMark_eq ht, M.isMark_eq ht, M.isMark_eq ht]
    have hcloses : closes t' = closes t := by
      rw [closes, closes, M.isMark_eq ht, M.isMark_eq ht, M.isMark_eq ht]
    cases h₁ : opens t with
    | true => rw [length_of_opens h₁, length_of_opens (hopens.trans h₁), ih]
    | false =>
      cases h₂ : closes t with
      | true =>
        cases depth with
        | zero => rw [length_of_closes_zero h₂, length_of_closes_zero (hcloses.trans h₂)]
        | succ depth => rw [length_of_closes h₂, length_of_closes (hcloses.trans h₂), ih]
      | false =>
        rw [length_of_inner h₁ h₂, length_of_inner (hopens.trans h₁) (hcloses.trans h₂), ih,
          endsAt_moved hts ht]

theorem dropComments_moved : M.All (dropComments ts) (dropComments ts') :=
  Relocation.reverse (Relocation.dropWhile (Relocation.reverse h) fun ht ↦ by rw [M.kind_eq ht])

end Initializer

end ClassSchema

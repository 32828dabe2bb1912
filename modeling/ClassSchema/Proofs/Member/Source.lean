import ClassSchema.Proofs.Declaration.Outline
import ClassSchema.Proofs.Member.Local

/-!
# What the source adds to a reading

The tokens alone decide what is read. The text of the source is looked at in two places, for the
initializer of a field and for an array among the arguments of an annotation, and it only decides
how the text of these tokens is spelled. So a reading comes to the same with every source and
without one: it misses its construct for the same reason, or it finds what is spelled from one and
the same outline, and it leaves the same tokens.

`Reading.Outlined` says so of a reading for each source, and says of the outline that it stands in
the tokens that were read. It passes through the ways of combining readings, so each construct
inherits it from its parts.
-/

namespace ClassSchema

/-! ## Sources with the same texts -/

/-- Two sources spell each row among some tokens alike. -/
def SameText (ts : List Token) (source source' : Option (List Char)) : Prop :=
  ∀ us, us <:+: ts → sourceText source us = sourceText source' us

namespace SameText

variable {ts us : List Token}

theorem mono {source source' : Option (List Char)} (h : SameText ts source source')
    (hus : us <:+: ts) : SameText us source source' := fun vs hvs ↦ h vs (hvs.trans hus)

/-- The text that some tokens cover is told by the source as far as they reach. -/
theorem sourceText_append {front : List Char} (h : ∀ t ∈ us, t.span.stop ≤ front.length)
    (behind : List Char) :
    sourceText (some (front ++ behind)) us = sourceText (some front) us := by
  cases us with
  | nil => rfl
  | cons first others =>
    have hstop : (others.getLast?.getD first).span.stop ≤ front.length :=
      h _ (List.mem_of_getLast? List.getLast?_cons)
    have hslice : ((front ++ behind).drop first.span.start).take
        ((others.getLast?.getD first).span.stop - first.span.start) =
          (front.drop first.span.start).take
            ((others.getLast?.getD first).span.stop - first.span.start) := by
      rw [List.drop_append, List.take_append_of_le_length]
      rw [List.length_drop]
      omega
    rw [sourceText, sourceText, hslice]

theorem append {front : List Char} (h : ∀ t ∈ ts, t.span.stop ≤ front.length)
    (behind behind' : List Char) :
    SameText ts (some (front ++ behind)) (some (front ++ behind')) := by
  intro us hus
  have hstop := fun t ht ↦ h t (hus.subset ht)
  rw [sourceText_append hstop, sourceText_append hstop]

end SameText

/-! ## Readings that have an outline -/

/-- A reading of `ts` is told by the tokens: with every source it finds what is spelled from one
outline, of which `P` holds together with the tokens that are left, or it misses its construct for
one reason. -/
inductive Reading.Outlined {α β : Type} (ts : List Token) (spell : (List Token → String) → β → α)
    (P : β → List Token → Prop) (read : Option (List Char) → Reading α) : Prop
  | found (outline : β) {rest : List Token} (stands : P outline rest) (suffix : rest <:+ ts)
    (eq : ∀ source, read source = .found (spell (sourceText source) outline) rest)
  | missed (cause : Miss) {rest : List Token} (suffix : rest <:+ ts)
    (eq : ∀ source, read source = .missed cause rest)

namespace Reading.Outlined

variable {α β γ δ : Type} {ts us : List Token} {spell : (List Token → String) → β → α}
  {spell' : (List Token → String) → δ → γ} {P Q : β → List Token → Prop}
  {R : δ → List Token → Prop} {read read' : Option (List Char) → Reading α}

theorem of_eq (h : ∀ source, read source = read' source) (hread : Outlined ts spell P read') :
    Outlined ts spell P read := funext h ▸ hread

theorem mono (h : Outlined us spell P read) (hus : us <:+ ts) : Outlined ts spell P read := by
  cases h with
  | found outline stands suffix eq => exact .found outline stands (suffix.trans hus) eq
  | missed cause suffix eq => exact .missed cause (suffix.trans hus) eq

theorem cons {t : Token} (h : Outlined ts spell P read) : Outlined (t :: ts) spell P read :=
  h.mono (List.suffix_cons t ts)

/-- A reading that does not look at the source is its own outline. -/
theorem same {r : Reading α} (hr : r.GroundedIn ts) :
    Outlined ts (fun _ a ↦ a) (fun _ _ ↦ True) fun _ ↦ r := by
  cases r with
  | found a rest => exact .found a trivial hr.rest_suffix fun _ ↦ rfl
  | missed cause rest => exact .missed cause hr.rest_suffix fun _ ↦ rfl

theorem imp (h : Outlined ts spell P read) (hPQ : ∀ b rest, rest <:+ ts → P b rest → Q b rest) :
    Outlined ts spell Q read := by
  cases h with
  | found outline stands suffix eq => exact .found outline (hPQ _ _ suffix stands) suffix eq
  | missed cause suffix eq => exact .missed cause suffix eq

theorem elim {onFound : Option (List Char) → α → List Token → Reading γ}
    {onMissed : Option (List Char) → Miss → List Token → Reading γ} (h : Outlined ts spell P read)
    (hfound : ∀ b rest, P b rest → rest <:+ ts →
      Outlined rest spell' R fun source ↦ onFound source (spell (sourceText source) b) rest)
    (hmissed : ∀ cause rest, rest <:+ ts →
      Outlined rest spell' R fun source ↦ onMissed source cause rest) :
    Outlined ts spell' R fun source ↦ (read source).elim (onFound source) (onMissed source) := by
  cases h with
  | found outline stands suffix eq =>
    refine .of_eq (fun source ↦ ?_) ((hfound outline _ stands suffix).mono suffix)
    rw [eq, Reading.elim]
  | missed cause suffix eq =>
    refine .of_eq (fun source ↦ ?_) ((hmissed cause _ suffix).mono suffix)
    rw [eq, Reading.elim]

theorem andThen {next : Option (List Char) → α → List Token → Reading γ}
    (h : Outlined ts spell P read)
    (hnext : ∀ b rest, P b rest → rest <:+ ts →
      Outlined rest spell' R fun source ↦ next source (spell (sourceText source) b) rest) :
    Outlined ts spell' R fun source ↦ (read source).andThen (next source) := by
  refine .of_eq (fun source ↦ Reading.andThen_eq_elim _ _) (h.elim hnext fun cause rest _ ↦ ?_)
  exact .missed cause (List.suffix_refl rest) fun _ ↦ rfl

theorem map {f : Option (List Char) → α → γ} (g : β → δ) (h : Outlined ts spell P read)
    (heq : ∀ b source, f source (spell (sourceText source) b) = spell' (sourceText source) (g b))
    (hg : ∀ b rest, P b rest → rest <:+ ts → R (g b) rest) :
    Outlined ts spell' R fun source ↦ (read source).map (f source) := by
  refine h.andThen fun b rest hb hrest ↦ .found (g b) (hg b rest hb hrest) (List.suffix_refl _) ?_
  exact fun source ↦ congrArg (Reading.found · rest) (heq b source)

theorem orMalformed (h : Outlined ts spell P read) (why : Malformation) :
    Outlined ts spell P fun source ↦ (read source).orMalformed why := by
  cases h with
  | found outline stands suffix eq =>
    exact .found outline stands suffix fun source ↦ by rw [eq]; rfl
  | missed cause suffix eq =>
    cases cause <;> exact .missed _ suffix fun source ↦ by rw [eq]; rfl

end Reading.Outlined

variable {ts us all : List Token}

/-! ## Annotations -/

private theorem ArgumentOutline.stands_array (h : Ahead.atMark .openBrace ts = true) :
    (array (ts.take (Skip.balanced ts))).Stands ts (ts.drop (Skip.balanced ts)) := by
  cases ts with
  | nil => cases h
  | cons t ts =>
    rcases Skip.isGroup_take_balanced (of_decide_eq_true h) rfl ts with hgroup | ⟨hlength, hopen⟩
    · have hstands := Stands.array ((t :: ts).drop (Skip.balanced (t :: ts))) hgroup
      rwa [List.take_append_drop] at hstands
    · rw [hlength, List.take_length, List.drop_length]
      exact .unclosed h hopen

private theorem ArgumentOutline.spellAll_put (text : List Token → String)
    (table : Assoc ArgumentOutline) (key : String) (a : ArgumentOutline) :
    spellAll text (table.put key a) = (spellAll text table).put key (a.spell text) := by
  induction table with
  | nil => rfl
  | cons entry rest ih =>
    obtain ⟨k, b⟩ := entry
    have hspelled : spellAll text ((k, b) :: rest) = (k, b.spell text) :: spellAll text rest := rfl
    rw [Assoc.put, hspelled, Assoc.put]
    by_cases hk : k = key
    · rw [if_pos hk, if_pos hk]
      rfl
    · rw [if_neg hk, if_neg hk, ← ih]
      rfl

private theorem Assoc.mem_put {α : Type} {table : Assoc α} {key : String} {a : α}
    {entry : String × α} (h : entry ∈ table.put key a) : entry ∈ table ∨ entry = (key, a) := by
  induction table with
  | nil => exact .inr (List.mem_singleton.mp h)
  | cons first rest ih =>
    rw [Assoc.put] at h
    split at h
    · rcases List.mem_cons.mp h with rfl | hrest
      · exact .inr rfl
      · exact .inl (List.mem_cons_of_mem _ hrest)
    · rcases List.mem_cons.mp h with rfl | hrest
      · exact .inl List.mem_cons_self
      · exact (ih hrest).imp_left (List.mem_cons_of_mem _)

namespace Arguments

private theorem value_eq_of_no_array {source source' : Option (List Char)}
    (h : Ahead.atMark .openBrace ts = false) : value source ts = value source' ts := by
  cases ts with
  | nil => rfl
  | cons t ts =>
    simp only [value]
    split <;> try rfl
    rename_i hkind
    rw [Ahead.atMark, Ahead.kind, hkind] at h
    cases h

theorem value_outlined :
    Reading.Outlined ts ArgumentOutline.spell (fun a rest ↦ a.Stands ts rest)
      fun source ↦ value source ts := by
  by_cases hopen : Ahead.atMark .openBrace ts = true
  · exact .found _ (ArgumentOutline.stands_array hopen) (List.drop_suffix _ ts)
      fun source ↦ value_of_openBrace source hopen
  · rw [Bool.not_eq_true] at hopen
    have hvalue := value_grounded none ts
    cases hread : value none ts with
    | found a rest =>
      refine .found (.plain a) (.plain a rest hopen) (hvalue.suffix_of_found hread) fun source ↦ ?_
      exact (value_eq_of_no_array hopen).trans hread
    | missed cause rest =>
      exact .missed cause (hvalue.suffix_of_missed hread) fun source ↦
        (value_eq_of_no_array hopen).trans hread

/-- The entries of a table stand between two points, apart from those there were before. -/
def Adds (sofar : Assoc ArgumentOutline) (ts : List Token) (table : Assoc ArgumentOutline)
    (rest : List Token) : Prop :=
  ∀ entry ∈ table, entry ∈ sofar ∨ Within (entry.2.StandsUnder entry.1) ts rest

private theorem pairs_outlined (sofar : Assoc ArgumentOutline) :
    Reading.Outlined ts ArgumentOutline.spellAll (Adds sofar ts)
      fun source ↦ pairs source (ArgumentOutline.spellAll (sourceText source) sofar) ts := by
  induction hn : ts.length using Nat.strongRecOn generalizing ts sofar with
  | ind n ih =>
    by_cases hpair : Ahead.atNameWith .equal ts = true
    · obtain ⟨key, sign, us, rfl, hkey, hsign⟩ := Ahead.exists_eq_cons_of_atNameWith hpair
      have hus : us <:+ key :: sign :: us := ⟨[key, sign], rfl⟩
      refine .of_eq (fun source ↦ pairs_of_pair source us hpair)
        ((value_outlined.elim (fun a rest ha hrest ↦ ?_) fun cause rest hrest ↦ ?_).mono hus)
      · -- the entry that is read here stays where it is while more of them are read
        have hadds {more : List Token} (hmore : more <:+ rest) :
            Adds sofar (key :: sign :: us) (sofar.put key.text a) more := fun entry hentry ↦ by
          rcases Assoc.mem_put hentry with hold | rfl
          · exact .inl hold
          · exact .inr (.of (.key hkey hsign ha) (List.suffix_refl _) (hrest.trans hus) hmore)
        simp only [← ArgumentOutline.spellAll_put]
        split
        · have hdrop := List.drop_suffix 1 rest
          -- the comma goes too, so fewer tokens are left
          have hlt : (rest.drop 1).length < n := by
            have hle := hrest.length_le
            simp only [List.length_cons] at hn
            simp only [List.length_drop]
            omega
          refine ((ih _ hlt (sofar.put key.text a) rfl).imp fun table more hmore htable ↦ ?_).mono
            hdrop
          intro entry hentry
          rcases htable entry hentry with hput | hwithin
          · exact hadds (hmore.trans hdrop) entry hput
          · exact .inr (hwithin.mono (hdrop.trans (hrest.trans hus)) (List.suffix_refl _))
        · exact .found _ (hadds (List.suffix_refl _)) (List.suffix_refl _) fun _ ↦ rfl
      · split
        · exact .found sofar (fun _ ↦ .inl) (List.suffix_refl _) fun _ ↦ rfl
        · exact .missed cause (List.suffix_refl _) fun _ ↦ rfl
    · rw [Bool.not_eq_true] at hpair
      exact .found sofar (fun _ ↦ .inl) (List.suffix_refl _)
        fun source ↦ pairs_of_no_pair source hpair

/-- Behind its parenthesis the arguments of an annotation stand with their keys. -/
theorem read_outlined {paren : Token} (hparen : paren.isMark .openParen = true) :
    Reading.Outlined ts ArgumentOutline.spellAll (Adds [] (paren :: ts))
      fun source ↦ read source ts := by
  refine .of_eq (fun source ↦ read_eq source ts) ?_
  split
  · exact .found [] (List.forall_mem_nil _) (List.suffix_refl _) fun _ ↦ rfl
  · split
    · refine (pairs_outlined []).imp fun table rest _ htable entry hentry ↦ ?_
      refine (htable entry hentry).imp_right fun hpair ↦ ?_
      exact hpair.mono (List.suffix_cons paren ts) (List.suffix_refl _)
    · refine value_outlined.elim (fun a rest ha hrest ↦ ?_) fun cause rest _ ↦ ?_
      · refine .found [("value", a)] (fun entry hentry ↦ ?_) (List.suffix_refl _) fun _ ↦ rfl
        obtain rfl := List.mem_singleton.mp hentry
        exact .inr (.of (.alone hparen ha) (List.suffix_refl _)
          (hrest.trans (List.suffix_cons paren ts)) (List.suffix_refl _))
      · split
        · exact .found [] (List.forall_mem_nil _) (List.suffix_refl _) fun _ ↦ rfl
        · exact .missed cause (List.suffix_refl _) fun _ ↦ rfl

private theorem parenthesized_outlined :
    Reading.Outlined ts ArgumentOutline.spellAll (Adds [] ts)
      fun source ↦ parenthesized source ts := by
  unfold parenthesized
  split
  · rename_i hopen
    cases ts with
    | nil => cases hopen
    | cons paren ts =>
      refine Reading.Outlined.cons ((read_outlined hopen).andThen fun table rest htable _ ↦ ?_)
      refine (Reading.Outlined.same (close_grounded rest)).map (fun _ ↦ table) (fun _ _ ↦ rfl) ?_
      exact fun _ more _ hmore entry hentry ↦
        (htable entry hentry).imp_right (·.mono (List.suffix_refl _) hmore)
  · exact .found [] (List.forall_mem_nil _) (List.suffix_refl _) fun _ ↦ rfl

private theorem use_outlined {sign : Token} (hsign : sign.isMark .atSign = true) :
    Reading.Outlined ts AnnotationOutline.spell (fun a rest ↦ a.Stands (sign :: ts) rest)
      fun source ↦ use source (sign :: ts) := by
  cases ts with
  | nil => exact .missed .absent (List.suffix_refl _) fun _ ↦ rfl
  | cons name us =>
    simp only [use]
    split
    · have hnames := Ahead.dottedNames_rest_suffix (· = .identifier) us
      have hbehind := hnames.trans (List.suffix_cons name us)
      refine Reading.Outlined.mono (parenthesized_outlined.map (fun table ↦ ⟨⟨_, [], _, _⟩, table⟩)
        (fun _ _ ↦ rfl) fun table rest htable _ ↦ ?_) hbehind
      refine ⟨sign, _, rfl, hsign, rfl, rfl, fun entry hentry ↦ ?_⟩
      rcases htable entry hentry with hnone | hwithin
      · cases hnone
      · exact hwithin.mono hbehind (List.suffix_refl _)
    · exact .missed .absent (List.suffix_refl _) fun _ ↦ rfl

end Arguments

/-! ## Preludes -/

/-- What stands in front of a declaration, with the outlines of its annotations. -/
structure PreludeOutline where
  comment : Option Token := none
  annotations : List AnnotationOutline := []
  modifiers : List String := []

namespace PreludeOutline

/-- The prelude, with the texts of its runs. -/
def spell (text : List Token → String) (head : PreludeOutline) : Prelude :=
  ⟨head.comment, head.annotations.map (·.spell text), head.modifiers⟩

/-- The annotations stand in front of `ts`, which is what is left of `all`. -/
structure Stands (head : PreludeOutline) (all ts : List Token) : Prop where
  suffix : ts <:+ all
  annotations : ∀ a ∈ head.annotations, Within a.Stands all ts

variable {head : PreludeOutline}

theorem Stands.mono (h : head.Stands all ts) (hus : us <:+ ts) : head.Stands all us :=
  ⟨hus.trans h.suffix, fun a ha ↦ (h.annotations a ha).mono (List.suffix_refl _) hus⟩

private theorem isEmpty_spell (text : List Token → String) :
    (head.spell text).isEmpty = (head.annotations.isEmpty && head.modifiers.isEmpty) := by
  rw [spell, Prelude.isEmpty, List.isEmpty_map]

private theorem readFrom_outlined (hhead : head.Stands all ts) :
    Reading.Outlined ts spell (fun more rest ↦ more.Stands all rest)
      fun source ↦ Prelude.readFrom source (head.spell (sourceText source)) ts := by
  -- on the number of tokens, since an annotation takes any number of them
  induction hn : ts.length using Nat.strongRecOn generalizing ts head with
  | ind n ih =>
    cases ts with
    | nil => exact .found head hhead (List.suffix_refl _) fun source ↦ by rw [Prelude.readFrom]
    | cons t ts =>
      have hlt : ts.length < n := hn ▸ Nat.lt_succ_self ts.length
      have hbehind := hhead.mono (List.suffix_cons t ts)
      by_cases hcomment : t.kind.isComment = true
      · let commented : PreludeOutline := { head with comment := some t }
        have hcommented : commented.Stands all ts := ⟨hbehind.suffix, hbehind.annotations⟩
        refine .of_eq (fun source ↦ ?_) (ih _ hlt hcommented rfl).cons
        rw [Prelude.readFrom, if_pos hcomment]
        rfl
      · by_cases hstarts : Prelude.startsAnnotations t ts = true
        · rw [Bool.not_eq_true] at hcomment
          have hsign : t.isMark .atSign = true := (Bool.and_eq_true_iff.mp hstarts).1
          refine .of_eq (fun source ↦
            Prelude.readFrom_of_startsAnnotations source ts hcomment hstarts) ?_
          refine ((Arguments.use_outlined hsign).andThen fun a rest ha hrest ↦ ?_).cons
          have hlt' : rest.length < n := Nat.lt_of_le_of_lt hrest.length_le hlt
          let annotated : PreludeOutline := { head with annotations := head.annotations ++ [a] }
          have hannotated : annotated.Stands all rest := by
            refine ⟨hrest.trans hbehind.suffix, List.forall_mem_append.mpr ⟨?_, ?_⟩⟩
            · exact (hbehind.mono hrest).annotations
            · exact List.forall_mem_singleton.mpr
                (.of ha hhead.suffix (hrest.trans (List.suffix_cons t ts)) (List.suffix_refl _))
          refine .of_eq (fun source ↦ ?_) (ih _ hlt' hannotated rfl)
          simp only [spell, annotated, List.map_append, List.map_cons, List.map_nil]
        · by_cases hmodifier : Prelude.isModifier t ts = true
          · let modified : PreludeOutline := { head with modifiers := head.modifiers ++ [t.text] }
            have hmodified : modified.Stands all ts := ⟨hbehind.suffix, hbehind.annotations⟩
            refine .of_eq (fun source ↦ ?_) (ih _ hlt hmodified rfl).cons
            rw [Prelude.readFrom, if_neg hcomment, if_neg hstarts, if_pos hmodifier]
            rfl
          · refine .found head hhead (List.suffix_refl _) fun source ↦ ?_
            rw [Prelude.readFrom, if_neg hcomment, if_neg hstarts, if_neg hmodifier]

theorem read_outlined :
    Reading.Outlined ts spell (fun head rest ↦ head.Stands ts rest)
      fun source ↦ Prelude.read source ts := by
  have hempty : PreludeOutline.Stands {} ts ts := ⟨List.suffix_refl _, List.forall_mem_nil _⟩
  exact readFrom_outlined hempty

end PreludeOutline

variable {head : PreludeOutline}

/-! ## Methods -/

namespace ParameterOutline

private theorem readNamed_outlined (hhead : head.Stands all ts) (type : String) :
    Reading.Outlined ts spell (fun p rest ↦ p.Stands all rest)
      fun source ↦ ParameterDecl.readNamed (head.spell (sourceText source)) type ts := by
  cases ts with
  | nil => exact .missed .absent (List.suffix_refl _) fun _ ↦ rfl
  | cons name more =>
    simp only [ParameterDecl.readNamed]
    split
    · have hrest := (Ahead.bracketPairs_rest_suffix more).trans (List.suffix_cons name more)
      refine .found ⟨⟨name.text, _, []⟩, head.annotations⟩ ?_ hrest fun _ ↦ rfl
      refine ⟨(hhead.mono hrest).annotations, ?_⟩
      exact .of ⟨name, rfl, rfl⟩ hhead.suffix hrest (List.suffix_refl _)
    · exact .missed .absent (List.suffix_refl _) fun _ ↦ rfl

private theorem read_outlined :
    Reading.Outlined ts spell (fun p rest ↦ p.Stands ts rest)
      fun source ↦ ParameterDecl.read source ts := by
  refine .of_eq (fun source ↦ ParameterDecl.read_eq source ts) ?_
  refine PreludeOutline.read_outlined.andThen fun head rest hhead _ ↦ ?_
  refine (Reading.Outlined.same (TypeText.read_grounded rest)).andThen fun type more _ hmore ↦ ?_
  exact readNamed_outlined (hhead.mono hmore) type

private theorem readList_outlined :
    Reading.Outlined ts (fun text (ps : List ParameterOutline) ↦ ps.map (·.spell text))
      (fun ps rest ↦ ∀ p ∈ ps, Within p.Stands ts rest)
      fun source ↦ ParameterDecl.readList source ts := by
  induction hn : ts.length using Nat.strongRecOn generalizing ts with
  | ind n ih =>
    refine .of_eq (fun source ↦ ParameterDecl.readList_eq source ts) ?_
    refine read_outlined.andThen fun p rest hp hrest ↦ ?_
    have hstands {more : List Token} (hmore : more <:+ rest) : Within p.Stands ts more :=
      .of hp (List.suffix_refl _) hrest hmore
    split
    · rename_i hcomma
      cases rest with
      | nil => cases hcomma
      | cons comma others =>
        have hlt : others.length < n := hn ▸ Nat.lt_of_succ_le hrest.length_le
        have hothers := (List.suffix_cons comma others).trans hrest
        refine ((ih _ hlt rfl).map (p :: ·) (fun _ _ ↦ rfl) fun ps more hps hmore ↦ ?_).cons
        refine List.forall_mem_cons.mpr ⟨hstands (hmore.trans (List.suffix_cons comma others)), ?_⟩
        exact fun q hq ↦ (hps q hq).mono hothers (List.suffix_refl _)
    · exact .found [p] (List.forall_mem_singleton.mpr (hstands (List.suffix_refl _)))
        (List.suffix_refl _) fun _ ↦ rfl

end ParameterOutline

namespace MethodOutline

private theorem readParameters_outlined (name : String) :
    Reading.Outlined ts (fun text (ps : List ParameterOutline) ↦ ps.map (·.spell text))
      (fun ps rest ↦ ∀ p ∈ ps, Within p.Stands ts rest)
      fun source ↦ MethodDecl.readParameters source name ts := by
  have hparameters : Reading.Outlined ts (fun text (ps : List ParameterOutline) ↦
      ps.map (·.spell text)) (fun ps rest ↦ ∀ p ∈ ps, Within p.Stands ts rest) fun source ↦
        if Ahead.atMark .closeParen ts then .found [] ts
        else (ParameterDecl.readList source ts).orMalformed (.parameters name) := by
    split
    · exact .found [] (List.forall_mem_nil _) (List.suffix_refl _) fun _ ↦ rfl
    · exact ParameterOutline.readList_outlined.orMalformed _
  refine hparameters.andThen fun ps rest hps _ ↦ ?_
  split
  · have hdrop := List.drop_suffix 1 rest
    exact .found ps (fun p hp ↦ (hps p hp).mono (List.suffix_refl _) hdrop) hdrop fun _ ↦ rfl
  · exact .missed _ (List.suffix_refl _) fun _ ↦ rfl

private theorem readRest_outlined {name : Token} {others : List Token}
    (hhead : head.Stands all (name :: others)) (hts : ts <:+ others) (returnType : Option String) :
    Reading.Outlined ts spell (fun m rest ↦ m.Stands all rest) fun source ↦
      MethodDecl.readRest source (head.spell (sourceText source)) returnType name ts := by
  have hbehind := hts.trans (List.suffix_cons name others)
  refine (readParameters_outlined name.text).andThen fun ps rest hps hrest ↦ ?_
  refine (Reading.Outlined.same (MethodDecl.skipBody_grounded name.text rest)).map
    (fun _ ↦ ⟨⟨name.text, returnType, head.modifiers, [], [], head.comment.map (·.text), name.line,
      name.column⟩, head.annotations, ps⟩) (fun _ _ ↦ rfl) fun _ more _ hmore ↦ ?_
  have hall := (hmore.trans hrest).trans hbehind
  refine ⟨(hhead.mono hall).annotations, ?_, fun p hp ↦ ?_⟩
  · exact .of ⟨name, rfl, rfl, rfl, rfl⟩ hhead.suffix hall (List.suffix_refl _)
  · exact (hps p hp).mono (hbehind.trans hhead.suffix) hmore

end MethodOutline

/-! ## Fields -/

/-- A declarator with the tokens of its initializer. -/
structure DeclaratorOutline where
  name : Token
  type : String
  value : Option (List Token)

theorem Initializer.read_eq (source : Option (List Char)) (ts : List Token) :
    read source ts = if tokens ts = [] then .missed .absent (ts.drop (length 0 ts))
      else .found (sourceText source (tokens ts)) (ts.drop (length 0 ts)) := by
  unfold read tokens
  dsimp only
  split
  · rename_i h
    rw [if_pos h]
  · rename_i h
    rw [if_neg h]

namespace DeclaratorOutline

/-- The declarator, with the text of its initializer. -/
def spell (text : List Token → String) (d : DeclaratorOutline) : Declarator :=
  ⟨d.name, d.type, d.value.map text⟩

/-- The declarator stands at the front of `ts`: its name, `[]` pairs and its value. -/
def Stands (d : DeclaratorOutline) (ts rest : List Token) : Prop :=
  ∃ others, ts = d.name :: others ∧
    Initializer.Stands d.value (Ahead.bracketPairs others).2 rest

private theorem readValue_outlined (name : Token) :
    Reading.Outlined ts (fun text (value : Option (List Token)) ↦ value.map text)
      (fun value rest ↦ Initializer.Stands value ts rest)
      fun source ↦ Declarator.readValue source name ts := by
  unfold Declarator.readValue
  split
  · rename_i hequal
    cases ts with
    | nil => cases hequal
    | cons sign us =>
      have hdrop : us.drop (Initializer.length 0 us) <:+ sign :: us :=
        (List.drop_suffix _ us).trans (List.suffix_cons sign us)
      by_cases hnil : Initializer.tokens us = []
      · refine .missed (.malformed (.value name.text)) hdrop fun source ↦ ?_
        rw [List.drop_succ_cons, List.drop_zero, Initializer.read_eq, if_pos hnil]
        rfl
      · refine .found _ (.some hequal hnil) hdrop fun source ↦ ?_
        rw [List.drop_succ_cons, List.drop_zero, Initializer.read_eq, if_neg hnil]
        rfl
  · rename_i hequal
    rw [Bool.not_eq_true] at hequal
    exact .found none (.none hequal) (List.suffix_refl _) fun _ ↦ rfl

private theorem readNext_outlined {d : DeclaratorOutline} (hd : Within d.Stands all ts)
    (hts : ts <:+ all) (type : String)
    (hlist : ∀ next more, next :: more <:+ ts → more.length < ts.length →
      Reading.Outlined more (fun text (ds : List DeclaratorOutline) ↦ ds.map (·.spell text))
        (fun ds rest ↦ ∀ e ∈ ds, Within e.Stands (next :: more) rest)
        fun source ↦ Declarator.readList source type next more) :
    Reading.Outlined ts (fun text (ds : List DeclaratorOutline) ↦ ds.map (·.spell text))
      (fun ds rest ↦ ∀ e ∈ ds, Within e.Stands all rest)
      fun source ↦ Declarator.readNext source type (d.spell (sourceText source)) ts := by
  have hlast : Reading.Outlined ts (fun text (ds : List DeclaratorOutline) ↦ ds.map (·.spell text))
      (fun ds rest ↦ ∀ e ∈ ds, Within e.Stands all rest)
      fun source ↦ .found [d.spell (sourceText source)] ts :=
    .found [d] (List.forall_mem_singleton.mpr hd) (List.suffix_refl _) fun _ ↦ rfl
  unfold Declarator.readNext
  split
  · rename_i comma next more
    split
    · have hnext := List.suffix_cons comma (next :: more)
      have hlt : more.length < (comma :: next :: more).length := by
        simp only [List.length_cons]
        omega
      refine Reading.Outlined.mono ((hlist next more hnext hlt).map (d :: ·) (fun _ _ ↦ rfl)
        fun ds rest hds hrest ↦ ?_) ((List.suffix_cons next more).trans hnext)
      refine List.forall_mem_cons.mpr ⟨?_, fun e he ↦ ?_⟩
      · exact hd.mono (List.suffix_refl _)
          (hrest.trans ((List.suffix_cons next more).trans hnext))
      · exact (hds e he).mono (hnext.trans hts) (List.suffix_refl _)
    · exact hlast
  · exact hlast

private theorem readList_outlined (type : String) (name : Token) :
    Reading.Outlined ts (fun text (ds : List DeclaratorOutline) ↦ ds.map (·.spell text))
      (fun ds rest ↦ ∀ d ∈ ds, Within d.Stands (name :: ts) rest)
      fun source ↦ Declarator.readList source type name ts := by
  induction hn : ts.length using Nat.strongRecOn generalizing ts name with
  | ind n ih =>
    have hbehind := Ahead.bracketPairs_rest_suffix ts
    refine .of_eq (fun source ↦ Declarator.readList_eq source type name) ?_
    refine Reading.Outlined.mono ?_ hbehind
    refine (readValue_outlined name).andThen fun value rest hvalue hrest ↦ ?_
    have hts := hrest.trans hbehind
    have hall := hts.trans (List.suffix_cons name ts)
    refine readNext_outlined (d := ⟨name, _, value⟩) ?_ hall type fun next more hmore hlt ↦ ?_
    · exact .of ⟨ts, rfl, hvalue⟩ (List.suffix_refl _) hall (List.suffix_refl _)
    · exact ih _ (hn ▸ Nat.lt_of_lt_of_le hlt hts.length_le) next rfl

private theorem map_name_spell (text : List Token → String) (ds : List DeclaratorOutline) :
    (ds.map (spell text)).map (·.name) = ds.map (·.name) := List.map_map

end DeclaratorOutline

/-- The field of a declarator. -/
def FieldOutline.ofDeclarator (head : PreludeOutline) (trailing : Option String)
    (d : DeclaratorOutline) : FieldOutline :=
  ⟨{ name := d.name.text
     type := d.type
     modifiers := head.modifiers
     comment := head.comment.map (·.text)
     trailingComment := trailing
     line := d.name.line
     column := d.name.column }, head.annotations, d.value⟩

private theorem FieldOutline.readRest_outlined {name : Token} (hhead : head.Stands all (name :: ts))
    (type : String) :
    Reading.Outlined ts (fun text (fs : List FieldOutline) ↦ fs.map (·.spell text))
      (fun fs rest ↦ ∀ f ∈ fs, f.Stands all rest)
      fun source ↦ FieldDecl.readRest source (head.spell (sourceText source)) type name ts := by
  refine (DeclaratorOutline.readList_outlined type name).andThen fun ds rest hds hrest ↦ ?_
  have hsuffix := FieldDecl.trailingComment?_rest_suffix rest
  dsimp only
  split
  · have hdrop := (List.drop_suffix 1 _).trans hsuffix
    have hall := (hdrop.trans hrest).trans (List.suffix_cons name ts)
    refine .found (ds.map (ofDeclarator head (FieldDecl.trailingComment? rest).1))
      (fun f hf ↦ ?_) hdrop fun source ↦ ?_
    · obtain ⟨d, hd, rfl⟩ := List.mem_map.mp hf
      refine ⟨(hhead.mono hall).annotations, ?_⟩
      obtain ⟨us, vs, ⟨others, rfl, hvalue⟩, hus, hvs, hbehind⟩ := hds d hd
      exact .of ⟨d.name, others, rfl, rfl, rfl, rfl, hvalue⟩ (hus.trans hhead.suffix) hvs
        (hdrop.trans hbehind)
    · rw [List.map_map, List.map_map]
      rfl
  · let last := (ds.getLast?.map (·.name)).getD name
    refine .missed (.malformed (.semicolon last.text)) hsuffix fun source ↦ ?_
    rw [← List.getLast?_map, DeclaratorOutline.map_name_spell, List.getLast?_map]

/-! ## Members -/

/-- What stands at the place of a member: outlines of members, or a type that is passed over. -/
inductive MemberItemOutline
  | members (outlines : List MemberOutline)
  | nestedType (what : Skippable)

namespace MemberItemOutline

/-- The item, with the texts of its runs. -/
def spell (text : List Token → String) : MemberItemOutline → MemberItem
  | members outlines => .members (outlines.map (·.spell text))
  | nestedType what => .nestedType what

/-- The members stand between two points. -/
def Stands : MemberItemOutline → List Token → List Token → Prop
  | members outlines, ts, rest => ∀ m ∈ outlines, m.Stands ts rest
  | nestedType _, _, _ => True

theorem stands_none (ts rest : List Token) : (members []).Stands ts rest := List.forall_mem_nil _

theorem readMethod_outlined {name : Token} {others : List Token}
    (hhead : head.Stands all (name :: others)) (hts : ts <:+ others) (returnType : Option String) :
    Reading.Outlined ts spell (fun item rest ↦ item.Stands all rest) fun source ↦
      (MethodDecl.readRest source (head.spell (sourceText source)) returnType name ts).map fun m ↦
        MemberItem.members [.method m] := by
  refine (MethodOutline.readRest_outlined hhead hts returnType).map
    (fun m ↦ members [.method m]) (fun _ _ ↦ rfl) fun m rest hm _ ↦ ?_
  exact List.forall_mem_singleton.mpr hm

private theorem readTyped_outlined (hhead : head.Stands all ts) (type : String) :
    Reading.Outlined ts spell (fun item rest ↦ item.Stands all rest)
      fun source ↦ MemberItem.readTyped source (head.spell (sourceText source)) type ts := by
  cases ts with
  | nil => exact .missed _ (List.suffix_refl _) fun _ ↦ rfl
  | cons name more =>
    simp only [MemberItem.readTyped]
    split
    · split
      · have hdrop := List.drop_suffix 1 more
        exact ((readMethod_outlined hhead hdrop _).mono hdrop).cons
      · refine ((FieldOutline.readRest_outlined hhead type).map
          (fun fs ↦ members (fs.map .field)) (fun fs source ↦ ?_) fun fs rest hfs _ ↦ ?_).cons
        · rw [spell, List.map_map, List.map_map]
          rfl
        · exact List.forall_mem_map.mpr hfs
    · exact .missed _ (List.suffix_refl _) fun _ ↦ rfl

private theorem typed_outlined (final : Token) (hhead : head.Stands all ts) :
    Reading.Outlined ts spell (fun item rest ↦ item.Stands all rest) fun source ↦
      MemberItem.readDeclared.typed source final (head.spell (sourceText source)) ts := by
  refine .of_eq (fun source ↦ MemberItem.typed_eq source final _) ?_
  refine Reading.Outlined.andThen
    ((Reading.Outlined.same (TypeText.read_grounded ts)).orMalformed _) fun type rest _ hrest ↦ ?_
  exact readTyped_outlined (hhead.mono hrest) type

private theorem readDeclared_outlined (final : Token) (hhead : head.Stands all ts) :
    Reading.Outlined ts spell (fun item rest ↦ item.Stands all rest) fun source ↦
      MemberItem.readDeclared source final (head.spell (sourceText source)) ts := by
  unfold MemberItem.readDeclared
  split
  · rename_i name paren rest
    have hrest : rest <:+ name :: paren :: rest := ⟨[name, paren], rfl⟩
    split
    · exact (readMethod_outlined hhead (List.suffix_cons paren rest) none).mono hrest
    · exact typed_outlined final hhead
  · exact typed_outlined final hhead

private theorem readBehind_outlined (final : Token) (hhead : head.Stands all ts) :
    Reading.Outlined ts spell (fun item rest ↦ item.Stands all rest) fun source ↦
      MemberItem.readBehind source final (head.spell (sourceText source)) ts := by
  unfold MemberItem.readBehind
  simp only [PreludeOutline.isEmpty_spell]
  split
  · exact .found (members []) (stands_none _ _) (List.suffix_refl _) fun _ ↦ rfl
  · split
    · exact .found (members []) (stands_none _ _) (List.drop_suffix _ ts) fun _ ↦ rfl
    · split
      · exact .found (nestedType _) trivial (List.suffix_refl _) fun _ ↦ rfl
      · split
        · have hdrop := List.drop_suffix (Skip.balanced ts) ts
          exact (readDeclared_outlined final (hhead.mono hdrop)).mono hdrop
        · exact readDeclared_outlined final hhead

/-- **A member has an outline, with which it is read from every source.** -/
theorem read_outlined (final : Token) (ts : List Token) :
    Reading.Outlined ts spell (fun item rest ↦ item.Stands ts rest)
      fun source ↦ MemberItem.read source final ts := by
  unfold MemberItem.read
  split
  · exact .found (members []) (stands_none _ _) (List.drop_suffix 1 ts) fun _ ↦ rfl
  · split
    · exact .found (members []) (stands_none _ _) (List.drop_suffix _ ts) fun _ ↦ rfl
    · exact PreludeOutline.read_outlined.andThen fun head rest hhead _ ↦
        readBehind_outlined final hhead

end MemberItemOutline

end ClassSchema

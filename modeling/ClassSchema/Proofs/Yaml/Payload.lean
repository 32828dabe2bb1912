import ClassSchema.Proofs.Schema.Members
import ClassSchema.Schema.Format
import Mathlib.Data.Set.Operations

/-!
# What the YAML text of a schema tells

A writer of YAML is given the form of a schema with some of the texts quoted. A quoted text is told
from other quoted ones, because the quotes in it are doubled. But a text that looks like a quoted
one is left as it is, and then the writer cannot know it from the text between its quotes. `resolve`
takes every such text for the one between its quotes. Two schemas are the same for every writer
exactly if they are the same after that.
-/

namespace ClassSchema

/-! ## Values with other texts -/

namespace Json

mutual

theorem mapTexts_mapTexts (f g : String → String) :
    ∀ v : Json, (v.mapTexts g).mapTexts f = v.mapTexts (f ∘ g)
  | null | bool _ | number _ | text _ => rfl
  | list items => congrArg list (mapItems_mapItems f g items)
  | table entries => congrArg table (mapEntries_mapEntries f g entries)

private theorem mapItems_mapItems (f g : String → String) :
    ∀ items : List Json, mapItems f (mapItems g items) = mapItems (f ∘ g) items
  | [] => rfl
  | item :: items => by
    rw [mapItems, mapItems, mapItems, mapTexts_mapTexts f g item, mapItems_mapItems f g items]

private theorem mapEntries_mapEntries (f g : String → String) :
    ∀ entries : List (String × Json),
      mapEntries f (mapEntries g entries) = mapEntries (f ∘ g) entries
  | [] => rfl
  | (key, value) :: entries => by
    rw [mapEntries, mapEntries, mapEntries, mapTexts_mapTexts f g value,
      mapEntries_mapEntries f g entries]

end

/-- Every text in the value is one that `P` holds of; this says nothing of keys. -/
inductive EveryText (P : String → Prop) : Json → Prop
  | null : EveryText P null
  | bool (b : Bool) : EveryText P (bool b)
  | number (n : Number) : EveryText P (number n)
  | text {s : String} (h : P s) : EveryText P (text s)
  | list {items : List Json} (h : ∀ item ∈ items, EveryText P item) : EveryText P (list items)
  | table {entries : List (String × Json)} (h : ∀ entry ∈ entries, EveryText P entry.2) :
    EveryText P (table entries)

private theorem mapItems_eq_map (f : String → String) (items : List Json) :
    mapItems f items = items.map (mapTexts f) := by
  induction items with
  | nil => rfl
  | cons item items ih => rw [mapItems, ih, List.map_cons]

private theorem mapEntries_eq_map (f : String → String) (entries : List (String × Json)) :
    mapEntries f entries = entries.map fun entry ↦ (entry.1, entry.2.mapTexts f) := by
  induction entries with
  | nil => rfl
  | cons entry entries ih => rw [mapEntries, ih, List.map_cons]

theorem EveryText.mapTexts_eq {f : String → String} {P : String → Prop} (hP : ∀ s, P s → f s = s)
    {v : Json} (h : v.EveryText P) : v.mapTexts f = v := by
  induction h with
  | null | bool | number => rfl
  | text h => exact congrArg Json.text (hP _ h)
  | list _ ih =>
    rw [mapTexts, mapItems_eq_map, List.map_congr_left ih, List.map_id']
  | table _ ih =>
    have hsame := List.map_congr_left fun entry hentry ↦
      congrArg (Prod.mk entry.1) (ih entry hentry)
    rw [mapTexts, mapEntries_eq_map, hsame, List.map_id']

end Json

/-! ## Quotes -/

namespace Yaml

variable {c : Char} {cs inner : List Char} {text : String}

/-- What stands in front of the quote at the end, if that is a single one and all quotes before it
are doubled. -/
def closed? : List Char → Option (List Char)
  | [] => none
  | c :: cs =>
    if c ≠ '\'' then (closed? cs).map (c :: ·)
    else match cs with
      | [] => some []
      | d :: cs => if d = '\'' then (closed? cs).map ('\'' :: ·) else none

/-- The text between the quotes of a quoted text. -/
def unquote? : List Char → Option (List Char)
  | [] => none
  | c :: cs => if c = '\'' then closed? cs else none

/-- The characters between the quotes of a quoted text. -/
private def doubled (cs : List Char) : List Char :=
  cs.flatMap fun c ↦ if c = '\'' then ['\'', '\''] else [c]

private theorem doubled_cons (h : c ≠ '\'') (cs : List Char) :
    doubled (c :: cs) = c :: doubled cs := by
  rw [doubled, List.flatMap_cons, if_neg h]
  rfl

private theorem closed?_doubled (cs : List Char) : closed? (doubled cs ++ ['\'']) = some cs := by
  induction cs with
  | nil => rfl
  | cons c cs ih =>
    by_cases hc : c = '\''
    · subst hc
      exact congrArg (Option.map _) ih
    · rw [doubled_cons hc, List.cons_append, closed?.eq_def]
      dsimp only
      rw [if_pos hc, ih]
      rfl

private theorem eq_of_closed?_eq_some (h : closed? cs = some inner) :
    cs = doubled inner ++ ['\''] := by
  fun_induction closed? cs generalizing inner with
  | case1 => cases h
  | case2 c cs hc ih =>
    obtain ⟨rest, hrest, rfl⟩ := Option.map_eq_some_iff.mp h
    rw [doubled_cons hc, ih hrest, List.cons_append]
  | case3 c hc =>
    obtain rfl := Option.some.inj h
    rw [not_not.mp hc]
    rfl
  | case4 c hc cs ih =>
    obtain ⟨rest, hrest, rfl⟩ := Option.map_eq_some_iff.mp h
    rw [ih hrest, not_not.mp hc]
    rfl
  | case5 => cases h

/-- What is between quotes can be read off the quoted text, so different texts are different between
quotes. -/
theorem unquote?_eq_some_iff : unquote? cs = some inner ↔ cs = quote inner := by
  constructor
  · intro h
    cases cs with
    | nil => cases h
    | cons c cs =>
      rw [unquote?] at h
      split at h
      · subst_vars
        rw [eq_of_closed?_eq_some h]
        rfl
      · cases h
  · rintro rfl
    exact closed?_doubled inner

theorem needsQuotes_quote : needsQuotes (quote cs) = true ↔ ':' ∈ cs := by
  have hcolon (c : Char) : ':' ∈ (if c = '\'' then ['\'', '\''] else [c]) ↔ c = ':' := by
    by_cases hc : c = '\'' <;> simp [hc, eq_comm]
  have hmem : ':' ∈ quote cs ↔ ':' ∈ cs := by simp [quote, hcolon]
  have hlast : (quote cs).getLast? = some '\'' := List.getLast?_concat
  have hhead : (quote cs).head? = some '\'' := rfl
  rw [← hmem, needsQuotes, hlast, hhead]
  simp

/-! ## Texts that are written alike -/

/-- The text looks like the quoted form of another one, but has not to be quoted itself. -/
def LooksQuoted (text : String) : Prop :=
  ∃ inner, text.toList = quote inner ∧ needsQuotes inner = true ∧ ':' ∉ inner

/-- What a text is taken for once it may have been quoted: the text between its quotes, if that has
to be quoted. -/
private def seen (text : String) : String :=
  match unquote? text.toList with
  | some inner => if needsQuotes inner then String.ofList inner else text
  | none => text

/-- The text that stands for all texts that are written alike: of a text that looks quoted it is the
one between the quotes. -/
def resolve (text : String) : String := if needsQuotes text.toList then text else seen text

private theorem seen_of_toList_eq (htext : text.toList = quote inner)
    (hneeds : needsQuotes inner = true) : seen text = String.ofList inner := by
  rw [seen, unquote?_eq_some_iff.mpr htext]
  exact if_pos hneeds

private theorem resolve_of_toList_eq (htext : text.toList = quote inner)
    (hneeds : needsQuotes inner = true) (hcolon : ':' ∉ inner) :
    resolve text = String.ofList inner := by
  rw [resolve, if_neg (htext ▸ mt needsQuotes_quote.mp hcolon), seen_of_toList_eq htext hneeds]

theorem resolve_of_not_looksQuoted (h : ¬LooksQuoted text) : resolve text = text := by
  rw [resolve]
  split
  · rfl
  · rename_i hplain
    rw [seen]
    split
    · rename_i inner hinner
      rw [unquote?_eq_some_iff] at hinner
      rw [hinner] at hplain
      exact if_neg fun hneeds ↦ h ⟨inner, hinner, hneeds, mt needsQuotes_quote.mpr hplain⟩
    · rfl

private theorem seen_guard (text : String) : seen (guard text) = resolve text := by
  rw [guard, resolve]
  split
  · rename_i hneeds
    rw [seen_of_toList_eq String.toList_ofList hneeds, String.ofList_toList]
  · rfl

private theorem guard_resolve (text : String) : guard (resolve text) = guard text := by
  by_cases h : LooksQuoted text
  · obtain ⟨inner, htext, hneeds, hcolon⟩ := h
    rw [resolve_of_toList_eq htext hneeds hcolon, guard, guard, String.toList_ofList, if_pos hneeds,
      if_neg (htext ▸ mt needsQuotes_quote.mp hcolon), ← htext, String.ofList_toList]
  · rw [resolve_of_not_looksQuoted h]

theorem mapTexts_guard_eq_iff {v w : Json} :
    v.mapTexts guard = w.mapTexts guard ↔ v.mapTexts resolve = w.mapTexts resolve := by
  have hseen (v : Json) : (v.mapTexts guard).mapTexts seen = v.mapTexts resolve := by
    rw [Json.mapTexts_mapTexts, show seen ∘ guard = resolve from funext seen_guard]
  have hguard (v : Json) : (v.mapTexts resolve).mapTexts guard = v.mapTexts guard := by
    rw [Json.mapTexts_mapTexts, show guard ∘ resolve = guard from funext guard_resolve]
  constructor
  · intro h
    rw [← hseen v, h, hseen w]
  · intro h
    rw [← hguard v, h, hguard w]

end Yaml

/-! ## Schemas -/

namespace Schema

open Yaml

/-- No text in the form of the schema looks quoted. -/
def IsPlain (s : Schema) : Prop := s.toJson.EveryText (¬LooksQuoted ·)

/-- **What the YAML text of a schema loses** is the difference between a text and its quoted form,
and no more. Whatever the writer is, schemas that are the same once texts are resolved have the same
YAML text; and a writer that tells their payloads apart tells all other schemas apart. Without texts
that look quoted, schemas are told apart by their forms, and nothing is lost. -/
theorem render_yaml_eq_iff (s t : Schema) :
    ((∀ yaml : YamlWriter, s.render yaml .yaml = t.render yaml .yaml) ↔
      s.toJson.mapTexts resolve = t.toJson.mapTexts resolve) ∧
    (∀ yaml : YamlWriter, Set.InjOn yaml {s.yamlPayload, t.yamlPayload} →
      (s.render yaml .yaml = t.render yaml .yaml ↔
        s.toJson.mapTexts resolve = t.toJson.mapTexts resolve)) ∧
    (s.IsPlain → t.IsPlain →
      (s.toJson.mapTexts resolve = t.toJson.mapTexts resolve ↔ s.toJson = t.toJson)) := by
  have hpayload : s.yamlPayload = t.yamlPayload ↔
      s.toJson.mapTexts resolve = t.toJson.mapTexts resolve := mapTexts_guard_eq_iff
  refine ⟨?_, fun yaml hyaml ↦ ?_, fun hs ht ↦ ?_⟩
  · rw [← hpayload]
    constructor
    · intro h
      by_contra hne
      classical
      have hsame := h fun v ↦ if v = s.yamlPayload then "" else " "
      simp [render, Ne.symm hne] at hsame
    · intro h yaml
      exact congrArg yaml h
  · rw [← hpayload]
    exact ⟨fun h ↦ hyaml (.inl rfl) (.inr rfl) h, fun h ↦ congrArg yaml h⟩
  · rw [hs.mapTexts_eq fun _ ↦ resolve_of_not_looksQuoted,
      ht.mapTexts_eq fun _ ↦ resolve_of_not_looksQuoted]

/-- The schema of no properties with a description. -/
def described (description : String) : Schema := { description := some description }

/-- A text between quotes is written like the text between them. -/
theorem render_yaml_quotes : (described "@a").toJson ≠ (described "'@a'").toJson ∧
    ∀ yaml : YamlWriter,
      (described "@a").render yaml .yaml = (described "'@a'").render yaml .yaml := by
  have hpayload : (described "@a").yamlPayload = (described "'@a'").yamlPayload := rfl
  refine ⟨fun h ↦ ?_, fun yaml ↦ congrArg yaml hpayload⟩
  have hsame := toJson_injective h
  simp [described] at hsame

end Schema

end ClassSchema

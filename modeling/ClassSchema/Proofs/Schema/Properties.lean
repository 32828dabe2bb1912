import ClassSchema.Proofs.Schema.Bounds
import Mathlib.Data.List.Basic
import Mathlib.Data.List.Induction
import Mathlib.Data.List.Nodup

/-!
# The properties of a schema

The fields of a class that take part are entered into the schema one after another. Their names can
collide: an annotation may give a field the name of another one, and two fields may be given the
same name. A name that is there already keeps its place and gets the property of the later field,
and a new name comes last. The names of required fields are collected in the same way.

`ListsOnce` says what comes out of collecting names like this, without the table that does it. Both
the keys of the properties and the required names satisfy it, because each field adds its name by
the one step of `ListsOnce.concat`.
-/

namespace ClassSchema

/-! ## Names without repetitions -/

/-- `names` has the elements of `all`, each once, in the order in which they first come. -/
structure ListsOnce (all names : List String) : Prop where
  /-- No name is lost and none is made up. -/
  mem_iff : ∀ name, name ∈ names ↔ name ∈ all
  /-- Every name is there once. -/
  nodup : names.Nodup
  /-- What comes first comes first for the first time. -/
  pairwise_idxOf : names.Pairwise fun a b ↦ all.idxOf a < all.idxOf b

namespace ListsOnce

variable {all names : List String}

theorem nil : ListsOnce [] [] := by
  constructor <;> simp

/-- One more name comes last if it is new, and adds nothing otherwise. -/
theorem concat (h : ListsOnce all names) (name : String) :
    ListsOnce (all ++ [name]) (if name ∈ names then names else names ++ [name]) := by
  have hpairwise : names.Pairwise fun a b ↦
      (all ++ [name]).idxOf a < (all ++ [name]).idxOf b := by
    refine h.pairwise_idxOf.imp_of_mem fun ha hb hlt ↦ ?_
    rw [List.idxOf_append_of_mem ((h.mem_iff _).mp ha),
      List.idxOf_append_of_mem ((h.mem_iff _).mp hb)]
    exact hlt
  by_cases hname : name ∈ names
  · rw [if_pos hname]
    refine ⟨fun a ↦ ?_, h.nodup, hpairwise⟩
    have hall : name ∈ all := (h.mem_iff name).mp hname
    rw [h.mem_iff, List.mem_append, List.mem_singleton]
    exact ⟨.inl, fun ha ↦ ha.elim id fun heq ↦ heq ▸ hall⟩
  · rw [if_neg hname]
    refine ⟨fun a ↦ ?_, (List.concat_eq_append ▸ h.nodup.concat hname), ?_⟩
    · rw [List.mem_append, List.mem_append, h.mem_iff]
    · rw [List.pairwise_append]
      refine ⟨hpairwise, List.pairwise_singleton .., fun a ha b hb ↦ ?_⟩
      -- a name that was there stands in front of the new one
      rw [List.mem_singleton.mp hb]
      have hall : a ∈ all := (h.mem_iff a).mp ha
      have hnew : name ∉ all := fun hmem ↦ hname ((h.mem_iff name).mpr hmem)
      rw [List.idxOf_append_of_mem hall, List.idxOf_append_of_notMem hnew]
      exact Nat.lt_add_right _ (List.idxOf_lt_length_of_mem hall)

theorem eraseDups (all : List String) : ListsOnce all all.eraseDups := by
  induction all using List.reverseRecOn with
  | nil => exact nil
  | append_singleton all name ih =>
    have hstep : (all ++ [name]).eraseDups =
        if name ∈ all.eraseDups then all.eraseDups else all.eraseDups ++ [name] := by
      rw [List.eraseDups_append]
      by_cases hname : name ∈ all <;> simp [List.removeAll, List.eraseDups_cons, hname]
    rw [hstep]
    exact ih.concat name

end ListsOnce

namespace Assoc

variable {α : Type}

theorem ofEntries_concat (entries : List (String × α)) (key : String) (value : α) :
    ofEntries (entries ++ [(key, value)]) = (ofEntries entries).put key value := by
  rw [ofEntries, List.foldl_append]
  rfl

private theorem listsOnce_keys_ofEntries (entries : List (String × α)) :
    ListsOnce (entries.map (·.1)) (ofEntries entries).keys := by
  induction entries using List.reverseRecOn with
  | nil => exact ListsOnce.nil
  | append_singleton entries entry ih =>
    rw [ofEntries_concat, keys_put, List.map_append]
    exact ih.concat entry.1

theorem get?_ofEntries_of_last {before after : List (String × α)} {key : String} {value : α}
    (hlast : ∀ entry ∈ after, entry.1 ≠ key) :
    (ofEntries (before ++ (key, value) :: after)).get? key = some value := by
  induction after using List.reverseRecOn with
  | nil => rw [ofEntries_concat, get?_put_self]
  | append_singleton after entry ih =>
    rw [List.forall_mem_append] at hlast
    have hne : key ≠ entry.1 := (hlast.2 entry (List.mem_singleton_self entry)).symm
    rw [← List.cons_append, ← List.append_assoc, ofEntries_concat, get?_put_of_ne _ _ hne]
    exact ih hlast.1

end Assoc

/-! ## Fields that take part -/

namespace Schema

variable {options : Options} {c : ClassRecord} {schema : Schema}

/-- The field is not ignored, and it is not private where private fields are left out. -/
def TakesPart (options : Options) (f : FieldRecord) : Prop :=
  (∀ a ∈ f.annotations, a.name ≠ "JsonIgnore") ∧
    (options.includePrivate = false → f.isPrivate = false)

instance (options : Options) (f : FieldRecord) : Decidable (TakesPart options f) :=
  inferInstanceAs (Decidable (_ ∧ _))

theorem includes_iff {f : FieldRecord} : includes options f = true ↔ TakesPart options f := by
  rw [includes, FieldRecord.has, FieldRecord.find?, TakesPart]
  cases options.includePrivate <;> cases f.isPrivate <;> simp

/-- The fields that take part, in order. -/
def participants (options : Options) (fields : List FieldRecord) : List FieldRecord :=
  fields.filter fun f ↦ decide (TakesPart options f)

private theorem filter_includes (fields : List FieldRecord) :
    fields.filter (includes options) = participants options fields :=
  List.filter_congr fun _ _ ↦ Bool.eq_iff_iff.mpr (by rw [includes_iff, decide_eq_true_iff])

/-- The schema lists a row of fields as its properties. -/
structure Lists (schema : Schema) (fields : List FieldRecord) : Prop where
  /-- The keys are the names of the fields. -/
  listsOnce_keys : ListsOnce (fields.map (·.propertyName)) schema.properties.keys
  /-- Under a name stands the property of the last field with that name. -/
  get?_of_last : ∀ before f after, fields = before ++ f :: after →
    (∀ g ∈ after, g.propertyName ≠ f.propertyName) →
      ∃ p, Property.ofField f = .ok p ∧ schema.properties.get? f.propertyName = some p
  /-- The required names are the names of the required fields. -/
  listsOnce_required :
    ListsOnce ((fields.filter (·.isRequired)).map (·.propertyName)) schema.required
  /-- What is required is there. -/
  has_of_mem_required : ∀ name ∈ schema.required, schema.properties.has name = true

theorem entryOf_eq_ok_iff {f : FieldRecord} {entry : String × Property} :
    entryOf f = .ok entry ↔ entry.1 = f.propertyName ∧ Property.ofField f = .ok entry.2 := by
  unfold entryOf
  obtain ⟨name, p⟩ := entry
  cases Property.ofField f with
  | ok q => simp [eq_comm]
  | error fault => simp

theorem map_fst_of_mapM {fields : List FieldRecord} {entries : List (String × Property)}
    (h : fields.mapM entryOf = .ok entries) : entries.map (·.1) = fields.map (·.propertyName) := by
  induction fields generalizing entries with
  | nil =>
    cases h
    rfl
  | cons f fields ih =>
    rw [List.mapM_cons] at h
    obtain ⟨entry, hentry, h⟩ := bind_eq_ok_iff.mp h
    obtain ⟨rest, hrest, h⟩ := bind_eq_ok_iff.mp h
    cases h
    rw [List.map_cons, List.map_cons, (entryOf_eq_ok_iff.mp hentry).1, ih hrest]

private theorem get?_ofEntries_of_mapM {before after : List FieldRecord} {f : FieldRecord}
    {entries : List (String × Property)} (h : (before ++ f :: after).mapM entryOf = .ok entries)
    (hlast : ∀ g ∈ after, g.propertyName ≠ f.propertyName) :
    ∃ p, Property.ofField f = .ok p ∧
      (Assoc.ofEntries entries).get? f.propertyName = some p := by
  rw [List.mapM_append, List.mapM_cons] at h
  obtain ⟨first, -, h⟩ := bind_eq_ok_iff.mp h
  obtain ⟨middle, hmiddle, h⟩ := bind_eq_ok_iff.mp h
  obtain ⟨⟨name, p⟩, hentry, hmiddle⟩ := bind_eq_ok_iff.mp hmiddle
  obtain ⟨last, hafter, hmiddle⟩ := bind_eq_ok_iff.mp hmiddle
  cases hmiddle
  cases h
  obtain ⟨rfl, hp⟩ := entryOf_eq_ok_iff.mp hentry
  refine ⟨p, hp, Assoc.get?_ofEntries_of_last fun entry hmem ↦ ?_⟩
  have hname : entry.1 ∈ after.map (·.propertyName) :=
    map_fst_of_mapM hafter ▸ List.mem_map_of_mem hmem
  obtain ⟨g, hg, heq⟩ := List.mem_map.mp hname
  exact heq ▸ hlast g hg

/-- What is read of a record are its name, its comment and the fields that take part. -/
theorem ofRecord_eq : ofRecord options c =
    ((participants options c.fields).mapM entryOf >>= fun entries ↦ pure {
      type := "object"
      properties := Assoc.ofEntries entries
      required := (((participants options c.fields).filter (·.isRequired)).map
        (·.propertyName)).eraseDups
      description := some (classDescription c) }) := by
  rw [← filter_includes]
  rfl

theorem lists_of_ofRecord (h : ofRecord options c = .ok schema) :
    schema.Lists (participants options c.fields) := by
  rw [ofRecord_eq] at h
  obtain ⟨entries, hentries, h⟩ := bind_eq_ok_iff.mp h
  cases h
  have hkeys := Assoc.listsOnce_keys_ofEntries entries
  rw [map_fst_of_mapM hentries] at hkeys
  have hrequired := ListsOnce.eraseDups
    (((participants options c.fields).filter (·.isRequired)).map (·.propertyName))
  refine ⟨hkeys, fun before f after hsplit hlast ↦ ?_, hrequired, fun name hname ↦ ?_⟩
  · exact get?_ofEntries_of_mapM (hsplit ▸ hentries) hlast
  · rw [Assoc.has_iff_mem_keys, hkeys.mem_iff]
    have hmem := (hrequired.mem_iff name).mp hname
    exact List.map_subset _ (List.filter_subset_self _) hmem

/-- **The properties are those of the fields that take part**, each name with the last property it
was given, and fields that do not take part leave the schema as it is. -/
theorem lists_participants (h : ofRecord options c = .ok schema) :
    schema.Lists (participants options c.fields) ∧
      ∀ fields, participants options fields = participants options c.fields →
        ofRecord options { c with fields := fields } = .ok schema := by
  refine ⟨lists_of_ofRecord h, fun fields hfields ↦ ?_⟩
  rw [ofRecord_eq] at h ⊢
  rw [hfields]
  exact h

/-- A field that is given the name of an earlier one replaces its property. -/
theorem lists_participants_of_collision :
    let renamed : AnnotationRecord :=
      { name := "JsonProperty", arguments := [("value", .text "a")] }
    let ignored : AnnotationRecord := { name := "JsonIgnore" }
    let c : ClassRecord := { className := "A", fields := [
      { name := "a", type := "String", isRequired := true },
      { name := "b", type := "String" },
      { name := "c", type := "long", isRequired := true, annotations := [renamed] },
      { name := "d", type := "String", isRequired := true, annotations := [ignored] }] }
    ∃ schema, ofRecord {} c = .ok schema ∧ schema.properties.keys = ["a", "b"] ∧
      (schema.properties.get? "a").map (·.type) = some "integer" ∧ schema.required = ["a"] ∧
      schema.Lists (participants {} c.fields) ∧
      ofRecord {} { c with fields := c.fields.take 3 } = .ok schema := by
  intro renamed ignored c
  have hvalues : (ofRecord {} c).toOption.map (fun schema ↦ (schema.properties.keys,
      (schema.properties.get? "a").map (·.type), schema.required)) =
        some (["a", "b"], some "integer", ["a"]) := by
    decide +kernel
  cases h : ofRecord {} c with
  | error fault =>
    rw [h] at hvalues
    cases hvalues
  | ok schema =>
    rw [h] at hvalues
    obtain ⟨hkeys, hrest⟩ := Prod.mk.inj (Option.some.inj hvalues)
    obtain ⟨htype, hrequired⟩ := Prod.mk.inj hrest
    obtain ⟨hlists, hsame⟩ := lists_participants h
    exact ⟨schema, rfl, hkeys, htype, hrequired, hlists, hsame _ (by decide +kernel)⟩

end Schema

end ClassSchema

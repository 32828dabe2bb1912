import ClassSchema.Proofs.Schema.Dialect

/-!
# Schemas of records that are accepted

A schema that was made from a record can break a rule of the dialect in two ways only, by a negative
length and by a pattern that is no regular expression. All types come from tables. Properties in a
property say no more than a type and a description. The required names are listed once, however the
names of fields collide, and any number can be the bound of a value.

What an annotation adds to a property is a length, a bound or a pattern, so `Property.IsFramed`,
which says of a property that all the rest of it keeps to the rules, is kept by annotations.
-/

namespace ClassSchema

namespace Assoc

variable {α : Type} {table : Assoc α} {key : String} {value : α} {entry : String × α}

private theorem mem_of_mem_put (h : entry ∈ table.put key value) :
    entry ∈ table ∨ entry = (key, value) := by
  induction table with
  | nil => exact .inr (List.mem_singleton.mp h)
  | cons first rest ih =>
    obtain ⟨k, v⟩ := first
    rw [put] at h
    split at h
    · rcases List.mem_cons.mp h with heq | hrest
      · exact .inr heq
      · exact .inl (List.mem_cons_of_mem _ hrest)
    · rcases List.mem_cons.mp h with heq | hrest
      · exact .inl (heq ▸ List.mem_cons_self)
      · exact (ih hrest).imp_left (List.mem_cons_of_mem _)

private theorem mem_of_mem_ofEntries {entries : List (String × α)} (h : entry ∈ ofEntries entries) :
    entry ∈ entries := by
  induction entries using List.reverseRecOn with
  | nil => exact h
  | append_singleton entries last ih =>
    rw [ofEntries_concat] at h
    rw [List.mem_append, List.mem_singleton]
    exact (mem_of_mem_put h).imp_left ih

end Assoc

/-! ## Types -/

theorem BaseType.schemaType_mem (base : String) : schemaType base ∈ Violation.knownTypes := by
  have htable : ∀ entry ∈ ClassSchema.knownTypes, entry.2 ∈ Violation.knownTypes := by decide
  rw [schemaType]
  cases hget : Assoc.get? ClassSchema.knownTypes base with
  | none => decide
  | some type => exact htable _ (Assoc.mem_of_get? hget)

namespace Property

private theorem violation?_of_isFlat {p : Property} (h : p.IsFlat)
    (htype : p.type ∈ Violation.knownTypes) :
    p.violation? = none := by
  rw [h]
  exact violation?_eq_none_iff.mpr ⟨⟨htype, nofun, nofun, nofun⟩, nofun, nofun, nofun⟩

private theorem violation?_nested (type : Option String) (ending fallback : String) :
    (nested type ending fallback).violation? = none := by
  refine violation?_of_isFlat (isFlat_nested type ending fallback) ?_
  have hstring : "string" ∈ Violation.knownTypes := by decide
  have hobject : "object" ∈ Violation.knownTypes := by decide
  unfold nested
  split
  · exact hstring
  · dsimp only
    split
    · exact BaseType.schemaType_mem _
    · exact hobject

/-! ## Properties of fields -/

/-- The property keeps to the rules apart from its lengths and its pattern. -/
structure IsFramed (p : Property) : Prop where
  type_mem : p.type ∈ Violation.knownTypes
  items : ∀ q, p.items = some q → q.violation? = none
  properties : ∀ table, p.properties = some table → ∀ entry ∈ table, entry.2.violation? = none
  additionalProperties : ∀ q, p.additionalProperties = some q → q.violation? = none

private theorem isFramed_ofType (f : FieldRecord) : (ofType f).IsFramed := by
  have harray : "array" ∈ Violation.knownTypes := by decide
  have hobject : "object" ∈ Violation.knownTypes := by decide
  have htype := BaseType.schemaType_mem (DeclaredType.base f.type)
  unfold ofType
  dsimp only
  split
  · refine ⟨harray, fun q hq ↦ ?_, nofun, nofun⟩
    cases hq
    exact violation?_nested _ _ _
  · split
    · refine ⟨hobject, nofun, nofun, fun q hq ↦ ?_⟩
      cases hq
      exact violation?_nested _ _ _
    · split
      · refine ⟨hobject, nofun, fun table htable entry hentry ↦ ?_, nofun⟩
        cases htable
        cases hentry
      · exact ⟨htype, nofun, nofun, nofun⟩

private theorem IsFramed.constrained {a : AnnotationRecord} {p q : Property} (hp : p.IsFramed)
    (h : Constrained a p q) : q.IsFramed := by
  cases h with
  | noLength | unrelated => exact hp
  | length | minimum | maximum | pattern => exact { hp with }

private theorem isFramed_of_ofField {f : FieldRecord} {p : Property} (h : ofField f = .ok p) :
    p.IsFramed :=
  foldlM_constrain_induction (fun _ _ _ _ hstep hp ↦ hp.constrained hstep) h (isFramed_ofType f)

end Property

/-! ## Schemas of records -/

namespace Schema

variable {options : Options} {c : ClassRecord} {s : Schema}

private theorem exists_ofField_of_mem {fields : List FieldRecord}
    {entries : List (String × Property)}
    (h : fields.mapM entryOf = .ok entries) {entry : String × Property} (hentry : entry ∈ entries) :
    ∃ f ∈ fields, Property.ofField f = .ok entry.2 := by
  induction fields generalizing entries with
  | nil =>
    cases h
    cases hentry
  | cons f fields ih =>
    rw [List.mapM_cons] at h
    obtain ⟨first, hfirst, h⟩ := bind_eq_ok_iff.mp h
    obtain ⟨rest, hrest, h⟩ := bind_eq_ok_iff.mp h
    cases h
    rcases List.mem_cons.mp hentry with rfl | hmem
    · exact ⟨f, List.mem_cons_self, (entryOf_eq_ok_iff.mp hfirst).2⟩
    · obtain ⟨g, hg, hproperty⟩ := ih hrest hmem
      exact ⟨g, List.mem_cons_of_mem f hg, hproperty⟩

theorem isFramed_of_ofRecord (h : ofRecord options c = .ok s) :
    s.type = "object" ∧ s.required.Nodup ∧ ∀ entry ∈ s.properties, entry.2.IsFramed := by
  have hrequired := (lists_of_ofRecord h).listsOnce_required.nodup
  rw [ofRecord_eq] at h
  obtain ⟨entries, hentries, h⟩ := bind_eq_ok_iff.mp h
  cases h
  refine ⟨rfl, hrequired, fun entry hentry ↦ ?_⟩
  obtain ⟨f, -, hf⟩ := exists_ofField_of_mem hentries (Assoc.mem_of_mem_ofEntries hentry)
  exact Property.isFramed_of_ofField hf

theorem emits_of_mem {entry : String × Property} (hentry : entry ∈ s.properties) {key : String}
    {j : Json} (h : entry.2.toJson.get? key = some j) : Json.Emits key j s.toJson := by
  have hproperties := s.members_toJson.properties
  rw [Property.toJson_eq] at h
  have hmem : (entry.1, entry.2.toJson) ∈ Property.tableJson s.properties := by
    rw [Property.tableJson_eq_map]
    exact List.mem_map_of_mem hentry
  rw [toJson] at hproperties ⊢
  refine .named hproperties hmem ?_
  rw [Property.toJson_eq]
  exact .here h

/-- **The schema of a record is accepted unless a length is negative or a pattern is none.** The
checker finds nothing exactly if all lengths in the form of the schema are natural numbers and all
patterns in it are regular expressions; and that is exactly when the form keeps to all rules. -/
theorem violation?_eq_none_iff_of_ofRecord (h : ofRecord options c = .ok s) :
    (s.violation? = none ↔
      (∀ key ∈ ["minLength", "maxLength"], ∀ j, Json.Emits key j s.toJson → ∃ n : Nat, j = .int n) ∧
        ∀ j, Json.Emits "pattern" j s.toJson → ∃ t, j = .text t ∧ Pattern.fault? t = none) ∧
      (s.violation? = none ↔ s.toJson.IsSchema) := by
  obtain ⟨htype, hrequired, hframed⟩ := isFramed_of_ofRecord h
  refine ⟨⟨fun hnone ↦ ?_, ?_⟩, s.violation?_eq_none_iff_isSchema⟩
  · have hschema := s.violation?_eq_none_iff_isSchema.mp hnone
    exact ⟨fun _ hkey _ ↦ hschema.length_of_emits hkey, fun _ ↦ hschema.pattern_of_emits⟩
  · rintro ⟨hlengths, hpatterns⟩
    rw [violation?_eq_none_iff, htype]
    refine ⟨by decide, fun entry hentry ↦ ?_, hrequired⟩
    obtain ⟨hknown, hitems, hproperties, hadditional⟩ := hframed entry hentry
    have hmembers := entry.2.members_toJson
    -- what a property says itself is part of what the schema says
    have hlength {key : String} (hkey : key ∈ ["minLength", "maxLength"]) {n : Int}
        (hget : entry.2.toJson.get? key = some (.int n)) : 0 ≤ n := by
      obtain ⟨m, hm⟩ := hlengths key hkey _ (emits_of_mem hentry hget)
      exact Json.int_injective hm ▸ Int.natCast_nonneg m
    rw [← Property.violation?_eq_none_iff_isSchema, Property.violation?_eq_none_iff]
    refine ⟨⟨hknown, fun n hn ↦ ?_, fun n hn ↦ ?_, fun t ht ↦ ?_⟩, hitems, hproperties, hadditional⟩
    · exact hlength (by decide) (hmembers.minLength.trans (by rw [hn]; rfl))
    · exact hlength (by decide) (hmembers.maxLength.trans (by rw [hn]; rfl))
    · have hget : entry.2.toJson.get? "pattern" = some (.text t) :=
        hmembers.pattern.trans (by rw [ht]; rfl)
      obtain ⟨u, hu, hfault⟩ := hpatterns _ (emits_of_mem hentry hget)
      cases hu
      exact hfault

/-- A record whose schema says a length and a pattern: a field that another one takes the name of,
an enumeration, and a bound below zero. -/
def acceptedRecord : ClassRecord where
  className := "A"
  fields := [
    { name := "code", type := "String", isRequired := true, annotations := [
      { name := "Size", arguments := [("min", .number (.int 0)), ("max", .text "8")] },
      { name := "Pattern", arguments := [("regexp", .text "[a-z]+")] }] },
    { name := "status", type := "OrderStatus" },
    { name := "rank", type := "int", isRequired := true, annotations := [
      { name := "JsonProperty", arguments := [("value", .text "status")] },
      { name := "Min", arguments := [("value", .number (.int (-5)))] }] }]

/-- Two of its fields have one property name, and the schema is accepted. -/
theorem violation?_of_acceptedRecord :
    ∃ s, ofRecord {} acceptedRecord = .ok s ∧ s.violation? = none ∧ s.toJson.IsSchema ∧
      ∀ j, Json.Emits "pattern" j s.toJson → ∃ t, j = .text t ∧ Pattern.fault? t = none := by
  have hnone : (ofRecord {} acceptedRecord).toOption.map Schema.violation? = some none := by
    decide +kernel
  cases h : ofRecord {} acceptedRecord with
  | error fault =>
    rw [h] at hnone
    cases hnone
  | ok s =>
    rw [h] at hnone
    have hs : s.violation? = none := Option.some.inj hnone
    obtain ⟨hextremes, hrules⟩ := violation?_eq_none_iff_of_ofRecord h
    exact ⟨s, rfl, hs, hrules.mp hs, (hextremes.mp hs).2⟩

end Schema

end ClassSchema

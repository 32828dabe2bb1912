import ClassSchema.Proofs.Schema.LastBound
import ClassSchema.Proofs.Schema.Members
import ClassSchema.Proofs.Schema.Properties
import ClassSchema.Schema.Validity
import Mathlib.Data.List.Dedup
import Mathlib.Data.Option.Basic

/-!
# The rules of the schema dialect

The rules are about JSON values: each of them says what may stand under a key. `Json.IsSchema`
states them for the keys that occur here. The checker goes through a schema instead and only asks
about the members that can break a rule; that it finds no violation comes to the same.
-/

namespace ClassSchema

/-! ## The rules -/

namespace Json

/-- The value is a schema by the rules of the dialect. -/
inductive IsSchema : Json → Prop
  | table {entries : List (String × Json)}
    (type : ∀ j, Assoc.get? entries "type" = some j → ∃ t ∈ Violation.knownTypes, j = .text t)
    (text : ∀ key ∈ ["description", "format"], ∀ j, Assoc.get? entries key = some j →
      ∃ t, j = .text t)
    (enum : ∀ j, Assoc.get? entries "enum" = some j → ∃ items, j = .list items)
    (bound : ∀ key ∈ ["minimum", "maximum"], ∀ j, Assoc.get? entries key = some j →
      ∃ n, j = .number n)
    (length : ∀ key ∈ ["minLength", "maxLength"], ∀ j, Assoc.get? entries key = some j →
      ∃ n : Nat, j = .int n)
    (pattern : ∀ j, Assoc.get? entries "pattern" = some j →
      ∃ t, j = .text t ∧ Pattern.fault? t = none)
    (required : ∀ j, Assoc.get? entries "required" = some j →
      ∃ names, j = .texts names ∧ names.Nodup)
    (nested : ∀ key ∈ ["items", "additionalProperties"], ∀ j, Assoc.get? entries key = some j →
      IsSchema j)
    (properties : ∀ j, Assoc.get? entries "properties" = some j → ∃ named, j = .table named)
    (named : ∀ named, Assoc.get? entries "properties" = some (.table named) →
      ∀ entry ∈ named, IsSchema entry.2) :
    IsSchema (.table entries)

/-- A schema, or one of the schemas in it, has `value` under a key. -/
inductive Emits (key : String) (value : Json) : Json → Prop
  | here {entries : List (String × Json)} (get?_eq : Assoc.get? entries key = some value) :
    Emits key value (.table entries)
  | nested {entries : List (String × Json)} {part : String} {j : Json}
    (part_mem : part ∈ ["items", "additionalProperties"])
    (get?_eq : Assoc.get? entries part = some j) (emits : Emits key value j) :
    Emits key value (.table entries)
  | named {entries named : List (String × Json)} {entry : String × Json}
    (get?_eq : Assoc.get? entries "properties" = some (.table named)) (entry_mem : entry ∈ named)
    (emits : Emits key value entry.2) : Emits key value (.table entries)

variable {key : String} {value j : Json}

theorem IsSchema.exists_get?_of_emits (h : j.IsSchema) (hemits : Emits key value j) :
    ∃ entries, IsSchema (.table entries) ∧ Assoc.get? entries key = some value := by
  induction hemits with
  | here get?_eq => exact ⟨_, h, get?_eq⟩
  | nested part_mem get?_eq _ ih =>
    cases h with
    | table _ _ _ _ _ _ _ nested => exact ih (nested _ part_mem _ get?_eq)
  | named get?_eq entry_mem _ ih =>
    cases h with
    | table _ _ _ _ _ _ _ _ _ named => exact ih (named _ get?_eq _ entry_mem)

theorem IsSchema.length_of_emits (h : j.IsSchema) (hkey : key ∈ ["minLength", "maxLength"])
    (hemits : Emits key value j) : ∃ n : Nat, value = .int n := by
  obtain ⟨entries, hentries, hget⟩ := h.exists_get?_of_emits hemits
  cases hentries with
  | table _ _ _ _ length => exact length key hkey value hget

theorem IsSchema.pattern_of_emits (h : j.IsSchema) (hemits : Emits "pattern" value j) :
    ∃ t, value = .text t ∧ Pattern.fault? t = none := by
  obtain ⟨entries, hentries, hget⟩ := h.exists_get?_of_emits hemits
  cases hentries with
  | table _ _ _ _ _ pattern => exact pattern value hget

end Json

/-! ## The checker -/

namespace Violation

theorem ofType_eq_none_iff {type : String} : ofType type = none ↔ type ∈ knownTypes := by
  rw [ofType, ← List.contains_iff_mem]
  split <;> simp_all

private theorem ofLength_eq_none_iff {length : Option Int} :
    ofLength length = none ↔ ∀ n, length = some n → 0 ≤ n := by
  cases length with
  | none => exact ⟨fun _ _ h ↦ (nomatch h), fun _ ↦ rfl⟩
  | some n =>
    rw [ofLength]
    split
    · exact ⟨nofun, fun h ↦ absurd (h n rfl) (by omega)⟩
    · refine ⟨fun _ m hm ↦ ?_, fun _ ↦ rfl⟩
      cases hm
      omega

private theorem ofPattern_eq_none_iff {pattern : Option String} :
    ofPattern pattern = none ↔ ∀ t, pattern = some t → Pattern.fault? t = none := by
  cases pattern with
  | none => exact ⟨fun _ _ h ↦ (nomatch h), fun _ ↦ rfl⟩
  | some t =>
    rw [ofPattern]
    cases hfault : Pattern.fault? t with
    | none =>
      refine ⟨fun _ u hu ↦ ?_, fun _ ↦ rfl⟩
      cases hu
      exact hfault
    | some fault =>
      have hsome : ¬∀ u, some t = some u → Pattern.fault? u = none := fun h ↦ by
        rw [h t rfl] at hfault
        cases hfault
      cases fault <;> exact ⟨nofun, fun h ↦ absurd h hsome⟩

theorem ofNames_eq_none_iff {names : List String} : ofNames names = none ↔ names.Nodup := by
  have hlists := ListsOnce.eraseDups names
  have hlength : names.eraseDups.length = names.dedup.length := by
    refine ((List.perm_ext_iff_of_nodup hlists.nodup names.nodup_dedup).mpr fun name ↦ ?_).length_eq
    rw [hlists.mem_iff, List.mem_dedup]
  have hdedup : names.dedup.length = names.length ↔ names.Nodup := by
    rw [← List.dedup_eq_self]
    exact ⟨(List.dedup_sublist names).eq_of_length, congrArg List.length⟩
  rw [ofNames, hlength, ← hdedup]
  split <;> simp_all

end Violation

namespace Property

private theorem nestedViolation?_eq_none_iff {part : Option Property} :
    nestedViolation? part = none ↔ ∀ p, part = some p → p.violation? = none := by
  cases part with
  | none => exact ⟨fun _ _ h ↦ (nomatch h), fun _ ↦ by rw [nestedViolation?]⟩
  | some p =>
    rw [nestedViolation?]
    exact ⟨fun h _ hsame ↦ Option.some.inj hsame ▸ h, fun h ↦ h p rfl⟩

theorem tableViolation?_eq_none_iff {table : List (String × Property)} :
    tableViolation? table = none ↔ ∀ entry ∈ table, entry.2.violation? = none := by
  induction table with
  | nil => exact ⟨fun _ _ h ↦ (nomatch h), fun _ ↦ by rw [tableViolation?]⟩
  | cons entry rest ih => rw [tableViolation?, Option.orElse_eq_none, ih, List.forall_mem_cons]

private theorem optionalViolation?_eq_none_iff {part : Option (List (String × Property))} :
    optionalViolation? part = none ↔
      ∀ table, part = some table → ∀ entry ∈ table, entry.2.violation? = none := by
  cases part with
  | none => exact ⟨fun _ _ h ↦ (nomatch h), fun _ ↦ by rw [optionalViolation?]⟩
  | some table =>
    rw [optionalViolation?, tableViolation?_eq_none_iff]
    exact ⟨fun h _ hsame ↦ Option.some.inj hsame ▸ h, fun h ↦ h table rfl⟩

/-- What there is to check about a property, apart from the properties in it. -/
structure KeepsRules (p : Property) : Prop where
  type_mem : p.type ∈ Violation.knownTypes
  minLength_nonneg : ∀ n, p.minLength = some n → 0 ≤ n
  maxLength_nonneg : ∀ n, p.maxLength = some n → 0 ≤ n
  fault?_pattern : ∀ t, p.pattern = some t → Pattern.fault? t = none

theorem violation?_eq_none_iff {p : Property} :
    p.violation? = none ↔ p.KeepsRules ∧ (∀ q, p.items = some q → q.violation? = none) ∧
      (∀ table, p.properties = some table → ∀ entry ∈ table, entry.2.violation? = none) ∧
      (∀ q, p.additionalProperties = some q → q.violation? = none) := by
  obtain ⟨type, description, format, enumValues, minimum, maximum, minLength, maxLength, pattern,
    items, properties, additionalProperties⟩ := p
  rw [violation?]
  simp only [Option.orElse_eq_none, Violation.ofType_eq_none_iff, Violation.ofLength_eq_none_iff,
    Violation.ofPattern_eq_none_iff, nestedViolation?_eq_none_iff, optionalViolation?_eq_none_iff]
  constructor
  · rintro ⟨htype, hmin, hmax, hpattern, hnested⟩
    exact ⟨⟨htype, hmin, hmax, hpattern⟩, hnested⟩
  · rintro ⟨⟨htype, hmin, hmax, hpattern⟩, hnested⟩
    exact ⟨htype, hmin, hmax, hpattern, hnested⟩

private theorem keepsRules_of_isSchema {p : Property} (h : p.toJson.IsSchema) : p.KeepsRules := by
  have hp := p.members_toJson
  rw [toJson_eq] at h hp
  cases h with
  | table type text enum bound length pattern =>
    refine ⟨?_, fun n hn ↦ ?_, fun n hn ↦ ?_, fun t ht ↦ ?_⟩
    · obtain ⟨t, ht, heq⟩ := type _ hp.type
      cases heq
      exact ht
    · obtain ⟨m, hm⟩ :=
        length "minLength" (by decide) (.int n) (hp.minLength.trans (by rw [hn]; rfl))
      exact Json.int_injective hm ▸ Int.natCast_nonneg m
    · obtain ⟨m, hm⟩ :=
        length "maxLength" (by decide) (.int n) (hp.maxLength.trans (by rw [hn]; rfl))
      exact Json.int_injective hm ▸ Int.natCast_nonneg m
    · obtain ⟨u, hu, hfault⟩ := pattern (.text t) (hp.pattern.trans (by rw [ht]; rfl))
      cases hu
      exact hfault

/-- A property that keeps to the rules is a schema if the properties in it are. -/
theorem isSchema_of_keepsRules {p : Property} (h : p.KeepsRules)
    (hitems : ∀ q, p.items = some q → q.toJson.IsSchema)
    (hproperties : ∀ table, p.properties = some table → ∀ entry ∈ table, entry.2.toJson.IsSchema)
    (hadditional : ∀ q, p.additionalProperties = some q → q.toJson.IsSchema) :
    p.toJson.IsSchema := by
  have hp := p.members_toJson
  have hrequired := p.get?_required_toJson
  have hlength {length : Option Int} (hnonneg : ∀ n, length = some n → 0 ≤ n) {j : Json}
      (hj : length.map Json.int = some j) : ∃ n : Nat, j = .int n := by
    obtain ⟨n, hn, rfl⟩ := Option.map_eq_some_iff.mp hj
    exact ⟨n.toNat, by rw [Int.toNat_of_nonneg (hnonneg n hn)]⟩
  rw [toJson_eq] at hp hrequired ⊢
  constructor
  case type =>
    intro j hj
    cases hj.symm.trans hp.type
    exact ⟨p.type, h.type_mem, rfl⟩
  case text =>
    rw [List.forall_mem_cons, List.forall_mem_singleton]
    refine ⟨fun j hj ↦ ?_, fun j hj ↦ ?_⟩
    · obtain ⟨t, -, rfl⟩ := Option.map_eq_some_iff.mp (hp.description.symm.trans hj)
      exact ⟨t, rfl⟩
    · obtain ⟨t, -, rfl⟩ := Option.map_eq_some_iff.mp (hp.format.symm.trans hj)
      exact ⟨t, rfl⟩
  case enum =>
    intro j hj
    obtain ⟨texts, -, rfl⟩ := Option.map_eq_some_iff.mp (hp.enumValues.symm.trans hj)
    exact ⟨_, rfl⟩
  case bound =>
    rw [List.forall_mem_cons, List.forall_mem_singleton]
    refine ⟨fun j hj ↦ ?_, fun j hj ↦ ?_⟩
    · obtain ⟨n, -, rfl⟩ := Option.map_eq_some_iff.mp (hp.minimum.symm.trans hj)
      exact ⟨n, rfl⟩
    · obtain ⟨n, -, rfl⟩ := Option.map_eq_some_iff.mp (hp.maximum.symm.trans hj)
      exact ⟨n, rfl⟩
  case length =>
    rw [List.forall_mem_cons, List.forall_mem_singleton]
    exact ⟨fun j hj ↦ hlength h.minLength_nonneg (hp.minLength.symm.trans hj),
      fun j hj ↦ hlength h.maxLength_nonneg (hp.maxLength.symm.trans hj)⟩
  case pattern =>
    intro j hj
    obtain ⟨t, ht, rfl⟩ := Option.map_eq_some_iff.mp (hp.pattern.symm.trans hj)
    exact ⟨t, rfl, h.fault?_pattern t ht⟩
  case required => exact fun j hj ↦ nomatch hj.symm.trans hrequired
  case nested =>
    rw [List.forall_mem_cons, List.forall_mem_singleton]
    refine ⟨fun j hj ↦ ?_, fun j hj ↦ ?_⟩
    · obtain ⟨q, hq, rfl⟩ := Option.map_eq_some_iff.mp (hp.items.symm.trans hj)
      exact hitems q hq
    · obtain ⟨q, hq, rfl⟩ := Option.map_eq_some_iff.mp (hp.additionalProperties.symm.trans hj)
      exact hadditional q hq
  case properties =>
    intro j hj
    obtain ⟨table, -, rfl⟩ := Option.map_eq_some_iff.mp (hp.properties.symm.trans hj)
    exact ⟨_, rfl⟩
  case named =>
    intro named hnamed
    obtain ⟨table, htable, heq⟩ := Option.map_eq_some_iff.mp (hp.properties.symm.trans hnamed)
    cases heq
    rw [tableJson_eq_map, List.forall_mem_map]
    exact hproperties table htable

/-- The checker finds nothing in a property exactly if its form keeps to the rules. -/
theorem violation?_eq_none_iff_isSchema (p : Property) :
    p.violation? = none ↔ p.toJson.IsSchema := by
  induction p using induction with
  | step p hitems hproperties hadditional =>
    rw [violation?_eq_none_iff]
    constructor
    · rintro ⟨hrules, hi, hp, ha⟩
      apply isSchema_of_keepsRules hrules
      · exact fun q hq ↦ (hitems q hq).mp (hi q hq)
      · exact fun table ht entry he ↦ (hproperties table ht entry he).mp (hp table ht entry he)
      · exact fun q hq ↦ (hadditional q hq).mp (ha q hq)
    · intro h
      refine ⟨keepsRules_of_isSchema h, ?_⟩
      have hmembers := p.members_toJson
      rw [toJson_eq] at h hmembers
      -- the rules for nested schemas are those of the parts, so the hypotheses apply
      cases h with
      | table _ _ _ _ _ _ _ nested _ named =>
        refine ⟨fun q hq ↦ ?_, fun table ht entry he ↦ ?_, fun q hq ↦ ?_⟩
        · have hget := hmembers.items
          rw [hq] at hget
          exact (hitems q hq).mpr (nested "items" (by decide) _ hget)
        · have hget := hmembers.properties
          rw [ht] at hget
          apply (hproperties table ht entry he).mpr
          refine named _ hget (entry.1, entry.2.toJson) ?_
          rw [tableJson_eq_map]
          exact List.mem_map_of_mem he
        · have hget := hmembers.additionalProperties
          rw [hq] at hget
          exact (hadditional q hq).mpr (nested "additionalProperties" (by decide) _ hget)

end Property

namespace Schema

theorem violation?_eq_none_iff {s : Schema} :
    s.violation? = none ↔ s.type ∈ Violation.knownTypes ∧
      (∀ entry ∈ s.properties, entry.2.toJson.IsSchema) ∧ s.required.Nodup := by
  simp only [violation?, Option.orElse_eq_none, Violation.ofType_eq_none_iff,
    Property.tableViolation?_eq_none_iff, Violation.ofNames_eq_none_iff,
    Property.violation?_eq_none_iff_isSchema]

/-- The checker finds nothing in a schema exactly if its form keeps to the rules. -/
theorem violation?_eq_none_iff_isSchema (s : Schema) :
    s.violation? = none ↔ s.toJson.IsSchema := by
  have hs := s.members_toJson
  -- a schema has four members, so most of the rules ask for nothing
  have habsent {key : String} (hkey : key ∉ ["type", "properties", "required", "description"])
      {j : Json} (hj : s.toJson.get? key = some j) : False :=
    nomatch hj.symm.trans (s.get?_toJson_of_not_mem hkey)
  rw [violation?_eq_none_iff]
  rw [toJson] at hs habsent ⊢
  constructor
  · rintro ⟨htype, hproperties, hrequired⟩
    constructor
    case type =>
      intro j hj
      cases hj.symm.trans hs.type
      exact ⟨s.type, htype, rfl⟩
    case text =>
      rw [List.forall_mem_cons, List.forall_mem_singleton]
      refine ⟨fun j hj ↦ ?_, fun j hj ↦ (habsent (by decide) hj).elim⟩
      obtain ⟨t, -, rfl⟩ := Option.map_eq_some_iff.mp (hs.description.symm.trans hj)
      exact ⟨t, rfl⟩
    case enum => exact fun j hj ↦ (habsent (by decide) hj).elim
    case bound =>
      rw [List.forall_mem_cons, List.forall_mem_singleton]
      exact ⟨fun j hj ↦ (habsent (by decide) hj).elim,
        fun j hj ↦ (habsent (by decide) hj).elim⟩
    case length =>
      rw [List.forall_mem_cons, List.forall_mem_singleton]
      exact ⟨fun j hj ↦ (habsent (by decide) hj).elim,
        fun j hj ↦ (habsent (by decide) hj).elim⟩
    case pattern => exact fun j hj ↦ (habsent (by decide) hj).elim
    case required =>
      intro j hj
      cases hj.symm.trans hs.required
      exact ⟨s.required, rfl, hrequired⟩
    case nested =>
      rw [List.forall_mem_cons, List.forall_mem_singleton]
      exact ⟨fun j hj ↦ (habsent (by decide) hj).elim,
        fun j hj ↦ (habsent (by decide) hj).elim⟩
    case properties =>
      intro j hj
      cases hj.symm.trans hs.properties
      exact ⟨_, rfl⟩
    case named =>
      intro named hnamed
      cases hnamed.symm.trans hs.properties
      rw [Property.tableJson_eq_map, List.forall_mem_map]
      exact hproperties
  · intro h
    cases h with
    | table type _ _ _ _ _ required _ _ named =>
      refine ⟨?_, fun entry hentry ↦ ?_, ?_⟩
      · obtain ⟨t, ht, heq⟩ := type _ hs.type
        cases heq
        exact ht
      · refine named _ hs.properties (entry.1, entry.2.toJson) ?_
        rw [Property.tableJson_eq_map]
        exact List.mem_map_of_mem hentry
      · obtain ⟨names, heq, hnames⟩ := required _ hs.required
        rwa [Json.texts_injective heq]

end Schema

end ClassSchema

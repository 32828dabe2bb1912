import ClassSchema.Proofs.Pipeline.Strategy

/-!
# Private fields are left out twice

Where private fields do not take part they are left out when a class is extracted, and again when
its record is converted. Both times the same fields are meant: the record of a field says that it is
private exactly if its declaration does, and everything else in the record is the same whichever
fields take part.

So it does not matter which of the two leaves them out. `ClassRecord.withoutPrivate` is what the
extraction makes of a record with all fields, and a conversion without private fields sees no
difference between the two, also where it fails.
-/

namespace ClassSchema

/-- The class without its private fields. -/
def ClassRecord.withoutPrivate (c : ClassRecord) : ClassRecord :=
  { c with fields := c.fields.filter fun f ↦ !f.isPrivate }

namespace Options

/-- The options with private fields taken in. -/
def withPrivate (options : Options) : Options := { options with includePrivate := true }

/-- The options with private fields left out. -/
def withoutPrivate (options : Options) : Options := { options with includePrivate := false }

end Options

/-! ## Leaving out before the conversion -/

theorem ClassRecord.ofDecl_withoutPrivate (options : Options) (c : ClassDecl) :
    ofDecl options.withoutPrivate c = (ofDecl options.withPrivate c).withoutPrivate := by
  have hall : c.fields.filter (takes options.withPrivate) = c.fields :=
    List.filter_eq_self.mpr fun _ _ ↦ rfl
  have hfields : (c.fields.filter (takes options.withoutPrivate)).map
        (FieldRecord.ofDecl options.withoutPrivate) =
      (c.fields.map (FieldRecord.ofDecl options.withPrivate)).filter fun f ↦ !f.isPrivate := by
    rw [List.filter_map]
    rfl
  rw [withoutPrivate, ofDecl, ofDecl, hall, hfields]

private theorem ParsedClass.record_ofSource_withoutPrivate (source : String) (options : Options) :
    (ofSource source options.withoutPrivate).record =
      (ofSource source options.withPrivate).record.map (·.withoutPrivate) := by
  unfold ofSource
  dsimp only
  split
  · rfl
  · rename_i tree _
    rw [ClassRecord.extract?, ClassRecord.extract?]
    cases (Node.unit tree).firstClass? with
    | none => rfl
    | some c => exact congrArg some (ClassRecord.ofDecl_withoutPrivate options c)

/-! ## Leaving out in the conversion -/

namespace Schema

variable {options : Options} (hprivate : options.includePrivate = false)

include hprivate

private theorem participants_withoutPrivate (fields : List FieldRecord) :
    participants options (fields.filter fun f ↦ !f.isPrivate) = participants options fields := by
  rw [participants, participants, List.filter_filter]
  refine List.filter_congr fun f _ ↦ ?_
  rw [Bool.and_eq_left_iff_imp, decide_eq_true_iff]
  intro hpart
  rw [hpart.2 hprivate]
  rfl

private theorem ofRecord_withoutPrivate (c : ClassRecord) :
    ofRecord options c.withoutPrivate = ofRecord options c := by
  have hfields : participants options c.withoutPrivate.fields = participants options c.fields :=
    participants_withoutPrivate hprivate c.fields
  rw [ofRecord_eq, ofRecord_eq, hfields]
  rfl

end Schema

/-! ## Runs -/

namespace Conversion

variable {options : Options} {settings : Option (List (String × Json))} {source : String}
  {record : ClassRecord}

theorem schema_run_of_record (hoptions : Options.resolve settings = .ok options)
    (hrecord : (ParsedClass.ofSource source options).record = some record) :
    (run source settings none).map (·.schema) =
      ((Schema.ofRecord options record).map some).mapError .conversion := by
  unfold run
  dsimp only
  rw [hoptions]
  dsimp only [ofSource]
  unfold ofParsed
  rw [hrecord, ParsedClass.options_ofSource]
  dsimp only
  cases Schema.ofRecord options record <;> rfl

/-- **Private fields are left out in the same way by the extraction and by the conversion.** The
record extracted without private fields is the one with all fields less the private ones. Whenever
private fields are left out of the conversion, both records have the same schema or fail in the same
way, and so does the run that leaves them out. -/
theorem run_withoutPrivate (hoptions : Options.resolve settings = .ok options.withoutPrivate) :
    (ParsedClass.ofSource source options.withoutPrivate).record =
        (ParsedClass.ofSource source options.withPrivate).record.map (·.withoutPrivate) ∧
      ∀ record, (ParsedClass.ofSource source options.withPrivate).record = some record →
        (∀ converting : Options, converting.includePrivate = false →
          Schema.ofRecord converting record.withoutPrivate = Schema.ofRecord converting record) ∧
        (run source settings none).map (·.schema) =
          ((Schema.ofRecord options.withoutPrivate record).map some).mapError .conversion := by
  have hextracted := ParsedClass.record_ofSource_withoutPrivate source options
  refine ⟨hextracted, fun record hrecord ↦ ?_⟩
  have hconverted : ∀ converting : Options, converting.includePrivate = false →
      Schema.ofRecord converting record.withoutPrivate = Schema.ofRecord converting record :=
    fun _ hprivate ↦ Schema.ofRecord_withoutPrivate hprivate record
  refine ⟨hconverted, ?_⟩
  rw [hrecord, Option.map_some] at hextracted
  rw [schema_run_of_record hoptions hextracted, hconverted options.withoutPrivate rfl]

/-- A private field that is given the name of another one would replace its property. -/
theorem run_withoutPrivate_of_collision :
    let source := "class A \x7b int a; @JsonProperty(\"a\") private String b; private int c; \x7d"
    let settings := some [("includePrivateFields", Json.bool false)]
    ∃ record schema, (ParsedClass.ofSource source {}).record = some record ∧
      record.fields.map (·.name) = ["a", "b", "c"] ∧
      (ParsedClass.ofSource source (Options.withoutPrivate {})).record =
        some record.withoutPrivate ∧
      record.withoutPrivate.fields.map (·.name) = ["a"] ∧
      Schema.ofRecord (Options.withoutPrivate {}) record.withoutPrivate = .ok schema ∧
      Schema.ofRecord (Options.withoutPrivate {}) record = .ok schema ∧
      (run source settings none).map (·.schema) = .ok (some schema) ∧
      schema.properties.map (fun entry ↦ (entry.1, entry.2.type)) = [("a", "integer")] := by
  intro source settings
  have hvalues : (ParsedClass.ofSource source {}).record.map (fun record ↦
      (record.fields.map (·.name), record.withoutPrivate.fields.map (·.name),
        (Schema.ofRecord (Options.withoutPrivate {}) record).toOption.map (·.properties.map
          fun entry ↦ (entry.1, entry.2.type)))) =
        some (["a", "b", "c"], ["a"], some [("a", "integer")]) := by
    decide +kernel
  obtain ⟨record, hrecord, hrest⟩ := Option.map_eq_some_iff.mp hvalues
  obtain ⟨hnames, hrest⟩ := Prod.mk.inj hrest
  obtain ⟨hleft, hproperties⟩ := Prod.mk.inj hrest
  have hoptions : Options.resolve settings = .ok (Options.withoutPrivate {}) := rfl
  obtain ⟨hextracted, hboth⟩ := @run_withoutPrivate _ _ source hoptions
  obtain ⟨hsame, hrun⟩ := hboth record hrecord
  have hconverted := hsame (Options.withoutPrivate {}) rfl
  rw [show (ParsedClass.ofSource source (Options.withPrivate {})).record = some record from
    hrecord, Option.map_some] at hextracted
  cases hschema : Schema.ofRecord (Options.withoutPrivate {}) record with
  | error fault =>
    rw [hschema] at hproperties
    cases hproperties
  | ok schema =>
    rw [hschema] at hproperties hrun hconverted
    exact ⟨record, schema, hrecord, hnames, hextracted, hleft, hconverted, hschema, hrun,
      Option.some.inj hproperties⟩

end Conversion

end ClassSchema

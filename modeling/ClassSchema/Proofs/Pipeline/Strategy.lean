import ClassSchema.Proofs.Schema.Properties

/-!
# What the strategy for required fields changes

Two runs on the same text, whose options agree on private fields, differ in nothing but the names
that are required. The strategy is looked at once, when a field is extracted and nothing else tells
whether it is required, and all that depends on this is the list of required names. The form of
comment is not looked at.

So one run can be had from the other: `Conversion.under` takes the result of a run and decides anew
which fields are required. Everything that is said here of two runs follows from the equation
`Conversion.run_under`, and from the order of the strategies: under `annotated` and `never` the same
fields are required, and under `always` these and all others that are not said to be optional.
-/

namespace ClassSchema

/-! ## Deciding anew -/

/-- The field under another strategy. -/
def FieldRecord.under (strategy : RequiredStrategy) (f : FieldRecord) : FieldRecord :=
  { f with isRequired := Required.decide (f.annotations.map (·.name)) f.comment f.type strategy }

/-- The class under another strategy. -/
def ClassRecord.under (strategy : RequiredStrategy) (c : ClassRecord) : ClassRecord :=
  { c with fields := c.fields.map (.under strategy) }

/-- The names of the required ones of some fields, those that take part. -/
def Schema.requiredNames (options : Options) (fields : List FieldRecord) : List String :=
  (((participants options fields).filter (·.isRequired)).map (·.propertyName)).eraseDups

/-- The parse under other options. -/
def ParsedClass.under (options : Options) (p : ParsedClass) : ParsedClass :=
  { p with record := p.record.map (.under options.strategy), options := options }

/-- The names that are required in the schema of a parse. -/
def ParsedClass.requiredNames (p : ParsedClass) : List String :=
  p.record.elim [] fun record ↦ Schema.requiredNames p.options record.fields

/-- The conversion under other options. -/
def Conversion.under (options : Options) (c : Conversion) : Conversion :=
  { c with
    parsed := c.parsed.under options
    schema := c.schema.map ({ · with required := (c.parsed.under options).requiredNames }) }

/-! ## One run from the other -/

section

variable {options options' : Options} (hprivate : options'.includePrivate = options.includePrivate)

include hprivate

private theorem ClassRecord.under_ofDecl (c : ClassDecl) :
    ofDecl options' c = (ofDecl options c).under options'.strategy := by
  have htakes : takes options' = takes options := by
    funext f
    rw [takes, takes, hprivate]
  rw [under, ofDecl, ofDecl, htakes, List.map_map]
  rfl

private theorem ParsedClass.under_ofSource (source : String) :
    ofSource source options' = (ofSource source options).under options' := by
  unfold ofSource
  dsimp only
  split
  · rfl
  · rename_i tree _
    have hrecord : ClassRecord.extract? options' (.unit tree) =
        (ClassRecord.extract? options (.unit tree)).map (.under options'.strategy) := by
      rw [ClassRecord.extract?, ClassRecord.extract?, Option.map_map]
      exact congrArg (Option.map · _) (funext (ClassRecord.under_ofDecl hprivate))
    rw [hrecord]
    cases ClassRecord.extract? options (.unit tree) with
    | none => rfl
    | some record =>
      have hlength : (record.under options'.strategy).fields.length = record.fields.length :=
        List.length_map _
      rw [Option.map_some]
      dsimp only
      rw [hlength]
      rfl

namespace Schema

omit hprivate in
private theorem participants_under (strategy : RequiredStrategy) (fields : List FieldRecord) :
    participants options (fields.map (.under strategy)) =
      (participants options fields).map (.under strategy) := by
  rw [participants, List.filter_map]
  rfl

theorem takesPart_congr {f : FieldRecord} : TakesPart options' f ↔ TakesPart options f := by
  rw [TakesPart, TakesPart, hprivate]

theorem participants_congr (fields : List FieldRecord) :
    participants options' fields = participants options fields :=
  List.filter_congr fun _ _ ↦ decide_eq_decide.mpr (takesPart_congr hprivate)

theorem ofRecord_under (strategy : RequiredStrategy) (c : ClassRecord) :
    ofRecord options' (c.under strategy) = (ofRecord options c).map
      ({ · with required := requiredNames options' (c.under strategy).fields }) := by
  have hentry : entryOf ∘ FieldRecord.under strategy = entryOf := rfl
  have hentries : (participants options' (c.under strategy).fields).mapM entryOf =
      (participants options c.fields).mapM entryOf := by
    rw [participants_congr hprivate, ClassRecord.under, participants_under, List.mapM_map, hentry]
  rw [ofRecord_eq, ofRecord_eq, hentries]
  cases (participants options c.fields).mapM entryOf <;> rfl

end Schema

namespace Conversion

private theorem ofParsed_under {p : ParsedClass} (hp : p.options = options) :
    ofParsed (p.under options') = (ofParsed p).map (.under options') := by
  obtain ⟨record?, errors, warnings, _, notes⟩ := p
  obtain rfl := hp
  cases record? with
  | none => rfl
  | some record =>
    unfold ofParsed ParsedClass.under
    dsimp only
    rw [Option.map_some]
    dsimp only
    rw [Schema.ofRecord_under hprivate]
    cases Schema.ofRecord _ record <;> rfl

variable {settings settings' : Option (List (String × Json))}

/-- **One run from the other.** The run under other options decides anew which fields are
required, and does nothing else differently. -/
theorem run_under (hoptions : Options.resolve settings = .ok options)
    (hoptions' : Options.resolve settings' = .ok options') (source : String) :
    run source settings' none = (run source settings none).map (.under options') := by
  unfold run
  dsimp only
  rw [hoptions, hoptions']
  dsimp only
  rw [ofSource, ofSource, ParsedClass.under_ofSource hprivate,
    ofParsed_under hprivate (ParsedClass.options_ofSource source options)]
  cases ofParsed (.ofSource source options) <;> rfl

end Conversion

end

/-! ## The order of the strategies -/

namespace Required

variable {annotations : List String} {comment : Option String} {type : String}
  {strategy strategy' : RequiredStrategy}

private theorem occursIn_iff {word cs : List Char} : occursIn word cs = true ↔ word <:+: cs := by
  induction cs with
  | nil => rw [occursIn, List.isEmpty_iff, List.infix_nil]
  | cons c cs ih =>
    rw [occursIn, Bool.or_eq_true, ih, List.isPrefixOf_iff_prefix, List.infix_cons_iff]

private theorem decide_congr (h : strategy ≠ .always) (h' : strategy' ≠ .always) :
    decide annotations comment type strategy' = decide annotations comment type strategy := by
  simp only [decide, h, h']

/-- Under `always` a field is optional only if its comment makes it so and nothing that comes before
says otherwise. -/
theorem decide_always_iff : decide annotations comment type .always = true ↔
    annotations.any markers.contains = true ∨ mentions comment requiredWords = true ∨
      mentions comment optionalWords = false := by
  unfold decide
  cases annotations.any markers.contains <;> cases mentions comment requiredWords <;>
    cases mentions comment optionalWords <;> simp

private theorem decide_always_of_decide (h : decide annotations comment type strategy = true) :
    decide annotations comment type .always = true := by
  rw [decide_always_iff]
  by_contra hnone
  rw [not_or, not_or, Bool.not_eq_false] at hnone
  obtain ⟨hmarkers, hrequired, hoptional⟩ := hnone
  rw [decide, if_neg hmarkers, if_neg hrequired, if_pos hoptional] at h
  cases h

end Required

namespace FieldRecord

variable {f : FieldRecord}

/-- The comment of the field holds one of some words. -/
def Says (f : FieldRecord) (words : List String) : Prop :=
  ∃ text ∈ f.comment, ∃ word ∈ words, word.toList <:+: text.toList

/-- The field is said to be optional: it has no annotation that makes it required, and of the words
for both its comment holds one for "optional" only. -/
structure IsOptional (f : FieldRecord) : Prop where
  no_marker : ∀ a ∈ f.annotations, a.name ∉ Required.markers
  says_optional : f.Says Required.optionalWords
  not_says_required : ¬f.Says Required.requiredWords

private theorem mentions_iff {words : List String} :
    Required.mentions f.comment words = true ↔ f.Says words := by
  rw [Required.mentions, Says]
  cases f.comment with
  | none => simp
  | some text => simp [Required.occursIn_iff]

private theorem isRequired_always_iff : (f.under .always).isRequired = true ↔ ¬f.IsOptional := by
  have hmarkers : (f.annotations.map (·.name)).any Required.markers.contains = true ↔
      ∃ a ∈ f.annotations, a.name ∈ Required.markers := by
    simp [List.any_map]
  rw [under, Required.decide_always_iff, hmarkers, mentions_iff, ← Bool.not_eq_true, mentions_iff]
  constructor
  · rintro (⟨a, ha, hmarker⟩ | hrequired | hoptional) h
    · exact h.no_marker a ha hmarker
    · exact h.not_says_required hrequired
    · exact hoptional h.says_optional
  · intro h
    by_contra hnone
    rw [not_or, not_or, not_not] at hnone
    obtain ⟨hmarkers, hrequired, hoptional⟩ := hnone
    exact h ⟨fun a ha hmarker ↦ hmarkers ⟨a, ha, hmarker⟩, hoptional, hrequired⟩

end FieldRecord

/-! ## Two runs -/

namespace Schema

variable {options options' : Options} {fields : List FieldRecord}

private theorem mem_requiredNames_iff {name : String} : name ∈ requiredNames options fields ↔
    ∃ f ∈ fields, TakesPart options f ∧ f.isRequired = true ∧ f.propertyName = name := by
  rw [requiredNames, (ListsOnce.eraseDups _).mem_iff, List.mem_map]
  simp only [participants, List.mem_filter, decide_eq_true_iff, and_assoc]

private theorem requiredNames_congr (hprivate : options'.includePrivate = options.includePrivate)
    (h : options.strategy ≠ .always) (h' : options'.strategy ≠ .always) :
    requiredNames options' (fields.map (.under options'.strategy)) =
      requiredNames options (fields.map (.under options.strategy)) := by
  have hunder : FieldRecord.under options'.strategy = .under options.strategy := by
    funext f
    rw [FieldRecord.under, FieldRecord.under, Required.decide_congr h h']
  rw [requiredNames, requiredNames, participants_congr hprivate, hunder]

end Schema

namespace Conversion

variable {options options' : Options} {settings settings' : Option (List (String × Json))}
  {source : String} {c c' : Conversion} {schema schema' : Schema}

/-- How the results of two runs are related, `c` with the schema `schema` under the options
`options`, and `c'` with the schema `schema'` under the options `options'`. -/
structure SameButRequired (options options' : Options) (c c' : Conversion)
    (schema schema' : Schema) : Prop where
  errors_eq : c'.parsed.errors = c.parsed.errors
  warnings_eq : c'.parsed.warnings = c.parsed.warnings
  type_eq : schema'.type = schema.type
  description_eq : schema'.description = schema.description
  /-- The properties are the same, in the same order. -/
  properties_eq : schema'.properties = schema.properties
  /-- Under `annotated` and `never` the schemas are equal. -/
  eq_of_ne_always : options.strategy ≠ .always → options'.strategy ≠ .always → schema' = schema
  /-- What is required at all is required under `always`. -/
  required_subset : options'.strategy = .always → schema.required ⊆ schema'.required
  /-- Under `always` those names are required that some field has which takes part and is not said
  to be optional. -/
  mem_required_iff : options'.strategy = .always → ∃ record, c'.parsed.record = some record ∧
    ∀ name, name ∈ schema'.required ↔
      ∃ f ∈ record.fields, Schema.TakesPart options' f ∧ ¬f.IsOptional ∧ f.propertyName = name

private theorem under_eq_self (hoptions : Options.resolve settings = .ok options)
    (hrun : run source settings none = .ok c) : c.under options = c := by
  have hself := run_under rfl hoptions hoptions source
  rw [hrun] at hself
  exact (Except.ok.inj hself).symm

private theorem exists_record (hoptions : Options.resolve settings = .ok options)
    (hrun : run source settings none = .ok c) (hschema : c.schema = some schema) :
    ∃ record, c.parsed.record = some record := by
  obtain ⟨hparsed, hsome⟩ := of_ofParsed_eq_ok ((run_eq_ok_iff hoptions).mp hrun)
  rw [hschema, ← hparsed] at hsome
  exact Option.isSome_iff_exists.mp hsome.symm

private theorem requiredNames_under {record : ClassRecord}
    (hrecord : c.parsed.record = some record) :
    (c.parsed.under options).requiredNames =
      Schema.requiredNames options (record.fields.map (.under options.strategy)) := by
  rw [ParsedClass.under, ParsedClass.requiredNames, hrecord]
  rfl

/-- Two results of which one is the other under its options are related. -/
theorem sameButRequired_under (hprivate : options'.includePrivate = options.includePrivate)
    (hself : c.under options = c) (hschema : c.schema = some schema) {record : ClassRecord}
    (hrecord : c.parsed.record = some record) :
    SameButRequired options options' c (c.under options')
      schema { schema with required := (c.parsed.under options').requiredNames } := by
  have hrequired : schema.required = (c.parsed.under options).requiredNames := by
    have hsame := congrArg Conversion.schema hself
    rw [under, hschema] at hsame
    exact (congrArg Schema.required (Option.some.inj hsame)).symm
  rw [requiredNames_under hrecord] at hrequired ⊢
  refine ⟨rfl, rfl, rfl, rfl, rfl, fun h h' ↦ ?_, fun h' name hname ↦ ?_, fun h' ↦ ?_⟩
  · rw [Schema.requiredNames_congr hprivate h h', ← hrequired]
  · rw [hrequired, Schema.mem_requiredNames_iff] at hname
    obtain ⟨_, hmem, hpart, hdecide, rfl⟩ := hname
    obtain ⟨f, hf, rfl⟩ := List.mem_map.mp hmem
    rw [h', Schema.mem_requiredNames_iff]
    exact ⟨f.under .always, List.mem_map_of_mem hf,
      (Schema.takesPart_congr hprivate).mpr hpart, Required.decide_always_of_decide hdecide, rfl⟩
  · refine ⟨record.under options'.strategy, ?_, fun name ↦ ?_⟩
    · rw [under, ParsedClass.under, hrecord]
      rfl
    · rw [Schema.mem_requiredNames_iff, ClassRecord.under, h']
      refine exists_congr fun g ↦ and_congr_right fun hg ↦ and_congr_right' (and_congr_left' ?_)
      obtain ⟨f, -, rfl⟩ := List.mem_map.mp hg
      exact FieldRecord.isRequired_always_iff (f := f.under .always)

/-- The conversion with other options noted, and nothing else changed. -/
def withOptions (options : Options) (c : Conversion) : Conversion :=
  { c with parsed := { c.parsed with options := options } }

private theorem under_eq_withOptions (hprivate : options'.includePrivate = options.includePrivate)
    (hstrategy : options'.strategy = options.strategy) (c : Conversion) :
    c.under options' = (c.under options).withOptions options' := by
  obtain ⟨includePrivate, strategy, commentStyle⟩ := options
  obtain ⟨includePrivate', strategy', commentStyle'⟩ := options'
  obtain rfl : includePrivate' = includePrivate := hprivate
  obtain rfl : strategy' = strategy := hstrategy
  rfl

/-- **The strategy only touches the required names.** If the run under some options gives a schema,
so does every run on the same text whose options agree with them on private fields, and the two
results are the same but for the names that are required. If the strategies agree, too, so that only
the form of comment is another one, the two runs end in the same way, be it with a schema or not. -/
theorem run_strategy (hoptions : Options.resolve settings = .ok options)
    (hoptions' : Options.resolve settings' = .ok options')
    (hprivate : options'.includePrivate = options.includePrivate) (source : String) :
    (∀ c schema, run source settings none = .ok c → c.schema = some schema →
      ∃ c' schema', run source settings' none = .ok c' ∧ c'.schema = some schema' ∧
        SameButRequired options options' c c' schema schema') ∧
    (options'.strategy = options.strategy → run source settings' none =
      (run source settings none).map (.withOptions options')) := by
  have hunder := run_under hprivate hoptions hoptions' source
  constructor
  · intro c schema hrun hschema
    obtain ⟨record, hrecord⟩ := exists_record hoptions hrun hschema
    have hself := under_eq_self hoptions hrun
    rw [hrun] at hunder
    refine ⟨c.under options', _, hunder, ?_, sameButRequired_under hprivate hself hschema hrecord⟩
    rw [under, hschema]
    rfl
  · intro hstrategy
    rw [hunder]
    cases hrun : run source settings none with
    | error fault => rfl
    | ok c =>
      have hself := under_eq_self hoptions hrun
      refine congrArg Except.ok ?_
      calc c.under options' = (c.under options).withOptions options' :=
            under_eq_withOptions hprivate hstrategy c
        _ = c.withOptions options' := by rw [hself]

/-- A field whose comment says nothing is required under `always` only, and an optional one is not
required at all. -/
theorem run_strategy_of_optional :
    let source := "class A \x7b @NotNull String a; /** optional */ String b; String c; int d; \x7d"
    let annotated := some [("requiredFieldStrategy", Json.text "annotation")]
    let always := some [("requiredFieldStrategy", Json.text "all")]
    ∃ c schema c' schema', run source annotated none = .ok c ∧ run source always none = .ok c' ∧
      c.schema = some schema ∧ schema.required = ["a", "d"] ∧
      c'.schema = some schema' ∧ schema'.required = ["a", "c", "d"] ∧
      SameButRequired {} { strategy := .always } c c' schema schema' := by
  intro source annotated always
  have hrequired : (run source annotated none).toOption.map (·.schema.map (·.required)) =
      some (some ["a", "d"]) := by
    decide +kernel
  have hrequired' : (run source always none).toOption.map (·.schema.map (·.required)) =
      some (some ["a", "c", "d"]) := by
    decide +kernel
  have hoptions : Options.resolve annotated = .ok {} := rfl
  have hoptions' : Options.resolve always = .ok { strategy := .always } := rfl
  obtain ⟨hrelated, -⟩ := run_strategy hoptions hoptions' rfl source
  obtain ⟨c, hrun, hc⟩ : ∃ c, run source annotated none = .ok c ∧
      c.schema.map (·.required) = some ["a", "d"] := by
    cases hrun : run source annotated none with
    | error fault =>
      rw [hrun] at hrequired
      cases hrequired
    | ok c =>
      rw [hrun] at hrequired
      exact ⟨c, rfl, Option.some.inj hrequired⟩
  obtain ⟨schema, hschema, hnames⟩ := Option.map_eq_some_iff.mp hc
  obtain ⟨c', schema', hrun', hschema', hsame⟩ := hrelated c schema hrun hschema
  rw [hrun'] at hrequired'
  have hnames' : c'.schema.map (·.required) = some ["a", "c", "d"] := Option.some.inj hrequired'
  rw [hschema', Option.map_some, Option.some_inj] at hnames'
  exact ⟨c, schema, c', schema', hrun, hrun', hschema, hnames, hschema', hnames', hsame⟩

end Conversion

end ClassSchema

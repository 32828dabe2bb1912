import ClassSchema.Pipeline
import ClassSchema.Proofs.Number.Numeral

/-!
# Bounds that can be converted

A text is converted whenever it is valid, with one exception: the bound of a field may be a number
that the schema cannot hold. A string may write an integer of too many digits, and the bound of a
length may be a number beyond all finite doubles, which has no integer part. Nothing in front of the
conversion looks at the size of a bound, so such a text is valid and has no schema.

`AnnotationRecord.Constrains` says of one annotation that this does not happen. An annotation never
changes the type of a property, so the annotations of a field can be looked at one by one.
-/

namespace ClassSchema

/-! ## Arguments that can be bounds -/

/-- A finite double. -/
def Double.IsFinite : Double → Prop
  | finite .. => True
  | infinite _ | notANumber => False

namespace Argument

/-- The argument is no text of an integer that is too long. -/
def IsReadable : Argument → Prop
  | text s => ¬Numeral.IsLongInteger s
  | number _ | flag _ | path _ => True

/-- The argument is readable and its number, if it has one, has an integer part. -/
def IsLength (a : Argument) : Prop :=
  a.IsReadable ∧ ∀ d, a.asNumber = .ok (some (.double d)) → d.IsFinite

theorem exists_asNumber_eq_ok_iff {a : Argument} : (∃ n, a.asNumber = .ok n) ↔ a.IsReadable := by
  cases a with
  | text s =>
    rw [IsReadable, ← Numeral.exists_read_eq_error_iff, asNumber]
    cases Numeral.read s with
    | ok n => exact ⟨fun _ ⟨_, h⟩ ↦ (nomatch h), fun _ ↦ ⟨n, rfl⟩⟩
    | error fault => exact ⟨fun ⟨_, h⟩ ↦ (nomatch h), fun h ↦ absurd ⟨fault, rfl⟩ h⟩
  | number n => exact ⟨fun _ ↦ trivial, fun _ ↦ ⟨_, rfl⟩⟩
  | flag b => exact ⟨fun _ ↦ trivial, fun _ ↦ ⟨_, rfl⟩⟩
  | path s => exact ⟨fun _ ↦ trivial, fun _ ↦ ⟨_, rfl⟩⟩

end Argument

/-- What an annotation asks of a property of a given type can be done. -/
structure AnnotationRecord.Constrains (a : AnnotationRecord) (type : String) : Prop where
  /-- The bounds of the length of a string are integers, or can be cut to integers. -/
  length : a.name ∈ ["Size", "Length"] → type = "string" → ∀ key ∈ ["min", "max"],
    ∀ argument, a.arguments.get? key = some argument → argument.IsLength
  /-- The bound of a value can be read. -/
  bound : a.name ∈ ["Min", "DecimalMin", "Max", "DecimalMax"] →
    ∀ argument, a.arguments.get? "value" = some argument → argument.IsReadable

/-! ## Single steps -/

theorem bind_eq_ok_iff {ε α β : Type} {x : Except ε α} {f : α → Except ε β} {b : β} :
    (x >>= f) = .ok b ↔ ∃ a, x = .ok a ∧ f a = .ok b := by
  cases x with
  | ok a =>
    refine ⟨fun h ↦ ⟨a, rfl, h⟩, ?_⟩
    rintro ⟨a', ha, h⟩
    cases ha
    exact h
  | error e => exact ⟨fun h ↦ (nomatch h), fun ⟨_, h, _⟩ ↦ (nomatch h)⟩

/-- Two steps succeed if the first one does and the second one goes on from what it gives. -/
theorem exists_bind_eq_ok_iff {ε α β : Type} {x : Except ε α} {f : α → Except ε β} :
    (∃ b, (x >>= f) = .ok b) ↔ ∃ a, x = .ok a ∧ ∃ b, f a = .ok b := by
  constructor
  · rintro ⟨b, h⟩
    obtain ⟨a, ha, hb⟩ := bind_eq_ok_iff.mp h
    exact ⟨a, ha, b, hb⟩
  · rintro ⟨a, ha, b, hb⟩
    exact ⟨b, bind_eq_ok_iff.mpr ⟨a, ha, hb⟩⟩

theorem exists_mapM_eq_ok_iff {ε α β : Type} {f : α → Except ε β} {l : List α} :
    (∃ r, l.mapM f = .ok r) ↔ ∀ a ∈ l, ∃ b, f a = .ok b := by
  induction l with
  | nil => exact ⟨fun _ a ha ↦ (nomatch ha), fun _ ↦ ⟨[], rfl⟩⟩
  | cons a l ih =>
    rw [List.mapM_cons, List.forall_mem_cons, ← ih, exists_bind_eq_ok_iff]
    constructor
    · rintro ⟨b, hb, hrest⟩
      obtain ⟨r, hr, -⟩ := exists_bind_eq_ok_iff.mp hrest
      exact ⟨⟨b, hb⟩, r, hr⟩
    · rintro ⟨⟨b, hb⟩, r, hr⟩
      exact ⟨b, hb, exists_bind_eq_ok_iff.mpr ⟨r, hr, _, rfl⟩⟩

namespace Property

variable {a : AnnotationRecord} {p q : Property}

theorem numberOf_eq_ok_iff {key : String} {n : Option Number} :
    numberOf a key = .ok n ↔ a.number? key = .ok n := by
  unfold numberOf
  cases a.number? key with
  | ok m => exact ⟨fun h ↦ congrArg _ (Except.ok.inj h), fun h ↦ congrArg _ (Except.ok.inj h)⟩
  | error fault => exact ⟨nofun, nofun⟩

private theorem exists_numberOf_eq_ok_iff {key : String} :
    (∃ n, numberOf a key = .ok n) ↔
      ∀ argument, a.arguments.get? key = some argument → argument.IsReadable := by
  simp only [numberOf_eq_ok_iff]
  unfold AnnotationRecord.number?
  cases a.arguments.get? key with
  | none => exact ⟨fun _ _ h ↦ (nomatch h), fun _ ↦ ⟨none, rfl⟩⟩
  | some argument =>
    rw [Argument.exists_asNumber_eq_ok_iff]
    exact ⟨fun h _ hsame ↦ Option.some.inj hsame ▸ h, fun h ↦ h argument rfl⟩

private theorem exists_integerOf_eq_ok_iff {n : Option Number} :
    (∃ i, integerOf n = .ok i) ↔ ∀ d, n = some (.double d) → d.IsFinite := by
  cases n with
  | none => exact ⟨fun _ _ h ↦ (nomatch h), fun _ ↦ ⟨none, rfl⟩⟩
  | some n =>
    cases n with
    | int i => exact ⟨fun _ _ h ↦ (nomatch h), fun _ ↦ ⟨some i, rfl⟩⟩
    | double d =>
      cases d with
      | finite negative m e =>
        refine ⟨fun _ d h ↦ ?_, fun _ ↦ ⟨_, rfl⟩⟩
        cases h
        trivial
      | infinite negative => exact ⟨fun ⟨_, h⟩ ↦ (nomatch h), fun h ↦ (h _ rfl).elim⟩
      | notANumber => exact ⟨fun ⟨_, h⟩ ↦ (nomatch h), fun h ↦ (h _ rfl).elim⟩

/-- The bound under a key is an integer, or can be cut to one, when its argument is a length. -/
theorem exists_integerOf_numberOf_iff {key : String} :
    (∃ n, numberOf a key = .ok n ∧ ∃ i, integerOf n = .ok i) ↔
      ∀ argument, a.arguments.get? key = some argument → argument.IsLength := by
  simp only [numberOf_eq_ok_iff, exists_integerOf_eq_ok_iff]
  unfold AnnotationRecord.number?
  cases a.arguments.get? key with
  | none =>
    refine ⟨fun _ _ h ↦ (nomatch h), fun _ ↦ ⟨none, rfl, fun d h ↦ (nomatch h)⟩⟩
  | some argument =>
    constructor
    · rintro ⟨n, hn, hfinite⟩ _ hsame
      cases hsame
      refine ⟨Argument.exists_asNumber_eq_ok_iff.mp ⟨n, hn⟩, fun d hd ↦ hfinite d ?_⟩
      exact Except.ok.inj (hn.symm.trans hd)
    · intro h
      obtain ⟨hreadable, hfinite⟩ := h argument rfl
      obtain ⟨n, hn⟩ := Argument.exists_asNumber_eq_ok_iff.mpr hreadable
      refine ⟨n, hn, fun d hd ↦ hfinite d ?_⟩
      rw [hd] at hn
      exact hn

private theorem exists_constrainLength_eq_ok_iff :
    (∃ q, constrainLength a p = .ok q) ↔
      (p.type = "string" → ∀ key ∈ ["min", "max"], ∀ argument,
        a.arguments.get? key = some argument → argument.IsLength) := by
  unfold constrainLength
  by_cases htype : p.type = "string"
  · rw [if_pos htype, List.forall_mem_cons, List.forall_mem_singleton,
      ← exists_integerOf_numberOf_iff, ← exists_integerOf_numberOf_iff]
    simp only [exists_bind_eq_ok_iff]
    constructor
    · rintro ⟨low, hlow, high, hhigh, i, hi, j, hj, -⟩ -
      exact ⟨⟨low, hlow, i, hi⟩, high, hhigh, j, hj⟩
    · intro h
      obtain ⟨⟨low, hlow, i, hi⟩, high, hhigh, j, hj⟩ := h htype
      exact ⟨low, hlow, high, hhigh, i, hi, j, hj, _, rfl⟩
  · rw [if_neg htype]
    exact ⟨fun _ h ↦ absurd h htype, fun _ ↦ ⟨p, rfl⟩⟩

private theorem exists_constrain_eq_ok_of_mem_bounds
    (hname : a.name ∈ ["Min", "DecimalMin", "Max", "DecimalMax"]) :
    (∃ q, constrain p a = .ok q) ↔
      ∀ argument, a.arguments.get? "value" = some argument → argument.IsReadable := by
  rw [← exists_numberOf_eq_ok_iff]
  have hdo (f : Option Number → Property) :
      (∃ q, (numberOf a "value" >>= fun value ↦ pure (f value)) = .ok q) ↔
        ∃ n, numberOf a "value" = .ok n := by
    rw [exists_bind_eq_ok_iff]
    exact ⟨fun ⟨n, hn, _⟩ ↦ ⟨n, hn⟩, fun ⟨n, hn⟩ ↦ ⟨n, hn, _, rfl⟩⟩
  unfold constrain
  simp only [List.mem_cons, List.not_mem_nil, or_false] at hname
  rcases hname with hname | hname | hname | hname <;> rw [hname] <;> exact hdo _

private theorem exists_constrain_eq_ok_of_mem_lengths (hname : a.name ∈ ["Size", "Length"]) :
    (∃ q, constrain p a = .ok q) ↔
      (p.type = "string" → ∀ key ∈ ["min", "max"], ∀ argument,
        a.arguments.get? key = some argument → argument.IsLength) := by
  rw [← exists_constrainLength_eq_ok_iff, constrain, if_pos (List.contains_iff_mem.mpr hname)]

private theorem exists_constrain_eq_ok_of_not_mem (hlength : a.name ∉ ["Size", "Length"])
    (hbound : a.name ∉ ["Min", "DecimalMin", "Max", "DecimalMax"]) :
    ∃ q, constrain p a = .ok q := by
  rw [← List.contains_iff_mem] at hlength
  have hmin : ¬["Min", "DecimalMin"].contains a.name = true := by
    simp_all
  have hmax : ¬["Max", "DecimalMax"].contains a.name = true := by
    simp_all
  rw [constrain, if_neg hlength, if_neg hmin, if_neg hmax]
  split <;> exact ⟨_, rfl⟩

theorem exists_constrain_eq_ok_iff : (∃ q, constrain p a = .ok q) ↔ a.Constrains p.type := by
  by_cases hlength : a.name ∈ ["Size", "Length"]
  · rw [exists_constrain_eq_ok_of_mem_lengths hlength]
    refine ⟨fun h ↦ ⟨fun _ ↦ h, fun hbound ↦ ?_⟩, fun h ↦ h.length hlength⟩
    -- no name asks for both kinds of bounds
    simp only [List.mem_cons, List.not_mem_nil, or_false] at hlength hbound
    rcases hlength with hname | hname <;> simp [hname] at hbound
  · by_cases hbound : a.name ∈ ["Min", "DecimalMin", "Max", "DecimalMax"]
    · rw [exists_constrain_eq_ok_of_mem_bounds hbound]
      exact ⟨fun h ↦ ⟨fun hmem ↦ absurd hmem hlength, fun _ ↦ h⟩, fun h ↦ h.bound hbound⟩
    · have hok := exists_constrain_eq_ok_of_not_mem (p := p) hlength hbound
      exact ⟨fun _ ↦ ⟨fun hmem ↦ absurd hmem hlength, fun hmem ↦ absurd hmem hbound⟩, fun _ ↦ hok⟩

private theorem type_constrainLength (h : constrainLength a p = .ok q) : q.type = p.type := by
  unfold constrainLength at h
  split at h
  · simp only [bind_eq_ok_iff] at h
    obtain ⟨low, -, high, -, i, -, j, -, h⟩ := h
    cases h
    rfl
  · cases h
    rfl

theorem type_constrain (h : constrain p a = .ok q) : q.type = p.type := by
  unfold constrain at h
  split at h
  · exact type_constrainLength h
  · split at h
    · obtain ⟨value, -, h⟩ := bind_eq_ok_iff.mp h
      cases h
      rfl
    · split at h
      · obtain ⟨value, -, h⟩ := bind_eq_ok_iff.mp h
        cases h
        rfl
      · split at h <;> cases h <;> rfl

/-- Constraints are added one after another, and each of them to a property of the same type. -/
theorem exists_foldlM_constrain_eq_ok_iff {annotations : List AnnotationRecord} :
    (∃ q, annotations.foldlM constrain p = .ok q) ↔ ∀ a ∈ annotations, a.Constrains p.type := by
  induction annotations generalizing p with
  | nil => exact ⟨fun _ _ h ↦ (nomatch h), fun _ ↦ ⟨p, rfl⟩⟩
  | cons a annotations ih =>
    rw [List.foldlM_cons, exists_bind_eq_ok_iff, List.forall_mem_cons,
      ← exists_constrain_eq_ok_iff]
    constructor
    · -- the other annotations are asked of a property of the same type
      rintro ⟨q, hq, hrest⟩
      rw [ih, type_constrain hq] at hrest
      exact ⟨⟨q, hq⟩, hrest⟩
    · rintro ⟨⟨q, hq⟩, hrest⟩
      rw [← type_constrain hq] at hrest
      exact ⟨q, hq, ih.mpr hrest⟩

end Property

/-! ## Whole records and texts -/

/-- What the annotations of a field ask of its property can be done. -/
def FieldRecord.Converts (f : FieldRecord) : Prop :=
  ∀ a ∈ f.annotations, a.Constrains (Property.ofType f).type

namespace Schema

private theorem exists_entryOf_eq_ok_iff {f : FieldRecord} :
    (∃ entry, entryOf f = .ok entry) ↔ f.Converts := by
  rw [FieldRecord.Converts, ← Property.exists_foldlM_constrain_eq_ok_iff, ← Property.ofField,
    entryOf]
  cases Property.ofField f with
  | ok p => exact ⟨fun _ ↦ ⟨p, rfl⟩, fun _ ↦ ⟨_, rfl⟩⟩
  | error fault => exact ⟨fun ⟨_, h⟩ ↦ (nomatch h), fun ⟨_, h⟩ ↦ (nomatch h)⟩

theorem exists_ofRecord_eq_ok_iff {options : Options} {c : ClassRecord} :
    (∃ schema, ofRecord options c = .ok schema) ↔
      ∀ f ∈ c.fields, includes options f = true → f.Converts := by
  rw [ofRecord, exists_bind_eq_ok_iff]
  have hmapM := exists_mapM_eq_ok_iff (f := entryOf) (l := c.fields.filter (includes options))
  simp only [List.mem_filter, and_imp, exists_entryOf_eq_ok_iff] at hmapM
  rw [← hmapM]
  exact ⟨fun ⟨entries, h, _⟩ ↦ ⟨entries, h⟩, fun ⟨entries, h⟩ ↦ ⟨entries, h, _, rfl⟩⟩

end Schema

namespace ParsedClass

variable (source : String) (options : Options)

theorem options_ofSource : (ofSource source options).options = options := by
  unfold ofSource
  dsimp only
  split
  · rfl
  · split <;> rfl

theorem hasErrors_ofSource_of_isSome (h : (ofSource source options).record.isSome = true) :
    (ofSource source options).hasErrors = false := by
  unfold ofSource at h ⊢
  dsimp only at h ⊢
  cases herrors : (ParsedUnit.ofTokens (Token.tokenize source) (some source)).hasErrors with
  | true =>
    rw [herrors, if_pos rfl] at h
    cases h
  | false =>
    split
    · exact herrors
    · split <;> exact herrors

end ParsedClass

theorem ValidationReport.valid_ofSource (source : String) (options : Options) :
    (ofSource source options).valid = (ParsedClass.ofSource source options).record.isSome := by
  rw [ofSource, ofParsed]
  dsimp only
  cases hrecord : (ParsedClass.ofSource source options).record.isSome with
  | false => rfl
  | true => rw [ParsedClass.hasErrors_ofSource_of_isSome source options hrecord]; rfl

namespace Conversion

/-- What was converted is what was parsed, with a schema where there is a record. -/
theorem of_ofParsed_eq_ok {p : ParsedClass} {c : Conversion} (h : ofParsed p = .ok c) :
    c.parsed = p ∧ c.schema.isSome = p.record.isSome := by
  unfold ofParsed at h
  split at h
  · rename_i hrecord
    cases h
    exact ⟨rfl, by rw [hrecord]; rfl⟩
  · rename_i record hrecord
    split at h
    · cases h
      exact ⟨rfl, by rw [hrecord]; rfl⟩
    · cases h

theorem exists_ofParsed_eq_ok_iff {p : ParsedClass} :
    (∃ c, ofParsed p = .ok c) ↔
      ∀ record, p.record = some record →
        ∀ f ∈ record.fields, Schema.includes p.options f = true → f.Converts := by
  simp only [← Schema.exists_ofRecord_eq_ok_iff]
  unfold ofParsed
  cases p.record with
  | none => exact ⟨fun _ _ h ↦ (nomatch h), fun _ ↦ ⟨_, rfl⟩⟩
  | some record =>
    dsimp only
    cases hschema : Schema.ofRecord p.options record with
    | ok schema =>
      refine ⟨fun _ _ h ↦ ?_, fun _ ↦ ⟨_, rfl⟩⟩
      cases h
      exact ⟨schema, hschema⟩
    | error fault =>
      refine ⟨fun ⟨_, h⟩ ↦ (nomatch h), fun h ↦ ?_⟩
      obtain ⟨schema, hok⟩ := h record rfl
      rw [hschema] at hok
      cases hok

variable {source : String} {settings : Option (List (String × Json))} {options : Options}

/-- With valid settings a run is the conversion of the text. -/
theorem run_eq_ok_iff (hoptions : Options.resolve settings = .ok options) {c : Conversion} :
    run source settings none = .ok c ↔ ofParsed (.ofSource source options) = .ok c := by
  unfold run
  dsimp only
  rw [hoptions]
  dsimp only [ofSource]
  cases ofParsed (.ofSource source options) with
  | ok c' => exact ⟨fun h ↦ congrArg _ (Except.ok.inj h), fun h ↦ congrArg _ (Except.ok.inj h)⟩
  | error fault => exact ⟨fun h ↦ (nomatch h), fun h ↦ (nomatch h)⟩

/-- **A text is converted exactly when its bounds can be.** With valid settings a run ends with a
result unless a field that takes part has a bound that is too long to be read or has no integer
part. Where there is a result, it has a schema exactly when the text is valid, and the reports of
the validation. -/
theorem run_ok_iff_converts (hoptions : Options.resolve settings = .ok options) :
    ((∃ c, run source settings none = .ok c) ↔
      ∀ record, (ParsedClass.ofSource source options).record = some record →
        ∀ f ∈ record.fields, Schema.includes options f = true → f.Converts) ∧
    ∀ c, run source settings none = .ok c →
      c.succeeded = (ValidationReport.ofSource source options).valid ∧
        c.parsed.errors = (ValidationReport.ofSource source options).errors ∧
        c.parsed.warnings = (ValidationReport.ofSource source options).warnings := by
  constructor
  · have hiff := exists_ofParsed_eq_ok_iff (p := .ofSource source options)
    rw [ParsedClass.options_ofSource] at hiff
    rw [← hiff]
    exact exists_congr fun c ↦ run_eq_ok_iff hoptions
  · intro c hc
    obtain ⟨hparsed, hschema⟩ := of_ofParsed_eq_ok ((run_eq_ok_iff hoptions).mp hc)
    rw [ValidationReport.valid_ofSource, succeeded, hschema, hparsed]
    exact ⟨rfl, rfl, rfl⟩

/-- A class with a bound that is a small integer is converted, and has a schema. -/
theorem run_ok_of_size :
    ∃ c, run "class A \x7b @Size(max = 3) String s; \x7d" none none = .ok c ∧
      c.succeeded = true := by
  have hvalid : (ParsedClass.ofSource "class A \x7b @Size(max = 3) String s; \x7d" {}).record.map
      (·.fields.flatMap (·.annotations.map fun a ↦ (a.name, a.arguments))) =
        some [("Size", [("max", .number (.int 3))])] := by
    decide +kernel
  obtain ⟨record, hrecord, hall⟩ := Option.map_eq_some_iff.mp hvalid
  obtain ⟨hiff, hreport⟩ :=
    @run_ok_iff_converts "class A \x7b @Size(max = 3) String s; \x7d" none {} rfl
  have hconverts : ∀ f ∈ record.fields, f.Converts := by
    intro f hf a ha
    have hmem : (a.name, a.arguments) ∈ [("Size", [("max", Argument.number (.int 3))])] :=
      hall ▸ List.mem_flatMap_of_mem hf (List.mem_map_of_mem ha)
    obtain ⟨hname, harguments⟩ := Prod.mk.inj (List.mem_singleton.mp hmem)
    refine ⟨fun _ _ key _ argument hargument ↦ ?_, fun hbound ↦ ?_⟩
    · have hnumber : argument = .number (.int 3) := by
        rw [harguments, Assoc.get?] at hargument
        split at hargument
        · exact (Option.some.inj hargument).symm
        · cases hargument
      rw [hnumber]
      refine ⟨trivial, fun d hd ↦ ?_⟩
      cases hd
    · rw [hname] at hbound
      exact absurd hbound (by decide)
  obtain ⟨c, hc⟩ := hiff.mpr fun record' h f hf _ ↦ by
    cases hrecord.symm.trans h
    exact hconverts f hf
  refine ⟨c, hc, ?_⟩
  rw [(hreport c hc).1, ValidationReport.valid_ofSource, hrecord]
  rfl

end Conversion

end ClassSchema

import ClassSchema.Proofs.CommandLine.Steps
import ClassSchema.Proofs.Files.Growth

/-!
# Converting a file

What the conversion of a single file comes to: the file is read and gives a record and a schema, the
schema keeps to the rules if that is wanted, the folder for outputs can be made, and a file named
after the class can be written in it. `Converts` says all of this. A file is converted exactly if it
holds.

The name of an output ends in the format, so it is never the name of a source.
-/

namespace ClassSchema

/-- The record and the schema that the bytes of a file give. -/
def Conversion.ofBytes? (options : Options) (bytes : List UInt8) :
    Option (ClassRecord × Schema) := do
  let source ← (Utf8.readText bytes).toOption
  let c ← (Conversion.ofSource source options).toOption
  return (← c.parsed.record, ← c.schema)

/-- The record and the schema of the file that a path leads to. -/
def FileTree.converted? (t : FileTree) (options : Options) (path : Path) :
    Option (ClassRecord × Schema) :=
  (t.read path).toOption.bind (Conversion.ofBytes? options)

/-- None of the files that the paths lead to holds a class of that name. -/
def FileTree.NoneNamed (t : FileTree) (options : Options) (paths : List Path) (className : String) :
    Prop :=
  ∀ path ∈ paths, ∀ record schema, t.converted? options path = some (record, schema) →
    record.className ≠ className

theorem FileTree.converted?_eq_some_iff {t : FileTree} {options : Options} {path : Path}
    {record : ClassRecord} {schema : Schema} :
    t.converted? options path = some (record, schema) ↔
      ∃ bytes source c, t.read path = .ok bytes ∧ Utf8.readText bytes = .ok source ∧
        Conversion.ofSource source options = .ok c ∧ c.parsed.record = some record ∧
        c.schema = some schema := by
  have htoOption {ε α : Type} {x : Except ε α} {a : α} : x.toOption = some a ↔ x = .ok a := by
    cases x <;> simp [Except.toOption]
  simp [converted?, Conversion.ofBytes?, Option.bind_eq_some_iff, htoOption]

namespace CommandLine

open JobM

variable {yaml : YamlWriter} {s : Settings} {out path : Path} {t t' u : FileTree}
  {record : ClassRecord} {schema : Schema}

/-- The file for the schema of a class. -/
def Settings.targetIn (s : Settings) (out : Path) (className : String) : Path :=
  out.extend [className ++ s.format.ending]

/-! ## One file -/

private theorem leads_violation (h : s.validate = true → schema.violation? = none) :
    Leads (violation s schema) t none t := by
  rw [violation]
  split
  · rw [h ‹_›]
    exact leads_pure none t
  · exact leads_pure none t

private theorem canLead_violation (h : CanLead (violation s schema) t none t') :
    (s.validate = true → schema.violation? = none) ∧ t' = t := by
  rw [violation] at h
  split at h
  · split at h
    · exact absurd h (not_canLead_throw _)
    · obtain ⟨hnone, rfl⟩ := h.eq_of_pure
      exact ⟨fun _ ↦ hnone.symm, rfl⟩
  · obtain ⟨-, rfl⟩ := h.eq_of_pure
    exact ⟨fun hvalidate ↦ absurd hvalidate ‹_›, rfl⟩

/-- No setting about the output has got lost. -/
def Settings.KeepsOutput (s : Settings) : Prop :=
  s.hasLost .format = false ∧ s.hasLost .out = false

theorem leads_target? (hout : s.out = some out) (hkeeps : s.KeepsOutput) (className : String) :
    Leads (target? s className) t (some (s.targetIn out className)) t := by
  rw [target?, outFolder?, hkeeps.1, hkeeps.2, hout]
  exact leads_pure _ t

private theorem canLead_target? (hout : s.out = some out) {className : String}
    {target : Option Path} (h : CanLead (target? s className) t target t') :
    s.KeepsOutput ∧ target = some (s.targetIn out className) ∧ t' = t := by
  have hkeeps : s.KeepsOutput := by
    rw [target?, outFolder?, hout] at h
    constructor
    · rw [← Bool.not_eq_true]
      intro hlost
      rw [hlost] at h
      exact not_canLead_throw _ h
    · rw [← Bool.not_eq_true]
      intro hlost
      simp only [hlost, Option.isSome_some, Bool.true_or, Bool.and_true, if_true] at h
      split at h
      · exact not_canLead_throw _ h
      · exact not_canLead_throw _ h
  obtain ⟨rfl, rfl⟩ := (leads_target? hout hkeeps className).eq_of_canLead h
  exact ⟨hkeeps, rfl, rfl⟩

/-- The file at `path` gives a record and a schema that is written to the folder `out`; `u` is the
tree with that folder in it. -/
structure Converts (yaml : YamlWriter) (s : Settings) (out : Path) (t : FileTree) (path : Path)
    (record : ClassRecord) (schema : Schema) (u t' : FileTree) : Prop where
  converted?_eq : t.converted? s.options path = some (record, schema)
  valid : s.validate = true → schema.violation? = none
  keepsOutput : s.KeepsOutput
  ensureFolder_eq : t.ensureFolder out = .ok u
  write_eq : u.write (s.targetIn out record.className) (Utf8.encode (schema.render yaml s.format)) =
    .ok t'

theorem Settings.targetIn_injective (s : Settings) (out : Path) :
    Function.Injective (s.targetIn out) := by
  intro name other hsame
  simpa [targetIn, Path.extend] using hsame

theorem Settings.parent_targetIn (s : Settings) (out : Path) (className : String) :
    (s.targetIn out className).parent = out := by
  simp [targetIn, Path.extend, Path.parent]

theorem leads_convertFile (hout : s.out = some out)
    (h : Converts yaml s out t path record schema u t') :
    Leads (convertFile yaml s path) t true t' := by
  obtain ⟨bytes, source, c, hread, htext, hconversion, hrecord, hschema⟩ :=
    FileTree.converted?_eq_some_iff.mp h.converted?_eq
  have hfolder : t.ensureFolder (s.targetIn out record.className).parent = .ok u := by
    rw [s.parent_targetIn]
    exact h.ensureFolder_eq
  rw [convertFile]
  refine (leads_readText hread htext).bind ?_
  simp only [hconversion, hrecord, hschema]
  refine (leads_log s c.notes t).bind ?_
  refine (leads_forM fun warning _ ↦ leads_report _ t).bind ?_
  refine (leads_forM fun error _ ↦ leads_report _ t).bind ?_
  refine (leads_violation h.valid).bind ?_
  refine (leads_target? hout h.keepsOutput record.className).bind ?_
  refine (leads_writeText hfolder h.write_eq).bind ?_
  exact (leads_log s _ t').bind (leads_pure true t')

theorem canLead_convertFile (hout : s.out = some out)
    (h : CanLead (convertFile yaml s path) t true t') :
    ∃ record schema u, Converts yaml s out t path record schema u t' := by
  obtain ⟨source, _, hsource, hrest⟩ := CanLead.bind h
  obtain ⟨rfl, bytes, hread, htext⟩ := hsource.of_readText
  cases hconversion : Conversion.ofSource source s.options with
  | error fault =>
    rw [hconversion] at hrest
    exact absurd hrest (not_canLead_throw _)
  | ok c =>
    rw [hconversion] at hrest
    replace hrest := (leads_log s c.notes _).rest_of_canLead hrest
    replace hrest := (leads_forM fun warning _ ↦ leads_report _ _).rest_of_canLead hrest
    replace hrest := (leads_forM fun error _ ↦ leads_report _ _).rest_of_canLead hrest
    -- without errors there is a schema to write, and with errors the file counts as failed
    split at hrest
    · rename_i schema record hschema hrecord
      obtain ⟨violation, _, hviolation, hjudged⟩ := hrest.bind
      split at hjudged
      · -- a schema that breaks a rule is reported, and the file counts as failed
        have hfailed := (leads_report _ _).rest_of_canLead hjudged
        exact absurd hfailed.eq_of_pure.1 (by decide)
      · obtain ⟨hvalid, rfl⟩ := canLead_violation hviolation
        obtain ⟨target, _, htarget, hwritten⟩ := hjudged.bind
        obtain ⟨hkeeps, rfl, rfl⟩ := canLead_target? hout htarget
        obtain ⟨_, t', hwrite, hlogged⟩ := hwritten.bind
        obtain ⟨u, hfolder, hwrite⟩ := hwrite.of_writeText
        rw [s.parent_targetIn] at hfolder
        obtain ⟨-, rfl⟩ := ((leads_log s _ t').rest_of_canLead hlogged).eq_of_pure
        exact ⟨record, schema, u, FileTree.converted?_eq_some_iff.mpr
          ⟨bytes, source, c, hread, htext, hconversion, hrecord, hschema⟩, hvalid, hkeeps, hfolder,
          hwrite⟩
    · exact absurd hrest.eq_of_pure.1 (by decide)

/-! ## Names of files -/

/-- The name of an output is not that of a source, and no way up. -/
theorem targetName_ne (className : String) (format : SchemaFormat) {name : String}
    (h : name.endsWith ".java" = true ∨ name = "..") : className ++ format.ending ≠ name := by
  have hlast : name.toList.getLast? ≠ (className ++ format.ending).toList.getLast? := by
    have hending : (className ++ format.ending).toList.getLast? ∈ [some 'n', some 'l'] := by
      cases format <;> simp [SchemaFormat.ending, SchemaFormat.text]
    intro hsame
    rw [← hsame] at hending
    rcases h with h | rfl
    · rw [String.endsWith_eq_endsWith_toSlice, String.Slice.endsWith_string_iff] at h
      obtain ⟨front, hfront⟩ := h
      simp only [String.copy_toSlice] at hfront
      rw [← hfront] at hending
      simp at hending
    · revert hending
      decide
  intro hsame
  rw [hsame] at hlast
  exact hlast rfl

/-- Where the schema of a class is written, if the folder lies at `folder`. -/
def Settings.locationIn (s : Settings) (folder : List String) (className : String) : List String :=
  folder ++ [className ++ s.format.ending]

theorem Settings.locationIn_injective (s : Settings) (folder : List String) :
    Function.Injective (s.locationIn folder) := by
  intro name other hsame
  simpa [locationIn] using hsame

variable {folder : List String}

theorem Converts.locate_target (h : Converts yaml s out t path record schema u t')
    (hfolder : u.locate out = .ok folder) :
    u.locate (s.targetIn out record.className) = .ok (s.locationIn folder record.className) ∧
      u.isFolderAt (s.locationIn folder record.className) = false := by
  obtain ⟨target, htarget, hat, -⟩ := FileTree.write_eq_ok_iff.mp h.write_eq
  have hdots : ".." ∉ [record.className ++ s.format.ending] := by
    rw [List.mem_singleton]
    exact (targetName_ne record.className s.format (.inr rfl)).symm
  obtain rfl := FileTree.eq_append_of_locate_extend hfolder htarget hdots
  exact ⟨htarget, hat⟩

end CommandLine

end ClassSchema

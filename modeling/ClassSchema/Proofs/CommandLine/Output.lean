import ClassSchema.Proofs.CommandLine.Batch
import ClassSchema.Proofs.Pipeline.Verdict
import ClassSchema.Proofs.Text.Apart
import ClassSchema.Proofs.Token.Recognized

/-!
# Where a conversion writes

The name of an output comes from the text that is converted. It can do no harm all the same: the
name of a class is the text of an identifier, whatever the text, so it holds no slash, no dot and no
null character, and with an ending behind it is a name of its own in the folder for outputs.

A conversion can be ended by any of its steps, so nothing is said here of what a step gives.
`JobM.Within` relates the tree that a step finds to the one it leaves, whatever has become of it.
Only one of the steps changes the files, and the others leave the tree as it is.
-/

namespace ClassSchema

/-! ## Names of classes -/

/-- A name that a class can have: letters, digits and the like, underscores and dollar signs, one of
them at least and no digit in front. -/
structure IsClassName (name : String) : Prop where
  ne_empty : name ≠ ""
  isIdentifierPart : ∀ c ∈ name.toList, isIdentifierPart c = true
  isDigit_head : ∀ c ∈ name.toList.head?, Text.isDigit c = false

private theorem isDigit_eq_false_of_isIdentifierStart {c : Char} (h : isIdentifierStart c = true) :
    Text.isDigit c = false := by
  rw [isIdentifierStart, Bool.or_eq_true, Bool.or_eq_true, decide_eq_true_iff,
    decide_eq_true_iff] at h
  rcases h with (h | rfl) | rfl
  · exact Text.isDigit_eq_false_of_isLetter h
  · decide
  · decide

private theorem Text.splitAt_of_not_mem {c : Char} {cs : List Char} (h : c ∉ cs) :
    splitAt c cs = [cs] := by
  induction cs with
  | nil => rfl
  | cons d cs ih =>
    rw [List.mem_cons, not_or] at h
    rw [splitAt, if_neg (Ne.symm h.1), ih h.2]

namespace IsClassName

private theorem of_isWord {name : String} {rest : List Char} (h : IsWord name.toList rest) :
    IsClassName name := by
  obtain ⟨c, cs, htext, hc, hcs, -⟩ := h
  refine ⟨?_, ?_, ?_⟩
  · rintro rfl
    cases htext
  · rw [htext]
    exact List.forall_mem_cons.mpr ⟨isIdentifierPart_of_isIdentifierStart hc, hcs⟩
  · rw [htext]
    rintro d hd
    obtain rfl := Option.some.inj hd
    exact isDigit_eq_false_of_isIdentifierStart hc

theorem of_record {source : String} {options : Options} {record : ClassRecord}
    (h : (ParsedClass.ofSource source options).record = some record) :
    IsClassName record.className := by
  have hsome : (ParsedClass.ofSource source options).record.isSome = true := by rw [h]; rfl
  obtain ⟨-, tree, decl, found, htree, hfirst, hfound, hname, -⟩ :=
    ParsedClass.isFound_of_isSome_record hsome
  obtain rfl := Option.some.inj (hfound.symm.trans h)
  obtain ⟨t, ht, hkind, htext⟩ :=
    ParsedUnit.namedIn_of_mem_classes htree (List.mem_of_head? hfirst)
  have hmatches := (Token.recognized_lex source t (List.mem_of_mem_filter ht)).matches_text
  rw [hkind] at hmatches
  rw [hname, ← htext]
  exact .of_isWord hmatches.1

private theorem of_conversion {source : String} {options : Options} {c : Conversion}
    {record : ClassRecord}
    (h : Conversion.ofSource source options = .ok c) (hrecord : c.parsed.record = some record) :
    IsClassName record.className :=
  .of_record ((Conversion.of_ofParsed_eq_ok h).1 ▸ hrecord)

variable {name : String}

theorem not_mem (h : IsClassName name) : ∀ c ∈ ['/', '\\', '.', '\x00'], c ∉ name.toList := by
  have hnone : ['/', '\\', '.', '\x00'].all (!ClassSchema.isIdentifierPart ·) = true := by
    decide
  intro c hc hmem
  have hpart := List.all_eq_true.mp hnone c hc
  rw [h.isIdentifierPart c hmem] at hpart
  cases hpart

/-- With an ending behind it, the name of a class is a path of one part. -/
theorem ofText_append_ending (h : IsClassName name) (format : SchemaFormat) :
    Path.ofText (name ++ format.ending) = ⟨0, [name ++ format.ending]⟩ := by
  have hslash : '/' ∉ (name ++ format.ending).toList := by
    rw [String.toList_append, List.mem_append, not_or]
    exact ⟨h.not_mem '/' (by decide), by cases format <;> decide⟩
  have hroot : Path.rootSlashes (name ++ format.ending).toList = 0 := by
    have hnil : (name ++ format.ending).toList.takeWhile (· = '/') = [] := by
      refine List.eq_nil_iff_forall_not_mem.mpr fun c hc ↦ hslash ?_
      obtain rfl : c = '/' := by simpa using List.mem_takeWhile_imp hc
      exact (List.takeWhile_sublist _).subset hc
    rw [Path.rootSlashes, hnil]
    rfl
  -- the first character makes it another text than the empty one and the dot
  obtain ⟨c, cs, hcs⟩ := List.exists_cons_of_ne_nil (mt String.toList_eq_nil_iff.mp h.ne_empty)
  have hdot : c ≠ '.' := fun hsame ↦
    h.not_mem '.' (by decide) (hcs ▸ hsame ▸ List.mem_cons_self)
  have htext : (name ++ format.ending).toList = c :: (cs ++ format.ending.toList) := by
    rw [String.toList_append, hcs, List.cons_append]
  have hempty : name ++ format.ending ≠ "" := fun hsame ↦ by
    rw [hsame] at htext
    cases htext
  have hsingle : name ++ format.ending ≠ "." := fun hsame ↦ by
    rw [hsame] at htext
    exact hdot (List.cons.inj htext).1.symm
  rw [Path.ofText, Text.splitAt_of_not_mem hslash, hroot, List.map_singleton, String.ofList_toList]
  simp [hempty, hsingle]

end IsClassName

/-! ## What a step leaves -/

namespace CommandLine

namespace JobM

variable {α β : Type} {x : JobM α} {f : α → JobM β} {R : FileTree → FileTree → Prop}

/-- Whatever comes of the step, the tree that it finds and the one that it leaves are related. -/
def Within (R : FileTree → FileTree → Prop) (x : JobM α) : Prop :=
  ∀ w, R w.tree (x.run.run w).2.tree

theorem Within.bind {S T : FileTree → FileTree → Prop} (h : Within R x) (hf : ∀ a, Within S (f a))
    (hstop : ∀ t u, R t u → T t u) (hboth : ∀ t u v, R t u → S u v → T t v) :
    Within T (x >>= f) := by
  intro w
  have hx := h w
  simp only [ExceptT.run_bind, StateT.run_bind]
  cases hrun : x.run.run w with
  | mk result w' =>
    rw [hrun] at hx
    cases result with
    | error halt => exact hstop _ _ hx
    | ok a => exact hboth _ _ _ hx (hf a w')

/-- In front of a step that leaves the tree as it is, and behind it, nothing changes. -/
theorem Within.bind_still (h : Within R x) (hf : ∀ a, Within Eq (f a)) : Within R (x >>= f) :=
  h.bind hf (fun _ _ ↦ id) fun _ _ _ hR hsame ↦ hsame ▸ hR

theorem Within.still_bind (h : Within Eq x) (hrefl : ∀ t, R t t) (hf : ∀ a, Within R (f a)) :
    Within R (x >>= f) :=
  h.bind hf (fun t _ hsame ↦ hsame ▸ hrefl t) fun _ _ _ hsame hR ↦ hsame ▸ hR

theorem within_pure (hrefl : ∀ t, R t t) (a : α) : Within R (pure a) := fun w ↦ hrefl w.tree

theorem within_throw (hrefl : ∀ t, R t t) (halt : Halt) : Within R (throw halt : JobM α) :=
  fun w ↦ hrefl w.tree

theorem still_ask (question : FileTree → Except FileFault α) : Within Eq (ask question) := by
  intro w
  rw [run_ask]

theorem still_report (line : String) : Within Eq (report line) := fun _ ↦ rfl

theorem still_forM {γ : Type} {f : γ → JobM Unit} {items : List γ}
    (h : ∀ item, Within Eq (f item)) : Within Eq (items.forM f) := by
  induction items with
  | nil => exact within_pure Eq.refl ()
  | cons item items ih => exact (h item).bind_still fun _ ↦ ih

private theorem still_log (s : Settings) (notes : List Note) : Within Eq (log s notes) := by
  rw [log]
  split
  · exact still_forM fun note ↦ still_report note.line
  · exact within_pure Eq.refl ()

private theorem still_readText (path : Path) : Within Eq (readText path) := by
  refine (still_ask (·.read path)).bind_still fun bytes ↦ ?_
  cases Utf8.readText bytes with
  | ok text => exact within_pure Eq.refl text
  | error fault => exact within_throw Eq.refl (.encoding fault)

private theorem run_change (f : FileTree → Except FileFault FileTree) (w : World) :
    (change f).run.run w = match f w.tree with
      | .ok t => (.ok (), { w with tree := t })
      | .error fault => (.error (.file fault), w) := by
  rw [change]
  simp only [ExceptT.run_bind, StateT.run_bind, run_ask]
  cases f w.tree <;> rfl

private theorem run_writeText (path : Path) (text : String) (w : World) :
    (writeText path text).run.run w = match w.tree.ensureFolder path.parent with
      | .error fault => (.error (.file fault), w)
      | .ok u => match u.write path (Utf8.encode text) with
        | .error fault => (.error (.file fault), { w with tree := u })
        | .ok t => (.ok (), { w with tree := t }) := by
  rw [writeText]
  simp only [ExceptT.run_bind, StateT.run_bind, run_change]
  cases w.tree.ensureFolder path.parent with
  | error fault => rfl
  | ok u =>
    refine (run_change _ { w with tree := u }).trans ?_
    dsimp only
    cases u.write path (Utf8.encode text) <;> rfl

end JobM

end CommandLine

/-! ## What a conversion leaves -/

namespace FileTree

/-- From `t` to `t'` the tree has grown, and one file at most has been written: it lies in the
folder that `out` leads to, under a name that `p` holds of. -/
structure Adds (out : Path) (p : String → Prop) (t t' : FileTree) : Prop where
  grows : t.Grows t'
  files : t'.files = t.files ∨ ∃ folder name bytes, t'.locate out = .ok folder ∧ p name ∧
    t'.files = putBytes (folder ++ [name]) bytes t.files

variable {out : Path} {p : String → Prop} {t t' u : FileTree}

theorem Adds.refl (t : FileTree) : Adds out p t t := ⟨.refl t, .inl rfl⟩

private theorem Made.adds (h : t.Made out t') : Adds out p t t' := ⟨h.grows, .inl h.files_eq⟩

theorem Made.adds_of_write (h : t.Made out u) {name : String} (hname : p name)
    (hdots : name ≠ "..") {bytes : List UInt8}
    (hwrite : u.write (out.extend [name]) bytes = .ok t') :
    Adds out p t t' := by
  obtain ⟨location, hlocation, -, rfl⟩ := write_eq_ok_iff.mp hwrite
  obtain ⟨folder, hfolder, -⟩ := isFolder_eq_true_iff.mp h.isFolder
  have hdots' : ".." ∉ [name] := by
    rw [List.mem_singleton]
    exact hdots.symm
  obtain rfl := eq_append_of_locate_extend hfolder hlocation hdots'
  have hgrows := Grows.putFile u (folder ++ [name]) bytes
  refine ⟨h.grows.trans hgrows, .inr ⟨folder, name, bytes, hgrows.locate hfolder, hname, ?_⟩⟩
  rw [putFile, h.files_eq]

end FileTree

namespace CommandLine

open JobM

variable {yaml : YamlWriter} {s : Settings} {out : Path}

private theorem within_writeText (out : Path) {p : String → Prop} {name : String} (hname : p name)
    (hdots : name ≠ "..") (text : String) :
    JobM.Within (FileTree.Adds out p) (writeText (out.extend [name]) text) := by
  intro w
  have hparent : (out.extend [name]).parent = out := by simp [Path.extend, Path.parent]
  rw [run_writeText, hparent]
  split
  · exact .refl w.tree
  · have hmade := FileTree.made_of_ensureFolders ‹_›
    split
    · exact hmade.adds
    · exact hmade.adds_of_write hname hdots ‹_›

/-- The name of a file for the schema of a class. -/
def Settings.IsOutputName (s : Settings) (name : String) : Prop :=
  ∃ className, IsClassName className ∧ name = className ++ s.format.ending

private theorem still_violation (s : Settings) (schema : Schema) :
    JobM.Within Eq (violation s schema) := by
  rw [violation]
  split
  · split
    · exact within_throw Eq.refl _
    · exact within_pure Eq.refl _
  · exact within_pure Eq.refl _

theorem target?_cases (hout : s.out = some out) (className : String) :
    target? s className = pure (some (s.targetIn out className)) ∨
      ∃ halt, target? s className = throw halt := by
  rw [target?, outFolder?, hout]
  cases s.hasLost .format with
  | true => exact .inr ⟨.noEnding, rfl⟩
  | false =>
    cases s.hasLost .out with
    | true => exact .inr ⟨.noFolder, rfl⟩
    | false => exact .inl rfl

theorem within_convertFile (hout : s.out = some out) (path : Path) :
    JobM.Within (FileTree.Adds out s.IsOutputName) (convertFile yaml s path) := by
  have hrefl (t : FileTree) : FileTree.Adds out s.IsOutputName t t := .refl t
  rw [convertFile]
  refine (still_readText path).still_bind hrefl fun source ↦ ?_
  cases hconversion : Conversion.ofSource source s.options with
  | error fault => exact within_throw hrefl _
  | ok c =>
    refine (still_log s c.notes).still_bind hrefl fun _ ↦ ?_
    refine (still_forM fun _ ↦ still_report _).still_bind hrefl fun _ ↦ ?_
    refine (still_forM fun _ ↦ still_report _).still_bind hrefl fun _ ↦ ?_
    split
    · rename_i schema record hschema hrecord
      refine (still_violation s schema).still_bind hrefl fun violation ↦ ?_
      split
      · exact JobM.Within.still_bind (still_report _) hrefl fun _ ↦ within_pure hrefl false
      · rcases target?_cases hout record.className with htarget | ⟨halt, htarget⟩
        · rw [htarget, pure_bind]
          have hname : s.IsOutputName (record.className ++ s.format.ending) :=
            ⟨_, .of_conversion hconversion hrecord, rfl⟩
          have hwrite := within_writeText out hname
            (targetName_ne record.className s.format (.inr rfl)) (schema.render yaml s.format)
          exact hwrite.bind_still fun _ ↦ (still_log s _).bind_still fun _ ↦
            within_pure Eq.refl true
        · rw [htarget]
          exact fun w ↦ hrefl w.tree
    · exact within_pure hrefl false

/-- **An output is named after a class and lies in the folder for outputs.** Whatever is converted,
and however it ends, no file is written or just one. Its folder is the one that was asked for, and
its name is the name of a class with the ending of the format: nothing in the text can put a slash,
a dot or a null character in front of the ending, and the name is a path of one part. -/
theorem convertFile_writes_output (yaml : YamlWriter) (hout : s.out = some out) (path : Path)
    (w : World) :
    let t' := ((convertFile yaml s path).run.run w).2.tree
    t'.files = w.tree.files ∨ ∃ folder className bytes, t'.locate out = .ok folder ∧
      IsClassName className ∧
      t'.files = FileTree.putBytes (folder ++ [className ++ s.format.ending]) bytes w.tree.files ∧
      (∀ c ∈ ['/', '\\', '.', '\x00'], c ∉ className.toList) ∧
      Path.ofText (className ++ s.format.ending) = ⟨0, [className ++ s.format.ending]⟩ := by
  intro t'
  refine (within_convertFile hout path w).files.imp_right ?_
  rintro ⟨folder, _, bytes, hfolder, ⟨className, hclass, rfl⟩, hfiles⟩
  exact ⟨folder, className, bytes, hfolder, hclass, hfiles, hclass.not_mem,
    hclass.ofText_append_ending s.format⟩

/-- The schema of the address is the only new file. -/
theorem convertFile_writes_output_sharedName :
    let w : World := { tree := sharedName }
    let job := convertFile Yaml.blockStyle intoNewFolder ⟨0, ["src", "Address.java"]⟩
    let t' := (job.run.run w).2.tree
    intoNewFolder.out = some ⟨0, ["out"]⟩ ∧ ∃ folder className bytes,
      t'.locate ⟨0, ["out"]⟩ = .ok folder ∧ IsClassName className ∧
      t'.files = FileTree.putBytes (folder ++ [className ++ ".json"]) bytes sharedName.files ∧
      (∀ c ∈ ['/', '\\', '.', '\x00'], c ∉ className.toList) ∧
      Path.ofText (className ++ ".json") = ⟨0, [className ++ ".json"]⟩ := by
  intro w job t'
  refine ⟨rfl, ?_⟩
  obtain ⟨record, schema, hconverts⟩ :=
    converts_sharedName (["src", "Address.java"], "Address") (by decide)
  have hwrites := convertFile_writes_output Yaml.blockStyle
    (show intoNewFolder.out = some ⟨0, ["out"]⟩ from rfl) ⟨0, ["src", "Address.java"]⟩ w
  refine hwrites.resolve_left fun hsame ↦ ?_
  obtain ⟨_, _, hrun⟩ := leads_convertFile rfl hconverts "" ""
  have hthere : t'.bytesAt? ["out", "Address.json"] =
      some (Utf8.encode (schema.render Yaml.blockStyle .json)) :=
    (congrArg (fun result ↦ result.2.tree.bytesAt? ["out", "Address.json"]) hrun).trans
      (FileTree.bytesAt?_putFile_self _ _ _)
  have hbefore : sharedName.bytesAt? ["out", "Address.json"] = none := by decide
  have hnot : t'.bytesAt? ["out", "Address.json"] = none :=
    (FileTree.bytesAt?_congr hsame _).trans hbefore
  rw [hthere] at hnot
  cases hnot

end CommandLine

/-! ## What a run leaves -/

namespace FileTree

/-- From `t` to `t'` the tree has grown, and no files have changed but some in the folder that `out`
leads to, under names that `p` holds of. -/
structure AddsOnly (out : Path) (p : String → Prop) (t t' : FileTree) : Prop where
  grows : t.Grows t'
  changed : ∀ location, t'.bytesAt? location ≠ t.bytesAt? location →
    ∃ folder name, t'.locate out = .ok folder ∧ p name ∧ location = folder ++ [name]

variable {out : Path} {p : String → Prop} {t t' u : FileTree}

theorem AddsOnly.refl (t : FileTree) : AddsOnly out p t t :=
  ⟨.refl t, fun _ hne ↦ absurd rfl hne⟩

theorem AddsOnly.trans (h : AddsOnly out p t u) (h' : AddsOnly out p u t') :
    AddsOnly out p t t' := by
  refine ⟨h.grows.trans h'.grows, fun location hne ↦ ?_⟩
  by_cases hlast : t'.bytesAt? location = u.bytesAt? location
  · rw [hlast] at hne
    obtain ⟨folder, name, hfolder, hname, hlocation⟩ := h.changed location hne
    exact ⟨folder, name, h'.grows.locate hfolder, hname, hlocation⟩
  · exact h'.changed location hlast

private theorem Adds.addsOnly (h : Adds out p t t') : AddsOnly out p t t' := by
  refine ⟨h.grows, fun location hne ↦ ?_⟩
  rcases h.files with hsame | ⟨folder, name, bytes, hfolder, hname, hfiles⟩
  · exact absurd (bytesAt?_congr hsame location) hne
  · refine ⟨folder, name, hfolder, hname, ?_⟩
    by_contra hother
    have hput : t'.bytesAt? location = (t.putFile (folder ++ [name]) bytes).bytesAt? location :=
      bytesAt?_congr hfiles location
    exact hne (hput.trans (t.bytesAt?_putFile_of_ne bytes hother))

end FileTree

namespace CommandLine

open JobM

variable {yaml : YamlWriter} {s : Settings} {out : Path}

private theorem still_checkOptions (s : Settings) : JobM.Within Eq (checkOptions s) := by
  rw [checkOptions]
  cases s.hasLost .requiredStrategy with
  | true => exact within_throw Eq.refl _
  | false =>
    cases s.hasLost .commentStyle with
    | true => exact within_throw Eq.refl _
    | false => exact within_pure Eq.refl ()

private theorem still_sources (path : Path) : JobM.Within Eq (sources path) := by
  rw [sources]
  refine (still_ask _).bind_still fun isFolder ↦ ?_
  split
  · refine (still_ask _).bind_still fun location ↦ ?_
    exact fun _ ↦ rfl
  · exact within_pure Eq.refl _

private theorem within_convertFiles (hout : s.out = some out) (paths : List Path) :
    JobM.Within (FileTree.AddsOnly out s.IsOutputName) (paths.mapM (convertFile yaml s)) := by
  induction paths with
  | nil => exact within_pure FileTree.AddsOnly.refl []
  | cons path paths ih =>
    rw [List.mapM_cons]
    refine (within_convertFile hout path).bind (fun _ ↦ ih.bind_still fun _ ↦ within_pure Eq.refl _)
      (fun _ _ ↦ FileTree.Adds.addsOnly) fun _ _ _ hfirst hrest ↦ hfirst.addsOnly.trans hrest

private theorem within_convert (hout : s.out = some out) (path : Path) :
    JobM.Within (FileTree.AddsOnly out s.IsOutputName) (convert yaml s path) := by
  have hrefl (t : FileTree) : FileTree.AddsOnly out s.IsOutputName t t := .refl t
  rw [convert]
  refine (still_sources path).still_bind hrefl fun paths ↦ ?_
  split
  · exact JobM.Within.still_bind (still_report _) hrefl fun _ ↦ within_pure hrefl 1
  · refine (still_checkOptions s).still_bind hrefl fun _ ↦ ?_
    refine (within_convertFiles hout paths).bind_still fun results ↦ ?_
    dsimp only
    split
    · exact within_pure Eq.refl 0
    · exact (still_report _).bind_still fun _ ↦ within_pure Eq.refl 1

theorem tree_of_run {i : Invocation} {t : FileTree} {o : Outcome} (h : i.run t yaml = .ok o) :
    o.tree = ((i.action yaml).run.run { tree := t }).2.tree := by
  rw [Invocation.run] at h
  split at h
  · rename_i status w hrun
    cases h
    rw [hrun]
  · rename_i halt w hrun
    split at h
    · cases h
      rw [hrun]
    · cases h

/-- **A run changes files in the folder for outputs only**, and only files that are named after a
class. -/
theorem run_convert_changed {path : Path} {t : FileTree} {o : Outcome} (hout : s.out = some out)
    (h : Invocation.run ⟨.convert, s, path⟩ t yaml = .ok o) (location : List String)
    (hne : o.tree.bytesAt? location ≠ t.bytesAt? location) :
    ∃ folder className, o.tree.locate out = .ok folder ∧ IsClassName className ∧
      location = folder ++ [className ++ s.format.ending] := by
  have hwithin : FileTree.AddsOnly out s.IsOutputName t o.tree :=
    tree_of_run h ▸ within_convert hout path { tree := t }
  obtain ⟨folder, _, hfolder, ⟨className, hclass, rfl⟩, hlocation⟩ := hwithin.changed location hne
  exact ⟨folder, className, hfolder, hclass, hlocation⟩

end CommandLine

end ClassSchema

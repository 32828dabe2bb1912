import ClassSchema.Proofs.CommandLine.Convert

/-!
# Converting the files of a folder

The files below a folder are converted one after the other, each in the tree that the ones before it
have left. What these have added are the folder for outputs and outputs in it. Outputs are no
sources, so every file is read as if it were alone, and the folder can be written to just as well.
That is the invariant, `Underway`.

Outputs are named after classes. So what was written for a file stays unless a later file holds a
class of the same name, and then it is lost without a word.
-/

namespace ClassSchema.CommandLine

open JobM

variable {yaml : YamlWriter} {s : Settings} {out path : Path} {folder : List String}
  {t t' u : FileTree} {record : ClassRecord} {schema : Schema}

/-! ## One file after the other -/

/-- What the tree `v` has become of `t` while files were converted. Some schemas may have been
written to the folder `out`; nothing else has changed, and the folder can still be written to, as it
could in `u`. -/
structure Underway (s : Settings) (out : Path) (folder : List String) (t u v : FileTree) :
    Prop where
  grows : t.Grows v
  ensured : ∃ w, v.ensureFolder out = .ok w ∧ u.Grows w ∧ w.files = v.files ∧
    ∀ name, w.isFolderAt (folder ++ [name]) = u.isFolderAt (folder ++ [name])
  bytesAt?_eq : ∀ location, (∀ className, location ≠ s.locationIn folder className) →
    v.bytesAt? location = t.bytesAt? location

private theorem underway_start (hensure : t.ensureFolder out = .ok u) :
    Underway s out folder t u t where
  grows := .refl t
  ensured := ⟨u, hensure, .refl u, (FileTree.made_of_ensureFolders hensure).files_eq, fun _ ↦ rfl⟩
  bytesAt?_eq _ _ := rfl

theorem Underway.converted?_eq {v : FileTree} {converted : ClassRecord × Schema}
    (h : Underway s out folder t u v)
    (happart : ∀ location, t.locate path = .ok location →
      ∀ className, location ≠ s.locationIn folder className)
    (hconverted : t.converted? s.options path = some converted) :
    v.converted? s.options path = some converted := by
  obtain ⟨record, schema⟩ := converted
  obtain ⟨bytes, source, c, hread, hrest⟩ := FileTree.converted?_eq_some_iff.mp hconverted
  obtain ⟨location, hlocate, hbytes⟩ := FileTree.read_eq_ok_iff.mp hread
  refine FileTree.converted?_eq_some_iff.mpr ⟨bytes, source, c, ?_, hrest⟩
  refine FileTree.read_eq_ok_iff.mpr ⟨location, h.grows.locate hlocate, ?_⟩
  rw [h.bytesAt?_eq location (happart location hlocate), hbytes]

/-- One more file: its output is there, and nothing else has changed. -/
theorem Underway.convertFile {v : FileTree} (h : Underway s out folder t u v)
    (hout : s.out = some out) (hfolder : u.locate out = .ok folder)
    (happart : ∀ location, t.locate path = .ok location →
      ∀ className, location ≠ s.locationIn folder className)
    (hconverts : Converts yaml s out t path record schema u t') :
    ∃ v', Leads (convertFile yaml s path) v true v' ∧ Underway s out folder t u v' ∧ u.Grows v' ∧
      v'.bytesAt? (s.locationIn folder record.className) =
        some (Utf8.encode (schema.render yaml s.format)) ∧
      ∀ location, location ≠ s.locationIn folder record.className →
        v'.bytesAt? location = v.bytesAt? location := by
  obtain ⟨w, hensure, hgrows, hfiles, hfolders⟩ := h.ensured
  obtain ⟨htarget, hfree⟩ := hconverts.locate_target hfolder
  have hmade := FileTree.made_of_ensureFolders hconverts.ensureFolder_eq
  let bytes := Utf8.encode (schema.render yaml s.format)
  let v' := w.putFile (s.locationIn folder record.className) bytes
  have hgrows' : u.Grows v' := hgrows.trans (.putFile w _ bytes)
  have hothers (location : List String) (hne : location ≠ s.locationIn folder record.className) :
      v'.bytesAt? location = v.bytesAt? location := by
    rw [FileTree.bytesAt?_putFile_of_ne w bytes hne, FileTree.bytesAt?_congr hfiles]
  -- the folder may be there already; what is written next to the inputs changes none of them
  refine ⟨v', ?_, ?_, hgrows', FileTree.bytesAt?_putFile_self w _ bytes, hothers⟩
  · have hwrite : w.write (s.targetIn out record.className) bytes = .ok v' :=
      FileTree.write_eq_ok_iff.mpr ⟨_, hgrows.locate htarget, (hfolders _).trans hfree, rfl⟩
    exact leads_convertFile hout ⟨h.converted?_eq happart hconverts.converted?_eq, hconverts.valid,
      hconverts.keepsOutput, hensure, hwrite⟩
  · refine ⟨hmade.grows.trans hgrows', ⟨v', ?_, hgrows', rfl, fun name ↦ ?_⟩, ?_⟩
    · exact FileTree.ensureFolder_of_isFolder (hgrows'.isFolder hmade.isFolder)
    · exact (FileTree.isFolderAt_putFile_concat w folder bytes _ name).trans (hfolders name)
    · intro location hne
      rw [hothers location (hne record.className), h.bytesAt?_eq location hne]

/-- Of the outputs of the files at `paths`, which are read in the tree `t`, the tree `v'` has the
last one of each name. Otherwise it is like `v`. -/
structure WritesLast (yaml : YamlWriter) (s : Settings) (folder : List String) (t : FileTree)
    (paths : List Path) (v v' : FileTree) : Prop where
  written : ∀ before path after, paths = before ++ path :: after → ∀ record schema,
    t.converted? s.options path = some (record, schema) →
    t.NoneNamed s.options after record.className →
    v'.bytesAt? (s.locationIn folder record.className) =
      some (Utf8.encode (schema.render yaml s.format))
  kept : ∀ location,
    (∀ className,
      location = s.locationIn folder className → t.NoneNamed s.options paths className) →
    v'.bytesAt? location = v.bytesAt? location

private theorem Underway.convertFiles {v : FileTree} {paths : List Path}
    (h : Underway s out folder t u v) (hout : s.out = some out)
    (hfolder : u.locate out = .ok folder)
    (happart : ∀ path ∈ paths, ∀ location, t.locate path = .ok location →
      ∀ className, location ≠ s.locationIn folder className)
    (hconverts : ∀ path ∈ paths,
      ∃ record schema t', Converts yaml s out t path record schema u t') :
    ∃ v', Leads (paths.mapM (CommandLine.convertFile yaml s)) v (paths.map fun _ ↦ true) v' ∧
      (u.Grows v ∨ paths ≠ [] → u.Grows v') ∧ WritesLast yaml s folder t paths v v' := by
  induction paths generalizing v with
  | nil =>
    refine ⟨v, leads_pure [] v, ?_, ?_, fun _ _ ↦ rfl⟩
    · rintro (hgrows | hne)
      · exact hgrows
      · exact absurd rfl hne
    · intro before path after hsplit
      simp at hsplit
  | cons path paths ih =>
    rw [List.forall_mem_cons] at happart hconverts
    obtain ⟨record, schema, t', hfirst⟩ := hconverts.1
    obtain ⟨v₁, hleads, hunderway, hgrows, hwritten, hothers⟩ :=
      h.convertFile hout hfolder happart.1 hfirst
    obtain ⟨v₂, hrest, hgrows', hlast⟩ := ih hunderway happart.2 hconverts.2
    -- files that come later leave this output as it is, since their classes have other names
    have hkept (className : String) (hnone : t.NoneNamed s.options paths className) :
        v₂.bytesAt? (s.locationIn folder className) =
          v₁.bytesAt? (s.locationIn folder className) := by
      apply hlast.kept
      intro other hsame
      rwa [← s.locationIn_injective folder hsame]
    refine ⟨v₂, ?_, fun _ ↦ hgrows' (.inl hgrows), ?_, ?_⟩
    · rw [List.mapM_cons, List.map_cons]
      exact hleads.bind (hrest.bind (leads_pure _ v₂))
    · intro before path' after hsplit record' schema' hconverted hnone
      cases before with
      | nil =>
        obtain ⟨rfl, rfl⟩ := List.cons.inj hsplit
        cases hfirst.converted?_eq.symm.trans hconverted
        rw [hkept _ hnone, hwritten]
      | cons first before =>
        exact hlast.written before path' after (List.cons.inj hsplit).2 _ _ hconverted hnone
    · intro location hnone
      rw [hlast.kept location fun className hsame later hlater ↦
        hnone className hsame later (List.mem_cons_of_mem _ hlater)]
      apply hothers
      intro hsame
      exact hnone _ hsame path List.mem_cons_self record schema hfirst.converted?_eq rfl

/-! ## The job -/

theorem leads_sources_folder {dir : Path} {location : List String}
    (hlocate : t.locate dir = .ok location) (hdir : t.isFolder dir = .ok true) :
    Leads (sources dir) t ((t.filesBelow location ".java").map dir.extend) t := by
  rw [sources]
  refine (leads_ask hdir).bind ((leads_ask hlocate).bind ?_)
  exact fun out err ↦ ⟨out, err, rfl⟩

private theorem canLead_sources {paths : List Path} (hfile : t.isFolder path ≠ .ok true)
    (h : CanLead (sources path) t paths t') : paths = [path] ∧ t' = t := by
  rw [sources] at h
  obtain ⟨isFolder, u, hask, hrest⟩ := h.bind
  obtain ⟨hfolder, rfl⟩ := hask.of_ask
  cases isFolder with
  | true => exact absurd hfolder hfile
  | false => exact hrest.eq_of_pure

theorem leads_checkOptions (h : CanLead (checkOptions s) t () t') (u : FileTree) :
    Leads (checkOptions s) u () u := by
  have hkept : s.hasLost .requiredStrategy = false ∧ s.hasLost .commentStyle = false := by
    rw [checkOptions] at h
    constructor <;> rw [← Bool.not_eq_true] <;> intro hlost <;> simp only [hlost, if_true] at h
    · obtain ⟨_, _, hthrow, -⟩ := h.bind
      exact not_canLead_throw _ hthrow
    · split at h
      · obtain ⟨_, _, hthrow, -⟩ := h.bind
        exact not_canLead_throw _ hthrow
      · exact not_canLead_throw _ h
  rw [checkOptions, hkept.1, hkept.2]
  exact leads_pure () u

private theorem canLead_of_run {i : Invocation} {o : Outcome} (h : i.run t yaml = .ok o)
    (hstatus : o.status = 0) :
    CanLead (i.action yaml) t 0 o.tree := by
  refine ⟨"", "", o.out, o.err, ?_⟩
  rw [Invocation.run] at h
  split at h
  · rename_i status w hrun
    cases h
    rw [← hstatus]
    exact hrun
  · split at h
    · cases h
      cases hstatus
    · cases h

theorem exists_run_of_leads {i : Invocation} {status : Nat}
    (h : Leads (i.action yaml) t status t') :
    ∃ out err, i.run t yaml = .ok ⟨status, out, err, t'⟩ := by
  obtain ⟨out, err, hrun⟩ := h "" ""
  refine ⟨out, err, ?_⟩
  rw [Invocation.run, hrun]

/-- A run on one file that succeeds converts it. -/
theorem converts_of_run {o : Outcome} (hout : s.out = some out) (hfile : t.isFolder path ≠ .ok true)
    (h : Invocation.run ⟨.convert, s, path⟩ t yaml = .ok o) (hstatus : o.status = 0) :
    CanLead (checkOptions s) t () t ∧
      ∃ record schema u t', Converts yaml s out t path record schema u t' := by
  have hjob : CanLead (convert yaml s path) t 0 o.tree := canLead_of_run h hstatus
  obtain ⟨paths, _, hsources, hrest⟩ := CanLead.bind hjob
  obtain ⟨rfl, rfl⟩ := canLead_sources hfile hsources
  simp only [List.isEmpty_cons, Bool.false_eq_true, if_false] at hrest
  obtain ⟨_, _, hoptions, hconverted⟩ := hrest.bind
  obtain ⟨-, rfl⟩ := (leads_checkOptions hoptions _).eq_of_canLead hoptions
  refine ⟨hoptions, ?_⟩
  obtain ⟨results, u, hresults, hcounted⟩ := hconverted.bind
  rw [List.mapM_cons, List.mapM_nil] at hresults
  obtain ⟨result, t', hfirst, hend⟩ := hresults.bind
  obtain ⟨rfl, rfl⟩ := hend.eq_of_pure
  cases result with
  | true =>
    obtain ⟨record, schema, u, hconverts⟩ := canLead_convertFile hout hfirst
    exact ⟨record, schema, u, _, hconverts⟩
  | false =>
    -- the failure is counted, and the status is not zero
    have hone : List.count false [false] = 1 := by decide
    simp only [hone, Nat.one_ne_zero, if_false] at hcounted
    have hstatus := (leads_report _ _).rest_of_canLead hcounted
    exact absurd hstatus.eq_of_pure.1 (by decide)

/-- A source is not where an output is written. -/
theorem ne_locationIn_of_mem_filesBelow {dir : Path} {location target : List String}
    {parts : List String} (hproper : t.IsProper) (hlocate : t.locate dir = .ok location)
    (hparts : parts ∈ t.filesBelow location ".java")
    (htarget : t.locate (dir.extend parts) = .ok target) (className : String) :
    target ≠ s.locationIn folder className := by
  have hdots := hproper.dots_not_mem_parts hparts
  obtain ⟨-, hending⟩ := FileTree.mem_filesBelow.mp hparts
  rw [FileTree.eq_append_of_locate_extend hlocate htarget hdots]
  rcases List.eq_nil_or_concat parts with rfl | ⟨front, name, rfl⟩
  · exact absurd hending (by decide)
  · rw [List.concat_eq_append, List.getLast?_concat, Option.getD_some] at hending
    rw [Settings.locationIn, List.concat_eq_append, ← List.append_assoc]
    intro hsame
    exact targetName_ne className s.format (.inl hending)
      (List.singleton_inj.mp (List.append_inj_right' hsame rfl)).symm

/-- The job on a folder, from the conversions of its files. -/
theorem leads_convert {dir : Path} {paths : List Path}
    (hsources : Leads (sources dir) t paths t) (hne : paths ≠ [])
    (hoptions : Leads (checkOptions s) t () t)
    (hconverted : Leads (paths.mapM (convertFile yaml s)) t (paths.map fun _ ↦ true) t') :
    Leads (convert yaml s dir) t 0 t' := by
  rw [convert]
  refine hsources.bind ?_
  rw [List.isEmpty_eq_false_iff.mpr hne]
  refine hoptions.bind (hconverted.bind ?_)
  have hcount : (paths.map fun _ ↦ true).count false = 0 := by
    rw [List.count_eq_zero, List.mem_map]
    rintro ⟨_, -, h⟩
    cases h
  simp only [hcount]
  exact leads_pure 0 t'

private theorem leads_sources_file (hfile : t.isFolder path = .ok false) :
    Leads (sources path) t [path] t := by
  rw [sources]
  refine (leads_ask hfile).bind ?_
  exact leads_pure [path] t

theorem run_of_converts (hout : s.out = some out) (hfile : t.isFolder path = .ok false)
    (hoptions : Leads (checkOptions s) t () t) (h : Converts yaml s out t path record schema u t') :
    ∃ o, Invocation.run ⟨.convert, s, path⟩ t yaml = .ok o ∧ o.status = 0 := by
  have hfiles : Leads ([path].mapM (convertFile yaml s)) t [true] t' := by
    rw [List.mapM_cons, List.mapM_nil]
    exact (leads_convertFile hout h).bind ((leads_pure [] t').bind (leads_pure [true] t'))
  have hjob : Leads (convert yaml s path) t 0 t' :=
    leads_convert (leads_sources_file hfile) (List.cons_ne_nil _ _) hoptions hfiles
  obtain ⟨_, _, hrun⟩ := exists_run_of_leads (i := ⟨.convert, s, path⟩) hjob
  exact ⟨_, hrun, rfl⟩

/-- The runs on single files make the same folder for their outputs. -/
theorem converts_of_alone {dir : Path} {location : List String} (hproper : t.IsProper)
    (hout : s.out = some out) (hlocate : t.locate dir = .ok location)
    (hne : t.filesBelow location ".java" ≠ [])
    (halone : ∀ parts ∈ t.filesBelow location ".java",
      ∃ o, Invocation.run ⟨.convert, s, dir.extend parts⟩ t yaml = .ok o ∧ o.status = 0) :
    CanLead (checkOptions s) t () t ∧ ∃ u folder, t.ensureFolder out = .ok u ∧
      u.locate out = .ok folder ∧ ∀ parts ∈ t.filesBelow location ".java",
        ∃ record schema t', Converts yaml s out t (dir.extend parts) record schema u t' := by
  have hsingle : ∀ parts ∈ t.filesBelow location ".java", CanLead (checkOptions s) t () t ∧
      ∃ record schema u t', Converts yaml s out t (dir.extend parts) record schema u t' := by
    intro parts hparts
    obtain ⟨o, hrun, hstatus⟩ := halone parts hparts
    exact converts_of_run hout (hproper.isFolder_ne_true hlocate hparts) hrun hstatus
  obtain ⟨first, hfirst⟩ := List.exists_mem_of_ne_nil _ hne
  obtain ⟨hoptions, _, _, u, _, hconverts⟩ := hsingle first hfirst
  have hmade := FileTree.made_of_ensureFolders hconverts.ensureFolder_eq
  obtain ⟨folder, hfolder, -⟩ := FileTree.isFolder_eq_true_iff.mp hmade.isFolder
  refine ⟨hoptions, u, folder, hconverts.ensureFolder_eq, hfolder, fun parts hparts ↦ ?_⟩
  obtain ⟨-, record, schema, u', t', h⟩ := hsingle parts hparts
  cases hconverts.ensureFolder_eq.symm.trans h.ensureFolder_eq
  exact ⟨record, schema, t', h⟩

/-- All files of a folder are converted if each of them is when it is alone. -/
theorem leads_convert_folder {dir : Path} {location : List String} (hproper : t.IsProper)
    (hout : s.out = some out) (hdir : t.isFolder dir = .ok true)
    (hlocate : t.locate dir = .ok location) (hne : t.filesBelow location ".java" ≠ [])
    (halone : ∀ parts ∈ t.filesBelow location ".java",
      ∃ o, Invocation.run ⟨.convert, s, dir.extend parts⟩ t yaml = .ok o ∧ o.status = 0) :
    ∃ u folder v, Leads (Invocation.action ⟨.convert, s, dir⟩ yaml) t 0 v ∧
      t.ensureFolder out = .ok u ∧ u.locate out = .ok folder ∧ u.Grows v ∧
      WritesLast yaml s folder t ((t.filesBelow location ".java").map dir.extend) t v ∧
      ∀ parts ∈ t.filesBelow location ".java",
        ∃ record schema t', Converts yaml s out t (dir.extend parts) record schema u t' := by
  obtain ⟨hoptions, u, folder, hensure, hfolder, hconverts⟩ :=
    converts_of_alone hproper hout hlocate hne halone
  have hpaths : (t.filesBelow location ".java").map dir.extend ≠ [] :=
    fun h ↦ hne (List.map_eq_nil_iff.mp h)
  obtain ⟨v, hleads, hgrows, hlast⟩ := (underway_start hensure).convertFiles hout hfolder
    (List.forall_mem_map.mpr fun parts hparts target ↦
      ne_locationIn_of_mem_filesBelow hproper hlocate hparts)
    (List.forall_mem_map.mpr hconverts)
  exact ⟨u, folder, v, leads_convert (leads_sources_folder hlocate hdir) hpaths
    (leads_checkOptions hoptions t) hleads, hensure, hfolder, hgrows (.inr hpaths), hlast,
    hconverts⟩

private theorem run_convert_of_nil {dir : Path} {location : List String}
    (hdir : t.isFolder dir = .ok true)
    (hlocate : t.locate dir = .ok location) (hnil : t.filesBelow location ".java" = []) :
    ∃ out err, Invocation.run ⟨.convert, s, dir⟩ t yaml = .ok ⟨1, out, err, t⟩ := by
  have hjob : Leads (convert yaml s dir) t 1 t := by
    rw [convert]
    refine (leads_sources_folder hlocate hdir).bind ?_
    rw [hnil]
    exact (leads_report _ t).bind (leads_pure 1 t)
  exact exists_run_of_leads (i := ⟨.convert, s, dir⟩) hjob

/-- **Conversion goes file by file.** Let every source file below a folder be converted with success
when it is alone. Then all of them together are, too, unless there is none. What is in the output
named after the class of a source is the schema of that source, unless a later source has a class of
that name; and outputs of classes with different names are different. -/
theorem run_convert_folder {dir : Path} {location : List String} (hproper : t.IsProper)
    (hout : s.out = some out) (hdir : t.isFolder dir = .ok true)
    (hlocate : t.locate dir = .ok location)
    (halone : ∀ parts ∈ t.filesBelow location ".java",
      ∃ o, Invocation.run ⟨.convert, s, dir.extend parts⟩ t yaml = .ok o ∧ o.status = 0) :
    Function.Injective (s.targetIn out) ∧
      ∃ o, Invocation.run ⟨.convert, s, dir⟩ t yaml = .ok o ∧
        (o.status = 0 ↔ t.filesBelow location ".java" ≠ []) ∧
        ∀ before parts after, t.filesBelow location ".java" = before ++ parts :: after →
          ∃ record schema, t.converted? s.options (dir.extend parts) = some (record, schema) ∧
            (t.NoneNamed s.options (after.map dir.extend) record.className →
              o.tree.read (s.targetIn out record.className) =
                .ok (Utf8.encode (schema.render yaml s.format))) := by
  refine ⟨s.targetIn_injective out, ?_⟩
  by_cases hnil : t.filesBelow location ".java" = []
  · obtain ⟨_, _, hrun⟩ := run_convert_of_nil hdir hlocate hnil
    refine ⟨_, hrun, by simp [hnil], ?_⟩
    intro before parts after hsplit
    simp [hnil] at hsplit
  · obtain ⟨u, folder, v, hleads, -, hfolder, hgrows, hlast, hconverts⟩ :=
      leads_convert_folder hproper hout hdir hlocate hnil halone
    obtain ⟨_, _, hrun⟩ := exists_run_of_leads hleads
    refine ⟨_, hrun, by simp [hnil], ?_⟩
    intro before parts after hsplit
    obtain ⟨record, schema, _, hpart⟩ := hconverts parts (by simp [hsplit])
    refine ⟨record, schema, hpart.converted?_eq, fun hnone ↦ ?_⟩
    have hpaths : (t.filesBelow location ".java").map dir.extend =
        before.map dir.extend ++ dir.extend parts :: after.map dir.extend := by simp [hsplit]
    -- what was written last under the name of a class is what is read there
    have hbytes := hlast.written _ _ _ hpaths record schema hpart.converted?_eq hnone
    have htarget := hgrows.locate (hpart.locate_target hfolder).1
    exact FileTree.read_eq_ok_iff.mpr ⟨_, htarget, hbytes⟩

/-! ### Two classes of one name -/

/-- Three sources, two of which hold a class of the same name. -/
def sharedName : FileTree where
  here := []
  files := [(["src", "Address.java"], Utf8.encode "class Address { String zip; }"),
    (["src", "a", "User.java"], Utf8.encode "class User { int id; }"),
    (["src", "b", "User.java"], Utf8.encode "class User { String name; }")]

/-- The settings for output to a folder that is not there yet. -/
def intoNewFolder : Settings where
  out := some ⟨0, ["out"]⟩

theorem isProper_sharedName : sharedName.IsProper := ⟨by decide, by decide⟩

theorem filesBelow_sharedName : sharedName.filesBelow ["src"] ".java" =
    [["Address.java"], ["a", "User.java"], ["b", "User.java"]] := by
  have hnamed : (sharedName.files.filterMap fun file ↦
      if (["src"] : List String).isPrefixOf file.1 then some (file.1.drop 1) else none).filter
        (fun parts ↦ (parts.getLast?.getD "").endsWith ".java") =
      [["Address.java"], ["a", "User.java"], ["b", "User.java"]] := by decide +kernel
  simp only [FileTree.filesBelow, List.length_singleton, hnamed]
  exact List.mergeSort_of_pairwise (by decide)

/-- The places of the sources, with the names of their classes. -/
def sharedNameClasses : List (List String × String) :=
  [(["src", "Address.java"], "Address"), (["src", "a", "User.java"], "User"),
    (["src", "b", "User.java"], "User")]

private theorem paths_sharedName :
    (sharedName.filesBelow ["src"] ".java").map (Path.extend ⟨0, ["src"]⟩) =
    sharedNameClasses.map fun entry ↦ ⟨0, entry.1⟩ := by
  rw [filesBelow_sharedName]
  rfl

theorem locate_src_sharedName : sharedName.locate ⟨0, ["src"]⟩ = .ok ["src"] := by
  rw [FileTree.locate, String.contains_char_eq]
  decide

theorem locate_sharedName :
    ∀ entry ∈ sharedNameClasses, sharedName.locate ⟨0, entry.1⟩ = .ok entry.1 := by
  simp only [FileTree.locate, String.contains_char_eq]
  decide

theorem converted?_sharedName : ∀ entry ∈ sharedNameClasses, ∃ record schema,
    sharedName.converted? {} ⟨0, entry.1⟩ = some (record, schema) ∧ record.className = entry.2 ∧
      schema.violation? = none := by
  have hconverted : ∀ entry ∈ sharedNameClasses,
      ((sharedName.bytesAt? entry.1).bind (Conversion.ofBytes? {})).map
        (fun c ↦ (c.1.className, c.2.violation?.isNone)) = some (entry.2, true) := by
    decide +kernel
  intro entry hentry
  obtain ⟨⟨record, schema⟩, hbind, hnames⟩ := Option.map_eq_some_iff.mp (hconverted entry hentry)
  obtain ⟨bytes, hbytes, hof⟩ := Option.bind_eq_some_iff.mp hbind
  have hread : sharedName.read ⟨0, entry.1⟩ = .ok bytes :=
    FileTree.read_eq_ok_iff.mpr ⟨_, locate_sharedName entry hentry, hbytes⟩
  obtain ⟨hname, hvalid⟩ := Prod.mk.inj hnames
  refine ⟨record, schema, ?_, hname, Option.isNone_iff_eq_none.mp hvalid⟩
  rw [FileTree.converted?, hread]
  exact hof

theorem locate_out_sharedName : sharedName.locate ⟨0, ["out"]⟩ = .ok ["out"] := by
  rw [FileTree.locate, String.contains_char_eq]
  decide

theorem ensureFolder_sharedName :
    sharedName.ensureFolder ⟨0, ["out"]⟩ = .ok (sharedName.putFolder ["out"]) := by
  have hmake : sharedName.makeFolder ⟨0, ["out"]⟩ = .ok (sharedName.putFolder ["out"]) := by
    rw [FileTree.makeFolder, locate_out_sharedName]
    rfl
  rw [FileTree.ensureFolder, List.length_singleton, FileTree.ensureFolders, hmake]

private theorem locate_target_sharedName : ∀ entry ∈ sharedNameClasses,
    (sharedName.putFolder ["out"]).locate (intoNewFolder.targetIn ⟨0, ["out"]⟩ entry.2) =
      .ok ["out", entry.2 ++ ".json"] := by
  simp only [FileTree.locate, String.contains_char_eq]
  decide

theorem converts_sharedName : ∀ entry ∈ sharedNameClasses, ∃ record schema,
    Converts Yaml.blockStyle intoNewFolder ⟨0, ["out"]⟩ sharedName ⟨0, entry.1⟩ record schema
      (sharedName.putFolder ["out"]) ((sharedName.putFolder ["out"]).putFile
        ["out", entry.2 ++ ".json"] (Utf8.encode (schema.render Yaml.blockStyle .json))) := by
  have hfree : ∀ entry ∈ sharedNameClasses,
      (sharedName.putFolder ["out"]).isFolderAt ["out", entry.2 ++ ".json"] = false := by
    decide
  intro entry hentry
  obtain ⟨record, schema, hconverted, hname, hvalid⟩ := converted?_sharedName entry hentry
  exact ⟨record, schema, hconverted, fun _ ↦ hvalid, ⟨rfl, rfl⟩, ensureFolder_sharedName,
    FileTree.write_eq_ok_iff.mpr
      ⟨_, hname ▸ locate_target_sharedName entry hentry, hname ▸ hfree entry hentry, rfl⟩⟩

/-- Every one of the sources is converted when it is alone. -/
theorem run_alone_sharedName : ∀ parts ∈ sharedName.filesBelow ["src"] ".java",
    ∃ o,
      Invocation.run ⟨.convert, intoNewFolder, Path.extend ⟨0, ["src"]⟩ parts⟩ sharedName = .ok o ∧
      o.status = 0 := by
  have hentry : ∀ entry ∈ sharedNameClasses,
      ∃ o, Invocation.run ⟨.convert, intoNewFolder, ⟨0, entry.1⟩⟩ sharedName = .ok o ∧
        o.status = 0 := by
    intro entry hentry
    obtain ⟨record, schema, hconverts⟩ := converts_sharedName entry hentry
    have hfile : sharedName.isFolder ⟨0, entry.1⟩ = .ok false := by
      have hno : ∀ entry ∈ sharedNameClasses, sharedName.isFolderAt entry.1 = false := by
        decide
      rw [FileTree.isFolder, locate_sharedName entry hentry]
      exact congrArg _ (hno entry hentry)
    exact run_of_converts rfl hfile (leads_pure () _) hconverts
  rw [filesBelow_sharedName]
  simpa [sharedNameClasses, Path.extend] using hentry

theorem className_sharedName {entry : List String × String} (hentry : entry ∈ sharedNameClasses)
    (hconverted : sharedName.converted? {} ⟨0, entry.1⟩ = some (record, schema)) :
    record.className = entry.2 := by
  obtain ⟨_, _, hsame, hname, -⟩ := converted?_sharedName entry hentry
  cases hsame.symm.trans hconverted
  exact hname

theorem isFolder_src_sharedName : sharedName.isFolder ⟨0, ["src"]⟩ = .ok true :=
  FileTree.isFolder_eq_true_iff.mpr ⟨_, locate_src_sharedName, by decide⟩

/-- The schema of the address is in its output. -/
theorem run_convert_folder_sharedName :
    ∃ o, Invocation.run ⟨.convert, intoNewFolder, ⟨0, ["src"]⟩⟩ sharedName = .ok o ∧ o.status = 0 ∧
      ∃ record schema,
        sharedName.converted? {} ⟨0, ["src", "Address.java"]⟩ = some (record, schema) ∧
        o.tree.read ⟨0, ["out", "Address.json"]⟩ = .ok (Utf8.encode schema.toJson.render) := by
  obtain ⟨-, o, hrun, hstatus, houtputs⟩ := run_convert_folder isProper_sharedName
    (show intoNewFolder.out = some ⟨0, ["out"]⟩ from rfl) isFolder_src_sharedName
    locate_src_sharedName run_alone_sharedName
  rw [filesBelow_sharedName] at hstatus houtputs
  obtain ⟨record, schema, hconverted, hread⟩ := houtputs [] _ _ rfl
  have haddress : (["src", "Address.java"], "Address") ∈ sharedNameClasses := by decide
  have hname := className_sharedName haddress hconverted
  rw [hname] at hread
  refine ⟨o, hrun, hstatus.mpr (by decide), record, schema, hconverted, hread ?_⟩
  have huser : ∀ entry ∈ sharedNameClasses.drop 1, entry.2 ≠ "Address" := by decide
  have hnone : ∀ entry ∈ sharedNameClasses.drop 1, ∀ record schema,
      sharedName.converted? intoNewFolder.options ⟨0, entry.1⟩ = some (record, schema) →
      record.className ≠ "Address" := by
    intro entry hentry record schema hconverted
    rw [className_sharedName (List.mem_of_mem_drop hentry) hconverted]
    exact huser entry hentry
  simpa [FileTree.NoneNamed, sharedNameClasses, Path.extend] using hnone

/-- Where two classes have one name, the schema of one of them is lost: there are three sources,
each of which is converted with success when it is alone, but two outputs. -/
theorem run_convert_folder_loses_output :
    (sharedName.filesBelow ["src"] ".java").length = 3 ∧
      (∀ parts ∈ sharedName.filesBelow ["src"] ".java", ∃ o,
        Invocation.run ⟨.convert, intoNewFolder, Path.extend ⟨0, ["src"]⟩ parts⟩ sharedName =
          .ok o ∧
          o.status = 0) ∧
      ∃ o, Invocation.run ⟨.convert, intoNewFolder, ⟨0, ["src"]⟩⟩ sharedName = .ok o ∧
        o.status = 0 ∧ ∀ name, (o.tree.bytesAt? ["out", name]).isSome = true →
          name ∈ ["Address.json", "User.json"] := by
  refine ⟨by rw [filesBelow_sharedName]; rfl, run_alone_sharedName, ?_⟩
  have hne : sharedName.filesBelow ["src"] ".java" ≠ [] := by
    rw [filesBelow_sharedName]
    exact List.cons_ne_nil _ _
  obtain ⟨u, folder, v, hleads, hensure, hfolder, -, hlast, -⟩ :=
    leads_convert_folder isProper_sharedName
      (show intoNewFolder.out = some ⟨0, ["out"]⟩ from rfl) isFolder_src_sharedName
      locate_src_sharedName hne run_alone_sharedName
  obtain rfl := Except.ok.inj (ensureFolder_sharedName.symm.trans hensure)
  have hout := (FileTree.Grows.putFolder sharedName ["out"]).locate locate_out_sharedName
  obtain rfl := Except.ok.inj (hout.symm.trans hfolder)
  obtain ⟨_, _, hrun⟩ := exists_run_of_leads hleads
  refine ⟨_, hrun, rfl, fun name hsome ↦ ?_⟩
  have houtputs : ∀ entry ∈ sharedNameClasses,
      entry.2 ++ ".json" ∈ ["Address.json", "User.json"] := by decide
  have hnames : ∀ entry ∈ sharedNameClasses, ∀ record schema,
      sharedName.converted? intoNewFolder.options ⟨0, entry.1⟩ = some (record, schema) →
      record.className ++ ".json" ∈ ["Address.json", "User.json"] := by
    intro entry hentry record schema hconverted
    rw [className_sharedName hentry hconverted]
    exact houtputs entry hentry
  have hpaths : ∀ path ∈ (sharedName.filesBelow ["src"] ".java").map (Path.extend ⟨0, ["src"]⟩),
      ∀ record schema, sharedName.converted? intoNewFolder.options path = some (record, schema) →
      record.className ++ ".json" ∈ ["Address.json", "User.json"] := by
    rw [paths_sharedName]
    exact List.forall_mem_map.mpr hnames
  -- no file is converted to another name, so such a file would have been there before
  by_contra hname
  have hkept : v.bytesAt? ["out", name] = sharedName.bytesAt? ["out", name] := by
    apply hlast.kept
    rintro className hlocation path hpath record schema hconverted rfl
    obtain rfl : name = record.className ++ ".json" := by
      simpa [Settings.locationIn, intoNewFolder, SchemaFormat.ending, SchemaFormat.text]
        using hlocation
    exact hname (hpaths path hpath record schema hconverted)
  rw [hkept] at hsome
  simp [FileTree.bytesAt?, sharedName] at hsome

end ClassSchema.CommandLine

import ClassSchema.Files.Tree
import Mathlib.Data.List.Basic

/-!
# Trees that grow

Jobs add files and folders to a tree and take none away. Where a path leads is settled by the
folders that it passes, so it leads there still when the tree has grown. A folder that has been made
is there from then on, and making it again changes nothing.
-/

namespace ClassSchema

namespace FileTree

variable {t t' u : FileTree} {path other : Path} {location target : List String}
  {parts rest : List String} {bytes : List UInt8}

/-! ## Folders and files -/

private theorem any_putBytes (p : List String → Bool) (location : List String) (bytes : List UInt8)
    (files : List (List String × List UInt8)) :
    (putBytes location bytes files).any (fun file ↦ p file.1) =
      (files.any (fun file ↦ p file.1) || p location) := by
  induction files with
  | nil => simp [putBytes]
  | cons file files ih =>
    rw [putBytes]
    split
    · rename_i h
      simp [h, Bool.or_comm]
    · simp [ih, Bool.or_assoc]

theorem isFolderAt_putFile (t : FileTree) (location : List String) (bytes : List UInt8)
    (other : List String) : (t.putFile location bytes).isFolderAt other =
      (t.isFolderAt other || other.isPrefixOf location && location ≠ other) := by
  rw [isFolderAt, isFolderAt, putFile, Bool.or_assoc]
  simp only [any_putBytes fun file ↦ other.isPrefixOf file && file ≠ other]

theorem isFolderAt_putFolder (t : FileTree) (location other : List String) :
    (t.putFolder location).isFolderAt other =
      (t.isFolderAt other || other.isPrefixOf location) := by
  simp [isFolderAt, putFolder, Bool.or_assoc, Bool.or_comm, Bool.or_left_comm]

theorem isFolderAt_putFile_concat (t : FileTree) (location : List String) (bytes : List UInt8)
    (name other : String) :
    (t.putFile (location ++ [name]) bytes).isFolderAt (location ++ [other]) =
      t.isFolderAt (location ++ [other]) := by
  rw [isFolderAt_putFile]
  by_cases h : name = other
  · simp [h]
  · simp [h, Ne.symm h, List.prefix_append_right_inj]

theorem isFolder_eq_true_iff : t.isFolder path = .ok true ↔
    ∃ location, t.locate path = .ok location ∧ t.isFolderAt location = true := by
  rw [isFolder]
  constructor
  · intro h
    split at h
    · exact ⟨_, ‹_›, Except.ok.inj h⟩
    · cases h
    · cases h
  · rintro ⟨location, hlocate, hat⟩
    rw [hlocate]
    exact congrArg _ hat

theorem bytesAt?_congr (h : t'.files = t.files) (location : List String) :
    t'.bytesAt? location = t.bytesAt? location := by
  rw [bytesAt?, bytesAt?, h]

/-! ## Growth -/

/-- All folders of the first tree are folders of the second one. -/
structure Grows (t t' : FileTree) : Prop where
  here_eq : t'.here = t.here
  isFolderAt : ∀ location, t.isFolderAt location = true → t'.isFolderAt location = true

namespace Grows

theorem refl (t : FileTree) : Grows t t := ⟨rfl, fun _ ↦ id⟩

theorem trans (h : Grows t t') (h' : Grows t' u) : Grows t u :=
  ⟨h'.here_eq.trans h.here_eq, fun _ hfolder ↦ h'.isFolderAt _ (h.isFolderAt _ hfolder)⟩

theorem putFile (t : FileTree) (location : List String) (bytes : List UInt8) :
    Grows t (t.putFile location bytes) :=
  ⟨rfl, fun other h ↦ by rw [isFolderAt_putFile, h, Bool.true_or]⟩

theorem putFolder (t : FileTree) (location : List String) : Grows t (t.putFolder location) :=
  ⟨rfl, fun other h ↦ by rw [isFolderAt_putFolder, h, Bool.true_or]⟩

private theorem follow (h : Grows t t') (hfollow : t.follow path location parts = .ok target) :
    t'.follow path location parts = .ok target := by
  induction parts generalizing location with
  | nil => exact hfollow
  | cons part parts ih =>
    rw [FileTree.follow] at hfollow ⊢
    split at hfollow
    · rename_i hfolder
      rw [if_pos (h.isFolderAt _ hfolder)]
      split at hfollow
      · rw [if_pos ‹_›]
        exact ih hfollow
      · rw [if_neg ‹_›]
        split at hfollow
        · cases hfollow
        · rw [if_neg ‹_›]
          exact ih hfollow
    · split at hfollow <;> cases hfollow

/-- A path leads where it led before. -/
theorem locate (h : Grows t t') (hlocate : t.locate path = .ok location) :
    t'.locate path = .ok location := by
  rw [FileTree.locate] at hlocate ⊢
  split at hlocate
  · cases hlocate
  split at hlocate
  · cases hlocate
  rw [if_neg ‹_›, if_neg ‹_›, h.here_eq]
  exact h.follow hlocate

theorem isFolder (h : Grows t t') (hfolder : t.isFolder path = .ok true) :
    t'.isFolder path = .ok true := by
  obtain ⟨location, hlocate, hat⟩ := isFolder_eq_true_iff.mp hfolder
  exact isFolder_eq_true_iff.mpr ⟨location, h.locate hlocate, h.isFolderAt location hat⟩

end Grows

/-! ## Making folders -/

/-- The path leads to a folder, which is all that was added, if anything was. -/
structure Made (t : FileTree) (path : Path) (t' : FileTree) : Prop where
  grows : t.Grows t'
  files_eq : t'.files = t.files
  isFolder : t'.isFolder path = .ok true

private theorem made_of_makeFolder (h : t.makeFolder path = .ok t') : t.Made path t' := by
  rw [makeFolder] at h
  split at h
  · cases h
  · rename_i location hlocate
    split at h
    · cases h
    · cases h
      have hgrows := Grows.putFolder t location
      refine ⟨hgrows, rfl, isFolder_eq_true_iff.mpr ⟨location, hgrows.locate hlocate, ?_⟩⟩
      simp [isFolderAt_putFolder]

private theorem made_of_acceptFolder {fault : FileFault} (h : t.acceptFolder path fault = .ok t') :
    t.Made path t' := by
  unfold acceptFolder at h
  split at h
  · cases h
  · cases h
    exact ⟨.refl t, rfl, ‹_›⟩
  · cases h
  · cases h

theorem made_of_ensureFolders {depth : Nat} (h : ensureFolders depth t path = .ok t') :
    t.Made path t' := by
  induction depth generalizing t path t' with
  | zero =>
    rw [ensureFolders] at h
    split at h
    · cases h
      exact made_of_makeFolder ‹_›
    · cases h
    · exact made_of_acceptFolder h
  | succ depth ih =>
    rw [ensureFolders] at h
    split at h
    · cases h
      exact made_of_makeFolder ‹_›
    · dsimp only at h
      split at h
      · cases h
      · rename_i middle hmiddle
        -- the parents are made first, and then the folder is made in the last of them
        have hparent := ih hmiddle
        have hlast : middle.Made path t' := by
          split at h
          · cases h
            exact made_of_makeFolder ‹_›
          · exact made_of_acceptFolder h
        exact ⟨hparent.grows.trans hlast.grows, hlast.files_eq.trans hparent.files_eq,
          hlast.isFolder⟩
    · exact made_of_acceptFolder h

theorem ensureFolder_of_isFolder (h : t.isFolder path = .ok true) :
    t.ensureFolder path = .ok t := by
  obtain ⟨location, hlocate, hat⟩ := isFolder_eq_true_iff.mp h
  have hmake : t.makeFolder path = .error (.taken path) := by simp [makeFolder, hlocate, hat]
  have haccept : t.acceptFolder path (.taken path) = .ok t := by simp [acceptFolder, h]
  rw [ensureFolder]
  cases path.parts.length <;> rw [ensureFolders, hmake] <;> exact haccept

theorem write_eq_ok_iff : t.write path bytes = .ok t' ↔ ∃ location, t.locate path = .ok location ∧
    t.isFolderAt location = false ∧ t' = t.putFile location bytes := by
  rw [write]
  constructor
  · intro h
    split at h
    · cases h
    · split at h
      · cases h
      · cases h
        exact ⟨_, ‹_›, Bool.eq_false_iff.mpr ‹_›, rfl⟩
  · rintro ⟨location, hlocate, hat, rfl⟩
    simp [hlocate, hat]

theorem read_eq_ok_iff : t.read path = .ok bytes ↔
    ∃ location, t.locate path = .ok location ∧ t.bytesAt? location = some bytes := by
  rw [read]
  constructor
  · intro h
    split at h
    · cases h
    · split at h
      · cases h
        exact ⟨_, ‹_›, ‹_›⟩
      · cases h
  · rintro ⟨location, hlocate, hbytes⟩
    simp [hlocate, hbytes]

/-! ## Where paths lead -/

private theorem follow_append : t.follow path location (parts ++ rest) =
    (t.follow path location parts).bind (t.follow path · rest) := by
  induction parts generalizing location with
  | nil => rfl
  | cons part parts ih =>
    rw [List.cons_append, follow, follow]
    split
    · split
      · exact ih
      · split
        · rfl
        · exact ih
    · split <;> rfl

/-- The whole path only matters for the message when it leads nowhere. -/
theorem follow_of_follow (h : t.follow path location parts = .ok target) (other : Path) :
    t.follow other location parts = .ok target := by
  induction parts generalizing location with
  | nil => exact h
  | cons part parts ih =>
    rw [follow] at h ⊢
    split at h
    · rw [if_pos ‹_›]
      split at h
      · rw [if_pos ‹_›]
        exact ih h
      · rw [if_neg ‹_›]
        split at h
        · cases h
        · rw [if_neg ‹_›]
          exact ih h
    · split at h <;> cases h

private theorem eq_append_of_follow (h : t.follow path location parts = .ok target)
    (hdots : ".." ∉ parts) : target = location ++ parts := by
  induction parts generalizing location with
  | nil =>
    cases h
    rw [List.append_nil]
  | cons part parts ih =>
    rw [List.mem_cons, not_or] at hdots
    rw [follow] at h
    split at h
    · rw [if_neg (Ne.symm hdots.1)] at h
      split at h
      · cases h
      · rw [ih h hdots.2, List.append_assoc, List.singleton_append]
    · split at h <;> cases h

/-- Names in a folder lead on from where the folder is. -/
theorem eq_append_of_locate_extend (hfolder : t.locate path = .ok location)
    (h : t.locate (path.extend parts) = .ok target) (hdots : ".." ∉ parts) :
    target = location ++ parts := by
  rw [locate] at hfolder h
  split at hfolder
  · cases hfolder
  split at hfolder
  · cases hfolder
  split at h
  · cases h
  split at h
  · cases h
  rw [Path.extend, follow_append, follow_of_follow hfolder] at h
  exact eq_append_of_follow h hdots

/-! ## Listings -/

theorem mem_filesBelow {ending : String} : parts ∈ t.filesBelow location ending ↔
    (∃ bytes, (location ++ parts, bytes) ∈ t.files) ∧
      (parts.getLast?.getD "").endsWith ending = true := by
  simp only [filesBelow, List.mem_mergeSort, List.mem_filter, List.mem_filterMap,
    Option.ite_none_right_eq_some, Option.some.injEq, Prod.exists, List.isPrefixOf_iff_prefix]
  refine and_congr_left fun _ ↦ ⟨?_, ?_⟩
  · rintro ⟨_, bytes, hfile, ⟨rest, rfl⟩, hdrop⟩
    rw [List.drop_left] at hdrop
    exact ⟨bytes, hdrop ▸ hfile⟩
  · rintro ⟨bytes, hfile⟩
    exact ⟨_, bytes, hfile, List.prefix_append _ _, List.drop_left⟩

/-- A tree as it lies on a disk: no file is a folder, too, and no name is a pair of dots. -/
structure IsProper (t : FileTree) : Prop where
  isFolderAt_file : ∀ file ∈ t.files, t.isFolderAt file.1 = false
  dots_not_mem : ∀ file ∈ t.files, ".." ∉ file.1

namespace IsProper

variable {ending : String}

theorem dots_not_mem_parts (h : t.IsProper) (hparts : parts ∈ t.filesBelow location ending) :
    ".." ∉ parts := by
  obtain ⟨⟨bytes, hfile⟩, -⟩ := mem_filesBelow.mp hparts
  exact fun hdots ↦ h.dots_not_mem _ hfile (List.mem_append_right _ hdots)

/-- What is listed leads to no folder. -/
theorem isFolder_ne_true (h : t.IsProper) (hfolder : t.locate path = .ok location)
    (hparts : parts ∈ t.filesBelow location ending) :
    t.isFolder (path.extend parts) ≠ .ok true := by
  intro htrue
  obtain ⟨target, htarget, hat⟩ := isFolder_eq_true_iff.mp htrue
  obtain ⟨⟨bytes, hfile⟩, -⟩ := mem_filesBelow.mp hparts
  rw [eq_append_of_locate_extend hfolder htarget (h.dots_not_mem_parts hparts),
    h.isFolderAt_file _ hfile] at hat
  cases hat

end IsProper

end FileTree

end ClassSchema

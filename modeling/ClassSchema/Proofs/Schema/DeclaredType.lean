import ClassSchema.Proofs.Text.Trim
import ClassSchema.Proofs.Written.Borders
import ClassSchema.Schema.DeclaredType

/-!
# Type texts taken apart

A schema does not know the structure of a declared type. It finds the base name, the arguments and
the elements again by looking for angle brackets, commas and square brackets in the text of the
type. `Parts` is what such a text consists of: a path, one group of angle brackets or none, and
pairs of square brackets. Whatever stands between the angle brackets, the base name is the last word
of the path, and the arguments are found between the first opening and the last closing bracket.
Where no comma of the arguments is outside of all brackets, the text is one argument in turn.

What is taken for the bound of a wildcard is any argument whose first word is `extends` or `super`.
-/

namespace ClassSchema

namespace DeclaredType

variable {cs ds path word : List Char} {c : Char}

/-! ## Characters in a text -/

theorem takeWhile_ne_of_not_mem (h : c ∉ cs) (ds : List Char) :
    (cs ++ c :: ds).takeWhile (· ≠ c) = cs := by
  have hcs : ∀ d ∈ cs, decide (d ≠ c) = true := fun d hd ↦
    decide_eq_true fun hsame ↦ h (hsame ▸ hd)
  rw [List.takeWhile_append_of_pos hcs, List.takeWhile_cons_of_neg (by simp), List.append_nil]

theorem dropWhile_ne_of_not_mem (h : c ∉ cs) (ds : List Char) :
    (cs ++ c :: ds).dropWhile (· ≠ c) = c :: ds := by
  have hcs : ∀ d ∈ cs, decide (d ≠ c) = true := fun d hd ↦
    decide_eq_true fun hsame ↦ h (hsame ▸ hd)
  rw [List.dropWhile_append_of_pos hcs, List.dropWhile_cons_of_neg (by simp)]

theorem holds_iff : holds c cs = true ↔ c ∈ cs := by
  rw [holds, List.any_eq_true]
  exact ⟨fun ⟨_, hd, hsame⟩ ↦ of_decide_eq_true hsame ▸ hd, fun h ↦ ⟨c, h, decide_eq_true rfl⟩⟩

theorem afterLast_append_cons (c : Char) (cs ds : List Char) :
    afterLast c (cs ++ c :: ds) = afterLast c ds := by
  have hend : ∀ d ∈ (c :: cs.reverse).head?, decide (d ≠ c) = false := by
    rintro d ⟨rfl⟩
    exact decide_eq_false (not_not_intro rfl)
  rw [afterLast, List.reverse_append, List.reverse_cons, List.append_assoc, List.singleton_append,
    takeWhile_append_of_head hend, afterLast]

theorem afterLast_of_not_mem (h : c ∉ cs) : afterLast c cs = cs := by
  rw [afterLast, List.takeWhile_eq_self_iff.mpr, List.reverse_reverse]
  exact fun d hd ↦ decide_eq_true fun hsame ↦ h (hsame ▸ List.mem_reverse.mp hd)

private theorem beforeLast_append_cons (h : c ∉ ds) (cs : List Char) :
    beforeLast c (cs ++ c :: ds) = cs := by
  have hds : c ∉ ds.reverse := fun hmem ↦ h (List.mem_reverse.mp hmem)
  rw [beforeLast, List.reverse_append, List.reverse_cons, List.append_assoc, List.singleton_append,
    dropWhile_ne_of_not_mem hds, List.drop_one, List.tail_cons, List.reverse_reverse]

/-! ## Paths -/

/-- Names with dots between them. -/
structure IsPath (path : List Char) : Prop where
  isPart_or_dot : ∀ c ∈ path, isIdentifierPart c = true ∨ c = '.'
  exists_last : ∃ c, path.getLast? = some c ∧ isIdentifierPart c = true

private theorem IsPath.of_parts (hne : path ≠ []) (h : ∀ c ∈ path, isIdentifierPart c = true) :
    IsPath path where
  isPart_or_dot c hc := .inl (h c hc)
  exists_last := ⟨_, List.getLast?_eq_some_getLast hne, h _ (List.getLast_mem hne)⟩

theorem IsPath.append_dot (h : IsPath cs) (hpath : IsPath path) : IsPath (cs ++ '.' :: path) where
  isPart_or_dot c hc := by
    rcases List.mem_append.mp hc with hc | hc
    · exact h.isPart_or_dot c hc
    · rcases List.mem_cons.mp hc with rfl | hc
      · exact .inr rfl
      · exact hpath.isPart_or_dot c hc
  exists_last := by
    obtain ⟨c, hc, hpart⟩ := hpath.exists_last
    refine ⟨c, ?_, hpart⟩
    rw [List.getLast?_append, List.getLast?_cons, hc]
    rfl

theorem IsPath.not_mem (h : IsPath path) (hc : isIdentifierPart c = false) (hdot : c ≠ '.') :
    c ∉ path := by
  intro hmem
  rcases h.isPart_or_dot c hmem with hpart | hsame
  · rw [hc] at hpart
    cases hpart
  · exact hdot hsame

theorem IsPath.unpadded (h : IsPath path) : Text.Unpadded path := by
  refine .of_forall fun c hc ↦ ?_
  rcases h.isPart_or_dot c hc with hpart | rfl
  · rw [Bool.eq_false_iff]
    intro hblank
    rw [isIdentifierPart_eq_false_of_isBlank hblank] at hpart
    cases hpart
  · decide

/-- A text of characters that names go on with. -/
def IsWordText (word : String) : Prop :=
  word.toList ≠ [] ∧ ∀ c ∈ word.toList, isIdentifierPart c = true

theorem isWordText_keyword (word : Keyword) : IsWordText word.text := by
  obtain ⟨c, cs, htext, hc, hcs⟩ := Written.exists_text_keyword word
  rw [IsWordText, htext, List.forall_mem_cons]
  exact ⟨List.cons_ne_nil c cs, isIdentifierPart_of_isIdentifierStart hc, List.all_eq_true.mp hcs⟩

theorem IsWordText.isPath {word : String} (h : IsWordText word) : IsPath word.toList :=
  .of_parts h.1 h.2

theorem IsWordText.afterLast_eq {word : String} (h : IsWordText word) :
    afterLast '.' word.toList = word.toList :=
  afterLast_of_not_mem fun hdot ↦ absurd (h.2 '.' hdot) (by decide)

theorem isPath_keyword (word : Keyword) : IsPath word.text.toList :=
  (isWordText_keyword word).isPath

/-- Words with a dot in front of the others are the first word, a dot and the others. -/
theorem toList_intercalate_cons (word next : String) (words : List String) :
    (".".intercalate (word :: next :: words)).toList =
      word.toList ++ '.' :: (".".intercalate (next :: words)).toList := by
  rw [String.intercalate_cons_cons, String.toList_append, String.toList_append, List.append_assoc]
  rfl

theorem isPath_intercalate {word : String} {words : List String}
    (h : ∀ w ∈ word :: words, IsWordText w) :
    IsPath (".".intercalate (word :: words)).toList := by
  induction words generalizing word with
  | nil =>
    rw [String.intercalate_singleton]
    exact (h word List.mem_cons_self).isPath
  | cons next words ih =>
    obtain ⟨hword, hwords⟩ := List.forall_mem_cons.mp h
    rw [toList_intercalate_cons]
    exact hword.isPath.append_dot (ih hwords)

/-- Behind the last dot stands the last word. -/
theorem afterLast_intercalate {word : String} {words : List String}
    (h : ∀ w ∈ word :: words, IsWordText w) :
    afterLast '.' (".".intercalate (word :: words)).toList =
      ((word :: words).getLast (List.cons_ne_nil _ _)).toList := by
  induction words generalizing word with
  | nil =>
    rw [String.intercalate_singleton]
    exact (h word List.mem_cons_self).afterLast_eq
  | cons next words ih =>
    rw [toList_intercalate_cons, afterLast_append_cons, List.getLast_cons_cons]
    exact ih (List.forall_mem_cons.mp h).2

/-! ## Square brackets -/

/-- Pairs of square brackets. -/
def squares (rank : Nat) : List Char := (List.replicate rank ['[', ']']).flatten

theorem squares_succ (rank : Nat) : squares (rank + 1) = squares rank ++ ['[', ']'] := by
  rw [squares, List.replicate_succ', List.flatten_concat, squares]

theorem mem_squares {rank : Nat} (h : c ∈ squares rank) : c = '[' ∨ c = ']' := by
  obtain ⟨pair, hpair, hc⟩ := List.mem_flatten.mp h
  rw [List.eq_of_mem_replicate hpair] at hc
  simpa using hc

theorem unpadded_squares (rank : Nat) : Text.Unpadded (squares rank) := by
  refine .of_forall fun c hc ↦ ?_
  rcases mem_squares hc with rfl | rfl <;> decide

theorem dropBrackets?_concat (h : Text.Unpadded cs) :
    dropBrackets? (cs ++ ['[', ']']) = some cs := by
  have hrest : (cs.reverse.dropWhile Text.isBlank).reverse = cs := h.trimEnd_eq
  rw [dropBrackets?, List.reverse_append]
  exact congrArg some hrest

theorem dropBrackets?_of_getLast? (h : cs.getLast? = some c) (hc : c ≠ ']') :
    dropBrackets? cs = none := by
  have hhead : cs.reverse.head? = some c := by rw [List.head?_reverse, h]
  obtain ⟨rest, hrest⟩ := List.head?_eq_some_iff.mp hhead
  rw [dropBrackets?, hrest]
  split
  · rename_i hsame
    exact absurd (List.cons.inj hsame).1 hc
  · rfl

private theorem dropDots_of_getLast? (h : cs.getLast? = some c) (hc : c ≠ '.') :
    dropDots cs = cs := by
  have hhead : cs.reverse.head? = some c := by rw [List.head?_reverse, h]
  obtain ⟨rest, hrest⟩ := List.head?_eq_some_iff.mp hhead
  rw [dropDots, hrest]
  split
  · rename_i hsame
    exact absurd (List.cons.inj hsame).1 hc
  · rfl

theorem IsPath.ne_of_getLast? (h : IsPath path) (hc : isIdentifierPart c = false) :
    ∃ d, path.getLast? = some d ∧ d ≠ c := by
  obtain ⟨d, hlast, hpart⟩ := h.exists_last
  refine ⟨d, hlast, ?_⟩
  rintro rfl
  rw [hc] at hpart
  cases hpart

theorem IsPath.dropBrackets?_eq (h : IsPath path) : dropBrackets? path = none := by
  obtain ⟨d, hlast, hne⟩ := h.ne_of_getLast? (c := ']') (by decide)
  exact dropBrackets?_of_getLast? hlast hne

private theorem dropAllBrackets_of_path (h : IsPath path) (rank : Nat) :
    dropAllBrackets (path ++ squares rank) = path := by
  induction rank with
  | zero =>
    rw [show squares 0 = [] from rfl, List.append_nil, dropAllBrackets]
    split
    · rename_i hsome
      cases h.dropBrackets?_eq.symm.trans hsome
    · rfl
  | succ rank ih =>
    have hsome := dropBrackets?_concat (h.unpadded.append (unpadded_squares rank))
    rw [squares_succ, ← List.append_assoc, dropAllBrackets]
    split
    · rename_i hrest
      cases hsome.symm.trans hrest
      exact ih
    · rename_i hnone
      cases hnone.symm.trans hsome

/-! ## Commas -/

/-- How many brackets are open behind a character. -/
def depthBehind (depth : Int) (c : Char) : Int :=
  if c = '<' then depth + 1 else if c = '>' then depth - 1 else depth

theorem splitArguments_ne_nil (depth : Int) (cs : List Char) : splitArguments depth cs ≠ [] := by
  cases cs with
  | nil => exact List.cons_ne_nil _ _
  | cons c cs =>
    rw [splitArguments]
    split
    · exact List.cons_ne_nil _ _
    · dsimp only
      split <;> exact List.cons_ne_nil _ _

theorem splitArguments_cons {depth : Int} (h : ¬(c = ',' ∧ depth = 0)) :
    splitArguments depth (c :: cs) =
      (splitArguments (depthBehind depth c) cs).modifyHead (c :: ·) := by
  rw [splitArguments, if_neg h]
  dsimp only
  rw [← depthBehind]
  split
  · rename_i hnil
    exact absurd hnil (splitArguments_ne_nil _ cs)
  · rename_i hpieces
    rw [hpieces]
    rfl

private theorem splitArguments_comma (cs : List Char) :
    splitArguments 0 (',' :: cs) = [] :: splitArguments 0 cs := if_pos ⟨rfl, rfl⟩

/-- With at least `least` brackets open, no comma of the text separates arguments, and as many
brackets are open behind it. -/
def Unsplit (least : Nat) (cs : List Char) : Prop :=
  ∀ (depth : Nat) (rest : List Char), least ≤ depth →
    splitArguments depth (cs ++ rest) = (splitArguments depth rest).modifyHead (cs ++ ·)

namespace Unsplit

variable {least : Nat}

theorem mono {more : Nat} (h : Unsplit least cs) (hle : least ≤ more) : Unsplit more cs :=
  fun depth rest hmore ↦ h depth rest (hle.trans hmore)

theorem append (hcs : Unsplit least cs) (hds : Unsplit least ds) : Unsplit least (cs ++ ds) := by
  intro depth rest hleast
  rw [List.append_assoc, hcs depth _ hleast, hds depth _ hleast, List.modifyHead_modifyHead]
  congr 1
  funext piece
  exact (List.append_assoc ..).symm

theorem of_forall (h : ∀ c ∈ cs, c ≠ ',' ∧ c ≠ '<' ∧ c ≠ '>') : Unsplit least cs := by
  induction cs with
  | nil =>
    intro depth rest _
    exact (congrFun List.modifyHead_id _).symm
  | cons c cs ih =>
    intro depth rest hleast
    obtain ⟨hcomma, hopen, hclose⟩ := h c List.mem_cons_self
    have hdepth : depthBehind depth c = depth := by
      rw [depthBehind, if_neg hopen, if_neg hclose]
    rw [List.cons_append, splitArguments_cons fun hand ↦ hcomma hand.1, hdepth,
      ih (fun d hd ↦ h d (List.mem_cons_of_mem c hd)) depth rest hleast,
      List.modifyHead_modifyHead]
    rfl

private theorem comma : Unsplit 1 [','] := by
  intro depth rest hleast
  have hdepth : (depth : Int) ≠ 0 := by omega
  rw [List.singleton_append, splitArguments_cons fun hand ↦ hdepth hand.2]
  rfl

theorem angles (h : Unsplit 1 cs) : Unsplit least ('<' :: (cs ++ ['>'])) := by
  intro depth rest _
  have hopen : depthBehind (depth : Int) '<' = ((depth + 1 : Nat) : Int) := rfl
  have hclose : depthBehind ((depth + 1 : Nat) : Int) '>' = (depth : Int) := by
    rw [depthBehind, if_neg (by decide), if_pos rfl]
    omega
  rw [List.cons_append, List.append_assoc, List.singleton_append,
    splitArguments_cons fun hand ↦ absurd hand.1 (by decide), hopen,
    h _ _ (Nat.le_add_left 1 depth), splitArguments_cons fun hand ↦ absurd hand.1 (by decide),
    hclose, List.modifyHead_modifyHead, List.modifyHead_modifyHead]
  congr 1
  funext piece
  simp only [Function.comp_apply, List.cons_append, List.append_assoc, List.nil_append]

private theorem of_path (h : IsPath path) : Unsplit 0 path := by
  refine of_forall fun c hc ↦ ⟨?_, ?_, ?_⟩ <;> rintro rfl
  · exact h.not_mem (by decide) (by decide) hc
  · exact h.not_mem (by decide) (by decide) hc
  · exact h.not_mem (by decide) (by decide) hc

theorem splitArguments_eq (h : Unsplit 0 cs) : splitArguments 0 cs = [cs] := by
  have hwhole := h 0 [] (Nat.le_refl 0)
  rw [List.append_nil] at hwhole
  rw [show (0 : Int) = ((0 : Nat) : Int) from rfl, hwhole]
  exact congrArg (· :: []) (List.append_nil cs)

theorem splitArguments_append_comma (hcs : Unsplit 0 cs) (ds : List Char) :
    splitArguments 0 (cs ++ ',' :: ds) = cs :: splitArguments 0 ds := by
  rw [show (0 : Int) = ((0 : Nat) : Int) from rfl, hcs 0 _ (Nat.le_refl 0)]
  rw [show ((0 : Nat) : Int) = 0 from rfl, splitArguments_comma]
  exact congrArg (· :: splitArguments 0 ds) (List.append_nil cs)

theorem splitArguments_comma_eq (hcs : Unsplit 0 cs) (hds : Unsplit 0 ds) :
    splitArguments 0 (cs ++ ',' :: ds) = [cs, ds] := by
  rw [hcs.splitArguments_append_comma, hds.splitArguments_eq]

theorem append_comma (hcs : Unsplit 0 cs) (hds : Unsplit 1 ds) :
    Unsplit 1 (cs ++ ',' :: ' ' :: ds) := by
  have hseparator : Unsplit 1 ([','] ++ [' ']) := comma.append (.of_forall (by simp))
  exact (hcs.mono (Nat.zero_le 1)).append (hseparator.append hds)

end Unsplit

/-! ## The parts of a text -/

/-- The parts of the text of a type: a path, the text between angle brackets, if there are any, and
the number of its dimensions. -/
structure Parts where
  path : List Char
  arguments : Option (List Char)
  rank : Nat
  isPath : IsPath path

namespace Parts

variable (T : Parts)

/-- The arguments in their brackets, or nothing. -/
def group : List Char := T.arguments.elim [] fun cs ↦ '<' :: (cs ++ ['>'])

/-- The text of a type. -/
def chars : List Char := T.path ++ T.group ++ squares T.rank

/-- An array of a type. -/
def array : Parts := { T with rank := T.rank + 1 }

theorem chars_array : T.array.chars = T.chars ++ ['[', ']'] := by
  have hgroup : T.array.group = T.group := rfl
  rw [chars, chars, hgroup, array, squares_succ, List.append_assoc _ (squares T.rank)]

private theorem unpadded_group : Text.Unpadded T.group := by
  rw [group]
  cases T.arguments with
  | none => exact .of_forall nofun
  | some cs =>
    refine ⟨?_, fun c hc ↦ ?_⟩
    · rintro c ⟨rfl⟩
      decide
    · rw [Option.elim_some, List.getLast?_cons, List.getLast?_concat] at hc
      cases hc
      decide

theorem unpadded_chars : Text.Unpadded T.chars :=
  (T.isPath.unpadded.append T.unpadded_group).append (unpadded_squares T.rank)

theorem chars_ne_nil : T.chars ≠ [] := by
  obtain ⟨c, hc, -⟩ := T.isPath.exists_last
  rw [chars, Ne, List.append_eq_nil_iff, List.append_eq_nil_iff]
  rintro ⟨⟨hnil, -⟩, -⟩
  rw [hnil] at hc
  cases hc

theorem not_mem_squares {rank : Nat} (h : c ∉ ['[', ']']) : c ∉ squares rank := by
  intro hmem
  rcases mem_squares hmem with rfl | rfl <;> exact absurd h (by decide)

/-- Type arguments are dropped from their opening to their closing bracket. -/
theorem dropArguments_chars : dropArguments T.chars = T.path ++ squares T.rank := by
  have hopen : '<' ∉ T.path := T.isPath.not_mem (by decide) (by decide)
  rw [chars, group]
  cases T.arguments with
  | none =>
    have hnone : '<' ∉ T.path ++ squares T.rank := by
      rw [List.mem_append, not_or]
      exact ⟨hopen, not_mem_squares (by decide)⟩
    have hall : ∀ d ∈ T.path ++ squares T.rank, decide (d ≠ '<') = true := fun d hd ↦
      decide_eq_true fun hsame ↦ hnone (hsame ▸ hd)
    rw [Option.elim_none, List.append_nil, dropArguments, beforeArguments, fromArguments,
      List.takeWhile_eq_self_iff.mpr hall, List.dropWhile_eq_nil_iff.mpr hall]
    exact List.append_nil _
  | some cs =>
    have hclose : '>' ∉ squares T.rank := not_mem_squares (by decide)
    have hheld : holds '>' (cs ++ '>' :: squares T.rank) = true := by
      rw [holds_iff, List.mem_append]
      exact .inr List.mem_cons_self
    rw [Option.elim_some, List.append_assoc, List.cons_append, List.append_assoc,
      List.singleton_append, dropArguments, beforeArguments, fromArguments,
      takeWhile_ne_of_not_mem hopen, dropWhile_ne_of_not_mem hopen, List.drop_one, List.tail_cons,
      if_pos hheld, afterLast_append_cons, afterLast_of_not_mem hclose]

/-- **The base name** is the last word of the path. -/
theorem base_chars : base (String.ofList T.chars) = String.ofList (afterLast '.' T.path) := by
  have hdots : dropDots (T.path ++ squares T.rank) = T.path ++ squares T.rank := by
    cases T.rank with
    | zero =>
      obtain ⟨d, hlast, hne⟩ := T.isPath.ne_of_getLast? (c := '.') (by decide)
      rw [show squares 0 = [] from rfl, List.append_nil]
      exact dropDots_of_getLast? hlast hne
    | succ rank =>
      have hlast : (T.path ++ squares (rank + 1)).getLast? = some ']' := by
        rw [squares_succ, ← List.append_assoc, List.getLast?_append]
        rfl
      exact dropDots_of_getLast? hlast (by decide)
  have hunpadded := T.isPath.unpadded.append (unpadded_squares T.rank)
  rw [base, String.toList_ofList, T.unpadded_chars.trim_eq, dropArguments_chars, hunpadded.trim_eq,
    hdots, dropAllBrackets_of_path T.isPath]

/-- **The arguments** are found between the brackets, whatever dimensions come behind them. -/
theorem argumentTexts_chars :
    argumentTexts T.chars = T.arguments.elim [] fun cs ↦
      (((splitArguments 0 cs).map Text.trim).map wildcardBound).filter (!·.isEmpty) := by
  have hopen : '<' ∉ T.path := T.isPath.not_mem (by decide) (by decide)
  rw [chars, group]
  cases T.arguments with
  | none =>
    have hnone : ¬holds '<' (T.path ++ [] ++ squares T.rank) = true := by
      rw [holds_iff, List.append_nil, List.mem_append, not_or]
      exact ⟨hopen, not_mem_squares (by decide)⟩
    rw [Option.elim_none, Option.elim_none, argumentTexts, Bool.eq_false_iff.mpr hnone,
      Bool.false_and]
    rfl
  | some cs =>
    have hclose : '>' ∉ squares T.rank := not_mem_squares (by decide)
    have hheld : holds '<' (T.path ++ '<' :: (cs ++ '>' :: squares T.rank)) = true := by
      rw [holds_iff, List.mem_append]
      exact .inr List.mem_cons_self
    have hclosed : holds '>' (cs ++ '>' :: squares T.rank) = true := by
      rw [holds_iff, List.mem_append]
      exact .inr List.mem_cons_self
    rw [Option.elim_some, Option.elim_some, List.append_assoc, List.cons_append, List.append_assoc,
      List.singleton_append, argumentTexts, fromArguments, dropWhile_ne_of_not_mem hopen,
      List.drop_one, List.tail_cons, hheld, hclosed, Bool.and_true, if_pos rfl,
      beforeLast_append_cons hclose]

/-- Without dimensions there are no square brackets at the end. -/
theorem dropBrackets?_chars (h : T.rank = 0) : dropBrackets? T.chars = none := by
  rw [chars, group, h, show squares 0 = [] from rfl, List.append_nil]
  cases T.arguments with
  | none =>
    rw [Option.elim_none, List.append_nil]
    exact T.isPath.dropBrackets?_eq
  | some cs =>
    have hlast : (T.path ++ '<' :: (cs ++ ['>'])).getLast? = some '>' := by
      rw [List.getLast?_append, List.getLast?_cons, List.getLast?_concat]
      rfl
    exact dropBrackets?_of_getLast? hlast (by decide)

theorem dropBrackets?_chars_array : dropBrackets? T.array.chars = some T.chars := by
  rw [chars_array]
  exact dropBrackets?_concat T.unpadded_chars

theorem element?_array :
    element? (String.ofList T.array.chars) = some (String.ofList T.chars) := by
  rw [element?, String.toList_ofList, T.array.unpadded_chars.trimEnd_eq, dropBrackets?_chars_array]

theorem unsplit_chars (h : ∀ cs ∈ T.arguments, Unsplit 1 cs) : Unsplit 0 T.chars := by
  have hgroup : Unsplit 0 T.group := by
    rw [group]
    cases hsome : T.arguments with
    | none => exact .of_forall nofun
    | some cs => exact .angles (h cs hsome)
  refine ((Unsplit.of_path T.isPath).append hgroup).append (.of_forall fun c hc ↦ ?_)
  rcases mem_squares hc with rfl | rfl <;> decide

/-- A type is not taken for the bound of a wildcard, unless it is the word alone. -/
theorem wildcardBound_chars (hextends : T.chars ≠ "extends".toList)
    (hsuper : T.chars ≠ "super".toList) : wildcardBound T.chars = T.chars := by
  have hspace : ' ' ∉ T.path := T.isPath.not_mem (by decide) (by decide)
  have hne {word : List Char} (hword : '<' ∉ word) :
      T.chars ≠ word → T.chars.takeWhile (· ≠ ' ') ≠ word := by
    rw [chars, group]
    cases T.arguments with
    | none =>
      -- without arguments there is no space, so the first word is the whole text
      have hall : ∀ d ∈ T.path ++ squares T.rank, decide (d ≠ ' ') = true := by
        intro d hd
        refine decide_eq_true ?_
        rintro rfl
        exact (List.mem_append.mp hd).elim hspace (not_mem_squares (by decide))
      rw [Option.elim_none, List.append_nil, List.takeWhile_eq_self_iff.mpr hall]
      exact id
    | some cs =>
      -- the first word goes on with an angle bracket
      have hpath : ∀ d ∈ T.path, decide (d ≠ ' ') = true := fun d hd ↦
        decide_eq_true fun hsame ↦ hspace (hsame ▸ hd)
      rw [Option.elim_some, List.append_assoc, List.cons_append,
        List.takeWhile_append_of_pos hpath, List.takeWhile_cons_of_pos (by decide)]
      rintro - rfl
      exact hword (List.mem_append_right _ List.mem_cons_self)
  exact if_neg (not_or.mpr ⟨hne (by decide) hextends, hne (by decide) hsuper⟩)

end Parts

/-! ## Arguments -/

/-- The text of a type argument: a type that is not taken for a bound, or the bound of a wildcard
with a word and a blank in front of it. -/
inductive IsArgument (T : Parts) : List Char → Prop
  | exact (isNoBound : wildcardBound T.chars = T.chars) : IsArgument T T.chars
  | bound {word : List Char} (isBoundWord : word = "extends".toList ∨ word = "super".toList) :
    IsArgument T (word ++ ' ' :: T.chars)

namespace IsArgument

variable {T : Parts}

theorem unpadded (h : IsArgument T cs) : Text.Unpadded cs := by
  cases h with
  | exact _ => exact T.unpadded_chars
  | bound hword =>
    have hfull : ∀ word, word = "extends".toList ∨ word = "super".toList →
        word ≠ [] ∧ Text.Unpadded word := by
      rintro word (rfl | rfl) <;> refine ⟨by decide, ?_, ?_⟩ <;> rintro c ⟨rfl⟩ <;> decide
    obtain ⟨hne, hunpadded⟩ := hfull _ hword
    exact hunpadded.append_cons hne T.unpadded_chars T.chars_ne_nil ' '

theorem unsplit (h : IsArgument T cs) (hT : Unsplit 0 T.chars) : Unsplit 0 cs := by
  cases h with
  | exact _ => exact hT
  | bound hword =>
    have hall : ∀ word, word = "extends".toList ∨ word = "super".toList →
        word.all (fun c ↦ c ≠ ',' ∧ c ≠ '<' ∧ c ≠ '>') = true := by
      rintro word (rfl | rfl) <;> decide
    have hspace : Unsplit 0 [' '] := .of_forall (by simp)
    refine Unsplit.append (.of_forall fun c hc ↦ ?_) (hspace.append hT)
    exact of_decide_eq_true (List.all_eq_true.mp (hall _ hword) c hc)

theorem wildcardBound_eq (h : IsArgument T cs) : wildcardBound cs = T.chars := by
  cases h with
  | exact isNoBound => exact isNoBound
  | bound hword =>
    have hspace : ∀ word, word = "extends".toList ∨ word = "super".toList → ' ' ∉ word := by
      rintro word (rfl | rfl) <;> decide
    rw [wildcardBound, takeWhile_ne_of_not_mem (hspace _ hword),
      dropWhile_ne_of_not_mem (hspace _ hword), if_pos hword, List.drop_one, List.tail_cons,
      T.unpadded_chars.trim_eq]

/-- None of the arguments is left out as empty. -/
theorem filter_map_wildcardBound {Ts : List Parts} {texts : List (List Char)}
    (h : List.Forall₂ IsArgument Ts texts) :
    (texts.map wildcardBound).filter (!·.isEmpty) = Ts.map Parts.chars := by
  induction h with
  | nil => rfl
  | @cons T cs Ts texts hT _ ih =>
    have hfull : (!T.chars.isEmpty) = true := by
      rw [Bool.not_eq_true', List.isEmpty_eq_false_iff]
      exact T.chars_ne_nil
    rw [List.map_cons, List.map_cons, hT.wildcardBound_eq,
      List.filter_cons_of_pos (p := fun cs : List Char ↦ !cs.isEmpty) hfull, ih]

end IsArgument

end DeclaredType

end ClassSchema

import ClassSchema.Proofs.Schema.DeclaredType
import Mathlib.Data.List.Forall2

/-!
# Generic types as texts

The grammar of the texts that declared types have: a primitive type, a path of words, a path with
type arguments, or an array, where an argument is a type or, with a word in front, the bound of a
wildcard. A text is all that is left of a type in a record, so whatever is asked of the type has to
be found in the text again.

It is found by looking for brackets and commas. That this gives the parts of the type rests on one
decomposition, `toList_text`: a text has `Parts`, which are the path, the text of the arguments and
the number of dimensions. Every comma that belongs to an argument is inside of further brackets, so
the arguments fall apart where they were put together.

Words are not told from reserved words here, since the text does not tell them apart either. The one
restriction is that the first word of an argument is not `extends` or `super`: with a blank behind
it, it could not be told from the word in front of a bound.
-/

namespace ClassSchema

namespace Generic

open DeclaredType (IsArgument IsPath IsWordText Parts Unsplit isPath_keyword isWordText_keyword
  splitArguments)

/-! ## The grammar -/

/-- A word: a character that a word can start with, and characters that it can go on with. -/
structure Word where
  head : Char
  tail : List Char
  isIdentifierStart_head : isIdentifierStart head = true
  isIdentifierPart_of_mem_tail : ∀ c ∈ tail, isIdentifierPart c = true

/-- The characters of a word. -/
def Word.chars (w : Word) : List Char := w.head :: w.tail

/-- The text of a word. -/
def Word.text (w : Word) : String := String.ofList w.chars

/-- Words with dots between them. -/
structure Path where
  first : Word
  others : List Word

/-- The words of a path. -/
def Path.words (p : Path) : List Word := p.first :: p.others

/-- The text of a path. -/
def Path.text (p : Path) : String := ".".intercalate (p.words.map Word.text)

/-- The last word of a path. -/
def Path.last (p : Path) : Word := p.words.getLast (List.cons_ne_nil _ _)

/-- The words in front of the bound of a wildcard. -/
def boundWords : List String := ["extends", "super"]

mutual

/-- A type. `inside` says whether it is an argument of another type. -/
inductive Term : Bool → Type
  | primitive {inside : Bool} (word : Keyword) (isPrimitive : word.isPrimitiveType = true) :
    Term inside
  | named {inside : Bool} (path : Path)
    (isNoBound : inside = true → path.first.text ∉ boundWords) : Term inside
  | applied {inside : Bool} (path : Path)
    (isNoBound : inside = true → path.first.text ∉ boundWords) (arguments : Arguments) :
    Term inside
  | array {inside : Bool} (element : Term inside) : Term inside

/-- An argument of a type: a type, or a wildcard with a bound. -/
inductive Argument : Type
  | exact (type : Term true)
  | upper (bound : Term true)
  | lower (bound : Term true)

/-- The arguments of a type, at least one. -/
inductive Arguments : Type
  | last (argument : Argument)
  | more (argument : Argument) (others : Arguments)

end

mutual

/-- The text of a type. -/
def Term.text : {inside : Bool} → Term inside → String
  | _, .primitive word _ => word.text
  | _, .named path _ => path.text
  | _, .applied path _ arguments => path.text ++ "<" ++ arguments.text ++ ">"
  | _, .array element => element.text ++ "[]"

/-- The text of an argument. -/
def Argument.text : Argument → String
  | .exact type => type.text
  | .upper bound => "extends " ++ bound.text
  | .lower bound => "super " ++ bound.text

/-- The text of arguments. -/
def Arguments.text : Arguments → String
  | .last argument => argument.text
  | .more argument others => argument.text ++ ", " ++ others.text

end

/-- The arguments in order. -/
def Arguments.toList : Arguments → List Argument
  | .last argument => [argument]
  | .more argument others => argument :: others.toList

/-- An argument without the word in front of its bound. -/
def Argument.type : Argument → Term true
  | .exact type | .upper type | .lower type => type

namespace Term

variable {inside : Bool}

/-- The last word of the path, or the primitive type. -/
def baseName : {inside : Bool} → Term inside → String
  | _, primitive word _ => word.text
  | _, named path _ | _, applied path _ _ => path.last.text
  | _, array element => element.baseName

/-- The first word of the path, or the primitive type. -/
def firstWord : {inside : Bool} → Term inside → String
  | _, primitive word _ => word.text
  | _, named path _ | _, applied path _ _ => path.first.text
  | _, array element => element.firstWord

/-- The type arguments, if there are any. -/
def arguments? : {inside : Bool} → Term inside → Option Arguments
  | _, primitive _ _ | _, named _ _ => none
  | _, applied _ _ arguments => some arguments
  | _, array element => element.arguments?

/-- The type arguments in order. -/
def arguments (T : Term inside) : List Argument := T.arguments?.elim [] Arguments.toList

end Term

/-! ## Paths -/

theorem Word.isWordText (w : Word) : IsWordText w.text := by
  rw [IsWordText, Word.text, String.toList_ofList, Word.chars, List.forall_mem_cons]
  exact ⟨List.cons_ne_nil _ _, isIdentifierPart_of_isIdentifierStart w.isIdentifierStart_head,
    w.isIdentifierPart_of_mem_tail⟩

namespace Path

private theorem isWordText_of_mem (p : Path) : ∀ w ∈ p.words.map Word.text, IsWordText w :=
  List.forall_mem_map.mpr fun w _ ↦ w.isWordText

theorem isPath (p : Path) : IsPath p.text.toList :=
  DeclaredType.isPath_intercalate p.isWordText_of_mem

/-- Behind the last dot of a path stands its last word. -/
theorem afterLast_text (p : Path) :
    DeclaredType.afterLast '.' p.text.toList = p.last.text.toList := by
  have hlast : (p.words.map Word.text).getLast (List.cons_ne_nil _ _) = p.last.text :=
    List.getLast_map ..
  rw [← hlast]
  exact DeclaredType.afterLast_intercalate p.isWordText_of_mem

theorem takeWhile_text (p : Path) {rest : List Char}
    (hrest : ∀ c ∈ rest.head?, isIdentifierPart c = false) :
    (p.text.toList ++ rest).takeWhile isIdentifierPart = p.first.text.toList := by
  obtain ⟨first, others⟩ := p
  have hfirst := first.isWordText.2
  cases others with
  | nil =>
    rw [text, words, List.map_singleton, String.intercalate_singleton]
    exact Lexeme.takeWhile_append_eq hfirst hrest
  | cons next others =>
    rw [text, words, List.map_cons, List.map_cons, DeclaredType.toList_intercalate_cons,
      List.append_assoc]
    refine Lexeme.takeWhile_append_eq hfirst ?_
    rintro c ⟨rfl⟩
    decide

end Path

/-! ## The parts of a text -/

namespace Term

variable {inside : Bool}

/-- The parts of the text of a type. -/
def parts : {inside : Bool} → Term inside → Parts
  | _, primitive word _ => ⟨word.text.toList, none, 0, isPath_keyword word⟩
  | _, named path _ => ⟨path.text.toList, none, 0, path.isPath⟩
  | _, applied path _ arguments =>
    ⟨path.text.toList, some arguments.text.toList, 0, path.isPath⟩
  | _, array element => element.parts.array

/-- **The text of a type** is its path, its arguments in brackets and its dimensions. -/
theorem toList_text : {inside : Bool} → (T : Term inside) → T.text.toList = T.parts.chars
  | _, primitive _ _ | _, named _ _ => by
    simp [text, parts, Parts.chars, Parts.group, DeclaredType.squares]
  | _, applied _ _ _ => by simp [text, parts, Parts.chars, Parts.group, DeclaredType.squares]
  | _, array element => by
    rw [text, String.toList_append, element.toList_text, parts, Parts.chars_array]
    rfl

theorem ofList_chars_parts (T : Term inside) : String.ofList T.parts.chars = T.text := by
  rw [← toList_text, String.ofList_toList]

private theorem afterLast_path_parts : {inside : Bool} → (T : Term inside) →
    DeclaredType.afterLast '.' T.parts.path = T.baseName.toList
  | _, primitive word _ => (isWordText_keyword word).afterLast_eq
  | _, named path _ | _, applied path _ _ => path.afterLast_text
  | _, array element => element.afterLast_path_parts

private theorem arguments_parts : {inside : Bool} → (T : Term inside) →
    T.parts.arguments = T.arguments?.map (·.text.toList)
  | _, primitive _ _ | _, named _ _ | _, applied _ _ _ => rfl
  | _, array element => element.arguments_parts

private theorem base_text (T : Term inside) : DeclaredType.base T.text = T.baseName := by
  rw [← ofList_chars_parts, Parts.base_chars, afterLast_path_parts, String.ofList_toList]

private theorem element?_text_array (T : Term inside) :
    DeclaredType.element? T.array.text = some T.text := by
  rw [← ofList_chars_parts, ← ofList_chars_parts, parts, Parts.element?_array]

/-- The text of a type starts with its first word. -/
theorem takeWhile_text {rest : List Char} (hrest : ∀ c ∈ rest.head?, isIdentifierPart c = false) :
    {inside : Bool} → (T : Term inside) →
      (T.text.toList ++ rest).takeWhile isIdentifierPart = T.firstWord.toList
  | _, primitive word _ =>
    Lexeme.takeWhile_append_eq (isWordText_keyword word).2 hrest
  | _, named path _ => path.takeWhile_text hrest
  | _, applied path _ arguments => by
    rw [text, String.toList_append, String.toList_append, String.toList_append, List.append_assoc,
      List.append_assoc, List.append_assoc]
    refine path.takeWhile_text ?_
    rintro c ⟨rfl⟩
    decide
  | _, array element => by
    rw [text, String.toList_append, List.append_assoc]
    refine takeWhile_text ?_ element
    rintro c ⟨rfl⟩
    decide

private theorem firstWord_not_mem : (T : Term true) → T.firstWord ∉ boundWords
  | primitive word isPrimitive => by
    revert isPrimitive
    cases word <;> decide
  | named _ isNoBound | applied _ isNoBound _ => isNoBound rfl
  | array element => element.firstWord_not_mem

theorem wildcardBound_text (T : Term true) :
    DeclaredType.wildcardBound T.text.toList = T.text.toList := by
  have hne (word : String) (hmem : word ∈ boundWords)
      (hpart : word.toList.takeWhile isIdentifierPart = word.toList) :
      T.text.toList ≠ word.toList := by
    intro hsame
    have hfirst := takeWhile_text (nofun : ∀ c ∈ ([] : List Char).head?, _) T
    rw [List.append_nil, hsame, hpart] at hfirst
    exact T.firstWord_not_mem (String.toList_injective hfirst ▸ hmem)
  have hextends := hne "extends" (by decide) (by decide +kernel)
  have hsuper := hne "super" (by decide) (by decide +kernel)
  rw [toList_text] at hextends hsuper ⊢
  exact T.parts.wildcardBound_chars hextends hsuper

end Term

theorem Argument.isArgument (a : Argument) : IsArgument a.type.parts a.text.toList := by
  cases a with
  | exact type =>
    have hself := type.wildcardBound_text
    rw [Term.toList_text] at hself
    rw [text, Term.toList_text]
    exact .exact hself
  | upper bound =>
    rw [text, String.toList_append, Term.toList_text]
    exact .bound (.inl rfl)
  | lower bound =>
    rw [text, String.toList_append, Term.toList_text]
    exact .bound (.inr rfl)

/-! ## Commas -/

mutual

/-- No comma of a type separates arguments of another type. -/
theorem Term.unsplit : {inside : Bool} → (T : Term inside) → Unsplit 0 T.parts.chars
  | _, .primitive _ _ | _, .named _ _ => Parts.unsplit_chars _ nofun
  | _, .applied _ _ arguments => Parts.unsplit_chars _ (by rintro _ ⟨rfl⟩; exact arguments.unsplit)
  | _, .array element => by
    rw [Term.parts, Parts.chars_array]
    exact element.unsplit.append (.of_forall (by simp))

/-- No comma of an argument separates arguments. -/
theorem Argument.unsplit : (a : Argument) → Unsplit 0 a.text.toList
  | .exact type => (Argument.exact type).isArgument.unsplit type.unsplit
  | .upper bound => (Argument.upper bound).isArgument.unsplit bound.unsplit
  | .lower bound => (Argument.lower bound).isArgument.unsplit bound.unsplit

/-- Inside of brackets no comma separates arguments. -/
theorem Arguments.unsplit : (as : Arguments) → Unsplit 1 as.text.toList
  | .last argument => argument.unsplit.mono (Nat.zero_le 1)
  | .more argument others => by
    rw [Arguments.text, String.toList_append, String.toList_append, List.append_assoc]
    exact argument.unsplit.append_comma others.unsplit

end

theorem map_trim_splitArguments (cs : List Char) :
    (splitArguments 0 (' ' :: cs)).map Text.trim = (splitArguments 0 cs).map Text.trim := by
  rw [DeclaredType.splitArguments_cons (by decide)]
  obtain ⟨piece, pieces, hpieces⟩ :=
    List.exists_cons_of_ne_nil (DeclaredType.splitArguments_ne_nil 0 cs)
  have hdepth : DeclaredType.depthBehind 0 ' ' = 0 := by decide
  have htrim : Text.trim (' ' :: piece) = Text.trim piece := by
    rw [Text.trim, Text.trimStart, List.dropWhile_cons_of_pos (by decide)]
    rfl
  rw [hdepth, hpieces, List.modifyHead_cons, List.map_cons, List.map_cons, htrim]

/-- The pieces between the commas outside of all brackets are the arguments. -/
theorem Arguments.map_trim_splitArguments : (as : Arguments) →
    (splitArguments 0 as.text.toList).map Text.trim = as.toList.map (·.text.toList)
  | .last argument => by
    have hpiece : splitArguments 0 (Arguments.last argument).text.toList =
        [argument.text.toList] := argument.unsplit.splitArguments_eq
    rw [hpiece, List.map_singleton, argument.isArgument.unpadded.trim_eq]
    rfl
  | .more argument others => by
    have htext : (Arguments.more argument others).text.toList =
        argument.text.toList ++ ',' :: (' ' :: others.text.toList) := by
      rw [text, String.toList_append, String.toList_append, List.append_assoc]
      rfl
    rw [htext, argument.unsplit.splitArguments_append_comma, List.map_cons,
      argument.isArgument.unpadded.trim_eq, Generic.map_trim_splitArguments,
      others.map_trim_splitArguments]
    rfl

/-! ## What is found in a text -/

namespace Term

variable {inside : Bool}

private theorem argumentTexts_text (T : Term inside) :
    DeclaredType.argumentTexts T.text.toList = T.arguments.map (·.type.text.toList) := by
  rw [toList_text, Parts.argumentTexts_chars, arguments_parts, arguments]
  cases T.arguments? with
  | none => rfl
  | some as =>
    have harguments : List.Forall₂ IsArgument (as.toList.map (·.type.parts))
        (as.toList.map (·.text.toList)) :=
      List.forall₂_map_left_iff.mpr (List.forall₂_map_right_iff.mpr
        (List.forall₂_same.mpr fun a _ ↦ a.isArgument))
    rw [Option.map_some, Option.elim_some, Option.elim_some, as.map_trim_splitArguments,
      IsArgument.filter_map_wildcardBound harguments, List.map_map]
    exact List.map_congr_left fun a _ ↦ (Term.toList_text a.type).symm

/-- **The text of a type tells its parts.** The type arguments that are found in it are those of the
type, in order and without the words in front of bounds, however many dimensions there are; the base
name is the last word of the path, or the primitive type; and the elements of an array are the type
in front of its brackets. -/
theorem decode_text {inside : Bool} (T : Term inside) :
    DeclaredType.arguments T.text = T.arguments.map (·.type.text) ∧
      DeclaredType.base T.text = T.baseName ∧
      DeclaredType.element? T.array.text = some T.text := by
  refine ⟨?_, T.base_text, T.element?_text_array⟩
  rw [DeclaredType.arguments, argumentTexts_text, List.map_map]
  exact List.map_congr_left fun a _ ↦ String.ofList_toList

example : DeclaredType.arguments "Map<extends a.B, List<C, super D>[]>[][]" =
    ["a.B", "List<C, super D>[]"] := by
  decide +kernel

end Term

end Generic

end ClassSchema

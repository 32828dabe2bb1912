import ClassSchema.Proofs.Schema.DeclaredType
import ClassSchema.Proofs.Written.TypeTerm

/-!
# Written types and their texts

The text of a type that was written has the parts of the type: its path, its arguments and its
dimensions, so these are found again in the text. A name is no reserved word, so no type is taken
for a wildcard by the word `extends`; but `super` is a name like any other, and a type that is this
name alone is taken for a wildcard without a bound. The texts of `Generic.Term` have the same parts,
but neither grammar holds the other: there a word can be a reserved one, and here an argument can be
named `super`.
-/

namespace ClassSchema

namespace Written

open DeclaredType (IsArgument IsPath IsWordText Parts Unsplit isPath_keyword isWordText_keyword)

private theorem Name.isWordText (n : Name) : IsWordText n.text := by
  rw [IsWordText, Name.text, String.toList_ofList, List.forall_mem_cons]
  exact ⟨List.cons_ne_nil _ _, isIdentifierPart_of_isIdentifierStart n.isIdentifierStart_head,
    List.all_eq_true.mp n.all_isIdentifierPart_tail⟩

private theorem Name.text_ne_keyword (n : Name) (word : Keyword) : n.text ≠ word.text := by
  intro hsame
  have hnone : Keyword.ofText? n.text = none := n.ofText?_eq_none
  have hsome : Keyword.ofText? word.text = some word := by cases word <;> decide
  rw [hsame, hsome] at hnone
  cases hnone

private theorem QualifiedName.text_eq (q : QualifiedName) :
    q.text = ".".intercalate ((q.head :: q.tail).map Name.text) :=
  congrArg (fun texts ↦ ".".intercalate (q.head.text :: texts)) List.map_map

private theorem QualifiedName.isWordText_of_mem (q : QualifiedName) :
    ∀ w ∈ (q.head :: q.tail).map Name.text, IsWordText w :=
  List.forall_mem_map.mpr fun n _ ↦ n.isWordText

theorem QualifiedName.isPath (q : QualifiedName) : IsPath q.text.toList := by
  rw [text_eq]
  exact DeclaredType.isPath_intercalate q.isWordText_of_mem

/-- Behind the last dot of a name stands its last part. -/
theorem QualifiedName.afterLast_text (q : QualifiedName) :
    DeclaredType.afterLast '.' q.text.toList = q.last.text.toList := by
  have hlast : ((q.head :: q.tail).map Name.text).getLast (List.cons_ne_nil _ _) = q.last.text := by
    rw [List.getLast_map]
    exact congrArg Name.text
      (Option.some.inj ((List.getLast?_eq_some_getLast _).symm.trans List.getLast?_cons))
  rw [text_eq, ← hlast]
  exact DeclaredType.afterLast_intercalate q.isWordText_of_mem

namespace TypeTerm

/-- The base name of a type. -/
def baseName : TypeTerm → String
  | primitive word _ => word.text
  | named name | applied name _ => name.last.text
  | array element => element.baseName

/-- The elements of an array. -/
def element? : TypeTerm → Option TypeTerm
  | array element => some element
  | primitive .. | named _ | applied .. => none

/-- The parts of the text of a type. -/
def parts : TypeTerm → Parts
  | primitive word _ => ⟨word.text.toList, none, 0, isPath_keyword word⟩
  | named name => ⟨name.text.toList, none, 0, name.isPath⟩
  | applied name arguments => ⟨name.text.toList, some arguments.text.toList, 0, name.isPath⟩
  | array element => element.parts.array

theorem toList_text : (type : TypeTerm) → type.text.toList = type.parts.chars
  | primitive _ _ | named _ => by
    simp [text, parts, Parts.chars, Parts.group, DeclaredType.squares]
  | applied _ _ => by simp [text, parts, Parts.chars, Parts.group, DeclaredType.squares]
  | array element => by
    rw [text, String.toList_append, element.toList_text, parts, Parts.chars_array]
    rfl

theorem ofList_chars_parts (type : TypeTerm) : String.ofList type.parts.chars = type.text := by
  rw [← toList_text, String.ofList_toList]

private theorem afterLast_path_parts : (type : TypeTerm) →
    DeclaredType.afterLast '.' type.parts.path = type.baseName.toList
  | primitive word _ => (isWordText_keyword word).afterLast_eq
  | named name | applied name _ => name.afterLast_text
  | array element => element.afterLast_path_parts

/-- **The base name of a type is found in its text.** -/
theorem base_text (type : TypeTerm) : DeclaredType.base type.text = type.baseName := by
  rw [← ofList_chars_parts, Parts.base_chars, afterLast_path_parts, String.ofList_toList]

private theorem dropBrackets?_chars_parts (type : TypeTerm) :
    DeclaredType.dropBrackets? type.parts.chars = type.element?.map (·.parts.chars) := by
  cases type with
  | primitive word isPrimitive => exact Parts.dropBrackets?_chars _ rfl
  | named name => exact Parts.dropBrackets?_chars _ rfl
  | applied name arguments => exact Parts.dropBrackets?_chars _ rfl
  | array element => exact element.parts.dropBrackets?_chars_array

theorem endsInBrackets_text (type : TypeTerm) :
    DeclaredType.endsInBrackets type.text = type.element?.isSome := by
  rw [DeclaredType.endsInBrackets, toList_text, type.parts.unpadded_chars.trimEnd_eq,
    dropBrackets?_chars_parts, Option.isSome_map]

private theorem baseName_ne (type : TypeTerm) : type.baseName ≠ "extends" := by
  cases type with
  | primitive word isPrimitive =>
    revert isPrimitive
    cases word <;> decide
  | named name | applied name _ => exact name.last.text_ne_keyword .extendsWord
  | array element => exact element.baseName_ne

/-- A type is an argument, unless it is the name `super`. -/
theorem isArgument {type : TypeTerm} (h : type.text ≠ "super") :
    IsArgument type.parts type.text.toList := by
  have hextends : type.text ≠ "extends" := by
    intro hsame
    have hbase := type.base_text
    rw [hsame] at hbase
    exact type.baseName_ne (hbase.symm.trans (by decide +kernel))
  rw [toList_text]
  refine .exact (type.parts.wildcardBound_chars ?_ ?_) <;> rw [← toList_text]
  · exact fun hsame ↦ hextends (String.toList_injective hsame)
  · exact fun hsame ↦ h (String.toList_injective hsame)

end TypeTerm

mutual

/-- A type is not split. -/
theorem TypeTerm.unsplit : (type : TypeTerm) → Unsplit 0 type.parts.chars
  | .primitive _ _ | .named _ => Parts.unsplit_chars _ nofun
  | .applied _ arguments => Parts.unsplit_chars _ (by rintro _ ⟨rfl⟩; exact arguments.unsplit)
  | .array element => by
    rw [TypeTerm.parts, Parts.chars_array]
    exact element.unsplit.append (.of_forall (by simp))

/-- Type arguments are not split inside of brackets. -/
theorem TypeArguments.unsplit : (arguments : TypeArguments) → Unsplit 1 arguments.text.toList
  | .last type => by
    rw [TypeArguments.text, TypeTerm.toList_text]
    exact type.unsplit.mono (Nat.zero_le 1)
  | .more type others => by
    rw [TypeArguments.text, String.toList_append, String.toList_append, List.append_assoc,
      TypeTerm.toList_text]
    exact type.unsplit.append_comma others.unsplit

end

end Written

end ClassSchema

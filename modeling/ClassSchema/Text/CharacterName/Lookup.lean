import ClassSchema.Text.CharacterName.Abugidas
import ClassSchema.Text.CharacterName.Additions
import ClassSchema.Text.CharacterName.Aliases
import ClassSchema.Text.CharacterName.Alphabets
import ClassSchema.Text.CharacterName.Ancient
import ClassSchema.Text.CharacterName.EastAsia
import ClassSchema.Text.CharacterName.Form
import ClassSchema.Text.CharacterName.Hangul
import ClassSchema.Text.CharacterName.Hieroglyphs
import ClassSchema.Text.CharacterName.Notations
import ClassSchema.Text.CharacterName.Pictographs
import ClassSchema.Text.CharacterName.Presentation
import ClassSchema.Text.CharacterName.Punctuation
import ClassSchema.Text.CharacterName.Shapes
import ClassSchema.Text.RangeTable

/-!
# The character of a name

Characters have the names of Unicode 15. Most of them are in tables, where the case of letters does
not matter. The names of Hangul syllables and of ideographs follow from their code points; those of
syllables and unified ideographs are in capital letters only.
-/

namespace ClassSchema.Text.CharacterName

/-- The tables of names. -/
def tables : List (List String) :=
  [alphabets, abugidas, additions, punctuation, shapes, eastAsia, presentation, ancient,
   hieroglyphs, notations, pictographs, aliases]

/-- The code points of the unified ideographs. -/
def unifiedIdeographs : List (Nat × Nat) :=
  [(0x3400, 0x4DBF), (0x4E00, 0x9FFF), (0x20000, 0x2A6DF), (0x2A700, 0x2B739), (0x2B740, 0x2B81D),
   (0x2B820, 0x2CEA1), (0x2CEB0, 0x2EBE0), (0x30000, 0x3134A), (0x31350, 0x323AF)]

/-- The starts of names that end in the code point, with the code points that are named so. -/
def numbered : List (String × List (Nat × Nat)) :=
  [("CJK COMPATIBILITY IDEOGRAPH-", [(0xF900, 0xFA6D), (0xFA70, 0xFAD9), (0x2F800, 0x2FA1D)]),
   ("KHITAN SMALL SCRIPT CHARACTER-", [(0x18B00, 0x18CD5)]),
   ("NUSHU CHARACTER-", [(0x1B170, 0x1B2FB)])]

/-- What follows `front` in a name that starts with it. -/
def behind? (front : String) (name : List Char) : Option (List Char) :=
  if front.toList.isPrefixOf name then some (name.drop front.length) else none

/-- The number in capital hexadecimal digits if it lies in one of some ranges. -/
def numberIn? (ranges : List (Nat × Nat)) (digits : List Char) : Option Nat :=
  let code := digitsValue 16 digits
  if digits.all (fun c ↦ isHexDigit c && !c.isLower) && inRanges code ranges then some code
  else none

/-- The unified ideograph of a number with four or five digits. -/
def unified? (digits : List Char) : Option Nat :=
  if digits.length = 4 || digits.length = 5 then numberIn? unifiedIdeographs digits else none

/-- The character whose name ends in its code point, without zeros in front. -/
def numbered? (name : List Char) : Option Nat :=
  numbered.findSome? fun (front, ranges) ↦ do
    let digits ← behind? front name
    if digits.head? = some '0' then none else numberIn? ranges digits

/-- The code point of the character of a name. -/
def codePoint? (name : List Char) : Option Nat :=
  match behind? "HANGUL SYLLABLE " name, behind? "CJK UNIFIED IDEOGRAPH-" name with
  | some spelling, _ => syllable? spelling
  | none, some digits => unified? digits
  | none, none =>
    let name := name.map Char.toUpper
    numbered? name <|> tables.findSome? (codeIn? (.ofText name))

end ClassSchema.Text.CharacterName

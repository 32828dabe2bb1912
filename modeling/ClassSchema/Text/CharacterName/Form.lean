import ClassSchema.Text.Blank
import ClassSchema.Text.Radix

/-!
# The form of tables of names

A table lists names of characters by their code points. A name is made of words, and most names
share their first words with the name in front of them, or their last ones. A table is a text in
lines, and the text is a row of entries, each of them a mark and what follows up to the next mark:

* `@` and a hexadecimal number is the code point of the next name; without it code points go up by
  one.
* A small letter, words and tildes are a name. The letter tells how many words are the first ones of
  the name in front, from `a` for none, and the tildes how many are its last ones.
* `+` and a number stands for as many names that count on from the name in front.

So `@41aLATIN CAPITAL LETTER AdB@61bSMALL~~` holds the names of `A`, `B` and, once more with a `B`
at the end, of `a`; and `@FE00aVS1+2` holds `VS1`, `VS2` and `VS3`.
-/

namespace ClassSchema.Text.CharacterName

/-- The words of a name. -/
abbrev Name := List (List Char)

/-- The words of a text. Two blanks in a row have an empty word between them. -/
def Name.ofText (cs : List Char) : Name := splitAt ' ' cs

/-! ## Counting on -/

/-- The digits at the end of a word. -/
def finalDigits (word : List Char) : List Char := (word.reverse.takeWhile Char.isDigit).reverse

/-- The word with the next number at its end, with as many digits if they are enough. -/
def nextWord (word : List Char) : List Char :=
  let digits := finalDigits word
  let next := Nat.toDigits 10 (digitsValue 10 digits + 1)
  word.take (word.length - digits.length) ++ next.leftpad digits.length '0'

/-- The name that counts on. -/
def Name.next (name : Name) : Name :=
  match name.getLast? with
  | some word => name.dropLast ++ [nextWord word]
  | none => []

/-! ## Entries -/

/-- An entry of a table. -/
inductive Entry
  | codePoint (code : Nat)
  | name (first : Nat) (words : Name) (last : Nat)
  | next (count : Nat)
deriving DecidableEq

/-- Whether a character begins an entry. -/
def isMark (c : Char) : Bool := c.isLower || c = '@' || c = '+'

/-- The entry with a mark and what follows it. -/
def Entry.ofMark (mark : Char) (rest : List Char) : Entry :=
  if mark = '@' then .codePoint (digitsValue 16 rest)
  else if mark = '+' then .next (digitsValue 10 rest)
  else
    let words := rest.takeWhile (· ≠ '~')
    .name (mark.toNat - 97) (if words.isEmpty then [] else .ofText words)
      (rest.length - words.length)

/-- The entries of a table. -/
def entries : List Char → List Entry
  | [] => []
  | c :: cs =>
    if isMark c then .ofMark c (cs.takeWhile (!isMark ·)) :: entries cs else entries cs

/-! ## Names -/

/-- As many names that count on from a name, under the code points from `code` on. -/
def countOn (code : Nat) (name : Name) : Nat → List (Nat × Name)
  | 0 => []
  | n + 1 => (code, name.next) :: countOn (code + 1) name.next n

/-- The names of entries with their code points; `code` is the next code point, and `last` the name
in front. -/
def names (code : Nat) (last : Name) : List Entry → List (Nat × Name)
  | [] => []
  | .codePoint code :: es => names code last es
  | .name first words kept :: es =>
    let name := last.take first ++ words ++ last.drop (last.length - kept)
    (code, name) :: names (code + 1) name es
  | .next n :: es =>
    let front := countOn code last n
    front ++ names (code + n) ((front.getLast?.map (·.2)).getD last) es

/-- The code point of a name in a table. -/
def codeIn? (name : Name) (table : List String) : Option Nat :=
  ((names 0 [] (entries (table.flatMap String.toList))).find? (·.2 = name)).map (·.1)

example : names 0 [] (entries "@41aLATIN CAPITAL LETTER AdB@61bSMALL~~".toList) =
    ["LATIN CAPITAL LETTER A", "LATIN CAPITAL LETTER B", "LATIN SMALL LETTER B"].zipWith
      (fun text code ↦ (code, .ofText text.toList)) [0x41, 0x42, 0x61] := by
  decide

end ClassSchema.Text.CharacterName

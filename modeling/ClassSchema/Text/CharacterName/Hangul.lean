/-!
# Names of Hangul syllables

The name of a Hangul syllable spells it: a leading consonant or none, a vowel, and a trailing
consonant or none. The code points are in the order of these three.
-/

namespace ClassSchema.Text.CharacterName

/-- The leading consonants. -/
def leading : List String :=
  ["G", "GG", "N", "D", "DD", "R", "M", "B", "BB", "S", "SS", "", "J", "JJ", "C", "K", "T", "P",
   "H"]

/-- The vowels. -/
def vowels : List String :=
  ["A", "AE", "YA", "YAE", "EO", "E", "YEO", "YE", "O", "WA", "WAE", "OE", "YO", "U", "WEO", "WE",
   "WI", "YU", "EU", "YI", "I"]

/-- The trailing consonants. -/
def trailing : List String :=
  ["", "G", "GG", "GS", "N", "NJ", "NH", "D", "L", "LG", "LM", "LB", "LS", "LT", "LP", "LH", "M",
   "B", "BS", "S", "SS", "NG", "J", "C", "K", "T", "P", "H"]

/-- Whether a letter is used in the names of vowels. No consonant has it. -/
def isVowelLetter (c : Char) : Bool := ['A', 'E', 'I', 'O', 'U', 'W', 'Y'].contains c

/-- The code point of the syllable that is spelled so. -/
def syllable? (spelling : List Char) : Option Nat := do
  let front := spelling.takeWhile (!isVowelLetter ·)
  let rest := spelling.dropWhile (!isVowelLetter ·)
  let lead ← leading.idxOf? (String.ofList front)
  let vowel ← vowels.idxOf? (String.ofList (rest.takeWhile isVowelLetter))
  let tail ← trailing.idxOf? (String.ofList (rest.dropWhile isVowelLetter))
  return 0xAC00 + (lead * vowels.length + vowel) * trailing.length + tail

example : syllable? "HAN".toList = some 0xD55C := by decide

end ClassSchema.Text.CharacterName

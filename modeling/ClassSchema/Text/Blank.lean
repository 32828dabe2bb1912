import ClassSchema.Text.RangeTable

/-!
# Blanks and lines

White space in the Unicode sense, blanks, which are white space and the four information separators
U+001C to U+001F, trimming, and the division of a text into lines. A text that ends in a line break
has no empty last line.
-/

namespace ClassSchema.Text

/-- The code points of white space and the information separators. -/
def blankRanges : List (Nat × Nat) :=
  [(0x9, 0xD), (0x1C, 0x20), (0x85, 0x85), (0xA0, 0xA0), (0x1680, 0x1680), (0x2000, 0x200A),
   (0x2028, 0x2029), (0x202F, 0x202F), (0x205F, 0x205F), (0x3000, 0x3000)]

/-- Whether a character is white space or an information separator. -/
def isBlank (c : Char) : Bool := inRanges c.toNat blankRanges

/-- Whether a character is white space. An information separator is a blank only. -/
def isWhiteSpace (c : Char) : Bool := isBlank c && !inRanges c.toNat [(0x1C, 0x1F)]

/-- Drops the characters of a class at both ends. -/
def trimWhile (p : Char → Bool) (cs : List Char) : List Char :=
  ((cs.dropWhile p).reverse.dropWhile p).reverse

/-- Drops the blanks at the start. -/
def trimStart (cs : List Char) : List Char := cs.dropWhile isBlank

/-- Drops the blanks at the end. -/
def trimEnd (cs : List Char) : List Char := (cs.reverse.dropWhile isBlank).reverse

/-- Drops the blanks at both ends. -/
def trim (cs : List Char) : List Char := trimEnd (trimStart cs)

/-- The code points that end a line; a carriage return and a line feed together end one line. -/
def lineBreakRanges : List (Nat × Nat) :=
  [(0xA, 0xD), (0x1C, 0x1E), (0x85, 0x85), (0x2028, 0x2029)]

/-- Whether a character ends a line. -/
def isLineBreak (c : Char) : Bool := inRanges c.toNat lineBreakRanges

/-- The lines of a text without their breaks. -/
def lines : List Char → List (List Char)
  | [] => []
  | '\r' :: '\n' :: cs => [] :: lines cs
  | c :: cs =>
    if isLineBreak c then [] :: lines cs
    else match lines cs with
      | [] => [[c]]
      | line :: rest => (c :: line) :: rest

/-- The pieces of a text between the occurrences of `separator`; there is always at least one. -/
def splitAt (separator : Char) : List Char → List (List Char)
  | [] => [[]]
  | c :: cs =>
    if c = separator then [] :: splitAt separator cs
    else match splitAt separator cs with
      | [] => [[c]]
      | piece :: rest => (c :: piece) :: rest

end ClassSchema.Text

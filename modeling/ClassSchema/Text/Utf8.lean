import ClassSchema.Text.Quoted

/-!
# UTF-8

Reads the bytes of a file as text. The first byte of a character tells how many more follow and
which values the second may take, so that no character has a second spelling and no surrogate is
read. What cannot be read is refused with the place of the first byte of the broken character, the
number of bytes that could still belong to it, and the reason.

The file may end its lines in any of the three usual ways; `unifyNewlines` makes them one.
-/

namespace ClassSchema.Utf8

/-! ## Faults -/

/-- Why bytes are no text. -/
inductive Reason
  | start
  | continuation
  | unfinished
deriving DecidableEq

/-- The wording of a reason. -/
def Reason.text : Reason → String
  | start => "invalid start byte"
  | continuation => "invalid continuation byte"
  | unfinished => "unexpected end of data"

/-- A broken character: the place and the value of its first byte, the number of its bytes, and what
is wrong. -/
structure Fault where
  position : Nat
  byte : Nat
  length : Nat
  reason : Reason
deriving DecidableEq

/-- The wording of a fault. A single byte is shown; of more bytes only the places are. -/
def Fault.message (fault : Fault) : String :=
  let place :=
    if fault.length = 1 then
      s!"byte 0x{String.ofList (Text.hexDigits 2 fault.byte)} in position {fault.position}"
    else s!"bytes in position {fault.position}-{fault.position + fault.length - 1}"
  s!"'utf-8' codec can't decode {place}: {fault.reason.text}"

/-! ## Characters -/

/-- What the first byte of a character says: the value read so far, the number of bytes to follow,
and the least and the greatest value of the second byte. -/
structure Lead where
  value : Nat
  missing : Nat
  low : Nat := 0x80
  high : Nat := 0xBF
deriving DecidableEq

/-- What a first byte says, unless no character starts with it. -/
def Lead.ofByte? (byte : Nat) : Option Lead :=
  if byte < 0x80 then some { value := byte, missing := 0 }
  else if byte < 0xC2 then none
  else if byte < 0xE0 then some { value := byte - 0xC0, missing := 1 }
  else if byte = 0xE0 then some { value := 0, missing := 2, low := 0xA0 }
  else if byte = 0xED then some { value := 0xD, missing := 2, high := 0x9F }
  else if byte < 0xF0 then some { value := byte - 0xE0, missing := 2 }
  else if byte = 0xF0 then some { value := 0, missing := 3, low := 0x90 }
  else if byte < 0xF4 then some { value := byte - 0xF0, missing := 3 }
  else if byte = 0xF4 then some { value := 4, missing := 3, high := 0x8F }
  else none

/-- A character of which some bytes have been read and at least one is missing. -/
structure Partial where
  position : Nat
  first : Nat
  length : Nat
  lead : Lead

/-- The fault of a character that goes no further. -/
def Partial.fault (p : Partial) (reason : Reason) : Fault :=
  ⟨p.position, p.first, p.length, reason⟩

/-- Reads the characters of bytes that start at a position, in the middle of a character or
between two. -/
def decodeFrom (position : Nat) : Option Partial → List UInt8 → Except Fault (List Char)
  | none, [] => .ok []
  | some p, [] => .error (p.fault .unfinished)
  | none, byte :: bytes =>
    match Lead.ofByte? byte.toNat with
    | none => .error ⟨position, byte.toNat, 1, .start⟩
    | some lead =>
      if lead.missing = 0 then
        (Char.ofNat lead.value :: ·) <$> decodeFrom (position + 1) none bytes
      else decodeFrom (position + 1) (some ⟨position, byte.toNat, 1, lead⟩) bytes
  | some p, byte :: bytes =>
    if byte.toNat < p.lead.low ∨ p.lead.high < byte.toNat then .error (p.fault .continuation)
    else
      let value := p.lead.value * 64 + (byte.toNat - 0x80)
      if p.lead.missing = 1 then
        (Char.ofNat value :: ·) <$> decodeFrom (position + 1) none bytes
      else
        let lead := { value := value, missing := p.lead.missing - 1 }
        decodeFrom (position + 1) (some { p with length := p.length + 1, lead := lead }) bytes

/-- Makes a line feed of each line end. -/
def unifyNewlines : List Char → List Char
  | [] => []
  | '\r' :: '\n' :: cs => '\n' :: unifyNewlines cs
  | c :: cs => (if c = '\r' then '\n' else c) :: unifyNewlines cs

/-- The text that the bytes of a file hold. -/
def readText (bytes : List UInt8) : Except Fault String :=
  match decodeFrom 0 none bytes with
  | .ok cs => .ok (String.ofList (unifyNewlines cs))
  | .error fault => .error fault

/-- The bytes of a text. -/
def encode (text : String) : List UInt8 := text.toUTF8.toList

end ClassSchema.Utf8

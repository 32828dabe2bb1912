import ClassSchema.Pattern.Escape

/-!
# Valid patterns

Whether a text is a regular expression in the dialect with named groups `(?P<name>…)`, conditions on
groups, look-ahead and look-behind, inline flags, and greedy, lazy and possessive repetition.
Nothing is compiled: reading keeps only what later parts can depend on, which are the groups, the
flags, what the last item of a sequence is, and how wide the parts are, as a look-behind needs a
fixed width.
-/

namespace ClassSchema.Pattern

/-- What the last item of a sequence is, as far as a repetition behind it depends on it. -/
inductive Item
  | place
  | repeated
  | other
deriving DecidableEq

/-- A sequence of items: the width of all but the last, and the last. -/
structure Sequence where
  before : Width := .zero
  last : Option (Item × Width) := none

namespace Sequence

/-- The width of a sequence. -/
def width (s : Sequence) : Width :=
  match s.last with
  | some (_, w) => s.before.append w
  | none => s.before

/-- Adds an item. -/
def add (s : Sequence) (item : Item) (w : Width) : Sequence := ⟨s.width, some (item, w)⟩

/-- Repeats the last item. A place cannot be repeated, and a repetition not again. -/
def repeatLast (s : Sequence) (least most : Nat) : Scan Sequence :=
  match s.last with
  | some (.other, w) => return ⟨s.before, some (.repeated, w.times least most)⟩
  | _ => Scan.fail

end Sequence

/-! ## Repetitions -/

/-- The value of a bound of a repetition. -/
def readBound (digits : List Char) : Scan Nat := do
  if digits.length > Numeral.digitLimit then throw (.numeralTooLong ⟨digits.length⟩)
  let bound := Text.digitsValue 10 digits
  if bound ≥ Width.unbounded then throw .repetitionTooLarge
  return bound

/-- Reads the bounds of a repetition in braces, behind the opening one; nothing if what stands there
is no repetition. -/
def readBounds? : Scan (Option (Nat × Nat)) := do
  let start ← get
  let digits := start.ahead.length
  let low ← Scan.takeWhile Char.isDigit digits
  let comma ← Scan.skip ','
  let high ← if comma then Scan.takeWhile Char.isDigit digits else pure low
  if (low.isEmpty && !comma) || !(← Scan.skip '\x7d') then
    set start
    return none
  let least ← if low.isEmpty then pure 0 else readBound low
  let most ← if high.isEmpty then pure Width.unbounded else readBound high
  if most < least then Scan.fail
  return some (least, most)

/-- The bounds of a repetition that starts with `c`; nothing if it is none. -/
def readRepetition? (c : Char) : Scan (Option (Nat × Nat)) := do
  match c with
  | '?' => return some (0, 1)
  | '*' => return some (0, Width.unbounded)
  | '+' => return some (1, Width.unbounded)
  | '\x7b' => readBounds?
  | _ => return none

/-! ## Flags -/

/-- The flag letters. -/
def isFlag (c : Char) : Bool := ['i', 'L', 'm', 's', 'x', 'a', 't', 'u'].contains c

/-- The flags for the kind of text, of which there can be one. -/
def isTypeFlag (c : Char) : Bool := ['L', 'a', 'u'].contains c

/-- The next glyph, which has to be a plain character. -/
def takeChar : Scan Char := do
  match ← Scan.take with
  | .plain c => return c
  | .escaped _ | .dangling => Scan.fail

/-- Reads flags that are turned on, from the letter `c` on, up to a character that ends them. -/
def readOn (fuel : Nat) (sofar : List Char) (c : Char) : Scan (List Char × Char) := do
  match fuel with
  | 0 => Scan.fail
  | fuel + 1 =>
    if !isFlag c || c = 'L' then Scan.fail
    if isTypeFlag c && sofar.any fun f ↦ isTypeFlag f && f ≠ c then Scan.fail
    let next ← takeChar
    if [')', '-', ':'].contains next then return (c :: sofar, next)
    readOn fuel (c :: sofar) next

/-- Reads flags that are turned off, from the letter `c` on, up to a colon. -/
def readOff (fuel : Nat) (sofar : List Char) (c : Char) : Scan (List Char) := do
  match fuel with
  | 0 => Scan.fail
  | fuel + 1 =>
    if !isFlag c || isTypeFlag c then Scan.fail
    let next ← takeChar
    if next = ':' then return c :: sofar
    readOff fuel (c :: sofar) next

/-- Reads flags from the character `c` on. Flags of a group come with what they turn on and off;
flags of the whole pattern are set at once and come as nothing. -/
def readFlags (c : Char) : Scan (Option (List Char × List Char)) := do
  let fuel := (← get).ahead.length + 1
  let (on, stop) ← if c = '-' then pure ([], '-') else readOn fuel [] c
  if stop = ')' then
    modify fun s ↦ { s with flags :=
      { verbose := s.flags.verbose || on.contains 'x'
        ascii := s.flags.ascii || on.contains 'a'
        unicode := s.flags.unicode || on.contains 'u'
        template := s.flags.template || on.contains 't' } }
    return none
  if on.contains 't' then Scan.fail
  let off ← if stop = '-' then readOff fuel [] (← takeChar) else pure []
  if off.contains 't' || on.any off.contains then Scan.fail
  return some (on, off)

/-! ## Groups -/

/-- What stands behind the opening parenthesis of a group. -/
inductive Opening
  | capture (name : Option String)
  | plain (on off : List Char)
  | look (behind : Bool)
  | condition (group : Nat)
  | reference (width : Width)
  | comment
  | globalFlags

/-- The name of a group. -/
def readName (stop : Char) : Scan String := do
  let name ← Scan.takeUntil stop
  if Text.isName name then return String.ofList name else Scan.fail

/-- The number of the group of a name. -/
def groupOf (name : String) : Scan Nat := do
  match (← get).names.lookup name with
  | some group => return group
  | none => Scan.fail

/-- Drops single underscores between digits. -/
def dropUnderscores : List Char → Option (List Char)
  | [] => none
  | [c] => if c = '_' then none else some [c]
  | c :: '_' :: cs => if c = '_' then none else (dropUnderscores cs).map (c :: ·)
  | c :: cs => if c = '_' then none else (dropUnderscores cs).map (c :: ·)

/-- The number that a text stands for: digits of any script, not too many, with white space around
and no sign. -/
def groupNumber? (cs : List Char) : Option Nat := do
  let digits ← dropUnderscores (Text.trimWhile Text.isWhiteSpace cs)
  if digits.all Text.isDecimal && digits.length ≤ Numeral.digitLimit then
    some (Numeral.digitsValue digits)
  else none

/-- Reads the condition of a group: the name or the number of another group. -/
def readCondition : Scan Nat := do
  let text ← Scan.takeUntil ')'
  let group ←
    if Text.isName text then groupOf (String.ofList text)
    else
      match groupNumber? text with
      | some group =>
        if group = 0 || group ≥ 2147483647 then Scan.fail
        modify fun s ↦ { s with conditions := group :: s.conditions }
        pure group
      | none => Scan.fail
  checkLookBehind group
  return group

/-- Moves over a comment up to its closing parenthesis. -/
def skipComment : Scan Unit := do
  if !(← Scan.skipBehind ')') then Scan.fail

/-- Reads what stands behind the letter of an extended group `(?P`. -/
def readNamed : Scan Opening := do
  if ← Scan.skip '<' then return .capture (some (← readName '>'))
  if ← Scan.skip '=' then
    return .reference (← referTo (← groupOf (← readName ')')))
  Scan.fail

/-- Reads what stands behind the opening parenthesis of a group. -/
def readOpening : Scan Opening := do
  if !(← Scan.skip '?') then return .capture none
  match ← takeChar with
  | 'P' => readNamed
  | ':' => return .plain [] []
  | '>' => return .plain [] []
  | '#' =>
    skipComment
    return .comment
  | '=' => return .look false
  | '!' => return .look false
  | '<' =>
    let c ← takeChar
    if c = '=' || c = '!' then return .look true else Scan.fail
  | '(' => return .condition (← readCondition)
  | c =>
    if isFlag c || c = '-' then
      match ← readFlags c with
      | some (on, off) => return .plain on off
      | none => return .globalFlags
    else Scan.fail

/-- Opens a group that captures, and gives it the next number. -/
def openGroup (name : Option String) : Scan Nat := do
  let s ← get
  let group := s.groups.length
  if let some name := name then
    if (s.names.lookup name).isSome then Scan.fail
    set { s with groups := s.groups ++ [none], names := (name, group) :: s.names }
    return group
  set { s with groups := s.groups ++ [none] }
  return group

/-- Closes a group. -/
def closeGroup (group : Nat) (w : Width) : Scan Unit :=
  modify fun s ↦ { s with groups := s.groups.set group (some w) }

/-- The width from which on a look-behind is too wide. -/
def lookBehindLimit : Nat := 0x80000000

/-- Notes a look-behind; its width has to be fixed and must not be too great. -/
def noteLookBehind (w : Width) : Scan Unit := do
  if w.low ≠ w.high then modify fun s ↦ { s with variableLookBehind := true }
  else if w.low ≥ lookBehindLimit then modify fun s ↦ { s with wideLookBehind := true }

/-! ## Sequences and alternatives -/

/-- The blanks that are ignored under the flag for verbose patterns. -/
def isIgnored (c : Char) : Bool := [' ', '\t', '\n', '\r', '\x0b', '\x0c'].contains c

/-- Moves behind the end of the line. -/
def skipLine : Scan Unit := do
  let _ ← Scan.skipBehind '\n'

mutual

/-- Reads alternatives up to a closing parenthesis or the end; `top` tells that they are the whole
pattern. -/
def readAlternatives (fuel : Nat) (verbose top : Bool) : Scan Width := do
  match fuel with
  | 0 => Scan.fail
  | fuel + 1 =>
    let w ← readSequence fuel verbose top {}
    readMore fuel verbose top w

/-- Reads the alternatives behind the first one. -/
def readMore (fuel : Nat) (verbose top : Bool) (sofar : Width) : Scan Width := do
  match fuel with
  | 0 => Scan.fail
  | fuel + 1 =>
    if ← Scan.skip '|' then
      let s ← get
      let verbose := if top then s.flags.verbose else verbose
      let w ← readSequence fuel verbose false {}
      readMore fuel verbose top (sofar.either w)
    else return sofar

/-- Reads the items of a sequence behind those read so far; `first` tells that it starts the whole
pattern. -/
def readSequence (fuel : Nat) (verbose first : Bool) (sofar : Sequence) : Scan Width := do
  match fuel with
  | 0 => Scan.fail
  | fuel + 1 =>
    match ← Scan.peek with
    | none => return sofar.width
    | some .dangling => Scan.fail
    | some (.escaped c) =>
      let _ ← Scan.take?
      let (isPlace, w) ← readEscape c
      readSequence fuel verbose first (sofar.add (if isPlace then .place else .other) w)
    | some (.plain c) =>
      if c = '|' || c = ')' then return sofar.width
      let _ ← Scan.take?
      if verbose && isIgnored c then readSequence fuel verbose first sofar
      else if verbose && c = '#' then
        skipLine
        readSequence fuel verbose first sofar
      else if c = '[' then
        let _ ← Scan.skip '^'
        readSet ((← get).ahead.length + 1) false
        readSequence fuel verbose first (sofar.add .other .one)
      else if c = '^' || c = '$' then
        readSequence fuel verbose first (sofar.add .place .zero)
      else if c = '(' then
        match ← readOpening with
        | .comment => readSequence fuel verbose first sofar
        | .globalFlags =>
          if !first || sofar.last.isSome then Scan.fail
          let s ← get
          readSequence fuel s.flags.verbose first sofar
        | .reference w => readSequence fuel verbose first (sofar.add .other w)
        | .capture name =>
          let group ← openGroup name
          let w ← readAlternatives fuel verbose false
          Scan.expect ')'
          closeGroup group w
          readSequence fuel verbose first (sofar.add .other w)
        | .plain on off =>
          let inner := (verbose || on.contains 'x') && !off.contains 'x'
          let w ← readAlternatives fuel inner false
          Scan.expect ')'
          readSequence fuel verbose first (sofar.add .other w)
        | .look behind =>
          let outer := (← get).closedGroups
          if behind && outer.isNone then
            modify fun s ↦ { s with closedGroups := some s.groups.length }
          let w ← readAlternatives fuel verbose false
          if behind then
            modify fun s ↦ { s with closedGroups := outer }
            noteLookBehind w
          Scan.expect ')'
          readSequence fuel verbose first (sofar.add .other .zero)
        | .condition _ =>
          let yes ← readSequence fuel verbose false {}
          let w ←
            if ← Scan.skip '|' then
              let no ← readSequence fuel verbose false {}
              pure (yes.either no)
            else pure (yes.either .zero)
          Scan.expect ')'
          readSequence fuel verbose first (sofar.add .other w)
      else
        match ← readRepetition? c with
        | some (least, most) =>
          let sequence ← sofar.repeatLast least most
          modify fun s ↦ { s with repeats := true }
          if !(← Scan.skip '?') then
            let _ ← Scan.skip '+'
          readSequence fuel verbose first sequence
        | none => readSequence fuel verbose first (sofar.add .other .one)

end

/-- Reads a whole pattern. What does not depend on the place where it stands is judged in the end: a
template must not repeat anything, and the width of look-behinds comes last of all. -/
def readPattern (text : List Glyph) : Scan Unit := do
  Scan.moveTo text
  let _ ← readAlternatives (3 * text.length + 10) false true
  let s ← get
  if s.flags.ascii && s.flags.unicode then throw .conflictingFlags
  if !s.ahead.isEmpty || s.conditions.any (s.groups.length ≤ ·) then Scan.fail
  if s.variableLookBehind || s.flags.template && s.repeats then Scan.fail
  if s.wideLookBehind then throw .lookBehindTooWide

/-- Why a text is no pattern, if it is none. -/
def fault? (pattern : String) : Option Fault :=
  match (readPattern (glyphs pattern.toList)).run {} with
  | .ok _ => none
  | .error fault => some fault

end ClassSchema.Pattern

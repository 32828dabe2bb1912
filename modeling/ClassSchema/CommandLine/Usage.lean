import ClassSchema.Files.Path
import ClassSchema.Options
import ClassSchema.Schema.Format
import ClassSchema.Text.Digit

/-!
# Arguments on a command line

Each argument is first sorted by its look alone. One that starts with two dashes is an option by its
full name, or by the start of one name only, with a value behind an equals sign if it has one. One
that starts with a single dash is a cluster of one-letter options, of which the first has to be
known. What looks like a negative number or holds a space is an operand in spite of its dash, and
any other unknown option is a stray. Behind a pair of dashes all arguments are operands.

Then the options take effect from left to right. A command takes one operand, a path; what is left
over is a stray, too. Asking for help ends the reading at once, so help can win over a mistake
further right; a stray is only a mistake in the end. A pair of dashes never is a value: where it
stands behind the equals sign of an option, the value gets lost, and the mistake only shows when it
is used.
-/

namespace ClassSchema.CommandLine

/-! ## Options -/

/-- Why a command line is not carried out. -/
inductive Refusal
  | help
  | misused
deriving DecidableEq

/-- The exit status of a refusal: asking for help is no failure. -/
def Refusal.status : Refusal → Nat
  | help => 0
  | misused => 2

/-- An option. -/
inductive Switch
  | help
  | verbose
  | excludePrivate
  | requiredStrategy
  | commentStyle
  | out
  | format
  | noValidate
  | noProgress
deriving DecidableEq

/-- What the options of a command line set. The values of the options in `lost` have got lost, so
that the settings hold their defaults. -/
structure Settings where
  verbose : Bool := false
  options : Options := {}
  out : Option Path := none
  format : SchemaFormat := .json
  validate : Bool := true
  lost : List Switch := []

namespace Switch

/-- Whether an option comes with a value. -/
def takesValue : Switch → Bool
  | requiredStrategy | commentStyle | out | format => true
  | _ => false

/-- The effect of an option, with its value if it takes one. The choice about progress is accepted
and has no effect. -/
def set (value : String) (s : Settings) : Switch → Except Refusal Settings
  | help => .error .help
  | verbose => .ok { s with verbose := true }
  | excludePrivate => .ok { s with options.includePrivate := false }
  | requiredStrategy =>
    match RequiredStrategy.ofText? value with
    | some strategy => .ok { s with options.strategy := strategy }
    | none => .error .misused
  | commentStyle =>
    match CommentStyle.ofText? value with
    | some style => .ok { s with options.commentStyle := style }
    | none => .error .misused
  | out => .ok { s with out := some (.ofText value) }
  | format =>
    match SchemaFormat.ofText? value with
    | some form => .ok { s with format := form }
    | none => .error .misused
  | noValidate => .ok { s with validate := false }
  | noProgress => .ok s

/-- The settings with an option back at its default. -/
def reset (s : Settings) : Switch → Settings
  | requiredStrategy => { s with options.strategy := .annotated }
  | commentStyle => { s with options.commentStyle := .javadoc }
  | out => { s with out := none }
  | format => { s with format := .json }
  | _ => s

/-- The effect of an option; the last value that is given counts, even if it gets lost. -/
def apply (value : String) (s : Settings) (switch : Switch) : Except Refusal Settings :=
  if !switch.takesValue then switch.set value s
  else
    let others := s.lost.filter (· ≠ switch)
    if value = "--" then .ok { switch.reset s with lost := switch :: others }
    else switch.set value { s with lost := others }

end Switch

/-- Whether the value of an option has got lost. -/
def Settings.hasLost (s : Settings) (switch : Switch) : Bool := s.lost.contains switch

/-- The options of a command under their names; one-letter names stand for options without a
value. -/
structure Usage where
  letters : List (Char × Switch)
  names : List (String × Switch)

/-! ## Sorting arguments -/

/-- What an argument looks like. -/
inductive Mark
  | operand (text : String)
  | option (switch : Switch) (value : Option String)
  | cluster (letters : List Char)
  | stray
  | divider
deriving DecidableEq

/-- Whether the characters behind a dash make a negative number, with or without a fraction. A line
feed may follow it. -/
def isNumber (cs : List Char) : Bool :=
  let cs := if cs.getLast? = some '\n' then cs.dropLast else cs
  let whole := cs.takeWhile Text.isDecimal
  match cs.dropWhile Text.isDecimal with
  | [] => !whole.isEmpty
  | c :: fraction => c = '.' && !fraction.isEmpty && fraction.all Text.isDecimal

namespace Usage

variable (u : Usage)

/-- The option that a letter stands for. -/
def ofLetter? (letter : Char) : Option Switch :=
  (u.letters.find? (·.1 = letter)).map (·.2)

/-- The options whose names are, or else start with, what is given. -/
def candidates (given : List Char) : List Switch :=
  match u.names.find? (·.1.toList = given) with
  | some (_, switch) => [switch]
  | none => (u.names.filter fun entry ↦ given.isPrefixOf entry.1.toList).map (·.2)

/-- The mark of an argument that is no option although it starts with a dash. -/
def unknown (arg : String) : Mark :=
  if isNumber (arg.toList.drop 1) || arg.contains ' ' then .operand arg else .stray

/-- Sorts an argument other than the divider. A name that starts several options is a mistake. -/
def mark (arg : String) : Except Refusal Mark :=
  match arg.toList with
  | '-' :: '-' :: cs =>
    let value := (cs.dropWhile (· ≠ '=')).drop 1
    let value := if cs.contains '=' then some (String.ofList value) else none
    match u.candidates (cs.takeWhile (· ≠ '=')) with
    | [] => .ok (unknown arg)
    | [switch] => .ok (.option switch value)
    | _ => .error .misused
  | '-' :: letter :: cs =>
    .ok (if (u.ofLetter? letter).isSome then .cluster (letter :: cs) else unknown arg)
  | _ => .ok (.operand arg)

/-- Sorts the arguments of a command. -/
def marks : List String → Except Refusal (List Mark)
  | [] => .ok []
  | arg :: args =>
    if arg = "--" then .ok (.divider :: args.map .operand)
    else do return (← u.mark arg) :: (← marks args)

/-! ## Options in effect -/

/-- The letters of a cluster. An equals sign behind the first one may be left out if more follow. -/
def clusterLetters : List Char → List Char
  | [letter, '='] => [letter, '=']
  | letter :: '=' :: rest => letter :: rest
  | letters => letters

/-- The options of letters, all of which have to be known. -/
def switchesOf (letters : List Char) : Except Refusal (List Switch) :=
  letters.mapM fun letter ↦
    match u.ofLetter? letter with
    | some switch => .ok switch
    | none => .error .misused

/-- The effect of options without values, one after the other. -/
def applyAll (s : Settings) (switches : List Switch) : Except Refusal Settings :=
  switches.foldlM (fun s switch ↦ switch.apply "" s) s

end Usage

/-- How far the arguments have been read: the settings, the operand, and whether there were
strays. -/
structure Progress where
  settings : Settings := {}
  operand : Option String := none
  stray : Bool := false

namespace Usage

variable (u : Usage)

/-- Reads marks from left to right. A divider is passed over right behind the operand, or in front
of it. -/
def read (p : Progress) : List Mark → Except Refusal Progress
  | [] => .ok p
  | .operand text :: .divider :: ms =>
    if p.operand.isNone then read { p with operand := some text } ms
    else read { p with stray := true } ms
  | .operand text :: ms =>
    if p.operand.isNone then read { p with operand := some text } ms
    else read { p with stray := true } ms
  | .divider :: ms =>
    read { p with stray := p.stray || p.operand.isSome || ms.isEmpty } ms
  | .stray :: ms => read { p with stray := true } ms
  | .cluster letters :: ms => do
    let settings ← applyAll p.settings (← u.switchesOf (clusterLetters letters))
    read { p with settings := settings } ms
  | .option switch (some value) :: ms => do
    if switch.takesValue then
      let settings ← switch.apply value p.settings
      read { p with settings := settings } ms
    else .error .misused
  | .option switch none :: ms => do
    if switch.takesValue then
      match ms with
      | .operand value :: ms =>
        let settings ← switch.apply value p.settings
        read { p with settings := settings } ms
      | _ => .error .misused
    else
      let settings ← switch.apply "" p.settings
      read { p with settings := settings } ms

/-- The settings and the path of a command with one operand. -/
def settings (args : List String) : Except Refusal (Settings × Path) := do
  let p ← u.read {} (← u.marks args)
  match p.operand with
  | none => .error .misused
  | some path => if p.stray then .error .misused else .ok (p.settings, .ofText path)

end Usage

end ClassSchema.CommandLine

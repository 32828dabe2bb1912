import ClassSchema.Json.Basic
import ClassSchema.Text.Quoted

/-!
# Options

Options say which fields take part and when a field is required. They are read from settings, which
are JSON values under names; a name may be written in either of two spellings, a null setting counts
as not given, and unknown names are ignored. A setting of the wrong kind is refused, and the refusal
shows it.
-/

namespace ClassSchema

/-! ## The display of a setting -/

namespace Json

mutual

/-- The display of a value in a message. -/
def display : Json → String
  | null => "None"
  | bool b => if b then "True" else "False"
  | number n => n.text .plain
  | text s => Text.quoted s
  | list items => "[" ++ displayItems items ++ "]"
  | table entries => "\x7b" ++ displayEntries entries ++ "\x7d"

/-- The display of items with commas between them. -/
def displayItems : List Json → String
  | [] => ""
  | [item] => display item
  | item :: items => display item ++ ", " ++ displayItems items

/-- The display of entries with commas between them. -/
def displayEntries : List (String × Json) → String
  | [] => ""
  | [(key, value)] => Text.quoted key ++ ": " ++ display value
  | (key, value) :: entries =>
    Text.quoted key ++ ": " ++ display value ++ ", " ++ displayEntries entries

end

end Json

/-! ## Options -/

/-- When a field is required that nothing else decides about: never, under `annotated` and
`never`, or in all cases. -/
inductive RequiredStrategy
  | annotated
  | always
  | never
deriving DecidableEq

namespace RequiredStrategy

/-- All strategies. -/
def all : List RequiredStrategy := [annotated, always, never]

/-- The word for a strategy. -/
def text : RequiredStrategy → String
  | annotated => "annotation"
  | always => "all"
  | never => "none"

/-- The strategy a word stands for. -/
def ofText? (word : String) : Option RequiredStrategy := all.find? (·.text = word)

end RequiredStrategy

/-- The form of comment that a class is said to use. It is passed on and changes nothing. -/
inductive CommentStyle
  | javadoc
  | inline
deriving DecidableEq

namespace CommentStyle

/-- All comment styles. -/
def all : List CommentStyle := [javadoc, inline]

/-- The word for a comment style. -/
def text : CommentStyle → String
  | javadoc => "javadoc"
  | inline => "inline"

/-- The comment style a word stands for. -/
def ofText? (word : String) : Option CommentStyle := all.find? (·.text = word)

end CommentStyle

/-- Which fields take part, and when a field is required. -/
structure Options where
  includePrivate : Bool := true
  strategy : RequiredStrategy := .annotated
  commentStyle : CommentStyle := .javadoc
deriving DecidableEq

/-- A setting that is refused. -/
inductive OptionFault
  | notBoolean (setting : Json)
  | noStrategy (setting : Json)
  | noCommentStyle (setting : Json)

/-- The wording of a refusal. -/
def OptionFault.message : OptionFault → String
  | notBoolean setting => s!"includePrivateFields must be a boolean, got {setting.display}"
  | noStrategy setting => s!"{setting.display} is not a valid RequiredFieldStrategy"
  | noCommentStyle setting => s!"{setting.display} is not a valid CommentStyle"

namespace Options

/-- The last setting that is given under one of some names. -/
def given? (settings : List (String × Json)) (names : List String) : Option Json :=
  let values := settings.filterMap fun (name, value) ↦
    match value with
    | .null => none
    | value => if names.contains name then some value else none
  values.getLast?

/-- Whether private fields take part. -/
def readIncludePrivate : Option Json → Except OptionFault Bool
  | none => .ok true
  | some (.bool b) => .ok b
  | some setting => .error (.notBoolean setting)

/-- The strategy for required fields. -/
def readStrategy : Option Json → Except OptionFault RequiredStrategy
  | none => .ok .annotated
  | some setting =>
    match setting.text?.bind RequiredStrategy.ofText? with
    | some strategy => .ok strategy
    | none => .error (.noStrategy setting)

/-- The form of comment. -/
def readCommentStyle : Option Json → Except OptionFault CommentStyle
  | none => .ok .javadoc
  | some setting =>
    match setting.text?.bind CommentStyle.ofText? with
    | some style => .ok style
    | none => .error (.noCommentStyle setting)

/-- Reads options from settings; the first setting that is wrong, in the order of the options, is
refused. -/
def ofSettings (settings : List (String × Json)) : Except OptionFault Options := do
  let includePrivate ← readIncludePrivate
    (given? settings ["includePrivateFields", "include_private_fields"])
  let strategy ← readStrategy
    (given? settings ["requiredFieldStrategy", "required_field_strategy"])
  let commentStyle ← readCommentStyle (given? settings ["commentStyle", "comment_style"])
  return ⟨includePrivate, strategy, commentStyle⟩

/-- Options as settings. -/
def toJson (o : Options) : Json :=
  .table [("includePrivateFields", .bool o.includePrivate),
    ("requiredFieldStrategy", .text o.strategy.text),
    ("commentStyle", .text o.commentStyle.text)]

end Options

end ClassSchema

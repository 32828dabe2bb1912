import ClassSchema.Options

/-!
# Required fields

Whether a field is required is decided by the first of these that says anything: an annotation that
forbids an absent value; a word for "required", or else one for "optional", in its comment; a
primitive type, whose values are never absent; and last the strategy.
-/

namespace ClassSchema.Required

/-- The annotations that make a field required. -/
def markers : List String := ["NotNull", "NotEmpty", "NotBlank"]

/-- The words in a comment that make a field required. -/
def requiredWords : List String := ["必填", "必须", "required", "Required", "REQUIRED"]

/-- The words in a comment that make a field optional. -/
def optionalWords : List String := ["可选", "选填", "optional", "Optional", "OPTIONAL"]

/-- The types whose values are never absent. -/
def primitiveTypes : List String :=
  ["int", "long", "float", "double", "boolean", "char", "byte", "short"]

/-- Whether `word` occurs in a text. -/
def occursIn (word : List Char) : List Char → Bool
  | [] => word.isEmpty
  | c :: cs => word.isPrefixOf (c :: cs) || occursIn word cs

/-- Whether one of some words occurs in a comment. -/
def mentions (comment : Option String) (words : List String) : Bool :=
  comment.any fun text ↦ words.any fun word ↦ occursIn word.toList text.toList

/-- Whether a field with these annotations, this comment and this type is required. -/
def decide (annotations : List String) (comment : Option String) (type : String)
    (strategy : RequiredStrategy) : Bool :=
  if annotations.any markers.contains then true
  else if mentions comment requiredWords then true
  else if mentions comment optionalWords then false
  else if primitiveTypes.contains type then true
  else strategy = .always

end ClassSchema.Required

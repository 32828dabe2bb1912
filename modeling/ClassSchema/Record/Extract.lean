import ClassSchema.Declaration.Walk
import ClassSchema.Record.Basic
import ClassSchema.Record.Comment
import ClassSchema.Record.Required

/-!
# Extraction

The record of a file is that of its first class. A field takes its comment from in front of its
declaration or, if that says nothing, from in front of its semicolon.
-/

namespace ClassSchema

/-- The record of a field. -/
def FieldRecord.ofDecl (options : Options) (f : FieldDecl) : FieldRecord :=
  let annotations := f.annotations.map AnnotationRecord.ofUse
  let comment := (f.comment.bind Comment.clean).or (f.trailingComment.bind Comment.clean)
  { name := f.name
    type := f.type
    comment := comment
    isPrivate := f.isPrivate
    isRequired := Required.decide (annotations.map (·.name)) comment f.type options.strategy
    annotations := annotations
    defaultValue := f.defaultValue }

namespace ClassRecord

/-- Whether a field takes part. -/
def takes (options : Options) (f : FieldDecl) : Bool := options.includePrivate || !f.isPrivate

/-- The record of a class. -/
def ofDecl (options : Options) (c : ClassDecl) : ClassRecord where
  className := c.name
  classComment := c.comment.bind Comment.clean
  fields := (c.fields.filter (takes options)).map (.ofDecl options)
  annotations := c.annotations.map .ofUse

/-- The warning for a file without a class. -/
def noClassWarning : String := "No class declaration found in the code"

/-- The record of the first class from a node down. -/
def extract? (options : Options) (node : Node) : Option ClassRecord :=
  node.firstClass?.map (ofDecl options)

end ClassRecord

end ClassSchema

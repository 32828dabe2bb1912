import ClassSchema.Grammar.Prelude

/-!
# Members of a class

A member is a field declaration, which may declare several fields, a method or constructor, of which
only the signature is kept, a block of code, or another type, both of which are passed over. What
cannot be read is reported by its cause.
-/

namespace ClassSchema

/-! ## Methods -/

namespace ParameterDecl

/-- Reads a parameter: annotations and modifiers, a type, a name, `[]` pairs. -/
def read (source : Option (List Char)) (ts : List Token) : Reading ParameterDecl :=
  (Prelude.read source ts).andThen fun head rest ↦
    (TypeText.read rest).andThen fun type rest ↦
      match rest with
      | [] => .missed .absent []
      | name :: more =>
        if name.is .identifier then
          let (count, more) := Ahead.bracketPairs more
          let type := type ++ String.join (List.replicate count "[]")
          .found ⟨name.text, type, head.annotations⟩ more
        else .missed .absent (name :: more)

theorem length_read_rest_le (source : Option (List Char)) (ts : List Token) :
    (read source ts).rest.length ≤ ts.length := by
  refine Reading.length_andThen_rest_le (Prelude.length_read_rest_le source ts) fun head rest h ↦ ?_
  refine Reading.length_andThen_rest_le
    (Nat.le_trans (TypeText.length_read_rest_le rest) h) fun type rest h ↦ ?_
  split
  · simp
  · rename_i name more
    have := Ahead.length_bracketPairs_rest_le more
    simp only [List.length_cons] at h
    split
    · simp only [Reading.rest_found]
      omega
    · simpa using h

/-- Reads parameters with commas between them, at least one. -/
def readList (source : Option (List Char)) (ts : List Token) : Reading (List ParameterDecl) :=
  match _h : read source ts with
  | .found parameter (comma :: rest) =>
    if comma.isMark .comma then (readList source rest).map (parameter :: ·)
    else .found [parameter] (comma :: rest)
  | .found parameter [] => .found [parameter] []
  | .missed cause rest => .missed cause rest
termination_by ts.length
decreasing_by
  have := length_read_rest_le source ts
  rw [_h] at this
  simp only [Reading.rest_found, List.length_cons] at this
  omega

end ParameterDecl

namespace MethodDecl

/-- Passes over a `throws` clause and the body of a method, or its semicolon. -/
def skipBody (name : String) (ts : List Token) : Reading Unit :=
  let rest := ts.drop (Skip.upTo Skip.endsHeader ts)
  if Ahead.atMark .openBrace rest then .found () (rest.drop (Skip.balanced rest))
  else if Ahead.atMark .semicolon rest then .found () (rest.drop 1)
  else .missed (.malformed (.body name)) rest

/-- Reads the parameters of a method up to its closing parenthesis, and that. -/
def readParameters (source : Option (List Char)) (name : String) (ts : List Token) :
    Reading (List ParameterDecl) :=
  let parameters : Reading (List ParameterDecl) :=
    if Ahead.atMark .closeParen ts then .found [] ts
    else (ParameterDecl.readList source ts).orMalformed (.parameters name)
  parameters.andThen fun parameters rest ↦
    if Ahead.atMark .closeParen rest then .found parameters (rest.drop 1)
    else .missed (.malformed (.closingParen name)) rest

/-- Reads a method behind its opening parenthesis. -/
def readRest (source : Option (List Char)) (head : Prelude) (returnType : Option String)
    (name : Token) (ts : List Token) : Reading MethodDecl :=
  (readParameters source name.text ts).andThen fun parameters rest ↦
    (skipBody name.text rest).map fun _ ↦
      { name := name.text
        returnType := returnType
        modifiers := head.modifiers
        annotations := head.annotations
        parameters := parameters
        comment := head.comment.map (·.text)
        line := name.line
        column := name.column }

end MethodDecl

/-! ## Fields -/

/-- A name that a field declaration declares, with its own type and value. -/
structure Declarator where
  name : Token
  type : String
  value : Option String := none

namespace Declarator

/-- Reads the value of a declarator, if there is an equal sign. -/
def readValue (source : Option (List Char)) (name : Token) (ts : List Token) :
    Reading (Option String) :=
  if Ahead.atMark .equal ts then
    ((Initializer.read source (ts.drop 1)).map some).orMalformed (.value name.text)
  else .found none ts

theorem length_readValue_rest_le (source : Option (List Char)) (name : Token) (ts : List Token) :
    (readValue source name ts).rest.length ≤ ts.length := by
  unfold readValue
  split
  · rw [Reading.rest_orMalformed, Reading.rest_map]
    exact Nat.le_trans (Initializer.length_read_rest_le ..) (by simp)
  · simp

/-- Reads declarators, the first of which has the given name; a comma and another name start the
next one. -/
def readList (source : Option (List Char)) (type : String) (name : Token) (ts : List Token) :
    Reading (List Declarator) :=
  let own := type ++ String.join (List.replicate (Ahead.bracketPairs ts).1 "[]")
  match _h : readValue source name (Ahead.bracketPairs ts).2 with
  | .found value (comma :: next :: more) =>
    if comma.isMark .comma && next.is .identifier then
      (readList source type next more).map (⟨name, own, value⟩ :: ·)
    else .found [⟨name, own, value⟩] (comma :: next :: more)
  | .found value rest => .found [⟨name, own, value⟩] rest
  | .missed cause rest => .missed cause rest
termination_by ts.length
decreasing_by
  have h1 := length_readValue_rest_le source name (Ahead.bracketPairs ts).2
  have h2 := Ahead.length_bracketPairs_rest_le ts
  rw [_h] at h1
  simp only [Reading.rest_found, List.length_cons] at h1
  omega

end Declarator

namespace FieldDecl

/-- The line comment in front of the semicolon at the front, if there is one, and the tokens from
the semicolon on. -/
def trailingComment? : List Token → Option String × List Token
  | t :: ts =>
    if t.is (.comment .line) && Ahead.atMark .semicolon ts then (some t.text, ts)
    else (none, t :: ts)
  | [] => (none, [])

/-- Reads a field declaration behind its first name. -/
def readRest (source : Option (List Char)) (head : Prelude) (type : String) (name : Token)
    (ts : List Token) : Reading (List FieldDecl) :=
  (Declarator.readList source type name ts).andThen fun declarators rest ↦
    let (trailing, rest) := trailingComment? rest
    if Ahead.atMark .semicolon rest then
      let fields := declarators.map fun d ↦
        { name := d.name.text
          type := d.type
          modifiers := head.modifiers
          annotations := head.annotations
          comment := head.comment.map (·.text)
          trailingComment := trailing
          defaultValue := d.value
          line := d.name.line
          column := d.name.column }
      .found fields (rest.drop 1)
    else
      let last := (declarators.getLast?.map (·.name)).getD name
      .missed (.malformed (.semicolon last.text)) rest

end FieldDecl

/-! ## Members -/

/-- What stands at the place of a member: members, none of them for a block or a semicolon, or a
type that is to be passed over. -/
inductive MemberItem
  | members (decls : List Member)
  | nestedType (what : Skippable)

namespace MemberItem

/-- Reads a member behind its modifiers and type parameters, from its type or its name on; `final`
is the end of the input. -/
def readDeclared (source : Option (List Char)) (final : Token) (head : Prelude)
    (ts : List Token) : Reading MemberItem :=
  match ts with
  | name :: paren :: rest =>
    if name.is .identifier && paren.isMark .openParen then
      (MethodDecl.readRest source head none name rest).map fun m ↦ members [.method m]
    else typed (name :: paren :: rest)
  | _ => typed ts
where
  /-- Reads a member that starts with a type. -/
  typed (ts : List Token) : Reading MemberItem :=
    let start := ts.head?.getD final
    let typeText := (TypeText.read ts).orMalformed (.type start.line start.column)
    typeText.andThen fun type rest ↦
      match rest with
      | [] => .missed (.malformed (.name type "end of input")) []
      | name :: more =>
        if name.is .identifier then
          if Ahead.atMark .openParen more then
            (MethodDecl.readRest source head (some type) name (more.drop 1)).map fun m ↦
              members [.method m]
          else (FieldDecl.readRest source head type name more).map fun fields ↦
            members (fields.map .field)
        else .missed (.malformed (.name type name.text)) (name :: more)

/-- Reads a member behind what stands in front of it. -/
def readBehind (source : Option (List Char)) (final : Token) (head : Prelude)
    (ts : List Token) : Reading MemberItem :=
  if head.isEmpty && (Ahead.atMark .closeBrace ts || ts.isEmpty) then .found (members []) ts
  else if Ahead.atMark .openBrace ts then .found (members []) (ts.drop (Skip.balanced ts))
  else
    match Skippable.at? true ts with
    | some what => .found (nestedType what) ts
    | none =>
      let ts := if Ahead.atMark .openAngle ts then ts.drop (Skip.balanced ts) else ts
      readDeclared source final head ts

/-- Reads a member. -/
def read (source : Option (List Char)) (final : Token) (ts : List Token) : Reading MemberItem :=
  if Ahead.atMark .semicolon ts then .found (members []) (ts.drop 1)
  else if Ahead.atMark .openBrace ts then .found (members []) (ts.drop (Skip.balanced ts))
  else (Prelude.read source ts).andThen (readBehind source final)

end MemberItem

end ClassSchema

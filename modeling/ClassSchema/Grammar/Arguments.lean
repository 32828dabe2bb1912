import ClassSchema.Declaration.Argument
import ClassSchema.Grammar.Initializer

/-!
# Annotations and their arguments

The arguments of an annotation are a single value or a row of `key = value` pairs. Whatever else
stands between the parentheses is passed over up to the closing one; if a semicolon, a brace or the
end of the input comes first, the arguments are not closed.
-/

namespace ClassSchema.Arguments

/-- The kinds that can follow a dot in a path: a name, or the word `class`. -/
def isPathName (kind : Kind) : Bool := kind = .identifier || kind = .keyword .classWord

/-- The texts of the names of a path, with dots between them. -/
def pathText (first : Token) (names : Ahead.Names) : String :=
  names.foldl (fun text pair ↦ text ++ "." ++ pair.2.text) first.text

/-- Reads the value of an argument. Adjacent strings are one: the plus sign between them is no
token. -/
def value (source : Option (List Char)) : List Token → Reading Argument
  | [] => .missed .absent []
  | t :: ts =>
    match t.kind with
    | .string =>
      let others := ts.takeWhile (·.is .string)
      let text := others.foldl (fun text u ↦ text ++ Text.unquote u.text) (Text.unquote t.text)
      .found (.text text) (ts.drop others.length)
    | .number =>
      match Numeral.read t.text with
      | .error fault => .missed (.longNumeral fault) ts
      | .ok none => .missed .absent ts
      | .ok (some number) => .found (.number number) ts
    | .keyword .trueWord => .found (.flag true) ts
    | .keyword .falseWord => .found (.flag false) ts
    | .mark .openBrace =>
      let count := Skip.balanced (t :: ts)
      .found (.path (sourceText source ((t :: ts).take count))) ((t :: ts).drop count)
    | kind =>
      if kind.startsType then
        let (names, rest) := Ahead.dottedNames isPathName ts
        .found (.path (pathText t names)) rest
      else .missed .absent (t :: ts)

theorem length_value_rest_le (source : Option (List Char)) (ts : List Token) :
    (value source ts).rest.length ≤ ts.length := by
  cases ts with
  | nil => simp [value, Reading.rest]
  | cons t ts =>
    simp only [value]
    split
    · simp; omega
    · split <;> simp
    · simp
    · simp
    · simp
    · split
      · have := Ahead.length_dottedNames_rest_le isPathName ts
        simp only [Reading.rest, List.length_cons]
        omega
      · simp

/-- Reads `key = value` pairs, adding them to those in `sofar`. It stops behind a pair that no comma
follows and at anything that is no pair. -/
def pairs (source : Option (List Char)) (sofar : Assoc Argument) (ts : List Token) :
    Reading (Assoc Argument) :=
  match ts with
  | key :: sign :: rest =>
    if key.is .identifier && sign.isMark .equal then
      match _h : value source rest with
      | .found argument more =>
        let table := sofar.put key.text argument
        match more with
        | comma :: others =>
          if comma.isMark .comma then pairs source table others else .found table more
        | [] => .found table more
      | .missed .absent more => .found sofar more
      | .missed cause more => .missed cause more
    else .found sofar ts
  | _ => .found sofar ts
termination_by ts.length
decreasing_by
  have := length_value_rest_le source rest
  rw [_h] at this
  simp only [Reading.rest, List.length_cons] at this ⊢
  omega

/-- Reads the arguments up to, not including, the closing parenthesis; it stops early at anything it
does not understand. -/
def read (source : Option (List Char)) (ts : List Token) : Reading (Assoc Argument) :=
  if Ahead.atMark .closeParen ts then .found [] ts
  else if Ahead.kind ts = .identifier && Ahead.kindAt 1 ts = .mark .equal then pairs source [] ts
  else
    match value source ts with
    | .found argument rest => .found [("value", argument)] rest
    | .missed .absent rest => .found [] rest
    | .missed cause rest => .missed cause rest

/-- The kinds at which looking for the closing parenthesis is given up. -/
def endsSearch : Kind → Bool
  | .mark .semicolon | .mark .openBrace | .mark .closeBrace => true
  | _ => false

/-- Passes over what is left in front of the closing parenthesis, and over that. -/
def close (ts : List Token) : Reading Unit :=
  if Ahead.atMark .closeParen ts then .found () (ts.drop 1)
  else
    let (count, fault) := Skip.search (.mark .closeParen) endsSearch ts
    match fault with
    | none => .found () (ts.drop (count + 1))
    | some _ => .missed .unclosedArguments (ts.drop count)

/-- Reads the arguments in parentheses, if there are any. -/
def parenthesized (source : Option (List Char)) (ts : List Token) : Reading (Assoc Argument) :=
  if Ahead.atMark .openParen ts then
    (read source (ts.drop 1)).andThen fun table rest ↦ (close rest).map fun _ ↦ table
  else .found [] ts

/-- Reads an annotation; the first token is the sign that announces it. A qualified name counts by
its last part. -/
def use (source : Option (List Char)) : List Token → Reading AnnotationUse
  | [] => .missed .absent []
  | [_] => .missed .absent []
  | sign :: name :: ts =>
    if name.is .identifier then
      let (names, rest) := Ahead.dottedNames (· = .identifier) ts
      let last := (names.getLast?.map (·.2)).getD name
      (parenthesized source rest).map fun table ↦ ⟨last.text, table, sign.line, sign.column⟩
    else .missed .absent (name :: ts)

/-! ## Readings get shorter -/

private theorem length_pairs_rest_le (source : Option (List Char)) (sofar : Assoc Argument)
    (ts : List Token) : (pairs source sofar ts).rest.length ≤ ts.length := by
  fun_induction pairs source sofar ts <;> grind [length_value_rest_le, Reading.rest]

private theorem length_read_rest_le (source : Option (List Char)) (ts : List Token) :
    (read source ts).rest.length ≤ ts.length := by
  have := length_value_rest_le source ts
  unfold read
  split
  · simp [Reading.rest]
  · split
    · exact length_pairs_rest_le ..
    · split <;> simp_all [Reading.rest]

private theorem length_close_rest_le (ts : List Token) : (close ts).rest.length ≤ ts.length := by
  unfold close
  split
  · simp [Reading.rest]
  · dsimp only
    split <;> simp [Reading.rest]

private theorem length_parenthesized_rest_le (source : Option (List Char)) (ts : List Token) :
    (parenthesized source ts).rest.length ≤ ts.length := by
  unfold parenthesized
  split
  · refine Reading.length_andThen_rest_le ?_ fun table rest hrest ↦ ?_
    · exact Nat.le_trans (length_read_rest_le source _) (by simp)
    · rw [Reading.rest_map]
      exact Nat.le_trans (length_close_rest_le rest) hrest
  · simp

/-- An annotation takes its sign at least. -/
theorem length_use_rest_lt (source : Option (List Char)) (t : Token) (ts : List Token) :
    (use source (t :: ts)).rest.length < (t :: ts).length := by
  cases ts with
  | nil => simp [use]
  | cons name us =>
    simp only [use]
    split
    · have h1 := Ahead.length_dottedNames_rest_le (· = .identifier) us
      have h2 := length_parenthesized_rest_le source (Ahead.dottedNames (· = .identifier) us).2
      simp only [Reading.rest_map, List.length_cons]
      omega
    · simp

end ClassSchema.Arguments

import ClassSchema.Grammar.Skip

/-!
# Initializers and the text of the source

The value of a field is not evaluated; it is kept as the text it has in the source. Where it ends is
decided on the tokens: groups in brackets belong to it, a semicolon ends it, and so does a comma
behind which another declarator starts.
-/

namespace ClassSchema

/-- The text of the source that some tokens cover. Without a source the texts of the tokens are
joined, with one space wherever there is a gap between two of them. -/
def sourceText (source : Option (List Char)) (tokens : List Token) : String :=
  match tokens with
  | [] => ""
  | first :: others =>
    match source with
    | some text =>
      let start := first.span.start
      let stop := (others.getLast?.getD first).span.stop
      String.ofList ((text.drop start).take (stop - start))
    | none => first.text ++ spaced first others
where
  /-- The texts of the tokens behind `previous`, with their gaps. -/
  spaced (previous : Token) : List Token → String
    | [] => ""
    | t :: ts => (if previous.span.stop < t.span.start then " " else "") ++ t.text ++ spaced t ts

namespace Initializer

/-- The marks that open a group of an initializer. -/
def opens (t : Token) : Bool :=
  t.isMark .openBrace || t.isMark .openParen || t.isMark .openBracket

/-- The marks that close a group of an initializer. -/
def closes (t : Token) : Bool :=
  t.isMark .closeBrace || t.isMark .closeParen || t.isMark .closeBracket

/-- Whether a declarator starts behind a comma: a row of names with commas between them that ends in
front of an equal sign or a semicolon. The row is read to its end, so that the commas of
`new Triple<A, B, C>()` do not count. -/
def startsDeclarator : List Token → Bool
  | name :: follower :: rest =>
    if name.is .identifier then
      if follower.isMark .equal || follower.isMark .semicolon then true
      else if follower.isMark .comma then startsDeclarator rest
      else false
    else false
  | _ => false

/-- Whether an initializer outside of all groups ends in front of the token `t`, behind which come
`ts`. A line comment in front of the semicolon belongs to the field, not to its value. -/
def endsAt (t : Token) (ts : List Token) : Bool :=
  t.isMark .semicolon
    || t.is (.comment .line) && Ahead.atMark .semicolon ts
    || t.isMark .comma && startsDeclarator ts

/-- The number of tokens up to the end of an initializer, from inside `depth` groups. -/
def length : Nat → List Token → Nat
  | _, [] => 0
  | depth, t :: ts =>
    if opens t then length (depth + 1) ts + 1
    else if closes t then
      match depth with
      | 0 => 0
      | depth + 1 => length depth ts + 1
    else if depth = 0 && endsAt t ts then 0
    else length depth ts + 1

theorem opens_of_closes {t : Token} (h : closes t = true) : opens t = false := by
  rw [closes, Bool.or_eq_true, Bool.or_eq_true] at h
  rcases h with (h | h) | h <;>
    rw [opens, Token.isMark, Token.isMark, Token.isMark, of_decide_eq_true h] <;> rfl

theorem length_of_opens {t : Token} (h : opens t = true) (depth : Nat) (ts : List Token) :
    length depth (t :: ts) = length (depth + 1) ts + 1 := by
  rw [length.eq_def]
  dsimp only
  rw [if_pos h]

theorem length_of_closes {t : Token} (h : closes t = true) (depth : Nat) (ts : List Token) :
    length (depth + 1) (t :: ts) = length depth ts + 1 := by
  rw [length.eq_def]
  dsimp only
  rw [if_neg (ne_true_of_eq_false (opens_of_closes h)), if_pos h]

theorem length_of_closes_zero {t : Token} (h : closes t = true) (ts : List Token) :
    length 0 (t :: ts) = 0 := by
  rw [length.eq_def]
  dsimp only
  rw [if_neg (ne_true_of_eq_false (opens_of_closes h)), if_pos h]

theorem length_of_inner {t : Token} (hopens : opens t = false) (hcloses : closes t = false)
    (depth : Nat) (ts : List Token) :
    length depth (t :: ts) = if depth = 0 && endsAt t ts then 0 else length depth ts + 1 := by
  rw [length.eq_def]
  dsimp only
  rw [hopens, hcloses, if_neg Bool.false_ne_true, if_neg Bool.false_ne_true]

/-- Drops the comments at the end. -/
def dropComments (ts : List Token) : List Token :=
  (ts.reverse.dropWhile (·.kind.isComment)).reverse

/-- Reads an initializer as the text it has in the source. -/
def read (source : Option (List Char)) (ts : List Token) : Reading String :=
  let count := length 0 ts
  let rest := ts.drop count
  match dropComments (ts.take count) with
  | [] => .missed .absent rest
  | tokens => .found (sourceText source tokens) rest

theorem length_read_rest_le (source : Option (List Char)) (ts : List Token) :
    (read source ts).rest.length ≤ ts.length := by
  unfold read
  dsimp only
  split <;> simp [Reading.rest]

end Initializer

end ClassSchema

import ClassSchema.Grammar.Skip

/-!
# Types as text

A type is a dotted name or a primitive, then type arguments in angle brackets, then `[]` pairs, then
three dots. It is not taken apart: its tokens are found by balancing brackets and written back in a
compact form, with one space after a comma and between two words.

The reading goes left to right in stretches. A stretch takes tokens off the front and says whether
what it looks for is complete; the next stretch starts behind it only if it is.
-/

namespace ClassSchema

/-- The tokens taken off the front, the tokens left, and whether the construct is complete. -/
structure Stretch where
  taken : List Token
  rest : List Token
  complete : Bool

namespace Stretch

/-- Goes on behind a complete stretch. -/
def andThen (s : Stretch) (next : List Token → Stretch) : Stretch :=
  if s.complete then
    let t := next s.rest
    ⟨s.taken ++ t.taken, t.rest, t.complete⟩
  else s

/-- The stretch that takes nothing. -/
def nothing (ts : List Token) : Stretch := ⟨[], ts, true⟩

end Stretch

namespace TypeText

/-- One token that a type can start with. -/
def head : List Token → Stretch
  | [] => ⟨[], [], false⟩
  | t :: ts => if t.kind.startsType then ⟨[t], ts, true⟩ else ⟨[], t :: ts, false⟩

/-- The `. identifier` pairs of a qualified name. -/
def path (ts : List Token) : Stretch :=
  let (names, rest) := Ahead.dottedNames (· = .identifier) ts
  ⟨names.flatMap fun (dot, name) ↦ [dot, name], rest, true⟩

/-- Tokens up to the angle bracket that closes the last of `depth` open ones. A brace or a semicolon
leaves the group incomplete. -/
def angleGroup (depth : Nat) : List Token → Stretch
  | [] => ⟨[], [], false⟩
  | t :: ts =>
    let keep (s : Stretch) : Stretch := ⟨t :: s.taken, s.rest, s.complete⟩
    if t.isMark .openAngle then keep (angleGroup (depth + 1) ts)
    else if t.isMark .closeAngle then
      if depth ≤ 1 then ⟨[t], ts, true⟩ else keep (angleGroup (depth - 1) ts)
    else if Skip.endsHeader t.kind then ⟨[], t :: ts, false⟩
    else keep (angleGroup depth ts)

/-- Type arguments, if there are any. -/
def arguments (ts : List Token) : Stretch :=
  if Ahead.atMark .openAngle ts then angleGroup 0 ts else .nothing ts

/-- The `[]` pairs of an array type. An opening bracket has to be closed at once. -/
def dimensions : List Token → Stretch
  | [] => .nothing []
  | t :: ts =>
    if t.isMark .openBracket then
      match ts with
      | [] => ⟨[t], [], false⟩
      | u :: us =>
        if u.isMark .closeBracket then
          let s := dimensions us
          ⟨t :: u :: s.taken, s.rest, s.complete⟩
        else ⟨[t], u :: us, false⟩
    else .nothing (t :: ts)

/-- The three dots of a variable number of arguments. -/
def ellipsis : List Token → Stretch
  | a :: b :: c :: ts =>
    if a.isMark .dot && b.isMark .dot && c.isMark .dot then ⟨[a, b, c], ts, true⟩
    else .nothing (a :: b :: c :: ts)
  | ts => .nothing ts

/-- The tokens of a type. -/
def scan (ts : List Token) : Stretch :=
  ((((head ts).andThen path).andThen arguments).andThen dimensions).andThen ellipsis

/-- What stands between two tokens of a type. -/
def gap (left right : Token) : String :=
  if left.isMark .comma || left.kind.isWord && right.kind.isWord then " " else ""

/-- The text of the tokens behind `previous`, gaps included. -/
def joinAfter (previous : Token) : List Token → String
  | [] => ""
  | t :: ts => gap previous t ++ t.text ++ joinAfter t ts

/-- The compact text of the tokens of a type. -/
def join : List Token → String
  | [] => ""
  | t :: ts => t.text ++ joinAfter t ts

/-- Reads a type as text. -/
def read (ts : List Token) : Reading String :=
  let s := scan ts
  if s.complete then .found (join s.taken) s.rest else .missed .absent s.rest

/-! ## No token is lost -/

/-- A stretch of `ts` divides it. -/
def Divides (s : Stretch) (ts : List Token) : Prop := s.taken ++ s.rest = ts

private theorem divides_andThen {s : Stretch} {next : List Token → Stretch} {ts : List Token}
    (hs : Divides s ts) (hnext : ∀ us, Divides (next us) us) : Divides (s.andThen next) ts := by
  unfold Stretch.andThen
  split
  · have h := hnext s.rest
    simp only [Divides] at hs h ⊢
    rw [List.append_assoc, h, hs]
  · exact hs

private theorem divides_head (ts : List Token) : Divides (head ts) ts := by
  cases ts with
  | nil => rfl
  | cons t ts => simp only [head]; split <;> rfl

theorem divides_path (ts : List Token) : Divides (path ts) ts := by
  simp only [Divides, path]
  fun_induction Ahead.dottedNames (· = .identifier) ts <;> simp_all

theorem divides_angleGroup (depth : Nat) (ts : List Token) :
    Divides (angleGroup depth ts) ts := by
  induction ts generalizing depth with
  | nil => rfl
  | cons t ts ih =>
    simp only [Divides] at ih ⊢
    unfold angleGroup
    dsimp only
    split
    · simp [ih]
    · split
      · split
        · rfl
        · simp [ih]
      · split
        · rfl
        · simp [ih]

theorem divides_arguments (ts : List Token) : Divides (arguments ts) ts := by
  unfold arguments
  split
  · exact divides_angleGroup ..
  · rfl

theorem divides_dimensions (ts : List Token) : Divides (dimensions ts) ts := by
  fun_induction dimensions ts <;> simp_all +zetaDelta [Divides, Stretch.nothing]

theorem divides_ellipsis (ts : List Token) : Divides (ellipsis ts) ts := by
  unfold ellipsis
  split
  · split <;> rfl
  · rfl

theorem divides_scan (ts : List Token) : Divides (scan ts) ts :=
  divides_andThen (divides_andThen (divides_andThen (divides_andThen (divides_head ts)
    divides_path) divides_arguments) divides_dimensions) divides_ellipsis

private theorem length_scan_rest_le (ts : List Token) : (scan ts).rest.length ≤ ts.length := by
  have h := congrArg List.length (divides_scan ts)
  rw [List.length_append] at h
  omega

theorem length_read_rest_le (ts : List Token) : (read ts).rest.length ≤ ts.length := by
  unfold read
  dsimp only
  split <;> exact length_scan_rest_le ts

end TypeText

end ClassSchema

import ClassSchema.Grammar.Reading

/-!
# Skipping

How many tokens to pass over to get behind a group, to a kind of token, or behind a member that is
not understood. All counts stop at the end of the input, so text that is cut off or out of balance
cannot hold up the parser.
-/

namespace ClassSchema.Skip

/-- The tokens of a group opened by `opener`, from inside `depth` open groups of that kind up to the
token that closes the last of them. Only `opener` and its own `closer` count. -/
def groupLength (opener closer : Mark) : Nat → List Token → Nat
  | _, [] => 0
  | depth, t :: ts =>
    if t.isMark opener then groupLength opener closer (depth + 1) ts + 1
    else if t.isMark closer then
      if depth ≤ 1 then 1 else groupLength opener closer (depth - 1) ts + 1
    else groupLength opener closer depth ts + 1

/-- The tokens of the group that starts here; a token that opens no group counts alone. -/
def balanced : List Token → Nat
  | [] => 0
  | t :: ts =>
    match t.kind with
    | .mark m =>
      match m.closer? with
      | some closer => groupLength m closer 0 (t :: ts)
      | none => 1
    | _ => 1

/-- The tokens in front of the first one of a kind in `stops`. -/
def upTo (stops : Kind → Bool) (ts : List Token) : Nat :=
  (ts.takeWhile (!stops ·.kind)).length

/-- The tokens up to the end of a member: a semicolon and a balanced block belong to it, a closing
brace does not. -/
def toMemberEnd : List Token → Nat
  | [] => 0
  | t :: ts =>
    if t.isMark .semicolon then 1
    else if t.isMark .closeBrace then 0
    else if t.isMark .openBrace then balanced (t :: ts)
    else toMemberEnd ts + 1

/-- The tokens of the header and the body of a declaration that is passed over: a balanced block
ends it, and so does a semicolon, which belongs to it, or a closing brace, which does not. -/
def toDeclarationEnd : List Token → Nat
  | [] => 0
  | t :: ts =>
    if t.isMark .openBrace then balanced (t :: ts)
    else if t.isMark .semicolon then 1
    else if t.isMark .closeBrace then 0
    else toDeclarationEnd ts + 1

/-- How looking for a token failed. -/
inductive SearchFault
  | endOfInput
  | alreadyThere
  | stopped
deriving DecidableEq

/-- The word for a failed search. -/
def SearchFault.text : SearchFault → String
  | endOfInput => "eof"
  | alreadyThere => "already_recovered"
  | stopped => "not_found"

/-- Looks for a token of kind `target`, giving up at a kind in `stops`: the tokens in front of where
the search ends, and how it failed. -/
def search (target : Kind) (stops : Kind → Bool) (ts : List Token) : Nat × Option SearchFault :=
  if Ahead.kind ts = target then (0, some .alreadyThere)
  else
    let count := upTo (fun kind ↦ kind = target || stops kind) ts
    match ts.drop count with
    | [] => (count, some .endOfInput)
    | t :: _ => (count, if t.kind = target then none else some .stopped)

/-- The kinds at which the body of a method is looked for, and type arguments are given up. -/
def endsHeader : Kind → Bool
  | .mark .openBrace | .mark .semicolon | .mark .closeBrace => true
  | _ => false

private theorem groupLength_le (opener closer : Mark) (depth : Nat) (ts : List Token) :
    groupLength opener closer depth ts ≤ ts.length := by
  fun_induction groupLength opener closer depth ts <;> simp_all

theorem balanced_le (ts : List Token) : balanced ts ≤ ts.length := by
  cases ts with
  | nil => simp [balanced]
  | cons t ts =>
    simp only [balanced]
    split
    · split
      · exact groupLength_le ..
      · simp
    · simp

theorem upTo_le (stops : Kind → Bool) (ts : List Token) : upTo stops ts ≤ ts.length :=
  (List.takeWhile_sublist _).length_le

theorem toMemberEnd_le (ts : List Token) : toMemberEnd ts ≤ ts.length := by
  fun_induction toMemberEnd ts with
  | case4 => exact balanced_le _
  | _ => simp_all

/-- A token is one mark at most, so it makes no difference which of them is looked for first: a
declaration ends where a member does. -/
theorem toDeclarationEnd_eq (ts : List Token) : toDeclarationEnd ts = toMemberEnd ts := by
  induction ts with
  | nil => rfl
  | cons t ts ih =>
    rw [toDeclarationEnd, toMemberEnd, ih]
    by_cases hopen : t.isMark .openBrace = true
    · have hkind : t.kind = .mark .openBrace := of_decide_eq_true hopen
      simp [Token.isMark, hkind]
    · simp only [if_neg hopen]

end ClassSchema.Skip

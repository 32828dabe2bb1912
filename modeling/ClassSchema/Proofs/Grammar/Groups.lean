import ClassSchema.Grammar.TypeText
import ClassSchema.Proofs.Written.QualifiedName

/-!
# Groups in brackets

A group starts with an opening mark and is the shortest run of tokens in which that mark and the one
that closes it occur equally often; no other mark counts. This says where a group ends without a
word about depth. A skip counts the depth instead, and so does the reading of type arguments.

Both are loops that go on inside some groups, so what they do is said of the tokens behind `depth`
opening marks: `Skip.Closes` if these close the last of them with their last token, and
`Skip.Unclosed` if they do not close it anywhere. One token changes the depth to `Skip.depthBehind`
and leaves the same question to the tokens behind it, `Skip.closes_cons` and `Skip.unclosed_cons`.
-/

namespace ClassSchema

namespace Skip

/-- How often a mark occurs. -/
def marks (m : Mark) (ts : List Token) : Nat := ts.countP (·.isMark m)

/-- Two marks occur equally often. -/
def EquallyOften (opener closer : Mark) (ts : List Token) : Prop :=
  marks opener ts = marks closer ts

instance (opener closer : Mark) (ts : List Token) : Decidable (EquallyOften opener closer ts) :=
  inferInstanceAs (Decidable (marks opener ts = marks closer ts))

/-- A group: it starts with an opening mark, that mark and its closing mark occur equally often in
it, and so they do in no shorter run of tokens from there. -/
structure IsGroup (opener closer : Mark) (group : List Token) : Prop where
  opens : Ahead.atMark opener group = true
  equallyOften : EquallyOften opener closer group
  shortest : ∀ n, 0 < n → n < group.length → ¬EquallyOften opener closer (group.take n)

/-- The tokens up to the last one close `depth` groups, and none of these before that. -/
structure Closes (opener closer : Mark) (depth : Nat) (ts : List Token) : Prop where
  closed : marks closer ts = depth + marks opener ts
  inside : ∀ n < ts.length, marks closer (ts.take n) < depth + marks opener (ts.take n)

/-- The tokens leave one of `depth` groups open all the way. -/
def Unclosed (opener closer : Mark) (depth : Nat) (ts : List Token) : Prop :=
  ∀ n ≤ ts.length, marks closer (ts.take n) < depth + marks opener (ts.take n)

/-- The number of open groups behind a token. -/
def depthBehind (opener closer : Mark) (depth : Nat) (t : Token) : Nat :=
  if t.isMark opener then depth + 1 else if t.isMark closer then depth - 1 else depth

variable {opener closer : Mark} {depth : Nat} {t : Token} {ts group : List Token}

/-! ## One token -/

theorem marks_cons (m : Mark) (t : Token) (ts : List Token) :
    marks m (t :: ts) = (if t.isMark m then 1 else 0) + marks m ts := by
  rw [marks, List.countP_cons, Nat.add_comm]
  rfl

theorem isMark_eq_false_of_isMark {m n : Mark} (hne : m ≠ n) (h : t.isMark m = true) :
    t.isMark n = false := by
  rw [Token.isMark_of_kind (of_decide_eq_true h) n]
  exact decide_eq_false hne

theorem depthBehind_add_marks (hne : opener ≠ closer) (hdepth : 0 < depth) (t : Token)
    (ts : List Token) :
    depth + marks opener (t :: ts) + marks closer ts =
      depthBehind opener closer depth t + marks opener ts + marks closer (t :: ts) := by
  rw [marks_cons, marks_cons, depthBehind]
  by_cases hopen : t.isMark opener = true
  · rw [if_pos hopen, if_pos hopen, isMark_eq_false_of_isMark hne hopen,
      if_neg Bool.false_ne_true]
    omega
  · rw [if_neg hopen, if_neg hopen]
    split <;> omega

theorem closes_nil : Closes opener closer depth [] ↔ depth = 0 := by
  constructor
  · intro h
    exact h.closed.symm
  · rintro rfl
    exact ⟨rfl, fun n hn ↦ absurd hn (Nat.not_lt_zero n)⟩

theorem closes_zero : Closes opener closer 0 ts ↔ ts = [] := by
  cases ts with
  | nil => exact iff_of_true (closes_nil.mpr rfl) rfl
  | cons t ts =>
    refine iff_of_false (fun h ↦ ?_) (List.cons_ne_nil t ts)
    exact absurd (h.inside 0 (Nat.succ_pos _)) (Nat.lt_irrefl 0)

theorem closes_cons (hne : opener ≠ closer) (hdepth : 0 < depth) :
    Closes opener closer depth (t :: ts) ↔
      Closes opener closer (depthBehind opener closer depth t) ts := by
  have hcount (us : List Token) := depthBehind_add_marks hne hdepth t us
  constructor
  · intro h
    refine ⟨?_, fun n hn ↦ ?_⟩
    · have hclosed := h.closed
      have := hcount ts
      omega
    · have hinside := h.inside (n + 1) (Nat.succ_lt_succ hn)
      rw [List.take_succ_cons] at hinside
      have := hcount (ts.take n)
      omega
  · intro h
    refine ⟨?_, fun n hn ↦ ?_⟩
    · have hclosed := h.closed
      have := hcount ts
      omega
    · cases n with
      | zero => exact hdepth
      | succ n =>
        have hinside := h.inside n (Nat.lt_of_succ_lt_succ hn)
        rw [List.take_succ_cons]
        have := hcount (ts.take n)
        omega

private theorem unclosed_nil (hdepth : 0 < depth) : Unclosed opener closer depth [] := by
  intro n _
  rw [List.take_nil]
  exact hdepth

private theorem unclosed_cons (hne : opener ≠ closer) (hdepth : 0 < depth)
    (h : Unclosed opener closer (depthBehind opener closer depth t) ts) :
    Unclosed opener closer depth (t :: ts) := by
  intro n hn
  cases n with
  | zero => exact hdepth
  | succ n =>
    have hinside := h n (Nat.le_of_succ_le_succ hn)
    have hcount := depthBehind_add_marks hne hdepth t (ts.take n)
    rw [List.take_succ_cons]
    omega

/-! ## Counting the depth -/

private theorem groupLength_cons (hdepth : 0 < depth) :
    groupLength opener closer depth (t :: ts) =
      if depthBehind opener closer depth t = 0 then 1
      else groupLength opener closer (depthBehind opener closer depth t) ts + 1 := by
  rw [groupLength, depthBehind]
  split
  · rw [if_neg (Nat.succ_ne_zero depth)]
  · split
    · have hiff : depth ≤ 1 ↔ depth - 1 = 0 := by omega
      simp only [hiff]
    · rw [if_neg hdepth.ne']

/-- **A count of the depth ends with the token that closes the groups**, or else behind the last
token. -/
theorem closes_or_unclosed_groupLength (hne : opener ≠ closer) (hdepth : 0 < depth)
    (ts : List Token) :
    Closes opener closer depth (ts.take (groupLength opener closer depth ts)) ∨
      groupLength opener closer depth ts = ts.length ∧ Unclosed opener closer depth ts := by
  induction ts generalizing depth with
  | nil => exact .inr ⟨rfl, unclosed_nil hdepth⟩
  | cons t ts ih =>
    rw [groupLength_cons hdepth]
    by_cases hzero : depthBehind opener closer depth t = 0
    · left
      rw [if_pos hzero, List.take_succ_cons, List.take_zero, closes_cons hne hdepth, closes_nil]
      exact hzero
    · rw [if_neg hzero, List.take_succ_cons, closes_cons hne hdepth, List.length_cons]
      rcases ih (Nat.pos_of_ne_zero hzero) with hclosed | ⟨hlength, hopen⟩
      · exact .inl hclosed
      · exact .inr ⟨congrArg (· + 1) hlength, unclosed_cons hne hdepth hopen⟩

/-! ## From the opening mark on -/

theorem IsGroup.exists_eq_cons (h : IsGroup opener closer group) :
    ∃ t ts, group = t :: ts ∧ t.isMark opener = true := by
  cases group with
  | nil => exact absurd h.opens Bool.false_ne_true
  | cons t ts => exact ⟨t, ts, rfl, h.opens⟩

section Opening

variable {m : Token}

private theorem marks_opening_cons (hne : opener ≠ closer) (hopen : m.isMark opener = true)
    (ts : List Token) :
    marks opener (m :: ts) = 1 + marks opener ts ∧ marks closer (m :: ts) = marks closer ts := by
  rw [marks_cons, marks_cons, if_pos hopen, isMark_eq_false_of_isMark hne hopen,
    if_neg Bool.false_ne_true, Nat.zero_add]
  exact ⟨rfl, rfl⟩

theorem equallyOften_opening_cons (hne : opener ≠ closer) (hopen : m.isMark opener = true)
    (ts : List Token) :
    EquallyOften opener closer (m :: ts) ↔ marks closer ts = 1 + marks opener ts := by
  obtain ⟨hopener, hcloser⟩ := marks_opening_cons hne hopen ts
  rw [EquallyOften, hopener, hcloser, eq_comm]

theorem not_equallyOften_of_unclosed (hne : opener ≠ closer) (hopen : m.isMark opener = true)
    (h : Unclosed opener closer 1 ts) {n : Nat} (hn : 0 < n) (hle : n ≤ (m :: ts).length) :
    ¬EquallyOften opener closer ((m :: ts).take n) := by
  obtain ⟨k, rfl⟩ := Nat.exists_eq_succ_of_ne_zero hn.ne'
  rw [List.take_succ_cons, equallyOften_opening_cons hne hopen]
  exact (h k (Nat.le_of_succ_le_succ hle)).ne

theorem Closes.isGroup (h : Closes opener closer 1 ts) (hne : opener ≠ closer)
    (hopen : m.isMark opener = true) : IsGroup opener closer (m :: ts) where
  opens := hopen
  equallyOften := (equallyOften_opening_cons hne hopen ts).mpr h.closed
  shortest n hn hlt := by
    obtain ⟨k, rfl⟩ := Nat.exists_eq_succ_of_ne_zero hn.ne'
    rw [List.take_succ_cons, equallyOften_opening_cons hne hopen]
    exact (h.inside k (Nat.lt_of_succ_lt_succ hlt)).ne

/-- The tokens behind the opening mark of a group close it with the last one of them. If the count
ended before that, the group would not be the shortest one; if it did not end, the two marks would
never be equally often there. -/
theorem IsGroup.closes (h : IsGroup opener closer (m :: ts)) (hne : opener ≠ closer) :
    Closes opener closer 1 ts := by
  rcases closes_or_unclosed_groupLength hne Nat.one_pos ts with hclosed | ⟨-, hunclosed⟩
  · have hgroup := hclosed.isGroup hne h.opens
    rw [← List.take_succ_cons] at hgroup
    have hle : (m :: ts).length ≤ groupLength opener closer 1 ts + 1 := by
      by_contra hlt
      exact h.shortest _ (Nat.succ_pos _) (Nat.lt_of_not_le hlt) hgroup.equallyOften
    rwa [List.take_of_length_le (Nat.le_of_succ_le_succ hle)] at hclosed
  · have hnot := not_equallyOften_of_unclosed (n := (m :: ts).length) hne h.opens hunclosed
      (Nat.succ_pos ts.length) (Nat.le_refl _)
    rw [List.take_length] at hnot
    exact absurd h.equallyOften hnot

/-- **The tokens of a skip over a group**: they are the group, or all tokens if no run of them is
one. -/
theorem isGroup_take_balanced (hopen : m.kind = .mark opener)
    (hcloser : opener.closer? = some closer) (ts : List Token) :
    IsGroup opener closer ((m :: ts).take (balanced (m :: ts))) ∨
      balanced (m :: ts) = (m :: ts).length ∧
        ∀ n, 0 < n → n ≤ (m :: ts).length → ¬EquallyOften opener closer ((m :: ts).take n) := by
  have hne : opener ≠ closer := by
    rintro rfl
    cases opener <;> cases hcloser
  have hmark : m.isMark opener = true := decide_eq_true hopen
  have hbalanced : balanced (m :: ts) = groupLength opener closer 1 ts + 1 := by
    simp only [balanced, hopen, hcloser]
    rw [groupLength, if_pos hmark]
  rw [hbalanced, List.take_succ_cons]
  rcases closes_or_unclosed_groupLength hne Nat.one_pos ts with hclosed | ⟨hlength, hunclosed⟩
  · exact .inl (hclosed.isGroup hne hmark)
  · exact .inr ⟨congrArg (· + 1) hlength, fun _ ↦ not_equallyOften_of_unclosed hne hmark hunclosed⟩

end Opening

end Skip

end ClassSchema

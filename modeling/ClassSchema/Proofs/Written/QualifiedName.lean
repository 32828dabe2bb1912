import ClassSchema.Grammar.Reading
import ClassSchema.Proofs.Written.Pieces

/-!
# Names with dots

The name of an annotation, the name of a type and a path as the value of an argument are read by the
same function, which takes pairs of a dot and a name as long as there are any. It takes all of the
pairs that were written, and nothing of what comes behind them if that is no dot.
-/

namespace ClassSchema

namespace Token

variable {t : Token}

theorem isMark_of_kind {m : Mark} (h : t.kind = .mark m) (n : Mark) :
    t.isMark n = decide (m = n) := by
  rw [isMark, h]
  exact decide_eq_decide.mpr ⟨fun hmark ↦ Kind.mark.inj hmark, congrArg _⟩

theorem isMark_eq_false_of_kind {kind : Kind} (h : t.kind = kind) (hkind : ∀ m, kind ≠ .mark m)
    (n : Mark) : t.isMark n = false := by
  rw [isMark, h]
  exact decide_eq_false (hkind n)

end Token

/-- No names are read where no dot stands. The reader looks at two tokens at a time, so the dot
alone has to rule the pair out. -/
theorem Ahead.dottedNames_of_atMark (isName : Kind → Bool) {ts : List Token}
    (h : atMark .dot ts = false) : dottedNames isName ts = ([], ts) := by
  unfold dottedNames
  split
  · rename_i dot name rest
    have hdot : dot.isMark .dot = false := h
    rw [hdot, Bool.false_and, if_neg Bool.false_ne_true]
  · rfl

/-- Pairs in a row are read, and then those behind them. -/
theorem Ahead.dottedNames_pairs_append {isName : Kind → Bool} {path : Names}
    (hpath : ∀ pair ∈ path, pair.1.kind = .mark .dot ∧ isName pair.2.kind = true)
    (ts : List Token) :
    dottedNames isName (path.flatMap (fun pair ↦ [pair.1, pair.2]) ++ ts) =
      (path ++ (dottedNames isName ts).1, (dottedNames isName ts).2) := by
  induction path with
  | nil => rfl
  | cons pair path ih =>
    obtain ⟨⟨hdot, hname⟩, hpath⟩ := List.forall_mem_cons.mp hpath
    have hpair : (pair.1.isMark .dot && isName pair.2.kind) = true :=
      Bool.and_eq_true_iff.mpr ⟨decide_eq_true hdot, hname⟩
    rw [List.flatMap_cons, List.append_assoc, List.cons_append, List.singleton_append,
      dottedNames, if_pos hpair, ih hpath]
    rfl

namespace Written

/-- Pieces with a dot in front of each. -/
def dotted (parts : List Piece) : List Piece := parts.flatMap fun p ↦ [mark .dot, p]

/-- The texts of some pieces with dots between them, behind a first text. -/
def dottedText (first : String) (parts : List Piece) : String :=
  ".".intercalate (first :: parts.map Piece.text)

theorem dottedText_nil (first : String) : dottedText first [] = first :=
  String.intercalate_singleton

theorem dottedText_cons (first : String) (p : Piece) (parts : List Piece) :
    dottedText first (p :: parts) = first ++ "." ++ dottedText p.text parts :=
  String.intercalate_cons_cons

/-- The texts may as well be put one behind the other. -/
theorem foldl_eq_dottedText (first : String) (parts : List Piece) :
    parts.foldl (fun text p ↦ text ++ "." ++ p.text) first = dottedText first parts := by
  induction parts generalizing first with
  | nil => rw [List.foldl_nil, dottedText_nil]
  | cons p parts ih =>
    rw [List.foldl_cons, ih, dottedText_cons]
    cases parts with
    | nil => rw [dottedText_nil, dottedText_nil]
    | cons q parts => rw [dottedText_cons, dottedText_cons]; simp only [String.append_assoc]

/-- **Dotted names are read to their end.** -/
theorem dottedNames_append {isName : Kind → Bool} {parts : List Piece} {ts rest : List Token}
    (hnumber : isName .number = false) (hparts : ∀ p ∈ parts, isName p.kind = true)
    (h : Token.Spell ts (dotted parts)) (hrest : Ahead.atMark .dot rest = false) :
    ∃ names, Ahead.dottedNames isName (ts ++ rest) = (names, rest) ∧
      names.map (·.2.text) = parts.map Piece.text := by
  induction parts generalizing ts with
  | nil =>
    cases h
    exact ⟨[], Ahead.dottedNames_of_atMark isName hrest, rfl⟩
  | cons p parts ih =>
    rw [dotted, List.flatMap_cons, ← dotted] at h
    obtain ⟨us, vs, rfl, hpair, htail⟩ := Token.spell_append_iff.mp h
    obtain ⟨dot, us, rfl, hdot, -, hname⟩ := Token.spell_cons_iff.mp hpair
    obtain ⟨name, rfl, hkind, hstands⟩ := Token.spell_singleton_iff.mp hname
    have hne : p.kind ≠ .number := by
      intro hsame
      have hname := hparts p List.mem_cons_self
      rw [hsame, hnumber] at hname
      cases hname
    have htext : name.text = p.text := hstands.text_eq (decide_eq_false hne)
    obtain ⟨names, hnames, htexts⟩ :=
      ih (fun q hq ↦ hparts q (List.mem_cons_of_mem _ hq)) htail
    refine ⟨(dot, name) :: names, ?_, ?_⟩
    · have hisDot : dot.isMark .dot = true := Token.isMark_of_kind hdot .dot
      rw [List.append_assoc, List.cons_append, List.cons_append, List.nil_append,
        Ahead.dottedNames, hisDot, hkind, hparts p List.mem_cons_self, Bool.true_and,
        if_pos rfl, hnames]
    · rw [List.map_cons, List.map_cons, htexts, htext]

/-- A name with dots. -/
structure QualifiedName where
  head : Name
  tail : List Name

namespace QualifiedName

variable (q : QualifiedName)

/-- The names behind the first one. -/
def parts : List Piece := q.tail.map Name.piece

/-- A name with dots as it is written. -/
def pieces : List Piece := q.head.piece :: dotted q.parts

/-- The text of a name with dots. -/
def text : String := dottedText q.head.text q.parts

/-- The last part of a name with dots. -/
def last : Name := q.tail.getLast?.getD q.head

theorem kind_of_mem_parts {p : Piece} (h : p ∈ q.parts) : p.kind = .identifier := by
  obtain ⟨n, -, rfl⟩ := List.mem_map.mp h
  rfl

end QualifiedName

end Written

end ClassSchema

import ClassSchema.Text.Blank
import ClassSchema.Text.Digit

/-!
# Classes of characters that do not meet

Letters, digits and blanks are given by ascending tables of ranges. That no character is of two of
these classes is a property of the tables alone, which is found out by going through both of them at
the same time.
-/

namespace ClassSchema.Text

/-! ## Tables -/

/-- Whether no range of a table meets a range of another one. -/
def areApart : List (Nat × Nat) → List (Nat × Nat) → Bool
  | [], _ => true
  | r :: rest, other =>
    match other.dropWhile fun s ↦ s.2.blt r.1 with
    | [] => true
    | s :: others => r.2.blt s.1 && areApart rest (s :: others)

theorem inRanges_cons_iff {n : Nat} {r : Nat × Nat} {rest : List (Nat × Nat)} :
    inRanges n (r :: rest) = true ↔ r.1 ≤ n ∧ (n ≤ r.2 ∨ inRanges n rest = true) := by
  rw [inRanges]
  split
  · rename_i hlt
    exact ⟨fun h ↦ absurd h Bool.false_ne_true, fun h ↦ absurd h.1 (Nat.not_le_of_lt hlt)⟩
  · rename_i hle
    rw [Bool.or_eq_true, decide_eq_true_eq]
    exact ⟨fun h ↦ ⟨Nat.le_of_not_lt hle, h⟩, fun h ↦ h.2⟩

theorem inRanges_dropWhile {n first : Nat} {table : List (Nat × Nat)} (hfirst : first ≤ n)
    (h : inRanges n table = true) :
    inRanges n (table.dropWhile fun s ↦ s.2.blt first) = true := by
  induction table with
  | nil => cases h
  | cons s rest ih =>
    rw [List.dropWhile_cons]
    split
    · rename_i hlast
      rw [Nat.blt_eq] at hlast
      rcases (inRanges_cons_iff.mp h).2 with hle | hrest
      · omega
      · exact ih hrest
    · exact h

/-- A number in one of two tables that are apart is not in the other one. -/
theorem inRanges_eq_false_of_areApart {n : Nat} {table other : List (Nat × Nat)}
    (hapart : areApart table other = true) (h : inRanges n table = true) :
    inRanges n other = false := by
  rw [Bool.eq_false_iff]
  intro hother
  induction table generalizing other with
  | nil => cases h
  | cons r rest ih =>
    obtain ⟨hfirst, hlast⟩ := inRanges_cons_iff.mp h
    -- ranges of the other table that end in front of `r` cannot hold `n`
    have hdropped := inRanges_dropWhile hfirst hother
    rw [areApart] at hapart
    cases hothers : other.dropWhile fun s ↦ s.2.blt r.1 with
    | nil => rw [hothers] at hdropped; cases hdropped
    | cons s others =>
      rw [hothers] at hapart hdropped
      rw [Bool.and_eq_true, Nat.blt_eq] at hapart
      have hs := (inRanges_cons_iff.mp hdropped).1
      rcases hlast with hle | hrest
      · omega
      · exact ih hapart.2 hrest hdropped

private theorem inRanges_of_mem {n : Nat} {table : List (Nat × Nat)} {r : Nat × Nat}
    (hsorted : table.Pairwise fun r s ↦ r.1 ≤ s.1) (hr : r ∈ table) (hfirst : r.1 ≤ n)
    (hlast : n ≤ r.2) : inRanges n table = true := by
  induction table with
  | nil => cases hr
  | cons s rest ih =>
    rw [List.pairwise_cons] at hsorted
    rw [inRanges_cons_iff]
    rcases List.mem_cons.mp hr with rfl | hrest
    · exact ⟨hfirst, .inl hlast⟩
    · exact ⟨Nat.le_trans (hsorted.1 r hrest) hfirst, .inr (ih hsorted.2 hrest)⟩

/-! ## Letters, digits and blanks -/

/-- The ranges of the decimal digits. -/
def decimalRanges : List (Nat × Nat) := decimalZeros.map fun first ↦ (first, first + 9)

private theorem inRanges_of_isDecimal {c : Char} (h : isDecimal c = true) :
    inRanges c.toNat decimalRanges = true := by
  rw [isDecimal, decimalValue?, Option.isSome_map, List.find?_isSome] at h
  obtain ⟨first, hfirst, hle⟩ := h
  rw [Bool.and_eq_true, decide_eq_true_eq, decide_eq_true_eq] at hle
  exact inRanges_of_mem (by decide +kernel) (List.mem_map_of_mem hfirst) hle.1 hle.2

theorem inRanges_eq_false_of_isDigit {c : Char} {table : List (Nat × Nat)}
    (hdecimal : areApart decimalRanges table = true) (hfigure : areApart figureRanges table = true)
    (h : isDigit c = true) : inRanges c.toNat table = false := by
  rcases (Bool.or_eq_true _ _).mp h with hc | hc
  · exact inRanges_eq_false_of_areApart hdecimal (inRanges_of_isDecimal hc)
  · exact inRanges_eq_false_of_areApart hfigure hc

theorem isDigit_of_isDecimal {c : Char} (h : isDecimal c = true) : isDigit c = true := by
  rw [isDigit, h, Bool.true_or]

theorem isDigit_eq_false_of_isLetter {c : Char} (h : isLetter c = true) : isDigit c = false := by
  rw [Bool.eq_false_iff]
  intro hdigit
  have hletter : inRanges c.toNat letterRanges = false :=
    inRanges_eq_false_of_isDigit (by decide +kernel) (by decide +kernel) hdigit
  rw [← isLetter, h] at hletter
  cases hletter

theorem isBlank_eq_false_of_isDigit {c : Char} (h : isDigit c = true) : isBlank c = false :=
  inRanges_eq_false_of_isDigit (by decide +kernel) (by decide +kernel) h

theorem isDigit_eq_false_of_isBlank {c : Char} (h : isBlank c = true) : isDigit c = false := by
  rw [Bool.eq_false_iff]
  intro hdigit
  rw [isBlank_eq_false_of_isDigit hdigit] at h
  cases h

theorem isWord_eq_false_of_isBlank {c : Char} (h : isBlank c = true) : isWord c = false := by
  have hletter : isLetter c = false := inRanges_eq_false_of_areApart (by decide +kernel) h
  have hnumeral : inRanges c.toNat numeralRanges = false :=
    inRanges_eq_false_of_areApart (by decide +kernel) h
  rw [isWord, hletter, isDigit_eq_false_of_isBlank h, hnumeral]
  rfl

end ClassSchema.Text

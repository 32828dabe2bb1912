import ClassSchema.Number.Numeral
import Mathlib.Data.List.TakeWhile

/-!
# Numerals that cannot be read

Reading a numeral fails on one kind of text only: an integer of too many digits. The reader finds
that out while it takes the text apart; here it is said of the text alone, so that what depends on
numerals being readable can be stated without the reader.
-/

namespace ClassSchema.Numeral

/-- An integer of more digits than can be read. Blanks around it, its sign and a type letter do not
count. -/
def IsLongInteger (text : String) : Prop :=
  let digits := (splitSign (dropTypeLetter (Text.trim text.toList))).2
  (∀ c ∈ digits, Text.isDecimal c = true) ∧ digitLimit < digits.length

-- the instance for lists is named, since another one would go through all characters
instance (text : String) : Decidable (IsLongInteger text) :=
  @instDecidableAnd _ _ (List.decidableBAll _ _) (Nat.decLt _ _)

/-- Reading fails on long integers, and on nothing else. -/
theorem exists_read_eq_error_iff {text : String} :
    (∃ fault, read text = .error fault) ↔ IsLongInteger text := by
  unfold read IsLongInteger
  obtain ⟨negative, body⟩ := splitSign (dropTypeLetter (Text.trim text.toList))
  dsimp only
  have hsplit : body.takeWhile Text.isDecimal ++ body.dropWhile Text.isDecimal = body :=
    List.takeWhile_append_dropWhile
  cases hrest : body.dropWhile Text.isDecimal with
  | nil =>
    rw [hrest, List.append_nil] at hsplit
    have hall : ∀ c ∈ body, Text.isDecimal c = true := List.dropWhile_eq_nil_iff.mp hrest
    rw [hsplit]
    dsimp only
    constructor
    · rintro ⟨fault, h⟩
      refine ⟨hall, ?_⟩
      by_contra hshort
      rw [readInteger, if_neg hshort] at h
      split at h
      · cases h
      · cases h
    · rintro ⟨-, hlong⟩
      have hne : body ≠ [] := List.ne_nil_of_length_pos (by omega)
      rw [readInteger, if_pos hlong, if_neg (by simpa using hne)]
      exact ⟨_, rfl⟩
  | cons c cs =>
    -- a character that is no digit: whatever the text is, it is no integer
    have hmem : c ∈ body := by
      rw [← hsplit, hrest]
      simp
    have hc : ¬Text.isDecimal c = true := by
      have h := List.head_dropWhile_not Text.isDecimal (l := body) (by rw [hrest]; simp)
      simpa [hrest] using h
    constructor
    · rintro ⟨fault, h⟩
      split at h
      · contradiction
      · split at h
        · cases h
        · cases h
      · cases h
    · rintro ⟨hall, -⟩
      exact absurd (hall c hmem) hc

theorem isLongInteger_of_read {text : String} {fault : TooLong} (h : read text = .error fault) :
    IsLongInteger text := exists_read_eq_error_iff.mp ⟨fault, h⟩

end ClassSchema.Numeral

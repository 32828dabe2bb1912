import ClassSchema.Proofs.Number.Digits
import ClassSchema.Proofs.Number.Shortest
import Mathlib.Data.List.TakeWhile

/-!
# Numbers told apart by their texts

The text of a number is a sign and a `Layout`: whole digits, digits behind a point, and an exponent.
The three parts can be seen in the text, and the value that they stand for is the one of the decimal
that was written. An integer has whole digits only, a double always has a point, an exponent or a
name.
-/

namespace ClassSchema

/-! ## Parts of a written number -/

/-- The parts of a number in decimal: whole digits, digits behind the point, and an exponent. -/
structure Layout where
  whole : List Char
  fraction : List Char
  exponent : Option Int

namespace Layout

/-- The point and the digits behind it, if there are any. -/
def fractionText (cs : List Char) : List Char := if cs = [] then [] else '.' :: cs

/-- A letter, the sign of the exponent, and at least two digits. -/
def exponentText : Option Int → List Char
  | none => []
  | some x =>
    let size := Nat.toDigits 10 x.natAbs
    'e' :: (if x < 0 then '-' else '+') :: (List.replicate (2 - size.length) '0' ++ size)

/-- The written number. -/
def text (l : Layout) : List Char := l.whole ++ (fractionText l.fraction ++ exponentText l.exponent)

/-- The value of the written number. -/
def value (l : Layout) : ℚ :=
  Nat.ofDigitChars 10 (l.whole ++ l.fraction) 0 * 10 ^ (l.exponent.getD 0 - l.fraction.length)

private theorem fractionText_of_ne_nil {cs : List Char} (h : cs ≠ []) :
    fractionText cs = '.' :: cs :=
  if_neg h

private theorem value_eq {l : Layout} {n a b : Nat} {x : Int} (h : l.whole ++ l.fraction =
    List.replicate a '0' ++ (Nat.toDigits 10 n ++ List.replicate b '0'))
    (hx : l.exponent.getD 0 - l.fraction.length + b = x) : l.value = n * 10 ^ x := by
  rw [value, h, Nat.ofDigitChars_append, Nat.ofDigitChars_append, Nat.ofDigitChars_replicate_zero,
    Nat.ofDigitChars_replicate_zero, Nat.mul_zero, Nat.ofDigitChars_ten_toDigits, ← hx,
    zpow_add₀ (by norm_num), zpow_natCast]
  push_cast
  ring

/-- There is a digit in front, and digits are digits. -/
structure IsNumeral (l : Layout) : Prop where
  whole_ne_nil : l.whole ≠ []
  whole_isDigit : ∀ c ∈ l.whole, c.isDigit = true
  fraction_isDigit : ∀ c ∈ l.fraction, c.isDigit = true

/-- Nothing but digits. -/
def IsWhole (l : Layout) : Prop := l.fraction = [] ∧ l.exponent = none

variable {cs cs' rest rest' : List Char}

theorem digits_append_inj (hcs : ∀ c ∈ cs, c.isDigit = true) (hcs' : ∀ c ∈ cs', c.isDigit = true)
    (hrest : ∀ c ∈ rest.head?, c.isDigit = false) (hrest' : ∀ c ∈ rest'.head?, c.isDigit = false)
    (h : cs ++ rest = cs' ++ rest') : cs = cs' ∧ rest = rest' := by
  have htake {cs rest : List Char} (hcs : ∀ c ∈ cs, c.isDigit = true)
      (hrest : ∀ c ∈ rest.head?, c.isDigit = false) : (cs ++ rest).takeWhile Char.isDigit = cs := by
    rw [List.takeWhile_append_of_pos hcs]
    cases rest with
    | nil => simp
    | cons c rest => simp [hrest c rfl]
  have hsame : cs = cs' := by rw [← htake hcs hrest, h, htake hcs' hrest']
  subst hsame
  exact ⟨rfl, List.append_cancel_left h⟩

theorem exponentText_head? (x : Option Int) : ∀ c ∈ (exponentText x).head?, c = 'e' := by
  cases x <;> simp [exponentText]

private theorem exponentText_injective : Function.Injective exponentText := by
  intro x x' h
  cases x with
  | none =>
    cases x' with
    | none => rfl
    | some x' => cases h
  | some x =>
    cases x' with
    | none => cases h
    | some x' =>
      simp only [exponentText, List.cons.injEq, true_and] at h
      obtain ⟨hsign, hsize⟩ := h
      have hvalue (x : Int) : Nat.ofDigitChars 10
          (List.replicate (2 - (Nat.toDigits 10 x.natAbs).length) '0' ++
            Nat.toDigits 10 x.natAbs) 0 = x.natAbs := by
        rw [Nat.ofDigitChars_append, Nat.ofDigitChars_replicate_zero, Nat.mul_zero,
          Nat.ofDigitChars_toDigits (by decide) (by decide)]
      have habs : x.natAbs = x'.natAbs := by rw [← hvalue x, hsize, hvalue x']
      have hneg : x < 0 ↔ x' < 0 := by
        by_cases hx : x < 0 <;> by_cases hx' : x' < 0 <;> simp [hx, hx'] at hsign ⊢
      congr 1
      omega

private theorem fraction_exponent_inj (hcs : ∀ c ∈ cs, c.isDigit = true)
    (hcs' : ∀ c ∈ cs', c.isDigit = true) {x x' : Option Int}
    (h : fractionText cs ++ exponentText x = fractionText cs' ++ exponentText x') :
    cs = cs' ∧ x = x' := by
  have hpoint (x : Option Int) (cs : List Char) : exponentText x ≠ '.' :: cs := by
    cases x <;> simp [exponentText]
  have hhead (x : Option Int) : ∀ c ∈ (exponentText x).head?, c.isDigit = false := by
    intro c hc
    rw [exponentText_head? x c hc]
    rfl
  cases cs with
  | nil =>
    cases cs' with
    | nil => exact ⟨rfl, exponentText_injective h⟩
    | cons c' cs' => exact absurd h (hpoint _ _)
  | cons c cs =>
    cases cs' with
    | nil => exact absurd h.symm (hpoint _ _)
    | cons c' cs' =>
      obtain ⟨hdigits, hexponent⟩ := digits_append_inj hcs hcs' (hhead x) (hhead x')
        (List.cons.inj h).2
      exact ⟨hdigits, exponentText_injective hexponent⟩

/-- The parts can be seen in the written number. -/
theorem text_inj {l l' : Layout} (hl : l.IsNumeral) (hl' : l'.IsNumeral) (h : l.text = l'.text) :
    l = l' := by
  have hhead (l : Layout) :
      ∀ c ∈ (fractionText l.fraction ++ exponentText l.exponent).head?, c.isDigit = false := by
    intro c hc
    cases hfraction : l.fraction with
    | nil =>
      rw [hfraction] at hc
      rw [exponentText_head? _ c hc]
      rfl
    | cons d ds =>
      rw [hfraction] at hc
      obtain rfl := Option.some.inj hc
      rfl
  obtain ⟨hwhole, hrest⟩ := digits_append_inj hl.whole_isDigit hl'.whole_isDigit (hhead l)
    (hhead l') h
  obtain ⟨hfraction, hexponent⟩ :=
    fraction_exponent_inj hl.fraction_isDigit hl'.fraction_isDigit hrest
  cases l
  cases l'
  simp_all only

private theorem IsNumeral.exists_text_eq_cons {l : Layout} (hl : l.IsNumeral) :
    ∃ d ds, l.text = d :: ds ∧ d.isDigit = true := by
  obtain ⟨d, ds, hwhole⟩ := List.exists_cons_of_ne_nil hl.whole_ne_nil
  exact ⟨d, _, by rw [text, hwhole, List.cons_append], hl.whole_isDigit d (by simp [hwhole])⟩

end Layout

namespace Decimal

/-- The parts that a decimal is written with. -/
def layout (style : DecimalStyle) (d : Decimal) : Layout :=
  let digits := Nat.toDigits 10 d.digits
  let count := digits.length
  let x := d.exponent + (count - 1 : Nat)
  if style.positionalFrom ≤ x ∧ x < style.positionalBelow then
    -- all digits are behind the point, or in front of it, or it is among them
    if x < 0 then ⟨['0'], List.replicate (-x - 1).toNat '0' ++ digits, none⟩
    else
      let whole := x.toNat + 1
      if count ≤ whole then ⟨digits ++ List.replicate (whole - count) '0', ['0'], none⟩
      else ⟨digits.take whole, digits.drop whole, none⟩
  else ⟨digits.take 1, digits.drop 1, some x⟩

variable (style : DecimalStyle) (d : Decimal)

private theorem isNumeral_layout : (d.layout style).IsNumeral := by
  have hlength := Digits.length_pos d.digits
  have hzero : ∀ c ∈ ['0'], c.isDigit = true := List.forall_mem_singleton.mpr rfl
  unfold layout
  dsimp only
  split
  · split
    · refine ⟨by simp, hzero, fun c hc ↦ ?_⟩
      exact (List.mem_append.mp hc).elim Digits.isDigit_of_mem_zeros Digits.isDigit_of_mem
    · split
      · refine ⟨by simp, fun c hc ↦ ?_, hzero⟩
        exact (List.mem_append.mp hc).elim Digits.isDigit_of_mem Digits.isDigit_of_mem_zeros
      · refine ⟨by simp, fun c hc ↦ ?_, fun c hc ↦ ?_⟩
        · exact Digits.isDigit_of_mem (List.mem_of_mem_take hc)
        · exact Digits.isDigit_of_mem (List.mem_of_mem_drop hc)
  · refine ⟨by simp, fun c hc ↦ ?_, fun c hc ↦ ?_⟩
    · exact Digits.isDigit_of_mem (List.mem_of_mem_take hc)
    · exact Digits.isDigit_of_mem (List.mem_of_mem_drop hc)

private theorem not_isWhole_layout : ¬(d.layout style).IsWhole := by
  have hlength := Digits.length_pos d.digits
  unfold layout Layout.IsWhole
  dsimp only
  split
  · split
    · simp
    · split
      · simp
      · simp only [List.drop_eq_nil_iff, and_true, not_le]
        omega
  · simp

private theorem toList_decimalText : (style.decimalText d).toList = (d.layout style).text := by
  unfold layout DecimalStyle.decimalText
  dsimp only
  split
  · split
    · simp [Layout.text, Layout.fractionText, Layout.exponentText, DecimalStyle.zeros]
    · split
      · simp [Layout.text, Layout.fractionText, Layout.exponentText, DecimalStyle.zeros]
      · have hdrop : (Nat.toDigits 10 d.digits).drop ((d.exponent +
            ((Nat.toDigits 10 d.digits).length - 1 : Nat)).toNat + 1) ≠ [] := by
          rw [Ne, List.drop_eq_nil_iff]
          assumption
        simp [Layout.text, Layout.fractionText_of_ne_nil hdrop, Layout.exponentText]
  · have hsize (n : Nat) : n.repr.length = (Nat.toDigits 10 n).length := by
      rw [← String.length_toList, Nat.toList_repr]
    -- a number of one digit has no point in front of its exponent
    have hfraction : (if (Nat.toDigits 10 d.digits).length = 1 then "" else
        "." ++ String.ofList ((Nat.toDigits 10 d.digits).drop 1)).toList =
          Layout.fractionText ((Nat.toDigits 10 d.digits).drop 1) := by
      have hdrop : (Nat.toDigits 10 d.digits).drop 1 = [] ↔
          (Nat.toDigits 10 d.digits).length = 1 := by
        rw [List.drop_eq_nil_iff]
        have := Digits.length_pos d.digits
        omega
      rw [Layout.fractionText]
      simp only [hdrop]
      split <;> simp
    have hsign (x : Int) : (if x < 0 then "e-" else "e+").toList =
        ['e', if x < 0 then '-' else '+'] := by
      split <;> rfl
    simp [-List.drop_one, Layout.text, Layout.exponentText, DecimalStyle.zeros, hsize, hfraction,
      hsign]

/-- A decimal has the value that is written. -/
theorem value_layout : (d.layout style).value = d.value := by
  have hlength := Digits.length_pos d.digits
  unfold layout value
  dsimp only
  -- the point stands behind zeros, behind the digits or among them, or there is an exponent
  generalize hx : d.exponent + ((Nat.toDigits 10 d.digits).length - 1 : Nat) = x
  split
  · split
    · have hzeros : ['0'] ++ (List.replicate (-x - 1).toNat '0' ++ Nat.toDigits 10 d.digits) =
          List.replicate ((-x - 1).toNat + 1) '0' ++
            (Nat.toDigits 10 d.digits ++ List.replicate 0 '0') := by
        simp [List.replicate_succ]
      refine Layout.value_eq hzeros ?_
      simp only [Option.getD_none, List.length_append, List.length_replicate]
      omega
    · split
      · have hzeros : Nat.toDigits 10 d.digits ++
            List.replicate (x.toNat + 1 - (Nat.toDigits 10 d.digits).length) '0' ++ ['0'] =
            List.replicate 0 '0' ++ (Nat.toDigits 10 d.digits ++
              List.replicate (x.toNat + 1 - (Nat.toDigits 10 d.digits).length + 1) '0') := by
          simp [List.replicate_succ']
        refine Layout.value_eq hzeros ?_
        simp only [Option.getD_none, List.length_singleton]
        omega
      · refine Layout.value_eq (a := 0) (b := 0) (n := d.digits) (by simp) ?_
        simp only [Option.getD_none, List.length_drop]
        omega
  · refine Layout.value_eq (a := 0) (b := 0) (n := d.digits) (by simp [-List.drop_one]) ?_
    simp only [Option.getD_some, List.length_drop]
    omega

end Decimal

/-! ## All numbers -/

namespace Number

/-- A number whose double, if it is one, has its one form. -/
def IsCanonical : Number → Prop
  | int _ => True
  | double d => d.IsCanonical

instance : DecidablePred IsCanonical
  | int _ => inferInstanceAs (Decidable True)
  | double d => inferInstanceAs (Decidable d.IsCanonical)

open Double

/-- The minus in front of a number. -/
def signText (negative : Bool) : List Char := if negative then ['-'] else []

/-- Whether there is a minus in front of a number. -/
def negative : Number → Bool
  | int n => n < 0
  | double (.finite b _ _) => b
  | double (.infinite b) => b
  | double .notANumber => false

/-- What is written behind the sign of a number: digits, or a name. -/
def unsigned : Number → Layout ⊕ List Char
  | int n => .inl ⟨Nat.toDigits 10 n.natAbs, [], none⟩
  | double (.finite _ m e) =>
    .inl (if m = 0 then ⟨['0'], ['0'], none⟩ else (Decimal.shortest m e).layout .plain)
  | double (.infinite _) => .inr ['i', 'n', 'f']
  | double .notANumber => .inr ['n', 'a', 'n']

private theorem toList_text (n : Number) :
    (n.text .plain).toList = signText n.negative ++ n.unsigned.elim Layout.text id := by
  cases n with
  | int n =>
    rw [toList_text_int]
    simp [signText, negative, unsigned, Layout.text, Layout.fractionText, Layout.exponentText]
  | double d =>
    cases d with
    | finite b m e =>
      have hsign : (if b then "-" else "").toList = signText b := by cases b <;> rfl
      rw [text, DecimalStyle.text, String.toList_append, hsign, negative, unsigned, Sum.elim_inl]
      split
      · rfl
      · rw [Decimal.toList_decimalText]
    | infinite b => cases b <;> rfl
    | notANumber => rfl

theorem isNumeral_of_unsigned {n : Number} {l : Layout} (h : n.unsigned = .inl l) :
    l.IsNumeral := by
  cases n with
  | int n =>
    obtain rfl := Sum.inl.inj h
    exact ⟨Nat.toDigits_ne_nil, fun c ↦ Digits.isDigit_of_mem, nofun⟩
  | double d =>
    cases d with
    | finite b m e =>
      obtain rfl := Sum.inl.inj h
      split
      · have hzero : ∀ c ∈ ['0'], c.isDigit = true := List.forall_mem_singleton.mpr rfl
        exact ⟨by decide, hzero, hzero⟩
      · exact Decimal.isNumeral_layout _ _
    | infinite b => cases h
    | notANumber => cases h

private theorem eq_of_unsigned {n : Number} {name : List Char} (h : n.unsigned = .inr name) :
    name = ['i', 'n', 'f'] ∨ name = ['n', 'a', 'n'] := by
  cases n with
  | int n => cases h
  | double d =>
    cases d with
    | finite b m e => cases h
    | infinite b => exact .inl (Sum.inr.inj h).symm
    | notANumber => exact .inr (Sum.inr.inj h).symm

theorem exists_elim_eq_cons (n : Number) : ∃ c cs, n.unsigned.elim Layout.text id = c :: cs ∧
    c ≠ '-' ∧ (c.isDigit = true ↔ n.unsigned.isLeft = true) := by
  cases hunsigned : n.unsigned with
  | inl l =>
    obtain ⟨d, ds, htext, hdigit⟩ := (isNumeral_of_unsigned hunsigned).exists_text_eq_cons
    exact ⟨d, ds, htext, Digits.ne_of_isDigit hdigit rfl, iff_of_true hdigit rfl⟩
  | inr name =>
    rcases eq_of_unsigned hunsigned with rfl | rfl
    · exact ⟨_, _, rfl, by decide, by decide⟩
    · exact ⟨_, _, rfl, by decide, by decide⟩

/-- The sign can be seen in the text, and so can what is behind it. -/
theorem eq_of_text_eq {n n' : Number} (h : n.text .plain = n'.text .plain) :
    n.negative = n'.negative ∧ n.unsigned = n'.unsigned := by
  have hlists := congrArg String.toList h
  rw [toList_text, toList_text] at hlists
  obtain ⟨c, cs, hcs, hminus, hleft⟩ := n.exists_elim_eq_cons
  obtain ⟨c', cs', hcs', hminus', hleft'⟩ := n'.exists_elim_eq_cons
  have hsign : n.negative = n'.negative := by
    rw [hcs, hcs'] at hlists
    cases hn : n.negative <;> cases hn' : n'.negative <;>
      simp [signText, hn, hn', hminus, Ne.symm hminus'] at hlists ⊢
  rw [hsign] at hlists
  -- the sign is told by the first character, and so is whether there are digits
  have hrest := List.append_cancel_left hlists
  refine ⟨hsign, ?_⟩
  obtain rfl : c = c' := by
    rw [hcs, hcs'] at hrest
    exact (List.cons.inj hrest).1
  have hsame := hleft.symm.trans hleft'
  cases hl : n.unsigned with
  | inl l =>
    cases hl' : n'.unsigned with
    | inl l' =>
      rw [hl, hl'] at hrest
      rw [Layout.text_inj (isNumeral_of_unsigned hl) (isNumeral_of_unsigned hl') hrest]
    | inr name' => simp [hl, hl'] at hsame
  | inr name =>
    cases hl' : n'.unsigned with
    | inl l' => simp [hl, hl'] at hsame
    | inr name' =>
      rw [hl, hl'] at hrest
      rw [show name = name' from hrest]

theorem unsigned_int_ne (z : Int) (d : Double) : unsigned (.int z) ≠ unsigned (.double d) := by
  cases d with
  | finite b m e =>
    intro h
    have hwhole : Layout.IsWhole ⟨Nat.toDigits 10 z.natAbs, [], none⟩ := ⟨rfl, rfl⟩
    rw [Sum.inl.inj h] at hwhole
    split at hwhole
    · exact absurd hwhole.1 (by decide)
    · exact Decimal.not_isWhole_layout _ _ hwhole
  | infinite b => nofun
  | notANumber => nofun

private theorem value_finite {b : Bool} {m : Nat} {e : Int} {l : Layout}
    (h : unsigned (.double (.finite b m e)) = .inl l) :
    l.value = if m = 0 then 0 else (Decimal.shortest m e).value := by
  obtain rfl := Sum.inl.inj h
  split
  · have hdigits : Nat.ofDigitChars 10 ['0', '0'] 0 = 0 := rfl
    simp [Layout.value, hdigits]
  · exact Decimal.value_layout _ _

private theorem finite_inj {b b' : Bool} {m m' : Nat} {e e' : Int} (hd : (finite b m e).IsCanonical)
    (hd' : (finite b' m' e').IsCanonical)
    (h : unsigned (.double (.finite b m e)) = unsigned (.double (.finite b' m' e'))) :
    m = m' ∧ e = e' := by
  have hvalue := (value_finite h).symm.trans (value_finite (b := b') rfl)
  rcases Nat.eq_zero_or_pos m with rfl | hm <;> rcases Nat.eq_zero_or_pos m' with rfl | hm'
  · -- zero has the least exponent
    obtain ⟨-, -, -, hform⟩ := hd
    obtain ⟨-, -, -, hform'⟩ := hd'
    exact ⟨rfl, (hform.resolve_left (by decide)).trans (hform'.resolve_left (by decide)).symm⟩
  · rw [if_pos rfl, if_neg hm'.ne'] at hvalue
    exact absurd hvalue ((Decimal.roundsTo_shortest hd' hm').pos hm').ne
  · rw [if_neg hm.ne', if_pos rfl] at hvalue
    exact absurd hvalue ((Decimal.roundsTo_shortest hd hm).pos hm).ne'
  · rw [if_neg hm.ne', if_neg hm'.ne'] at hvalue
    exact Decimal.shortest_inj hd hd' hm hm' hvalue

private theorem double_inj {d d' : Double} (hd : d.IsCanonical) (hd' : d'.IsCanonical)
    (hsign : negative (.double d) = negative (.double d'))
    (h : unsigned (.double d) = unsigned (.double d')) : d = d' := by
  cases d with
  | finite b m e =>
    cases d' with
    | finite b' m' e' =>
      obtain ⟨rfl, rfl⟩ := finite_inj hd hd' h
      rw [show b = b' from hsign]
    | infinite b' => cases h
    | notANumber => cases h
  | infinite b =>
    cases d' with
    | finite b' m' e' => cases h
    | infinite b' => rw [show b = b' from hsign]
    | notANumber => cases h
  | notANumber =>
    cases d' with
    | finite b' m' e' => cases h
    | infinite b' => cases h
    | notANumber => rfl

/-- **Numbers are told apart by their texts.** -/
theorem text_inj {n n' : Number} (h : n.IsCanonical) (h' : n'.IsCanonical)
    (hsame : n.text .plain = n'.text .plain) : n = n' := by
  obtain ⟨hsign, hunsigned⟩ := eq_of_text_eq hsame
  cases n with
  | int z =>
    cases n' with
    | int z' =>
      have hsize : z.natAbs = z'.natAbs :=
        Digits.toDigits_injective (congrArg Layout.whole (Sum.inl.inj hunsigned))
      have hneg : z < 0 ↔ z' < 0 := decide_eq_decide.mp hsign
      rw [show z = z' by omega]
    | double d' => exact absurd hunsigned (unsigned_int_ne z d')
  | double d =>
    cases n' with
    | int z' => exact absurd hunsigned.symm (unsigned_int_ne z' d)
    | double d' => rw [double_inj h h' hsign hunsigned]

end Number

end ClassSchema

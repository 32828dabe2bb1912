import ClassSchema.Text.Blank
import Mathlib.Data.List.DropRight
import Mathlib.Data.List.TakeWhile

/-!
# Texts without blanks at their ends

A text is unpadded if it neither starts nor ends with a blank. Trimming leaves such a text alone,
and it makes one of any text by taking blanks away on both sides, `trimsTo_iff`.
-/

namespace ClassSchema

/-- Neither the first nor the last character is a blank. -/
structure Text.Unpadded (cs : List Char) : Prop where
  head : ∀ c ∈ cs.head?, isBlank c = false
  last : ∀ c ∈ cs.getLast?, isBlank c = false

namespace Text

variable {cs ds : List Char}

theorem dropWhile_isBlank_of_head (h : ∀ c ∈ cs.head?, isBlank c = false) :
    cs.dropWhile isBlank = cs := by
  cases cs with
  | nil => rfl
  | cons c cs => exact List.dropWhile_cons_of_neg (ne_true_of_eq_false (h c rfl))

namespace Unpadded

theorem of_forall (h : ∀ c ∈ cs, isBlank c = false) : Unpadded cs where
  head c hc := h c (List.mem_of_head? hc)
  last c hc := h c (List.mem_of_getLast? hc)

theorem append (hcs : Unpadded cs) (hds : Unpadded ds) : Unpadded (cs ++ ds) where
  head c hc := by
    cases cs with
    | nil => exact hds.head c hc
    | cons d cs => exact hcs.head c hc
  last c hc := by
    cases hlast : ds.getLast? with
    | none =>
      rw [List.getLast?_eq_none_iff] at hlast
      rw [hlast, List.append_nil] at hc
      exact hcs.last c hc
    | some d =>
      rw [List.getLast?_append, hlast, Option.some_or] at hc
      exact hds.last c (hlast.trans hc)

/-- What stands between two texts does not matter. -/
theorem append_cons (hcs : Unpadded cs) (hne : cs ≠ []) (hds : Unpadded ds) (hne' : ds ≠ [])
    (c : Char) : Unpadded (cs ++ c :: ds) where
  head d hd := by
    obtain ⟨e, cs, rfl⟩ := List.exists_cons_of_ne_nil hne
    exact hcs.head d hd
  last d hd := by
    obtain ⟨e, he⟩ : ∃ e, ds.getLast? = some e := ⟨_, List.getLast?_eq_some_getLast hne'⟩
    rw [List.getLast?_append, List.getLast?_cons, he] at hd
    exact hds.last d (he.trans hd)

theorem trimEnd_eq (h : Unpadded cs) : trimEnd cs = cs := by
  have hlast : ∀ c ∈ cs.reverse.head?, isBlank c = false := by
    rw [List.head?_reverse]
    exact h.last
  rw [trimEnd, dropWhile_isBlank_of_head hlast, List.reverse_reverse]

theorem trim_eq (h : Unpadded cs) : trim cs = cs := by
  rw [trim, trimStart, dropWhile_isBlank_of_head h.head, h.trimEnd_eq]

end Unpadded

/-! ## Trimming -/

/-- Without the blanks at both ends of `cs`, what is left is `said`. -/
structure TrimsTo (cs said : List Char) : Prop where
  unpadded : Unpadded said
  exists_blanks : ∃ front back, cs = front ++ (said ++ back) ∧
    (∀ c ∈ front, isBlank c = true) ∧ ∀ c ∈ back, isBlank c = true

theorem trimStart_append (hfront : ∀ c ∈ cs, isBlank c = true) (ds : List Char) :
    trimStart (cs ++ ds) = trimStart ds := List.dropWhile_append_of_pos hfront

private theorem trimEnd_append (hback : ∀ c ∈ ds, isBlank c = true) (cs : List Char) :
    trimEnd (cs ++ ds) = trimEnd cs := by
  rw [trimEnd, List.reverse_append,
    List.dropWhile_append_of_pos fun c hc ↦ hback c (List.mem_reverse.mp hc), trimEnd]

theorem trimEnd_isPrefix (cs : List Char) : trimEnd cs <+: cs := List.rdropWhile_prefix isBlank cs

theorem head?_eq_of_head?_trimEnd {c : Char} (h : (trimEnd cs).head? = some c) :
    cs.head? = some c := by
  obtain ⟨back, hback⟩ := trimEnd_isPrefix cs
  rw [← hback, List.head?_append, h, Option.some_or]

theorem head?_trimEnd_cons {c : Char} (hc : isBlank c = false) (cs : List Char) :
    (trimEnd (c :: cs)).head? = some c := by
  have hne : trimEnd (c :: cs) ≠ [] := fun hnil ↦
    Bool.eq_false_iff.mp hc (List.rdropWhile_eq_nil_iff.mp hnil c List.mem_cons_self)
  obtain ⟨d, ds, hcons⟩ := List.exists_cons_of_ne_nil hne
  have hhead : (trimEnd (c :: cs)).head? = some d := by rw [hcons, List.head?_cons]
  rw [hhead]
  exact (head?_eq_of_head?_trimEnd hhead).symm

theorem trim_isInfix (cs : List Char) : trim cs <:+: cs :=
  (trimEnd_isPrefix _).isInfix.trans (List.dropWhile_suffix _).isInfix

theorem unpadded_trim (cs : List Char) : Unpadded (trim cs) where
  head c hc := by
    have hhead := List.head?_dropWhile_not isBlank cs
    rwa [show (cs.dropWhile isBlank).head? = some c from head?_eq_of_head?_trimEnd hc] at hhead
  last c hc := by
    obtain ⟨hne, rfl⟩ := List.mem_getLast?_eq_getLast hc
    exact Bool.eq_false_iff.mpr (List.rdropWhile_last_not isBlank (trimStart cs) hne)

theorem trimsTo_trim (cs : List Char) : TrimsTo cs (trim cs) := by
  refine ⟨unpadded_trim cs, cs.takeWhile isBlank, (trimStart cs).rtakeWhile isBlank, ?_,
    fun c hc ↦ List.mem_takeWhile_imp hc, fun c hc ↦ List.mem_rtakeWhile_imp hc⟩
  have hback : trim cs ++ (trimStart cs).rtakeWhile isBlank = trimStart cs :=
    List.rdropWhile_append_rtakeWhile
  rw [hback, trimStart, List.takeWhile_append_dropWhile]

/-- **Trimming takes away the blanks at both ends**, and only it does. -/
theorem trimsTo_iff : TrimsTo cs ds ↔ ds = trim cs := by
  constructor
  · rintro ⟨hds, front, back, rfl, hfront, hback⟩
    rw [trim, trimStart_append hfront]
    by_cases hne : ds = []
    · have hnil : trimStart back = [] := List.dropWhile_eq_nil_iff.mpr hback
      rw [hne, List.nil_append, hnil]
      rfl
    · have hhead : ∀ c ∈ (ds ++ back).head?, isBlank c = false := by
        rw [List.head?_append_of_ne_nil _ hne]
        exact hds.head
      rw [trimStart, dropWhile_isBlank_of_head hhead, trimEnd_append hback, hds.trimEnd_eq]
  · rintro rfl
    exact trimsTo_trim cs

end Text

end ClassSchema

import ClassSchema.Proofs.Schema.Shape

/-!
# The bounds that count

The annotations of a field are looked at one after another, and each of them replaces the bounds it
is about. So what counts is the last annotation for a bound: it sets the bound, and those behind it
are about something else. For integers this is exact. A bound that is an integer, as a number or in
a string, becomes this integer and no other, whatever its size, and there is always a property.
-/

namespace ClassSchema

/-- What is found is there. -/
theorem Assoc.mem_of_get? {α : Type} {table : Assoc α} {key : String} {value : α}
    (h : table.get? key = some value) : (key, value) ∈ table := by
  induction table with
  | nil => cases h
  | cons entry rest ih =>
    obtain ⟨k, v⟩ := entry
    by_cases hk : k = key
    · rw [get?, if_pos hk] at h
      cases h
      exact hk ▸ List.mem_cons_self
    · rw [get?, if_neg hk] at h
      exact List.mem_cons_of_mem _ (ih h)

namespace Argument

private theorem isLength_of_asNumber {a : Argument} {i : Int}
    (h : a.asNumber = .ok (some (.int i))) :
    a.IsLength := by
  refine ⟨exists_asNumber_eq_ok_iff.mp ⟨_, h⟩, fun d hd ↦ ?_⟩
  cases h.symm.trans hd

end Argument

theorem AnnotationRecord.constrains_of_asNumber {a : AnnotationRecord} (type : String)
    (h : ∀ entry ∈ a.arguments, ∃ i, entry.2.asNumber = .ok (some (.int i))) :
    a.Constrains type := by
  have hlength : ∀ key argument, a.arguments.get? key = some argument → argument.IsLength := by
    intro key argument hargument
    obtain ⟨i, hi⟩ := h _ (Assoc.mem_of_get? hargument)
    exact Argument.isLength_of_asNumber hi
  exact ⟨fun _ _ key _ ↦ hlength key, fun _ argument hargument ↦ (hlength _ argument hargument).1⟩

/-- The annotation is not about the bounds of a length or of a value. -/
def AnnotationRecord.SetsNoBound (a : AnnotationRecord) : Prop :=
  a.name ∉ ["Size", "Length"] ∧ a.name ∉ ["Min", "DecimalMin", "Max", "DecimalMax"]

instance (a : AnnotationRecord) : Decidable a.SetsNoBound := inferInstanceAs (Decidable (_ ∧ _))

theorem AnnotationRecord.SetsNoBound.constrains {a : AnnotationRecord} (h : a.SetsNoBound)
    (type : String) : a.Constrains type :=
  ⟨fun hlength ↦ absurd hlength h.1, fun hbound ↦ absurd hbound h.2⟩

namespace Property

variable {a : AnnotationRecord} {f : FieldRecord} {p q : Property}
  {before after : List AnnotationRecord}

private theorem Constrained.type_eq (h : Constrained a p q) : q.type = p.type := by
  cases h <;> rfl

theorem of_ofField_of_last {P : Property → Prop} (hsplit : f.annotations = before ++ a :: after)
    (hset : ∀ q r, q.type = (ofType f).type → Constrained a q r → P r)
    (hkeep : ∀ b ∈ after, ∀ q r, Constrained b q r → P q → P r) (h : ofField f = .ok p) : P p := by
  rw [ofField, hsplit, List.foldlM_append] at h
  obtain ⟨q, hq, h⟩ := bind_eq_ok_iff.mp h
  rw [List.foldlM_cons] at h
  obtain ⟨r, hr, h⟩ := bind_eq_ok_iff.mp h
  have htype : q.type = (ofType f).type :=
    foldlM_constrain_induction (P := (·.type = (ofType f).type))
      (fun _ _ _ _ hstep htype ↦ hstep.type_eq.trans htype) hq rfl
  exact foldlM_constrain_induction hkeep h (hset q r htype (constrained_of_constrain hr))

/-- No name is about two kinds of bounds. -/
theorem names_disjoint :
    (∀ name ∈ ["Size", "Length"],
      name ∉ ["Min", "DecimalMin"] ∧ name ∉ ["Max", "DecimalMax"] ∧ name ≠ "Pattern") ∧
    (∀ name ∈ ["Min", "DecimalMin"],
      name ∉ ["Size", "Length"] ∧ name ∉ ["Max", "DecimalMax"] ∧ name ≠ "Pattern") ∧
    ∀ name ∈ ["Max", "DecimalMax"],
      name ∉ ["Size", "Length"] ∧ name ∉ ["Min", "DecimalMin"] ∧ name ≠ "Pattern" := by
  decide

/-- The lengths of a string are those of the last annotation for lengths. -/
theorem length_ofField_of_last {low high : Int}
    (hsplit : f.annotations = before ++ a :: after) (hname : a.name ∈ ["Size", "Length"])
    (htype : (ofType f).type = "string") (hlow : a.number? "min" = .ok (some (.int low)))
    (hhigh : a.number? "max" = .ok (some (.int high)))
    (hafter : ∀ b ∈ after, b.name ∉ ["Size", "Length"]) (h : ofField f = .ok p) :
    p.minLength = some low ∧ p.maxLength = some high := by
  obtain ⟨hmin, hmax, hpattern⟩ := names_disjoint.1 _ hname
  refine of_ofField_of_last (P := fun p ↦ p.minLength = some low ∧ p.maxLength = some high)
    hsplit (fun q r hq hstep ↦ ?_) (fun b hb q r hstep hq ↦ ?_) h
  · cases hstep with
    | length _ _ low_eq high_eq minLength_eq maxLength_eq =>
      cases low_eq.symm.trans hlow
      cases high_eq.symm.trans hhigh
      cases minLength_eq
      cases maxLength_eq
      exact ⟨rfl, rfl⟩
    | noLength _ type_ne => exact absurd (hq.trans htype) type_ne
    | minimum name_mem => exact absurd name_mem hmin
    | maximum name_mem => exact absurd name_mem hmax
    | pattern name_eq => exact absurd name_eq hpattern
    | unrelated length_not_mem => exact absurd hname length_not_mem
  · cases hstep with
    | length name_mem | noLength name_mem => exact absurd name_mem (hafter b hb)
    | minimum | maximum | pattern | unrelated => exact hq

/-- The minimum is that of the last annotation for a minimum. -/
theorem minimum_ofField_of_last {low : Number} (hsplit : f.annotations = before ++ a :: after)
    (hname : a.name ∈ ["Min", "DecimalMin"]) (hlow : a.number? "value" = .ok (some low))
    (hafter : ∀ b ∈ after, b.name ∉ ["Min", "DecimalMin"]) (h : ofField f = .ok p) :
    p.minimum = some low := by
  obtain ⟨hlength, hmax, hpattern⟩ := names_disjoint.2.1 _ hname
  refine of_ofField_of_last (P := (·.minimum = some low)) hsplit (fun q r _ hstep ↦ ?_)
    (fun b hb q r hstep hq ↦ ?_) h
  · cases hstep with
    | length name_mem | noLength name_mem => exact absurd name_mem hlength
    | minimum _ value_eq =>
      cases value_eq.symm.trans hlow
      rfl
    | maximum name_mem => exact absurd name_mem hmax
    | pattern name_eq => exact absurd name_eq hpattern
    | unrelated _ minimum_not_mem => exact absurd hname minimum_not_mem
  · cases hstep with
    | minimum name_mem => exact absurd name_mem (hafter b hb)
    | length | noLength | maximum | pattern | unrelated => exact hq

/-- The maximum is that of the last annotation for a maximum. -/
theorem maximum_ofField_of_last {high : Number} (hsplit : f.annotations = before ++ a :: after)
    (hname : a.name ∈ ["Max", "DecimalMax"]) (hhigh : a.number? "value" = .ok (some high))
    (hafter : ∀ b ∈ after, b.name ∉ ["Max", "DecimalMax"]) (h : ofField f = .ok p) :
    p.maximum = some high := by
  obtain ⟨hlength, hmin, hpattern⟩ := names_disjoint.2.2 _ hname
  refine of_ofField_of_last (P := (·.maximum = some high)) hsplit (fun q r _ hstep ↦ ?_)
    (fun b hb q r hstep hq ↦ ?_) h
  · cases hstep with
    | length name_mem | noLength name_mem => exact absurd name_mem hlength
    | minimum name_mem => exact absurd name_mem hmin
    | maximum _ value_eq =>
      cases value_eq.symm.trans hhigh
      rfl
    | pattern name_eq => exact absurd name_eq hpattern
    | unrelated _ _ maximum_not_mem => exact absurd hname maximum_not_mem
  · cases hstep with
    | maximum name_mem => exact absurd name_mem (hafter b hb)
    | length | noLength | minimum | pattern | unrelated => exact hq

/-- A minimum and a maximum next to each other both count. -/
theorem range_ofField_of_last {b : AnnotationRecord} {low high : Number}
    (hsplit : f.annotations = before ++ a :: b :: after) (hmin : a.name ∈ ["Min", "DecimalMin"])
    (hmax : b.name ∈ ["Max", "DecimalMax"]) (hlow : a.number? "value" = .ok (some low))
    (hhigh : b.number? "value" = .ok (some high)) (hafter : ∀ c ∈ after, c.SetsNoBound)
    (h : ofField f = .ok p) : p.minimum = some low ∧ p.maximum = some high := by
  constructor
  · refine minimum_ofField_of_last hsplit hmin hlow ?_ h
    rw [List.forall_mem_cons]
    refine ⟨(names_disjoint.2.2 _ hmax).2.1, fun c hc hmem ↦ (hafter c hc).2 ?_⟩
    exact List.subset_append_left ["Min", "DecimalMin"] _ hmem
  · have hsplit' : f.annotations = (before ++ [a]) ++ b :: after := by
      rw [hsplit, List.append_assoc, List.singleton_append]
    refine maximum_ofField_of_last hsplit' hmax hhigh (fun c hc hmem ↦ (hafter c hc).2 ?_) h
    exact List.subset_append_right ["Min", "DecimalMin"] _ hmem

end Property

end ClassSchema

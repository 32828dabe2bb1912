import ClassSchema.Parser.State
import Mathlib.Data.List.TakeWhile

/-!
# Where a parser starts

A parser made of some tokens has those ahead that stand in front of the first end token, and its
last token is that end token. Where there is none, one is added. So the parser adds nothing else to
the tokens, and tokens without an end token that are put in front of others are in front of what is
ahead then.
-/

namespace ClassSchema

namespace Parser

variable {ts us : List Token} {source : Option String}

/-! ## The end token -/

private theorem exists_getLast?_closed (ts : List Token) :
    ∃ last, (closed ts).getLast? = some last ∧ last.kind = .endOfInput := by
  unfold closed
  split
  · rename_i last hlast
    split
    · rename_i hend
      exact ⟨last, hlast, by simpa [Token.is] using hend⟩
    · exact ⟨_, List.getLast?_concat, rfl⟩
  · exact ⟨_, rfl, rfl⟩

theorem dropWhile_closed_ne_nil (ts : List Token) :
    (closed ts).dropWhile (!·.is .endOfInput) ≠ [] := by
  obtain ⟨last, hlast, hkind⟩ := exists_getLast?_closed ts
  intro hnil
  have := List.dropWhile_eq_nil_iff.mp hnil last (List.mem_of_getLast? hlast)
  simp [Token.is, hkind] at this

theorem final_ofTokens (ts : List Token) (source : Option String) :
    (ofTokens ts source).final.kind = .endOfInput := by
  have hne := dropWhile_closed_ne_nil ts
  have hhead := List.head_dropWhile_not (!·.is .endOfInput) (l := closed ts) hne
  simp only [ofTokens]
  rw [List.head?_eq_some_head hne, Option.getD_some]
  rw [Bool.not_eq_false', Token.is] at hhead
  exact of_decide_eq_true hhead

theorem tokens_ofTokens (ts : List Token) (source : Option String) :
    (ofTokens ts source).tokens = closed ts := by
  obtain ⟨last, rest, hrest⟩ := List.exists_cons_of_ne_nil (dropWhile_closed_ne_nil ts)
  rw [tokens, remaining, ofTokens]
  dsimp only
  rw [hrest, List.reverse_nil, List.nil_append, List.head?_cons, Option.getD_some, List.drop_one,
    List.tail_cons, ← hrest, List.takeWhile_append_dropWhile]

/-! ## The tokens ahead -/

/-- Tokens are closed by an end token, or are closed already. -/
theorem exists_closed_eq (ts : List Token) :
    ∃ ends, closed ts = ts ++ ends ∧ ends.takeWhile (!·.is .endOfInput) = [] := by
  unfold closed
  split
  · split
    · exact ⟨[], (List.append_nil ts).symm, rfl⟩
    · exact ⟨_, rfl, rfl⟩
  · rename_i hnil
    rw [List.getLast?_eq_none_iff.mp hnil]
    exact ⟨_, rfl, rfl⟩

/-- A parser adds nothing but an end token to the tokens it is made of. -/
theorem ahead_ofTokens_sublist (ts : List Token) (source : Option String) :
    (ofTokens ts source).ahead.Sublist ts := by
  obtain ⟨ends, hclosed, hends⟩ := exists_closed_eq ts
  rw [ofTokens, hclosed]
  dsimp only
  rw [List.takeWhile_append]
  split
  · simp only [hends, List.append_nil, List.Sublist.refl]
  · exact List.takeWhile_sublist _

theorem is_endOfInput_eq_false (hts : ∀ t ∈ ts, t.kind ≠ .endOfInput) :
    ∀ t ∈ ts, (!t.is .endOfInput) = true := by
  intro t ht
  rw [Token.is, decide_eq_false (hts t ht)]
  rfl

theorem ahead_ofTokens (hts : ∀ t ∈ ts, t.kind ≠ .endOfInput) (source : Option String) :
    (ofTokens ts source).ahead = ts := by
  obtain ⟨ends, hclosed, hends⟩ := exists_closed_eq ts
  rw [ofTokens, hclosed]
  dsimp only
  rw [List.takeWhile_append_of_pos (is_endOfInput_eq_false hts), hends, List.append_nil]

/-- Tokens in front of those that a parser is made of are in front of those ahead. -/
theorem ofTokens_append (hts : ∀ t ∈ ts, t.kind ≠ .endOfInput) (hus : us ≠ []) :
    ofTokens (ts ++ us) source =
      { ofTokens us source with ahead := ts ++ (ofTokens us source).ahead } := by
  have hclosed : closed (ts ++ us) = ts ++ closed us := by
    rw [closed, closed, List.getLast?_append]
    cases hlast : us.getLast? with
    | none => exact absurd (List.getLast?_eq_none_iff.mp hlast) hus
    | some last =>
      rw [Option.some_or]
      dsimp only
      split
      · rfl
      · exact List.append_assoc ..
  rw [ofTokens, hclosed]
  dsimp only
  rw [List.takeWhile_append_of_pos (is_endOfInput_eq_false hts),
    List.dropWhile_append_of_pos (is_endOfInput_eq_false hts)]
  rfl

theorem ahead_ofTokens_append (hts : ∀ t ∈ ts, t.kind ≠ .endOfInput) (us : List Token) :
    (ofTokens (ts ++ us) source).ahead = ts ++ (ofTokens us source).ahead := by
  by_cases hus : us = []
  · subst hus
    rw [List.append_nil, ahead_ofTokens hts]
    exact (List.append_nil ts).symm
  · rw [ofTokens_append hts hus]

end Parser

end ClassSchema

import ClassSchema.Grammar.Initializer
import ClassSchema.Proofs.Token.Tiling

/-!
# Tokens as they stand in the source

Tokens that stand behind each other in a text do not overlap, and each of them is the part of the
text that it covers. So a part of the text from the start of one token to the end of another is
made of the tokens from the one to the other and of what lies in the gaps between them: white
space, line breaks, and characters that belong to no token. Where there is no source to take such a
part from, the tokens are joined with one space for each gap that has something in it. The two
texts of the same tokens therefore differ in their gaps only.
-/

namespace ClassSchema

namespace Token

/-- What the source has between two tokens. -/
def gap (source : List Char) (t u : Token) : List Char :=
  (source.drop t.span.stop).take (u.span.start - t.span.stop)

/-- The texts of tokens, with something between each two of them. -/
def joined (between : Token → Token → List Char) : List Token → List Char
  | [] => []
  | [t] => t.text.toList
  | t :: u :: ts => t.text.toList ++ between t u ++ joined between (u :: ts)

end Token

/-- `quoted` and `plain` are the texts of some tokens of a source: the part of the source from the
first token to the last, and the texts of the tokens with one space wherever the source has a gap
between two of them. -/
structure Quotation (source : String) (tokens : List Token) (quoted plain : String) : Prop where
  /-- The tokens stand behind each other in the source. -/
  among : tokens <:+: Token.tokenize source
  /-- The one text reaches from the first token to the last. -/
  quoted_slice : ∃ first ∈ tokens.head?, ∃ last ∈ tokens.getLast?, ∃ before behind,
    source.toList = before ++ quoted.toList ++ behind ∧ before.length = first.span.start ∧
      (before ++ quoted.toList).length = last.span.stop
  /-- It has the tokens with the gaps of the source. -/
  quoted_eq : quoted.toList = Token.joined (Token.gap source.toList) tokens
  /-- The other text has one space for each gap. -/
  plain_eq : plain.toList =
    Token.joined (fun t u ↦ if Token.gap source.toList t u = [] then [] else [' ']) tokens

namespace Token

/-! ## Tokens of a source -/

/-- The tokens stand behind each other in a source, and their texts are parts of it. -/
structure StandIn (source : List Char) (ts : List Token) : Prop where
  before : ts.Pairwise Token.Before
  stop_le : ∀ t ∈ ts, t.span.stop ≤ source.length
  text_eq : ∀ t ∈ ts, t.text.toList = (source.drop t.span.start).take t.span.length

namespace StandIn

variable {source : List Char} {t u : Token} {ts us : List Token}

theorem sublist (h : StandIn source ts) (hus : us.Sublist ts) : StandIn source us where
  before := h.before.sublist hus
  stop_le t ht := h.stop_le t (hus.subset ht)
  text_eq t ht := h.text_eq t (hus.subset ht)

theorem tail (h : StandIn source (t :: ts)) : StandIn source ts :=
  h.sublist (List.sublist_cons_self t ts)

private theorem tokenize (source : String) : StandIn source.toList (tokenize source) := by
  have hcut := Token.cut_lex source
  have hall : StandIn source.toList (lex source) := by
    refine ⟨hcut.pairwise_before, fun t ht ↦ (hcut.text_eq t ht).1, fun t ht ↦ ?_⟩
    rw [(hcut.text_eq t ht).2, String.toList_ofList]
  exact hall.sublist List.filter_sublist

theorem stop_le_last (h : StandIn source (t :: ts)) :
    t.span.stop ≤ (ts.getLast?.getD t).span.stop := by
  cases hlast : ts.getLast? with
  | none => exact Nat.le_refl _
  | some last =>
    have hbefore := List.rel_of_pairwise_cons h.before (List.mem_of_getLast? hlast)
    exact Nat.le_trans hbefore last.span.start_le_stop

/-- **From the first token to the last the source has the tokens and their gaps.** -/
theorem slice_eq_joined (h : StandIn source (t :: ts)) :
    (source.drop t.span.start).take ((ts.getLast?.getD t).span.stop - t.span.start) =
      joined (gap source) (t :: ts) := by
  induction ts generalizing t with
  | nil => exact (h.text_eq t List.mem_cons_self).symm
  | cons u us ih =>
    have hlast := h.tail.stop_le_last
    have hbefore : t.span.stop ≤ u.span.start :=
      List.rel_of_pairwise_cons h.before List.mem_cons_self
    have ht := t.span.start_le_stop
    have hu := u.span.start_le_stop
    have hgetLast : (u :: us).getLast?.getD t = us.getLast?.getD u := by
      rw [List.getLast?_cons, Option.getD_some]
    -- the token, the gap behind it, and what reaches from the next token to the last
    have hsplit : (us.getLast?.getD u).span.stop - t.span.start = t.span.length +
        ((u.span.start - t.span.stop) + ((us.getLast?.getD u).span.stop - u.span.start)) := by
      rw [Span.length]
      omega
    have hbehind : t.span.start + t.span.length = t.span.stop := by
      rw [Span.length]
      omega
    have hnext : t.span.stop + (u.span.start - t.span.stop) = u.span.start := by omega
    rw [hgetLast, hsplit, List.take_add, List.take_add, List.drop_drop, List.drop_drop,
      hbehind, hnext, ih h.tail, joined, h.text_eq t List.mem_cons_self, gap, List.append_assoc]

private theorem gap_eq_nil_iff (hu : u.span.stop ≤ source.length) :
    gap source t u = [] ↔ u.span.start ≤ t.span.stop := by
  have hstart := u.span.start_le_stop
  rw [gap, ← List.length_eq_zero_iff, List.length_take, List.length_drop]
  omega

theorem spaced_eq_joined (h : StandIn source (t :: ts)) :
    (t.text ++ sourceText.spaced t ts).toList =
      joined (fun t u ↦ if gap source t u = [] then [] else [' ']) (t :: ts) := by
  induction ts generalizing t with
  | nil => simp [sourceText.spaced, joined]
  | cons u us ih =>
    have hgap := gap_eq_nil_iff (t := t) (h.stop_le u (List.mem_cons_of_mem t List.mem_cons_self))
    rw [joined, ← ih h.tail, sourceText.spaced]
    by_cases hlt : t.span.stop < u.span.start
    · rw [if_pos hlt, if_neg (mt hgap.mp (Nat.not_le_of_lt hlt))]
      simp
    · rw [if_neg hlt, if_pos (hgap.mpr (Nat.le_of_not_lt hlt))]
      simp

end StandIn

end Token

/-- **The two texts of some tokens are a quotation**, with the source and without it. -/
theorem quotation_sourceText {source : String} {tokens : List Token}
    (htokens : tokens <:+: Token.tokenize source) (hne : tokens ≠ []) :
    Quotation source tokens (sourceText (some source.toList) tokens) (sourceText none tokens) := by
  obtain ⟨t, ts, rfl⟩ := List.exists_cons_of_ne_nil hne
  -- the tokens stand behind each other in the source, so the slice has all of them
  have hstand := (Token.StandIn.tokenize source).sublist htokens.sublist
  have hquoted : (sourceText (some source.toList) (t :: ts)).toList =
      (source.toList.drop t.span.start).take ((ts.getLast?.getD t).span.stop - t.span.start) := by
    rw [sourceText]
    exact String.toList_ofList
  have hstart := t.span.start_le_stop
  have hstop := hstand.stop_le_last
  have hlength : (ts.getLast?.getD t).span.stop ≤ source.toList.length :=
    hstand.stop_le _ (List.mem_of_getLast? List.getLast?_cons)
  constructor
  · exact htokens
  · refine ⟨t, rfl, _, List.getLast?_cons, source.toList.take t.span.start,
      source.toList.drop (ts.getLast?.getD t).span.stop, ?_, ?_, ?_⟩
    · have hbehind : t.span.start + ((ts.getLast?.getD t).span.stop - t.span.start) =
          (ts.getLast?.getD t).span.stop := by omega
      have hdrop : source.toList.drop (ts.getLast?.getD t).span.stop =
          (source.toList.drop t.span.start).drop
            ((ts.getLast?.getD t).span.stop - t.span.start) := by
        rw [List.drop_drop, hbehind]
      rw [hquoted, hdrop, List.append_assoc, List.take_append_drop, List.take_append_drop]
    · rw [List.length_take]
      omega
    · rw [hquoted, List.length_append, List.length_take, List.length_take, List.length_drop]
      omega
  · rw [hquoted, hstand.slice_eq_joined]
  · exact hstand.spaced_eq_joined

end ClassSchema

import ClassSchema.Proofs.Token.Tiling

/-!
# Lines and columns

The lexer counts lines and columns while it goes through the text. Here they are told from the text
alone: the line of an offset is one more than the number of line breaks in front of it, its column
one more than the number of characters behind the last of these. That the two agree is an invariant
of a single character, `Place.IsIn`, and so of every step.

A carriage return in front of a line feed is no line break, so a place between the two would have a
column of its own in the line that is over. No step ends there: what is passed over ends with a
carriage return only if no line feed follows.
-/

namespace ClassSchema

/-! ## Places of a text -/

namespace Text

/-- Whether a line ends with the character at an offset: with a line feed, or with a carriage return
that no line feed follows. -/
def breaksAt (text : List Char) (offset : Nat) : Bool :=
  text[offset]? = some '\n' || text[offset]? = some '\r' && text[offset + 1]? ≠ some '\n'

/-- The number of line breaks in front of an offset. -/
def lineBreaks (text : List Char) (offset : Nat) : Nat :=
  (List.range offset).countP (breaksAt text)

/-- The number of characters in front of an offset and behind the last line break there. -/
def sinceBreak (text : List Char) (offset : Nat) : Nat :=
  ((List.range offset).reverse.takeWhile (!breaksAt text ·)).length

variable {text : List Char} {offset : Nat}

theorem lineBreaks_of_break (h : breaksAt text offset = true) :
    lineBreaks text (offset + 1) = lineBreaks text offset + 1 := by
  rw [lineBreaks, List.range_succ, List.countP_append, List.countP_singleton, if_pos h]
  rfl

theorem lineBreaks_of_no_break (h : breaksAt text offset = false) :
    lineBreaks text (offset + 1) = lineBreaks text offset := by
  rw [lineBreaks, List.range_succ, List.countP_append, List.countP_singleton,
    if_neg (ne_true_of_eq_false h)]
  rfl

private theorem sinceBreak_of_break (h : breaksAt text offset = true) :
    sinceBreak text (offset + 1) = 0 := by
  rw [sinceBreak, List.range_succ, List.reverse_concat, List.takeWhile_cons_of_neg (by simp [h])]
  rfl

theorem sinceBreak_of_no_break (h : breaksAt text offset = false) :
    sinceBreak text (offset + 1) = sinceBreak text offset + 1 := by
  rw [sinceBreak, List.range_succ, List.reverse_concat, List.takeWhile_cons_of_pos (by simp [h])]
  rfl

/-- **Lines and columns ascend**: a later place is in a later line, or further on in the same
one. -/
theorem place_lt (text : List Char) {i j : Nat} (h : i < j) :
    lineBreaks text i < lineBreaks text j ∨
      lineBreaks text i = lineBreaks text j ∧ sinceBreak text i < sinceBreak text j := by
  induction j with
  | zero => exact absurd h (Nat.not_lt_zero i)
  | succ j ih =>
    have hplace : lineBreaks text i < lineBreaks text j ∨
        lineBreaks text i = lineBreaks text j ∧ sinceBreak text i ≤ sinceBreak text j := by
      rcases Nat.lt_succ_iff_lt_or_eq.mp h with hlt | rfl
      · exact (ih hlt).imp_right fun ⟨hline, hcolumn⟩ ↦ ⟨hline, Nat.le_of_lt hcolumn⟩
      · exact .inr ⟨rfl, Nat.le_refl _⟩
    cases hbreak : breaksAt text j with
    | true =>
      rw [lineBreaks_of_break hbreak]
      omega
    | false =>
      rw [lineBreaks_of_no_break hbreak, sinceBreak_of_no_break hbreak]
      omega

private theorem breaksAt_of_drop {c : Char} {cs : List Char} (h : text.drop offset = c :: cs) :
    breaksAt text offset = Place.endsLine c cs.head? := by
  have hhere : text[offset]? = some c := by
    rw [← List.head?_drop, h, List.head?_cons]
  have hnext : text[offset + 1]? = cs.head? := by
    rw [← List.head?_drop, ← List.tail_drop, h, List.tail_cons]
  rw [breaksAt, Place.endsLine, hhere, hnext, Bool.eq_iff_iff]
  simp

end Text

/-! ## Counting while going on -/

namespace Place

/-- Line and column of the place are those that the text gives to its offset. -/
structure IsIn (text : List Char) (p : Place) : Prop where
  line_eq : p.line = Text.lineBreaks text p.offset + 1
  column_eq : p.column = Text.sinceBreak text p.offset + 1

private theorem isIn_start (text : List Char) : start.IsIn text := ⟨rfl, rfl⟩

variable {text : List Char} {p : Place}

theorem IsIn.step {c : Char} {cs : List Char} (h : p.IsIn text)
    (hahead : text.drop p.offset = c :: cs) : (p.step c cs.head?).IsIn text := by
  have hbreak := Text.breaksAt_of_drop hahead
  unfold Place.step
  split
  · rename_i hends
    rw [hends] at hbreak
    exact ⟨by rw [h.line_eq, Text.lineBreaks_of_break hbreak],
      by rw [Text.sinceBreak_of_break hbreak]⟩
  · rename_i hends
    rw [Bool.eq_false_iff.mpr hends] at hbreak
    exact ⟨by rw [h.line_eq, Text.lineBreaks_of_no_break hbreak],
      by rw [h.column_eq, Text.sinceBreak_of_no_break hbreak]⟩

theorem IsIn.after {taken rest : List Char} (h : p.IsIn text)
    (hahead : text.drop p.offset = taken ++ rest) : (p.after taken rest).IsIn text := by
  induction taken generalizing p with
  | nil => exact h
  | cons c cs ih =>
    rw [List.cons_append] at hahead
    have hstep := h.step hahead
    rw [List.head?_append] at hstep
    refine ih hstep ?_
    rw [offset_step, ← List.tail_drop, hahead, List.tail_cons]

end Place

/-! ## Where a step ends -/

namespace Lexeme

variable {c : Char} {cs : List Char}

private theorem getLast?_take_blockLength (cs : List Char) :
    (cs.take (blockLength cs)).getLast? = some '/' ∨ cs.drop (blockLength cs) = [] := by
  fun_induction blockLength cs with
  | case1 => exact .inr rfl
  | case2 cs => exact .inl rfl
  | case3 c cs _ ih =>
    rw [List.take_succ_cons, List.drop_succ_cons, List.getLast?_cons]
    exact ih.imp_left fun h ↦ by rw [h]; rfl

/-- A string ends with a quote. -/
theorem getLast?_take_stringLength {length : Nat} (h : stringLength? cs = some length) :
    (cs.take length).getLast? = some '"' := by
  fun_induction stringLength? cs generalizing length with
  | case1 => cases h
  | case2 cs =>
    cases h
    rfl
  | case3 c cs ih =>
    obtain ⟨length, hlength, rfl⟩ := Option.map_eq_some_iff.mp h
    rw [List.take_succ_cons, List.take_succ_cons, List.getLast?_cons_cons, List.getLast?_cons,
      ih hlength]
    rfl
  | case4 c cs _ _ ih =>
    obtain ⟨length, hlength, rfl⟩ := Option.map_eq_some_iff.mp h
    rw [List.take_succ_cons, List.getLast?_cons, ih hlength]
    rfl

theorem mem_of_take_takeWhile {p : Char → Bool} {d : Char}
    (h : d ∈ cs.take (cs.takeWhile p).length) : p d = true := by
  rw [← List.prefix_iff_eq_take.mp (List.takeWhile_prefix p)] at h
  exact List.mem_takeWhile_imp h

private theorem ne_carriageReturn_of_mem_takeWhile {p : Char → Bool} (hp : p '\r' = false)
    {d : Char} (h : d ∈ cs.take (cs.takeWhile p).length) : d ≠ '\r' := by
  rintro rfl
  rw [mem_of_take_takeWhile h] at hp
  cases hp

section Numbers

variable {P : Char → Prop} (digit : ∀ d, Text.isDigit d = true → P d) (point : P '.')
  (suffix : ∀ d, isNumberSuffix d = true → P d)

include digit point in
private theorem forall_mem_fraction {d : Char} (h : d ∈ cs.take (fractionLength cs)) : P d := by
  unfold fractionLength at h
  split at h
  · split at h
    · rw [List.take_succ_cons, List.mem_cons] at h
      rcases h with rfl | h
      · exact point
      · exact digit d (mem_of_take_takeWhile h)
    · cases h
  · cases h

include suffix in
private theorem forall_mem_suffix {d : Char} (h : d ∈ cs.take (suffixLength cs)) : P d := by
  unfold suffixLength at h
  split at h
  · split at h
    · rename_i hsuffix
      rw [List.take_succ_cons, List.take_zero, List.mem_singleton] at h
      exact h ▸ suffix _ (Bool.and_eq_true_iff.mp hsuffix).1
    · cases h
  · cases h

include digit point suffix in
theorem forall_mem_number {d : Char} (h : d ∈ cs.take (numberLength cs)) : P d := by
  rw [numberLength, List.take_add, List.take_add, List.mem_append, List.mem_append] at h
  rcases h with (h | h) | h
  · exact digit d (mem_of_take_takeWhile h)
  · exact forall_mem_fraction digit point h
  · exact forall_mem_suffix suffix h

end Numbers

private theorem ne_carriageReturn_of_mem_number {d : Char} (h : d ∈ cs.take (numberLength cs)) :
    d ≠ '\r' := by
  refine forall_mem_number (P := (· ≠ '\r')) (fun d hd ↦ ?_) (by decide) (fun d hd ↦ ?_) h
  · rintro rfl
    exact absurd hd (ne_true_of_eq_false (Text.isDigit_eq_false_of_isBlank (by decide)))
  · rintro rfl
    exact absurd hd (by decide)

theorem numberLength_pos (h : Text.isDigit c = true) : 0 < numberLength (c :: cs) := by
  rw [numberLength, List.takeWhile_cons_of_pos h, List.length_cons]
  omega

/-- **No step ends between a carriage return and a line feed.** -/
theorem Starts.head?_ne_lineFeed {lexeme : Lexeme} (h : Starts c cs lexeme)
    (hlast : (c :: cs.take lexeme.extra).getLast? = some '\r') :
    (cs.drop lexeme.extra).head? ≠ some '\n' := by
  -- most tokens have no carriage return at all
  have free {p : Prop} (hfirst : c ≠ '\r') (hother : ∀ d ∈ cs.take lexeme.extra, d ≠ '\r') : p := by
    rcases List.mem_cons.mp (List.mem_of_getLast? hlast) with h | h
    · exact absurd h.symm hfirst
    · exact absurd rfl (hother '\r' h)
  cases h with
  | lineFeed | carriageReturnLineFeed => cases hlast
  | carriageReturn alone => exact alone
  | blank cs space =>
    refine free ?_ fun d hd ↦ ne_carriageReturn_of_mem_takeWhile (by decide) hd
    rintro rfl
    exact absurd space (by decide)
  | lineComment cs =>
    refine free (by decide) fun d hd ↦ ?_
    rw [List.take_succ_cons, List.mem_cons] at hd
    rcases hd with rfl | hd
    · decide
    · exact ne_carriageReturn_of_mem_takeWhile (by decide) hd
  | blockComment form cs =>
    rw [List.take_succ_cons, List.getLast?_cons_cons, List.getLast?_cons] at hlast
    rcases getLast?_take_blockLength cs with hslash | hnil
    · rw [hslash] at hlast
      cases hlast
    · rw [List.drop_succ_cons, hnil]
      exact Option.some_ne_none _ ∘ Eq.symm
  | string closed =>
    rw [List.getLast?_cons, getLast?_take_stringLength closed] at hlast
    cases hlast
  | unclosed =>
    rw [List.drop_length]
    exact Option.some_ne_none _ ∘ Eq.symm
  | number cs digit =>
    have hmem (d : Char) (hd : d ∈ c :: cs.take (numberLength (c :: cs) - 1)) : d ≠ '\r' := by
      rw [← List.take_succ_cons, Nat.sub_add_cancel (numberLength_pos digit)] at hd
      exact ne_carriageReturn_of_mem_number hd
    exact free (hmem c List.mem_cons_self) fun d hd ↦ hmem d (List.mem_cons_of_mem c hd)
  | negative => exact free (by decide) fun d hd ↦ ne_carriageReturn_of_mem_number hd
  | word cs start kind_eq =>
    have hreturn : isIdentifierPart '\r' = false :=
      isIdentifierPart_eq_false_of_isBlank (by decide)
    refine free ?_ fun d hd ↦ ne_carriageReturn_of_mem_takeWhile hreturn hd
    rintro rfl
    rw [isIdentifierPart_of_isIdentifierStart start] at hreturn
    cases hreturn
  | mark m =>
    cases m <;> cases hlast
  | stray stray => exact free stray.not_newline.2 (List.forall_mem_nil _)

end Lexeme

/-! ## The lexer keeps its place -/

namespace Lexer

variable {text : List Char} {l : Lexer}

/-- The lexer stands at a place of the text where a token may start. -/
structure IsPlaced (text : List Char) (l : Lexer) : Prop where
  standsIn : l.StandsIn text
  place_isIn : l.place.IsIn text
  not_between : ∀ i, text[i]? = some '\r' → text[i + 1]? = some '\n' → l.place.offset ≠ i + 1

private theorem isPlaced_ofText (source : String) : (ofText source).IsPlaced source.toList :=
  ⟨standsIn_ofText source, Place.isIn_start _, fun i _ _ h ↦ Nat.succ_ne_zero i h.symm⟩

private theorem IsPlaced.next (h : l.IsPlaced text) : l.next.2.IsPlaced text := by
  cases hrest : l.rest with
  | nil =>
    have hstays : l.next.2 = l := by rw [Lexer.next, hrest]
    rw [hstays]
    exact h
  | cons c cs =>
    let taken := c :: cs.take (Lexeme.read c cs).extra
    let rest := cs.drop (Lexeme.read c cs).extra
    have hplace : l.next.2.place = l.place.after taken rest := by rw [Lexer.next, hrest]
    have hahead : text.drop l.place.offset = taken ++ rest := h.standsIn.drop_eq hrest
    refine ⟨h.standsIn.next, hplace ▸ h.place_isIn.after hahead, fun i hreturn hfeed hi ↦ ?_⟩
    have hoffset : l.place.offset + (taken.length - 1) = i := by
      rw [offset_next_of_cons hrest] at hi
      exact Nat.succ.inj hi
    have hlast : taken.getLast? = some '\r' := by
      have hlt : taken.length - 1 < taken.length := Nat.lt_succ_self _
      have happend : (taken ++ rest)[taken.length - 1]? = taken[taken.length - 1]? :=
        List.getElem?_append_left hlt
      rw [List.getLast?_eq_getElem?, ← happend, ← hahead, List.getElem?_drop, hoffset, hreturn]
    have hfeed' : rest.head? = some '\n' := by
      have hrest' : rest = l.next.2.rest := by rw [Lexer.next, hrest]
      rw [hrest', ← h.standsIn.next.rest_eq, hi, List.head?_drop, hfeed]
    exact (Lexeme.starts_read c cs).head?_ne_lineFeed hlast hfeed'

private theorem IsPlaced.after (h : l.IsPlaced text) (n : Nat) : (l.after n).IsPlaced text :=
  after_induction (fun _ ↦ IsPlaced.next) h n

private theorem place_of_next {t : Token} (h : l.next.1 = some t) :
    t.span.start = l.place.offset ∧ t.line = l.place.line ∧ t.column = l.place.column := by
  unfold next at h
  split at h
  · cases h
    exact ⟨rfl, rfl, rfl⟩
  · obtain ⟨kind, -, rfl⟩ := Option.map_eq_some_iff.mp h
    exact ⟨rfl, rfl, rfl⟩

private theorem exists_of_mem_tokens {t : Token} (h : t ∈ l.tokens) :
    ∃ n, (l.after n).next.1 = some t := by
  obtain ⟨steps, -, -, -, htokens⟩ := exists_tokens_eq_filterMap l
  rw [htokens] at h
  obtain ⟨n, -, hn⟩ := List.mem_filterMap.mp h
  exact ⟨n, hn⟩

end Lexer

/-! ## The places of tokens -/

namespace Token

/-- A token comes before another one in reading order: in an earlier line, or further to the left in
the same one. -/
def PlacedBefore (a b : Token) : Prop := a.line < b.line ∨ a.line = b.line ∧ a.column < b.column

/-- The places of the tokens of a text. -/
structure Placed (source : String) : Prop where
  /-- The line of a token, the end token included, tells the line breaks in front of it. -/
  line_eq : ∀ t ∈ lex source, t.line = 1 + Text.lineBreaks source.toList t.span.start
  /-- The column tells the characters behind the last line break in front of it. -/
  column_eq : ∀ t ∈ lex source, t.column = 1 + Text.sinceBreak source.toList t.span.start
  /-- Lines and columns ascend, up to the end token. -/
  ascend : (lex source).Pairwise PlacedBefore
  /-- No token starts between a carriage return and a line feed. -/
  not_between : ∀ t ∈ lex source, ∀ i, source.toList[i]? = some '\r' →
    source.toList[i + 1]? = some '\n' → t.span.start ≠ i + 1

/-- **The places of tokens are those of the text.** -/
theorem placed_lex (source : String) : Placed source := by
  have hplaced {t : Token} (ht : t ∈ lex source) : ∃ l : Lexer, l.IsPlaced source.toList ∧
      t.span.start = l.place.offset ∧ t.line = l.place.line ∧ t.column = l.place.column := by
    obtain ⟨n, hn⟩ := Lexer.exists_of_mem_tokens ht
    exact ⟨_, (Lexer.isPlaced_ofText source).after n, Lexer.place_of_next hn⟩
  have hline (t : Token) (ht : t ∈ lex source) :
      t.line = 1 + Text.lineBreaks source.toList t.span.start := by
    obtain ⟨l, hl, hstart, hline, -⟩ := hplaced ht
    rw [hline, hstart, hl.place_isIn.line_eq, Nat.add_comm]
  have hcolumn (t : Token) (ht : t ∈ lex source) :
      t.column = 1 + Text.sinceBreak source.toList t.span.start := by
    obtain ⟨l, hl, hstart, -, hcolumn⟩ := hplaced ht
    rw [hcolumn, hstart, hl.place_isIn.column_eq, Nat.add_comm]
  refine ⟨hline, hcolumn, (cut_lex source).pairwise_start.imp_of_mem fun ha hb hlt ↦ ?_, ?_⟩
  · have := Text.place_lt source.toList hlt
    rw [PlacedBefore, hline _ ha, hline _ hb, hcolumn _ ha, hcolumn _ hb]
    omega
  · intro t ht
    obtain ⟨l, hl, hstart, -⟩ := hplaced ht
    rw [hstart]
    exact hl.not_between

end Token

end ClassSchema

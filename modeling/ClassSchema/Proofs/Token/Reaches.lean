import ClassSchema.Proofs.Written.Borders
import Mathlib.Data.List.Forall2

/-!
# The lexer on its way through a text

`Lexer.Reaches l ts m` says that the lexer comes from `l` to `m` and gives the tokens `ts` on its
way, white space and line breaks apart. What it gives from a place on depends on what is still to be
read alone: at another place it gives the same tokens, all shifted by the same distance. And where
it comes to a character in front of which every run ends, a brace or a semicolon say, it has not
looked behind it, so the tokens in front are the same whatever comes there.

A step that goes over such a character would be one in a string or in a comment that is not closed.
All other tokens end in front of it. A slash that gives no token is the one thing that may turn into
something else, if the character in its place is a slash or a star.
-/

namespace ClassSchema

namespace Lexer

/-- The lexer comes from `l` to `m`, with the tokens `ts` on its way that are no trivia. -/
inductive Reaches : Lexer → List Token → Lexer → Prop
  | refl (l : Lexer) : Reaches l [] l
  | step {l m : Lexer} {ts : List Token} (inside : l.rest ≠ []) (rest : Reaches l.next.2 ts m) :
    Reaches l (l.next.1.toList.filter (!·.kind.isTrivia) ++ ts) m

namespace Reaches

variable {l m n : Lexer} {ts us : List Token}

theorem trans (h : Reaches l ts m) (hmore : Reaches m us n) : Reaches l (ts ++ us) n := by
  induction h with
  | refl => exact hmore
  | step inside _ ih =>
    rw [List.append_assoc]
    exact .step inside (ih hmore)

theorem filter_tokens (h : Reaches l ts m) : l.tokens.filter (!·.kind.isTrivia) =
    ts ++ m.tokens.filter (!·.kind.isTrivia) := by
  induction h with
  | refl => rfl
  | step inside _ ih =>
    rw [tokens, dif_neg inside, List.filter_append, List.append_assoc, ← ih]

/-- Some steps, none of them at the end, are a way. -/
theorem exists_of_after {n : Nat} (h : (l.after n).rest ≠ []) : ∃ ts, Reaches l ts (l.after n) := by
  induction n generalizing l with
  | zero => exact ⟨[], .refl l⟩
  | succ n ih =>
    obtain ⟨ts, hts⟩ := ih h
    refine ⟨_, .step (fun hnil ↦ ?_) hts⟩
    -- at the end the lexer stays
    have hstays : l.next.2 = l := by rw [next, hnil]
    have hall : ∀ k, l.after k = l := by
      intro k
      induction k with
      | zero => rfl
      | succ k ih => rw [after, hstays, ih]
    rw [hall, hnil] at h
    exact h rfl

theorem rest_suffix (h : Reaches l ts m) : m.rest <:+ l.rest := by
  induction h with
  | refl => exact List.suffix_refl _
  | @step l m ts inside _ ih =>
    refine ih.trans ?_
    obtain ⟨c, cs, hrest⟩ := List.exists_cons_of_ne_nil inside
    rw [next, hrest]
    exact (List.drop_suffix _ cs).trans (List.suffix_cons c cs)

theorem offset_eq (h : Reaches l ts m) :
    m.place.offset + m.rest.length = l.place.offset + l.rest.length := by
  induction h with
  | refl => rfl
  | @step l m ts inside _ ih =>
    obtain ⟨c, cs, hrest⟩ := List.exists_cons_of_ne_nil inside
    rw [ih, offset_next_of_cons hrest, next, hrest, List.length_cons, List.length_take,
      List.length_drop, List.length_cons]
    omega

/-- Each token is given at the end of a way with those in front of it. -/
theorem exists_of_filter_tokens {t : Token}
    (h : l.tokens.filter (!·.kind.isTrivia) = ts ++ t :: us) :
    ∃ m, Reaches l ts m ∧ m.place.offset = t.span.start := by
  induction hn : l.rest.length using Nat.strong_induction_on generalizing l ts with
  | _ n ih =>
    by_cases hrest : l.rest = []
    · rw [tokens, dif_pos hrest] at h
      obtain ⟨rfl, hend⟩ | ⟨-, hlate⟩ := List.singleton_eq_append_iff.mp h
      · exact ⟨l, .refl l, congrArg (·.span.start) (List.cons.inj hend).1.symm⟩
      · cases hlate
    · rw [tokens, dif_neg hrest, List.filter_append] at h
      have hlater {front : List Token}
          (hts : ts = l.next.1.toList.filter (!·.kind.isTrivia) ++ front)
          (hfront : l.next.2.tokens.filter (!·.kind.isTrivia) = front ++ t :: us) :
          ∃ m, Reaches l ts m ∧ m.place.offset = t.span.start := by
        obtain ⟨m, hm, hstart⟩ := ih _ (hn ▸ next_rest_length hrest) hfront rfl
        exact ⟨m, hts ▸ .step hrest hm, hstart⟩
      obtain ⟨front, hts, hfront⟩ | ⟨behind, hstep, hbehind⟩ := List.append_eq_append_iff.mp h
      · exact hlater hts hfront
      · cases behind with
        | nil =>
          rw [List.append_nil] at hstep
          exact hlater (hstep.symm.trans (List.append_nil _).symm) hbehind.symm
        | cons u behind =>
          -- the step gives one token, so it is this one
          obtain ⟨rfl, -⟩ := List.cons.inj hbehind
          obtain ⟨c, cs, hcons⟩ := List.exists_cons_of_ne_nil hrest
          have hlength : (l.next.1.toList.filter (!·.kind.isTrivia)).length ≤ 1 :=
            (List.length_filter_le ..).trans (Option.length_toList_le)
          have hmem : t ∈ l.next.1.toList.filter (!·.kind.isTrivia) := by
            rw [hstep]
            exact List.mem_append_right _ List.mem_cons_self
          replace hmem := Option.mem_toList.mp (List.mem_of_mem_filter hmem)
          rw [hstep, List.length_append, List.length_cons] at hlength
          obtain rfl : ts = [] := List.eq_nil_of_length_eq_zero (by omega)
          rw [next, hcons] at hmem
          obtain ⟨kind, -, rfl⟩ := Option.map_eq_some_iff.mp hmem
          exact ⟨l, .refl l, rfl⟩

theorem offset_le_of_mem {t : Token} (h : t ∈ l.tokens.filter (!·.kind.isTrivia)) :
    l.place.offset ≤ t.span.start := by
  obtain ⟨front, behind, hsplit⟩ := List.append_of_mem h
  obtain ⟨m, hm, hstart⟩ := exists_of_filter_tokens hsplit
  have hoffset := hm.offset_eq
  have hlength := hm.rest_suffix.length_le
  omega

theorem drop_offset {cs : List Char} (h : Reaches ⟨cs, .start⟩ ts m) :
    cs.drop m.place.offset = m.rest := by
  obtain ⟨taken, rfl⟩ := h.rest_suffix
  have hoffset : m.place.offset + m.rest.length = 0 + (taken ++ m.rest).length := h.offset_eq
  rw [List.length_append, Nat.zero_add, Nat.add_right_cancel_iff] at hoffset
  rw [hoffset, List.drop_left]

/-- The tokens on the way lie between its two ends. -/
theorem within (h : Reaches l ts m) :
    ∀ t ∈ ts, l.place.offset ≤ t.span.start ∧ t.span.stop ≤ m.place.offset := by
  induction h with
  | refl => exact List.forall_mem_nil _
  | @step l m ts inside rest ih =>
    obtain ⟨c, cs, hrest⟩ := List.exists_cons_of_ne_nil inside
    have hoffset := offset_next_of_cons hrest
    have hle := rest.rest_suffix.length_le
    have heq := rest.offset_eq
    intro t ht
    rcases List.mem_append.mp ht with ht | ht
    · replace ht := List.mem_of_mem_filter ht
      rw [next, hrest] at ht
      obtain ⟨kind, -, rfl⟩ := Option.map_eq_some_iff.mp (Option.mem_toList.mp ht)
      refine ⟨Nat.le_refl _, ?_⟩
      rw [tokenOf]
      dsimp only
      omega
    · have := ih t ht
      omega

end Reaches

end Lexer

/-! ## At another place -/

/-- The tokens are the same but for their places, and `u` is as far behind the offset `b` as `t` is
behind the offset `a`. -/
structure Token.Shifted (a b : Nat) (t u : Token) : Prop where
  kind_eq : u.kind = t.kind
  text_eq : u.text = t.text
  start_eq : ∃ n, t.span.start = a + n ∧ u.span.start = b + n
  stop_eq : ∃ n, t.span.stop = a + n ∧ u.span.stop = b + n

namespace Lexer

variable {c : Char} {cs : List Char}

theorem next_cons (place : Place) {kind? : Option Kind} {n : Nat}
    (h : Lexeme.read c cs = ⟨kind?, n⟩) :
    next ⟨c :: cs, place⟩ = (kind?.map (tokenOf ⟨c :: cs, place⟩ · (c :: cs.take n)),
      ⟨cs.drop n, place.after (c :: cs.take n) (cs.drop n)⟩) := by
  rw [next]
  dsimp only
  rw [h]

theorem Reaches.of_read (place : Place) {kind? : Option Kind} {n : Nat} {ts : List Token}
    {m : Lexer} (h : Lexeme.read c cs = ⟨kind?, n⟩)
    (hrest : Reaches ⟨cs.drop n, place.after (c :: cs.take n) (cs.drop n)⟩ ts m) :
    Reaches ⟨c :: cs, place⟩
      ((kind?.map (tokenOf ⟨c :: cs, place⟩ · (c :: cs.take n))).toList.filter
        (!·.kind.isTrivia) ++ ts) m := by
  have hnext := next_cons place h
  have hstep : Reaches (next ⟨c :: cs, place⟩).2 ts m := by
    rw [hnext]
    exact hrest
  have hreaches := Reaches.step (List.cons_ne_nil c cs) hstep
  rw [hnext] at hreaches
  exact hreaches

theorem Reaches.of_read_append {us : List Char} (place : Place) {kind? : Option Kind}
    (h : Lexeme.read c (cs ++ us) = ⟨kind?, cs.length⟩) :
    Reaches ⟨c :: cs ++ us, place⟩
      ((kind?.map (tokenOf ⟨c :: cs ++ us, place⟩ · (c :: cs))).toList.filter (!·.kind.isTrivia))
      ⟨us, place.after (c :: cs) us⟩ := by
  have hstep := Reaches.of_read place h (.refl _)
  rw [List.take_left, List.drop_left, List.append_nil] at hstep
  exact hstep

theorem Reaches.of_mark (m : Mark) (place : Place) (us : List Char) :
    Reaches ⟨m.char :: us, place⟩ [tokenOf ⟨[], place⟩ (.mark m) [m.char]]
      ⟨us, place.step m.char none⟩ := by
  have hread : Lexeme.read m.char ([] ++ us) = ⟨some (.mark m), 0⟩ := Lexeme.read_eq_mark m
  -- no mark ends a line
  have hplace : place.after [m.char] us = place.step m.char none := by cases m <;> rfl
  exact hplace ▸ Reaches.of_read_append place hread

/-- The last token is the end token, and the others are not. -/
theorem exists_filter_tokens_eq (l : Lexer) : ∃ ts last, l.tokens.filter (!·.kind.isTrivia) =
    ts ++ [last] ∧ last.kind = .endOfInput ∧ ∀ t ∈ ts, t.kind ≠ .endOfInput := by
  induction hn : l.rest.length using Nat.strong_induction_on generalizing l with
  | _ n ih =>
    by_cases hrest : l.rest = []
    · rw [tokens, dif_pos hrest]
      exact ⟨[], l.endToken, rfl, rfl, List.forall_mem_nil _⟩
    · obtain ⟨ts, last, hts, hlast, hothers⟩ := ih _ (hn ▸ next_rest_length hrest) l.next.2 rfl
      rw [tokens, dif_neg hrest, List.filter_append, hts, ← List.append_assoc]
      refine ⟨_, last, rfl, hlast, List.forall_mem_append.mpr ⟨fun t ht ↦ ?_, hothers⟩⟩
      obtain ⟨c, cs, hcons⟩ := List.exists_cons_of_ne_nil hrest
      replace ht := List.mem_of_mem_filter ht
      rw [next, hcons] at ht
      obtain ⟨kind, hkind, rfl⟩ := Option.map_eq_some_iff.mp (Option.mem_toList.mp ht)
      rintro rfl
      exact Lexeme.read_kind?_ne_endOfInput c cs hkind

/-- **At another place** the lexer gives the same tokens, shifted to that place. -/
theorem shifted_tokens (rest : List Char) (p q : Place) :
    List.Forall₂ (Token.Shifted p.offset q.offset) (tokens ⟨rest, p⟩) (tokens ⟨rest, q⟩) := by
  induction hn : rest.length using Nat.strong_induction_on generalizing rest p q with
  | _ n ih =>
    cases rest with
    | nil =>
      rw [tokens, tokens, dif_pos rfl, dif_pos rfl]
      exact .cons ⟨rfl, rfl, ⟨0, rfl, rfl⟩, ⟨0, rfl, rfl⟩⟩ .nil
    | cons c cs =>
      obtain ⟨kind?, extra, hread⟩ : ∃ kind? extra, Lexeme.read c cs = ⟨kind?, extra⟩ :=
        ⟨_, _, rfl⟩
      let taken := c :: cs.take extra
      let behind := cs.drop extra
      rw [tokens, tokens, dif_neg (List.cons_ne_nil c cs), dif_neg (List.cons_ne_nil c cs),
        next_cons p hread, next_cons q hread]
      refine List.rel_append ?_ ?_
      · cases kind? with
        | none => exact .nil
        | some kind => exact .cons ⟨rfl, rfl, ⟨0, rfl, rfl⟩, ⟨taken.length, rfl, rfl⟩⟩ .nil
      · -- both places have moved on by the same number of characters
        have hlt : behind.length < n := by
          rw [← hn, List.length_drop, List.length_cons]
          omega
        refine (ih _ hlt behind (p.after taken behind) (q.after taken behind) rfl).imp
          fun t u ⟨kind_eq, text_eq, ⟨m, hm⟩, ⟨n, hn⟩⟩ ↦ ?_
        rw [Place.offset_after, Place.offset_after] at hm hn
        exact ⟨kind_eq, text_eq, ⟨taken.length + m, by omega⟩, ⟨taken.length + n, by omega⟩⟩

end Lexer

/-! ## In front of a border -/

/-- The character is a brace. -/
def IsBrace (c : Char) : Prop := c = '{' ∨ c = '}'

/-- No run of characters goes on with the character, and no line ends there. -/
structure EndsRuns (c : Char) : Prop where
  isNewlineChar_eq_false : isNewlineChar c = false
  isSpaceChar_eq_false : isSpaceChar c = false
  isDigit_eq_false : Text.isDigit c = false
  isIdentifierPart_eq_false : isIdentifierPart c = false
  ne_point : c ≠ '.'

theorem IsBrace.endsRuns {c : Char} (h : IsBrace c) : EndsRuns c := by
  rcases h with rfl | rfl <;> constructor <;> decide

/-- A slash in front of the character begins a comment. -/
def OpensComment (c : Char) : Prop := c = '/' ∨ c = '*'

private theorem IsBrace.not_opensComment {c : Char} (h : IsBrace c) : ¬OpensComment c := by
  rcases h with rfl | rfl <;> rintro (h | h) <;> cases h

namespace Lexeme

variable {c b b' : Char} {cs us us' : List Char}

/-- A run that ends within the text in front of characters that would go on with it ends there
whatever comes behind. -/
theorem takeWhile_append_of_length_le {p : Char → Bool} {b : Char} (hb : p b = true)
    (h : ((cs ++ b :: us).takeWhile p).length ≤ cs.length) (us' : List Char) :
    (cs ++ us').takeWhile p = (cs ++ b :: us).takeWhile p := by
  induction cs with
  | nil =>
    rw [List.nil_append, List.takeWhile_cons_of_pos hb] at h
    cases h
  | cons c cs ih =>
    rw [List.cons_append, List.cons_append, List.takeWhile_cons, List.takeWhile_cons]
    split
    · rename_i hc
      rw [List.cons_append, List.takeWhile_cons_of_pos hc, List.length_cons, List.length_cons] at h
      rw [ih (Nat.le_of_succ_le_succ h)]
    · rfl

private theorem stringLength?_pos {n : Nat} (h : stringLength? cs = some n) : 0 < n := by
  unfold stringLength? at h
  split at h
  · cases h
  · exact Option.some.inj h ▸ Nat.one_pos
  · obtain ⟨m, -, rfl⟩ := Option.map_eq_some_iff.mp h
    exact Nat.succ_pos _
  · obtain ⟨m, -, rfl⟩ := Option.map_eq_some_iff.mp h
    exact Nat.succ_pos _

/-- A string that is closed within the text is closed there whatever comes behind. -/
theorem stringLength?_of_append {n : Nat} {rest : List Char}
    (h : stringLength? (cs ++ rest) = some n) (hn : n ≤ cs.length) : stringLength? cs = some n := by
  fun_induction stringLength? cs generalizing n with
  | case1 => exact absurd hn (Nat.not_le_of_lt (stringLength?_pos h))
  | case2 cs => exact h
  | case3 c cs ih =>
    rw [List.cons_append, List.cons_append, stringLength?] at h
    obtain ⟨m, hm, rfl⟩ := Option.map_eq_some_iff.mp h
    rw [ih hm (by simp only [List.length_cons] at hn; omega)]
    rfl
  | case4 c cs hquote hescape ih =>
    -- a backslash at the end would take a character of `rest` with it
    by_cases hbackslash : c = '\\'
    · cases cs with
      | cons d ds => exact absurd rfl (hescape d ds hbackslash)
      | nil =>
        subst hbackslash
        cases rest with
        | nil => cases h
        | cons d ds =>
          obtain ⟨m, -, rfl⟩ := Option.map_eq_some_iff.mp h
          simp only [List.length_singleton] at hn
          omega
    · rw [List.cons_append, stringLength?] at h
      · obtain ⟨m, hm, rfl⟩ := Option.map_eq_some_iff.mp h
        rw [ih hm (Nat.le_of_succ_le_succ hn)]
        rfl
      · exact hquote
      · exact fun d ds h _ ↦ hbackslash h

/-- A block comment that is closed within the text is closed there whatever comes behind. -/
theorem blockLength_append_of_le {rest : List Char} (hrest : rest ≠ [])
    (h : blockLength (cs ++ rest) ≤ cs.length) :
    2 ≤ cs.length ∧ ∀ rest', blockLength (cs ++ rest') = blockLength (cs ++ rest) := by
  have hpos {ds : List Char} (hds : ds ≠ []) : 0 < blockLength ds := by
    unfold blockLength
    split
    · exact absurd rfl hds
    · exact Nat.two_pos
    · exact Nat.succ_pos _
  induction cs with
  | nil => exact absurd h (Nat.not_le_of_lt (hpos hrest))
  | cons c cs ih =>
    -- the comment is closed here, and if not, then further on inside of `cs`
    by_cases hend : c = '*' ∧ (cs ++ rest).head? = some '/'
    · obtain ⟨rfl, hslash⟩ := hend
      cases cs with
      | nil =>
        obtain ⟨rest, rfl⟩ := List.head?_eq_some_iff.mp hslash
        exact absurd h (Nat.not_le_of_lt (Nat.lt_succ_self 1))
      | cons d cs =>
        obtain rfl : d = '/' := Option.some.inj hslash
        exact ⟨Nat.le_add_left 2 _, fun _ ↦ rfl⟩
    · rw [List.cons_append, blockLength_cons hend] at h
      obtain ⟨hlength, hsame⟩ := ih (Nat.le_of_succ_le_succ h)
      refine ⟨Nat.le_succ_of_le hlength, fun rest' ↦ ?_⟩
      have hend' : ¬(c = '*' ∧ (cs ++ rest').head? = some '/') := by
        cases cs with
        | nil => cases hlength
        | cons d cs => exact hend
      rw [List.cons_append, List.cons_append, blockLength_cons hend, blockLength_cons hend', hsame]

theorem read_slash_slash (ds : List Char) : read '/' ('/' :: ds) =
    ⟨some (.comment .line), (ds.takeWhile (!isNewlineChar ·)).length + 1⟩ := rfl

theorem read_slash_star (ds : List Char) : read '/' ('*' :: ds) =
    ⟨some (.comment (if ds.head? = some '*' ∧ ds.tail.head? ≠ some '/' then .doc else .block)),
      blockLength ds + 1⟩ := rfl

theorem read_slash_of_head (h : cs.head? ≠ some '/' ∧ cs.head? ≠ some '*') :
    read '/' cs = ⟨none, 0⟩ := by
  unfold read
  rw [if_neg (by decide), if_neg (by decide), if_pos rfl]
  split
  · exact absurd rfl h.1
  · exact absurd rfl h.2
  · rfl

private theorem read_slash_of_not_opensComment (hc : ¬OpensComment c) :
    read '/' (c :: cs) = ⟨none, 0⟩ :=
  read_slash_of_head ⟨fun h ↦ hc (.inl (Option.some.inj h)), fun h ↦ hc (.inr (Option.some.inj h))⟩

private theorem read_slash_of_extra (h : (read '/' cs).extra = 0) : read '/' cs = ⟨none, 0⟩ := by
  refine read_slash_of_head ⟨fun hslash ↦ ?_, fun hstar ↦ ?_⟩
  · obtain ⟨ds, rfl⟩ := List.head?_eq_some_iff.mp hslash
    rw [read_slash_slash] at h
    cases h
  · obtain ⟨ds, rfl⟩ := List.head?_eq_some_iff.mp hstar
    rw [read_slash_star] at h
    cases h

/-- What starts at a slash is the same whatever comes behind a border in front of which it ends. -/
theorem read_slash_append_of_border (hb : EndsRuns b)
    (hnone : cs = [] → ¬OpensComment b ∧ ¬OpensComment b')
    (h : (read '/' (cs ++ b :: us)).extra ≤ cs.length) (us' : List Char) :
    read '/' (cs ++ b' :: us') = read '/' (cs ++ b :: us) := by
  have hnewline := hb.isNewlineChar_eq_false
  cases cs with
  | nil =>
    obtain ⟨hopens, hopens'⟩ := hnone rfl
    exact (read_slash_of_not_opensComment hopens').trans
      (read_slash_of_not_opensComment hopens).symm
  | cons d ds =>
    rw [List.cons_append] at h
    rw [List.cons_append, List.cons_append]
    -- the second character tells the two kinds of comments from a lone slash
    by_cases hd : d = '/'
    · subst hd
      rw [read_slash_slash] at h
      rw [read_slash_slash, read_slash_slash, takeWhile_append_of_length_le
        (congrArg (!·) hnewline) (Nat.le_of_succ_le_succ h)]
    · by_cases hd' : d = '*'
      · subst hd'
        rw [read_slash_star] at h
        obtain ⟨hlength, hsame⟩ := blockLength_append_of_le (List.cons_ne_nil b us)
          (Nat.le_of_succ_le_succ h)
        rw [read_slash_star, read_slash_star, hsame]
        match ds with
        | _ :: _ :: _ => rfl
      · have hd : ¬OpensComment d := not_or.mpr ⟨hd, hd'⟩
        exact (read_slash_of_not_opensComment hd).trans (read_slash_of_not_opensComment hd).symm

theorem head?_append_border (hb : isNewlineChar b = false) (cs us : List Char) :
    (cs ++ b :: us).head? = some '\n' ↔ cs.head? = some '\n' := by
  cases cs with
  | cons c cs => rfl
  | nil =>
    refine iff_of_false (fun heq ↦ ?_) nofun
    rw [Option.some.inj heq] at hb
    cases hb

/-- **What starts at a character** is the same whatever comes behind a border in front of which it
ends, unless it is a slash that a comment starts at there. -/
theorem read_append_of_border (hb : EndsRuns b) (hb' : EndsRuns b')
    (hnone : c = '/' → cs = [] → ¬OpensComment b ∧ ¬OpensComment b')
    (h : (read c (cs ++ b :: us)).extra ≤ cs.length) (us' : List Char) :
    read c (cs ++ b' :: us') = read c (cs ++ b :: us) := by
  by_cases hslash : c = '/'
  · subst hslash
    exact read_slash_append_of_border hb (hnone rfl) h us'
  by_cases hquote : c = '"'
  · subst hquote
    cases hlength : stringLength? (cs ++ b :: us) with
    | none =>
      have hall : (read '"' (cs ++ b :: us)).extra = (cs ++ b :: us).length := by
        unfold read
        rw [if_neg (by decide), if_neg (by decide), if_neg (by decide), if_pos rfl, hlength]
      rw [hall, List.length_append, List.length_cons] at h
      omega
    | some n =>
      rw [read_of_quote hlength] at h ⊢
      exact read_of_quote (stringLength?_append (stringLength?_of_append hlength h))
  -- all that is left is decided in front of the border
  obtain ⟨hnewline, hspace, hdigit, hpart, hpoint⟩ := hb
  obtain ⟨hnewline', hspace', hdigit', hpart', hpoint'⟩ := hb'
  have hhead {p : Char → Bool} {d : Char} {ds : List Char} (hd : p d = false) :
      ∀ e ∈ (d :: ds).head?, p e = false := fun e he ↦ Option.some.inj he ▸ hd
  have hnumber {d : Char} {ds : List Char} (hd : isIdentifierPart d = false) (hd' : d ≠ '.') :
      Kind.number.Borders (d :: ds) := fun e he ↦ Option.some.inj he ▸ ⟨hd, hd'⟩
  unfold read
  simp only [if_neg hslash, if_neg hquote, head?_append_border hnewline,
    head?_append_border hnewline',
    takeWhile_append_of_head (hhead hspace), takeWhile_append_of_head (hhead hspace'),
    takeWhile_append_of_head (hhead hpart), takeWhile_append_of_head (hhead hpart'),
    any_head?_append (hhead hdigit), any_head?_append (hhead hdigit'),
    ← List.cons_append, numberLength_append (hnumber hpart hpoint),
    numberLength_append (hnumber hpart' hpoint')]

end Lexeme

theorem Place.after_congr {rest rest' : List Char}
    (h : rest.head? = some '\n' ↔ rest'.head? = some '\n') (p : Place) (taken : List Char) :
    p.after taken rest = p.after taken rest' := by
  induction taken generalizing p with
  | nil => rfl
  | cons c cs ih =>
    have hends : endsLine c (cs.head?.or rest.head?) = endsLine c (cs.head?.or rest'.head?) := by
      cases cs with
      | cons d ds => rfl
      | nil =>
        rw [List.head?_nil, Option.none_or, Option.none_or, endsLine, endsLine, Bool.eq_iff_iff]
        simp [h]
    rw [after, after, step, step, hends, ih]

namespace Lexer

theorem Reaches.eq_of_rest {l m : Lexer} {ts : List Token} (h : Reaches l ts m)
    (hrest : l.rest = m.rest) : l = m ∧ ts = [] := by
  cases h with
  | refl => exact ⟨rfl, rfl⟩
  | step inside rest =>
    have hle := rest.rest_suffix.length_le
    have hlt := next_rest_length inside
    rw [hrest] at hlt
    exact absurd hle (Nat.not_le_of_lt hlt)

variable {c b b' : Char} {cs us : List Char} {p q : Place} {ts : List Token}

/-- The first step of a way ends at the end of the way or in front of it. -/
theorem Reaches.exists_read (h : Reaches ⟨c :: (cs ++ us), p⟩ ts ⟨us, q⟩) (hus : us ≠ []) :
    ∃ kind? extra ts', Lexeme.read c (cs ++ us) = ⟨kind?, extra⟩ ∧ extra ≤ cs.length ∧
      ts = (kind?.map (tokenOf ⟨[], p⟩ · (c :: cs.take extra))).toList.filter (!·.kind.isTrivia)
        ++ ts' ∧
      Reaches ⟨cs.drop extra ++ us, p.after (c :: cs.take extra) (cs.drop extra ++ us)⟩ ts'
        ⟨us, q⟩ := by
  generalize hl : (⟨c :: (cs ++ us), p⟩ : Lexer) = l at h
  generalize hm : (⟨us, q⟩ : Lexer) = m at h
  cases h with
  | refl =>
    have hrest := congrArg (List.length ∘ Lexer.rest) (hl.trans hm.symm)
    simp at hrest
    omega
  | @step _ _ ts' inside rest =>
    subst hl hm
    obtain ⟨kind?, extra, hread⟩ :
        ∃ kind? extra, Lexeme.read c (cs ++ us) = ⟨kind?, extra⟩ := ⟨_, _, rfl⟩
    have hnext := next_cons p hread
    have hle := rest.rest_suffix.length_le
    rw [hnext] at hle rest ⊢
    have hextra : extra ≤ cs.length := by
      have hpos := List.length_pos_of_ne_nil hus
      simp only [List.length_drop, List.length_append] at hle
      omega
    rw [List.take_append_of_le_length hextra] at rest ⊢
    rw [List.drop_append_of_le_length hextra] at rest
    exact ⟨kind?, extra, ts', hread, hextra, rfl, rest⟩

/-- Where the first step ends in front of the end of a way, a token that ends there is of a later
step. -/
theorem Reaches.mem_of_stop_eq {kind? : Option Kind} {extra : Nat} {t : Token}
    (h : Reaches ⟨cs.drop extra ++ us, p.after (c :: cs.take extra) (cs.drop extra ++ us)⟩ ts
      ⟨us, q⟩)
    (hne : cs.drop extra ≠ [])
    (ht : t ∈ (kind?.map (tokenOf ⟨[], p⟩ · (c :: cs.take extra))).toList.filter
      (!·.kind.isTrivia) ++ ts) (hstop : t.span.stop = q.offset) : t ∈ ts := by
  refine (List.mem_append.mp ht).resolve_left fun ht ↦ ?_
  obtain ⟨kind, -, rfl⟩ :=
    Option.map_eq_some_iff.mp (Option.mem_toList.mp (List.mem_of_mem_filter ht))
  have hends : p.offset + (c :: cs.take extra).length = q.offset := hstop
  have hoffset := h.offset_eq
  rw [Place.offset_after] at hoffset
  have hlength := List.length_pos_of_ne_nil hne
  simp only [List.length_append, List.length_cons] at hoffset hends
  omega

/-- **In front of a border** the lexer gives the same tokens whatever comes behind, and whichever
border it is. A slash directly in front must not begin a comment there, so it has to be part of a
token if it does in front of the one border or the other. -/
theorem Reaches.append_of_border (h : Reaches ⟨cs ++ b :: us, p⟩ ts ⟨b :: us, q⟩) (hb : EndsRuns b)
    (hb' : EndsRuns b')
    (hslash : cs.getLast? = some '/' →
      (¬OpensComment b ∧ ¬OpensComment b') ∨ ∃ t ∈ ts, t.span.stop = q.offset)
    (us' : List Char) : Reaches ⟨cs ++ b' :: us', p⟩ ts ⟨b' :: us', q⟩ := by
  induction hn : cs.length using Nat.strongRecOn generalizing cs p ts with
  | ind n ih =>
    cases cs with
    | nil =>
      obtain ⟨hplace, rfl⟩ := h.eq_of_rest rfl
      obtain rfl := (Lexer.mk.inj hplace).2
      exact .refl _
    | cons c cs =>
      obtain ⟨kind?, extra, ts, hread, hextra, rfl, hrest⟩ :=
        h.exists_read (List.cons_ne_nil b us)
      -- a slash at the end of `cs` opens a comment neither with `b` nor with `b'`
      have hnone : c = '/' → cs = [] → ¬OpensComment b ∧ ¬OpensComment b' := by
        rintro rfl rfl
        refine (hslash rfl).resolve_right ?_
        obtain rfl : extra = 0 := Nat.le_zero.mp hextra
        have hkind : kind? = none := by
          rw [Lexeme.read_slash_of_extra (congrArg Lexeme.extra hread)] at hread
          exact (Lexeme.mk.inj hread).1.symm
        obtain rfl : ts = [] := (hrest.eq_of_rest rfl).2
        simp [hkind]
      have hread' : Lexeme.read c (cs ++ b' :: us') = ⟨kind?, extra⟩ := by
        rw [← hread]
        exact Lexeme.read_append_of_border hb hb' hnone (by rw [hread]; exact hextra) us'
      have hstep := @Reaches.of_read c _ p _ _ ts ⟨b' :: us', q⟩ hread'
      rw [List.take_append_of_le_length hextra, List.drop_append_of_le_length hextra] at hstep
      -- where the line ends depends on the next character, which may be the border
      have hfeed : (cs.drop extra ++ b :: us).head? = some '\n' ↔
          (cs.drop extra ++ b' :: us').head? = some '\n' :=
        (Lexeme.head?_append_border hb.isNewlineChar_eq_false _ us).trans
          (Lexeme.head?_append_border hb'.isNewlineChar_eq_false _ us').symm
      refine hstep ?_
      rw [← Place.after_congr hfeed]
      refine ih (cs.drop extra).length ?_ hrest (fun hlast ↦ ?_) rfl
      · rw [← hn, List.length_drop, List.length_cons]
        omega
      · have hne : cs.drop extra ≠ [] := fun hnil ↦ by
          rw [hnil] at hlast
          cases hlast
        have hsame : (c :: cs).getLast? = (cs.drop extra).getLast? := by
          rw [← List.take_append_drop extra cs, ← List.cons_append,
            List.getLast?_append_of_ne_nil _ hne, List.take_append_drop]
        exact (hslash (hsame.trans hlast)).imp_right fun ⟨t, ht, hstop⟩ ↦
          ⟨t, hrest.mem_of_stop_eq hne ht hstop, hstop⟩

/-- **In front of a brace** the lexer gives the same tokens whatever comes behind, and whichever
brace it is. -/
theorem Reaches.append_of_brace {cs us : List Char} {b b' : Char} {p q : Place} {ts : List Token}
    (h : Reaches ⟨cs ++ b :: us, p⟩ ts ⟨b :: us, q⟩) (hb : IsBrace b) (hb' : IsBrace b')
    (us' : List Char) : Reaches ⟨cs ++ b' :: us', p⟩ ts ⟨b' :: us', q⟩ :=
  h.append_of_border hb.endsRuns hb'.endsRuns
    (fun _ ↦ .inl ⟨hb.not_opensComment, hb'.not_opensComment⟩) us'

end Lexer

end ClassSchema

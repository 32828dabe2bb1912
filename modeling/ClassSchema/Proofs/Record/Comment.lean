import ClassSchema.Proofs.Text.Trim
import ClassSchema.Proofs.Token.Recognized
import ClassSchema.Record.Comment
import Mathlib.Data.List.Forall2

/-!
# What a comment says

The prose of a comment is found from the text of its token alone: the first characters are looked at
a second time, although the lexer has looked at them before, and a closing delimiter is dropped
where there is one. Here the comment is described from its form. `Delimits` says what stands between
the delimiters of a token of the lexer, and `Says` what such a body comes to. Both readings agree
also where the delimiters touch: in the comment that is nothing but its delimiters, in the one that
is never closed, and where a body starts or ends with an asterisk or a slash.

A body holds no closing delimiter, since the comment would have ended with it. So nothing but the
delimiter itself is dropped at its end.
-/

namespace ClassSchema

/-! ## Lines -/

namespace Text

theorem isLineBreak_eq_false_of_mem_lines (cs : List Char) :
    ∀ line ∈ lines cs, ∀ c ∈ line, isLineBreak c = false := by
  fun_induction lines cs with
  | case1 => exact nofun
  | case2 cs ih => exact List.forall_mem_cons.mpr ⟨nofun, ih⟩
  | case3 c cs _ hbreak ih => exact List.forall_mem_cons.mpr ⟨nofun, ih⟩
  | case4 c cs _ hbreak hnone ih =>
    have hchar : isLineBreak c = false := Bool.eq_false_iff.mpr hbreak
    exact List.forall_mem_singleton.mpr (List.forall_mem_singleton.mpr hchar)
  | case5 c cs _ hbreak line rest hlines ih =>
    rw [hlines] at ih
    obtain ⟨hline, hrest⟩ := List.forall_mem_cons.mp ih
    exact List.forall_mem_cons.mpr
      ⟨List.forall_mem_cons.mpr ⟨Bool.eq_false_iff.mpr hbreak, hline⟩, hrest⟩

private theorem intercalate_ne_nil {piece : List Char} (hne : piece ≠ [])
    (pieces : List (List Char)) :
    List.intercalate [' '] (piece :: pieces) ≠ [] := by
  obtain _ | ⟨next, pieces⟩ := pieces
  · rwa [List.intercalate_singleton]
  · rw [List.intercalate_cons_cons, List.append_assoc]
    exact List.append_ne_nil_of_left_ne_nil hne _

theorem unpadded_intercalate {pieces : List (List Char)}
    (hpieces : ∀ piece ∈ pieces, piece ≠ [] ∧ Unpadded piece) :
    Unpadded (List.intercalate [' '] pieces) := by
  induction pieces with
  | nil => exact .of_forall nofun
  | cons piece pieces ih =>
    obtain ⟨⟨hne, hpiece⟩, hpieces⟩ := List.forall_mem_cons.mp hpieces
    obtain _ | ⟨next, pieces⟩ := pieces
    · rwa [List.intercalate_singleton]
    · have hnext := intercalate_ne_nil (hpieces next List.mem_cons_self).1 pieces
      rw [List.intercalate_cons_cons, List.append_assoc, List.singleton_append]
      exact hpiece.append_cons hne (ih hpieces) hnext ' '

private theorem forall_mem_intercalate {p : Char → Prop} (hspace : p ' ')
    {pieces : List (List Char)}
    (hpieces : ∀ piece ∈ pieces, ∀ c ∈ piece, p c) : ∀ c ∈ List.intercalate [' '] pieces, p c := by
  induction pieces with
  | nil => exact nofun
  | cons piece pieces ih =>
    obtain ⟨hpiece, hpieces⟩ := List.forall_mem_cons.mp hpieces
    obtain _ | ⟨next, pieces⟩ := pieces
    · rwa [List.intercalate_singleton]
    · rw [List.intercalate_cons_cons, List.append_assoc, List.singleton_append]
      exact List.forall_mem_append.mpr ⟨hpiece, List.forall_mem_cons.mpr ⟨hspace, ih hpieces⟩⟩

end Text

namespace Comment

/-! ## The body of a comment -/

/-- The delimiter in front of a comment. -/
def opener : CommentForm → List Char
  | .line => ['/', '/']
  | .block => ['/', '*']
  | .doc => ['/', '*', '*']

/-- The text of a comment in front of `rest`, taken apart into its delimiters and the body between
them. A comment that is never closed goes on to the end. -/
inductive Delimits (body rest : List Char) : CommentForm → List Char → Prop
  | line (body_chars : ∀ c ∈ body, isNewlineChar c = false)
    (ends : ∀ c ∈ rest.head?, isNewlineChar c = true) :
    Delimits body rest .line (opener .line ++ body)
  | closed {form : CommentForm} (not_line : form ≠ .line) (first : ¬['*', '/'] <:+: body) :
    Delimits body rest form (opener form ++ (body ++ ['*', '/']))
  | unclosed {form : CommentForm} (not_line : form ≠ .line) (first : ¬['*', '/'] <:+: body)
    (ends : rest = []) : Delimits body rest form (opener form ++ body)

variable {form : CommentForm} {text body rest : List Char}

private theorem dropCloser_append (cs : List Char) : dropCloser (cs ++ ['*', '/']) = cs := by
  rw [dropCloser, List.reverse_append]
  exact List.reverse_reverse cs

private theorem dropCloser_eq_self (h : ¬['*', '/'] <:+: body) : dropCloser body = body := by
  rw [dropCloser]
  split
  · rename_i cs hcs
    rw [List.reverse_eq_iff, List.reverse_cons, List.reverse_cons, List.append_assoc] at hcs
    exact absurd (hcs ▸ (List.suffix_append cs.reverse _).isInfix) h
  · rfl

/-- What is between the delimiters of a comment, taken as its form has it. -/
def prose : CommentForm → List Char → List Char
  | .doc, body => docProse body
  | _, body => body

private theorem body_of_startsDoc (h : StartsDoc text) :
    Comment.body text = docProse (dropCloser (text.drop 3)) := by
  rw [Comment.body, if_pos]
  rw [Bool.and_eq_true, List.isPrefixOf_iff_prefix, decide_eq_true_iff]
  exact h

private theorem body_of_not_startsDoc (h : ¬StartsDoc ('/' :: '*' :: text)) :
    Comment.body ('/' :: '*' :: text) = dropCloser text := by
  rw [Comment.body, if_neg, if_neg, if_pos]
  · rfl
  · rfl
  · exact Bool.false_ne_true
  · rw [Bool.and_eq_true, List.isPrefixOf_iff_prefix, decide_eq_true_iff]
    exact h

private theorem exists_eq_cons_of_startsDoc {cs : List Char} (h : StartsDoc ('/' :: '*' :: cs)) :
    ∃ ds, cs = '*' :: ds := by
  obtain ⟨⟨ds, hds⟩, -⟩ := h
  exact ⟨ds, (List.cons.inj (List.cons.inj hds).2).2.symm⟩

/-- Of a token of the lexer just the delimiters are dropped. -/
theorem exists_delimits (h : (Kind.comment form).Matches text rest) :
    ∃ body, Delimits body rest form text ∧ Comment.body text = prose form body := by
  cases form with
  | line =>
    obtain ⟨body, rfl, hbody, hrest⟩ := h
    exact ⟨body, .line hbody hrest, rfl⟩
  | block =>
    obtain ⟨⟨body, hbody, rfl | ⟨rfl, hrest⟩⟩, hblock⟩ := h
    · exact ⟨body, .closed nofun hbody,
        (body_of_not_startsDoc hblock).trans (dropCloser_append body)⟩
    · exact ⟨body, .unclosed nofun hbody hrest,
        (body_of_not_startsDoc hblock).trans (dropCloser_eq_self hbody)⟩
  | doc =>
    obtain ⟨⟨inner, hinner, htext⟩, hdoc⟩ := h
    -- a closing mark in the text behind the star would be one in the whole comment
    have hbody {body : List Char} (h : inner = '*' :: body) : ¬['*', '/'] <:+: body := fun hin ↦
      hinner (h ▸ hin.trans (List.suffix_cons '*' body).isInfix)
    rcases htext with rfl | ⟨rfl, hrest⟩
    · obtain ⟨ds, hds⟩ := exists_eq_cons_of_startsDoc hdoc
      obtain _ | ⟨star, body⟩ := inner
      · exact absurd rfl hdoc.2
      · obtain rfl : star = '*' := (List.cons.inj hds).1
        refine ⟨body, .closed nofun (hbody rfl), ?_⟩
        rw [body_of_startsDoc hdoc]
        exact congrArg docProse (dropCloser_append body)
    · obtain ⟨body, rfl⟩ := exists_eq_cons_of_startsDoc hdoc
      refine ⟨body, .unclosed nofun (hbody rfl) hrest, ?_⟩
      rw [body_of_startsDoc hdoc]
      exact congrArg docProse (dropCloser_eq_self (hbody rfl))

/-! ## The prose of a body -/

/-- A line of a documentation comment says what is left without blanks at its ends, and without the
asterisk at its front if it has one. -/
inductive LineSays (line said : List Char) : Prop
  | starred {blanks behind : List Char} (split : line = blanks ++ '*' :: behind)
    (front : ∀ c ∈ blanks, Text.isBlank c = true) (trims : Text.TrimsTo behind said)
  | plain (trims : Text.TrimsTo line said) (not_starred : said.head? ≠ some '*')

/-- What the body of a comment says: all but the blanks at its ends, or, in a documentation comment,
what its lines say that are not empty and start no tag. -/
inductive Says : CommentForm → List Char → List Char → Prop
  | whole {form : CommentForm} {body said : List Char} (not_doc : form ≠ .doc)
    (trims : Text.TrimsTo body said) : Says form body said
  | lines {body : List Char} {said : List (List Char)}
    (each : List.Forall₂ LineSays (Text.lines body) said) :
    Says .doc body
      (List.intercalate [' '] (said.filter fun line ↦ line ≠ [] ∧ line.head? ≠ some '@'))

private theorem takeWhile_append_trimStart (cs : List Char) :
    cs.takeWhile Text.isBlank ++ Text.trimStart cs = cs := List.takeWhile_append_dropWhile

/-- A line is read as it is described. -/
theorem lineSays_iff {line said : List Char} : LineSays line said ↔ said = docLine line := by
  constructor
  · rintro (⟨rfl, hblanks, htrims⟩ | ⟨htrims, hplain⟩)
    · have hstart (behind : List Char) :
          Text.trimStart ('*' :: behind) = '*' :: behind := rfl
      rw [docLine, Text.trimStart_append hblanks, hstart]
      exact Text.trimsTo_iff.mp htrims
    · obtain rfl := Text.trimsTo_iff.mp htrims
      rw [docLine]
      split
      · rename_i behind hstart
        rw [Text.trim, hstart] at hplain
        exact absurd (Text.head?_trimEnd_cons (by decide) behind) hplain
      · rfl
  · rintro rfl
    have hsplit := takeWhile_append_trimStart line
    rw [docLine]
    split
    · rename_i behind hstart
      exact .starred (hstart ▸ hsplit).symm (fun c hc ↦ List.mem_takeWhile_imp hc)
        (Text.trimsTo_trim behind)
    · rename_i hplain
      refine .plain (Text.trimsTo_trim line) fun hstar ↦ ?_
      obtain ⟨behind, hstart⟩ := List.head?_eq_some_iff.mp (Text.head?_eq_of_head?_trimEnd hstar)
      exact hplain behind hstart

private theorem docLine_isInfix (line : List Char) : docLine line <:+: line := by
  rw [docLine]
  split
  · rename_i behind hstart
    have hbehind : behind <:+ line :=
      (hstart ▸ List.suffix_cons '*' behind).trans (List.dropWhile_suffix Text.isBlank)
    exact (Text.trim_isInfix behind).trans hbehind.isInfix
  · exact Text.trim_isInfix line

private theorem unpadded_docLine (line : List Char) : Text.Unpadded (docLine line) := by
  rw [docLine]
  split <;> exact Text.unpadded_trim _

theorem isProse_iff {line : List Char} :
    isProse line = true ↔ line ≠ [] ∧ line.head? ≠ some '@' := by
  cases line <;> simp [isProse]

theorem unpadded_docProse (body : List Char) : Text.Unpadded (docProse body) := by
  refine Text.unpadded_intercalate fun line hline ↦ ?_
  obtain ⟨hline, hprose⟩ := List.mem_filter.mp hline
  obtain ⟨source, -, rfl⟩ := List.mem_map.mp hline
  exact ⟨(isProse_iff.mp hprose).1, unpadded_docLine source⟩

private theorem isLineBreak_eq_false_of_mem_docProse (body : List Char) :
    ∀ c ∈ docProse body, Text.isLineBreak c = false := by
  refine Text.forall_mem_intercalate (by decide) fun line hline c hc ↦ ?_
  obtain ⟨source, hsource, rfl⟩ := List.mem_map.mp (List.mem_of_mem_filter hline)
  have hmem := (docLine_isInfix source).subset hc
  exact Text.isLineBreak_eq_false_of_mem_lines body source hsource c hmem

private theorem docProse_eq (body : List Char) :
    docProse body = List.intercalate [' '] (((Text.lines body).map docLine).filter
      fun line ↦ line ≠ [] ∧ line.head? ≠ some '@') :=
  congrArg _ (List.filter_congr fun _ _ ↦
    Bool.eq_iff_iff.mpr (isProse_iff.trans decide_eq_true_iff.symm))

private theorem forall₂_lineSays_iff {lines said : List (List Char)} :
    List.Forall₂ LineSays lines said ↔ said = lines.map docLine :=
  calc List.Forall₂ LineSays lines said
    _ ↔ List.Forall₂ (fun line said ↦ docLine line = said) lines said :=
      iff_of_eq (congrArg (List.Forall₂ · lines said)
        (funext₂ fun _ _ ↦ propext (lineSays_iff.trans eq_comm)))
    _ ↔ List.Forall₂ Eq (lines.map docLine) said := List.forall₂_map_left_iff.symm
    _ ↔ said = lines.map docLine := by
      rw [List.forall₂_eq_eq_eq]
      exact eq_comm

theorem says_iff {said : List Char} : Says form body said ↔ said = Text.trim (prose form body) := by
  constructor
  · rintro (⟨hform, htrims⟩ | ⟨hlines⟩)
    · rw [Text.trimsTo_iff.mp htrims]
      cases form with
      | doc => exact absurd rfl hform
      | line | block => rfl
    · rw [prose, (unpadded_docProse body).trim_eq, docProse_eq, forall₂_lineSays_iff.mp hlines]
  · rintro rfl
    cases form with
    | doc =>
      rw [prose, (unpadded_docProse body).trim_eq, docProse_eq]
      exact .lines (forall₂_lineSays_iff.mpr rfl)
    | line | block => exact .whole nofun (Text.trimsTo_trim body)

/-! ## The prose of a comment -/

private theorem clean_eq (comment : String) :
    let said := Text.trim (Comment.body comment.toList)
    clean comment = if said = [] then none else some (String.ofList said) := by
  intro said
  rw [clean]
  split
  · rename_i hnil
    exact (if_pos hnil).symm
  · rename_i hne
    exact (if_neg hne).symm

/-- **Comments are cleaned as the lexer has read them.** A comment of a text is taken apart into
delimiters and a body by the form that the lexer has given it, and what the body says is what is
left of the comment, unless that is nothing. It has no blanks at its ends, and a documentation
comment comes to one line. -/
theorem clean_of_mem_tokenize {source : String} {t : Token} {form : CommentForm}
    (ht : t ∈ Token.tokenize source) (hform : t.kind = .comment form) :
    ∃ body rest said, source.toList.drop t.span.start = t.text.toList ++ rest ∧
      Delimits body rest form t.text.toList ∧ Says form body said ∧
      clean t.text = (if said = [] then none else some (String.ofList said)) ∧
      Text.Unpadded said ∧ (form = .doc → ∀ c ∈ said, Text.isLineBreak c = false) := by
  have hrecognized := Token.recognized_lex source t (List.mem_of_mem_filter ht)
  obtain ⟨body, hbody, hprose⟩ := exists_delimits (hform ▸ hrecognized.matches_text)
  refine ⟨body, _, Text.trim (prose form body), hrecognized.ahead, hbody,
    says_iff.mpr rfl, hprose ▸ clean_eq t.text, Text.unpadded_trim _, ?_⟩
  rintro rfl
  rw [prose, (unpadded_docProse body).trim_eq]
  exact isLineBreak_eq_false_of_mem_docProse body

/-- A line that starts with two asterisks keeps the second one, and so does a body that ends with
one. The line that starts a tag is left out. -/
theorem clean_of_mem_tokenize_starred : let source := "/** a\r\n * @b\n** c**/ int"
    ∃ t ∈ Token.tokenize source, t.kind = .comment .doc ∧ clean t.text = some "a * c*" ∧
      ∃ body rest said, source.toList.drop t.span.start = t.text.toList ++ rest ∧
        Delimits body rest .doc t.text.toList ∧ Says .doc body said ∧
        clean t.text = (if said = [] then none else some (String.ofList said)) ∧
        Text.Unpadded said ∧ ∀ c ∈ said, Text.isLineBreak c = false := by
  intro source
  have hmem : ⟨.comment .doc, "/** a\r\n * @b\n** c**/", 1, 1, ⟨0, 20, by decide⟩⟩ ∈
      Token.tokenize source := by decide +kernel
  obtain ⟨body, rest, said, hahead, hbody, hsaid, hclean, hunpadded, hlines⟩ :=
    clean_of_mem_tokenize hmem rfl
  exact ⟨_, hmem, rfl, by decide, body, rest, said, hahead, hbody, hsaid, hclean, hunpadded,
    hlines rfl⟩

example : (Token.tokenize "/**//***//*a/*/// b\n/*/").map (fun t ↦ (t.kind, clean t.text)) =
    [(.comment .block, none), (.comment .doc, none), (.comment .block, some "a/"),
      (.comment .line, some "b"), (.comment .block, some "/"), (.endOfInput, none)] := by
  decide +kernel

end Comment

end ClassSchema

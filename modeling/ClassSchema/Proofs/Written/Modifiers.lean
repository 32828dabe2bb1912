import ClassSchema.Proofs.Field.Declaration
import ClassSchema.Proofs.Written.Class

/-!
# Modifiers in front of a class

Where a declaration starts is seen in three ways. The scan for declarations stops at a word that
sets the visibility, at an annotation and at `class`, `interface` and `enum`. The look back for a
comment looks at the one token in front of where the scan stopped. And what stands in front of a
declaration is read with all modifiers, the reserved ones and the others.

So modifiers in front of the first one that sets the visibility are passed over by the scan, as if
they were no part of the class. They are missing among its modifiers; and as the look back finds the
last of them, the comment in front of them is missing too.
-/

namespace ClassSchema

open Token (Spell spell_append_iff spell_cons_iff spell_singleton_iff)

private theorem Kind.startsDeclaration_of_isModifier {word : Keyword} (h : word.isModifier = true) :
    (keyword word).startsDeclaration = word.isVisibility := by
  revert h
  cases word <;> decide

namespace Written

/-- A modifier of a class: a reserved one, or a name that is a modifier where it can be one. -/
inductive ClassModifier
  | reserved (modifier : Modifier)
  | contextual (name : Name) (isModifier : name.text ∈ Prelude.contextualModifiers)

namespace ClassModifier

/-- A modifier as it is written. -/
def piece : ClassModifier → Piece
  | reserved modifier => modifier.piece
  | contextual name _ => name.piece

/-- The text of a modifier. -/
def text : ClassModifier → String
  | reserved modifier => modifier.text
  | contextual name _ => name.text

/-- Whether a modifier sets the visibility. -/
def isVisibility : ClassModifier → Bool
  | reserved modifier => modifier.word.isVisibility
  | contextual .. => false

/-- The token of a modifier. -/
theorem of_standsFor {t : Token} (m : ClassModifier) (hkind : t.kind = m.piece.kind)
    (hstands : t.StandsFor m.piece) :
    t.text = m.text ∧ Prelude.IsModifierWord t ∧
      t.kind.startsDeclaration = m.isVisibility := by
  cases m with
  | reserved modifier =>
    obtain ⟨word, isModifier⟩ := modifier
    have hword : t.kind = .keyword word := hkind
    refine ⟨(hstands.text_eq rfl).trans (text_keyword word), .inl ?_, ?_⟩
    · rw [hword]
      exact isModifier
    · rw [hword, Kind.startsDeclaration_of_isModifier isModifier]
      rfl
  | contextual name isModifier =>
    have hname : t.kind = .identifier := hkind
    have htext : t.text = name.text := hstands.text_eq rfl
    refine ⟨htext, .inr ⟨hname, htext ▸ isModifier⟩, ?_⟩
    rw [hname]
    rfl

end ClassModifier

/-- Tokens of modifiers have their texts. -/
theorem of_spell_modifiers {ts : List Token} {modifiers : List ClassModifier}
    (h : Spell ts (modifiers.map ClassModifier.piece)) :
    ts.map (·.text) = modifiers.map ClassModifier.text ∧
      ts.map (·.kind.startsDeclaration) = modifiers.map ClassModifier.isVisibility ∧
      ∀ t ∈ ts, Prelude.IsModifierWord t := by
  induction modifiers generalizing ts with
  | nil =>
    cases h
    exact ⟨rfl, rfl, List.forall_mem_nil _⟩
  | cons m modifiers ih =>
    obtain ⟨t, ts, rfl, hkind, hstands, h⟩ := spell_cons_iff.mp h
    obtain ⟨htext, hword, hstarts⟩ := m.of_standsFor hkind hstands
    obtain ⟨htexts, hall, hwords⟩ := ih h
    refine ⟨?_, ?_, List.forall_mem_cons.mpr ⟨hword, hwords⟩⟩
    · rw [List.map_cons, List.map_cons, htext, htexts]
    · rw [List.map_cons, List.map_cons, hstarts, hall]

/-- A class with a comment and modifiers, and nothing in it. -/
structure EmptyClass where
  comment : CommentText
  modifiers : List ClassModifier
  name : Name

namespace EmptyClass

variable (c : EmptyClass)

/-- A class as it is written. -/
def pieces : List Piece :=
  c.comment.piece :: (c.modifiers.map ClassModifier.piece ++
    [keyword .classWord, c.name.piece, mark .openBrace, mark .closeBrace])

/-- The modifiers in front of the first one that sets the visibility. -/
def passedOver : List ClassModifier := c.modifiers.takeWhile (!·.isVisibility)

/-- The modifiers from the first one on that sets the visibility. -/
def kept : List ClassModifier := c.modifiers.dropWhile (!·.isVisibility)

theorem passedOver_append_kept : c.passedOver ++ c.kept = c.modifiers :=
  List.takeWhile_append_dropWhile

private theorem isVisibility_of_mem_passedOver {m : ClassModifier} (h : m ∈ c.passedOver) :
    m.isVisibility = false := by
  have hnot := List.mem_takeWhile_imp h
  rwa [Bool.not_eq_true'] at hnot

private theorem isVisibility_of_head?_kept {m : ClassModifier} (h : m ∈ c.kept.head?) :
    m.isVisibility = true := by
  have hnot := List.head?_dropWhile_not (!·.isVisibility) c.modifiers
  rw [kept] at h
  rw [h] at hnot
  simpa using hnot

/-- The declaration that is found, apart from its place. -/
def found : ClassDecl where
  name := c.name.text
  modifiers := c.kept.map ClassModifier.text
  annotations := []
  fields := []
  methods := []
  comment := if c.passedOver.isEmpty then some c.comment.text else none

theorem kept_eq_modifiers (h : c.found.comment = some c.comment.text) : c.kept = c.modifiers := by
  have hnone : c.passedOver = [] := by
    rw [found] at h
    cases hpassed : c.passedOver with
    | nil => rfl
    | cons m passed =>
      rw [hpassed] at h
      cases h
  rw [← c.passedOver_append_kept, hnone, List.nil_append]

/-- The comment is lost with the first modifier that is. -/
theorem comment_found_iff :
    c.found.comment = some c.comment.text ↔ ∀ m ∈ c.modifiers.head?, m.isVisibility = true := by
  rw [found, passedOver]
  cases c.modifiers with
  | nil => exact ⟨fun _ ↦ nofun, fun _ ↦ rfl⟩
  | cons m modifiers =>
    rw [List.takeWhile_cons]
    cases hm : m.isVisibility with
    | true =>
      rw [Bool.not_true, if_neg Bool.false_ne_true]
      refine ⟨fun _ ↦ ?_, fun _ ↦ rfl⟩
      rintro m ⟨rfl⟩
      exact hm
    | false =>
      rw [Bool.not_false, if_pos rfl]
      exact iff_of_false nofun fun h ↦ absurd (h m rfl) (ne_true_of_eq_false hm)

/-! ### Tokens of a class -/

section Tokens

variable {c} {comment : Token} {us vs : List Token}

private theorem startsDeclaration_lead (hcomment : comment.kind = c.comment.piece.kind)
    (hus : Spell us (c.passedOver.map ClassModifier.piece)) :
    ∀ t ∈ comment :: us, t.kind.startsDeclaration = false := by
  refine List.forall_mem_cons.mpr ⟨by rw [hcomment]; rfl, fun t ht ↦ ?_⟩
  have hmem : t.kind.startsDeclaration ∈ us.map (·.kind.startsDeclaration) := List.mem_map_of_mem ht
  rw [(of_spell_modifiers hus).2.1] at hmem
  obtain ⟨m, hm, hsame⟩ := List.mem_map.mp hmem
  exact hsame ▸ c.isVisibility_of_mem_passedOver hm

theorem startsDeclaration_kept {keyword : Token} (hvs : Spell vs (c.kept.map ClassModifier.piece))
    (hkeyword : keyword.kind = .keyword .classWord) (rest : List Token) :
    (Ahead.kind (vs ++ keyword :: rest)).startsDeclaration = true := by
  cases hkept : c.kept with
  | nil =>
    rw [hkept] at hvs
    cases hvs
    rw [show Ahead.kind ([] ++ keyword :: rest) = .keyword .classWord from hkeyword]
    rfl
  | cons m kept =>
    have hm := c.isVisibility_of_head?_kept (hkept ▸ rfl : m ∈ c.kept.head?)
    rw [hkept] at hvs
    obtain ⟨t, vs, rfl, hkind, hstands, -⟩ := spell_cons_iff.mp hvs
    exact (m.of_standsFor hkind hstands).2.2.trans hm

/-- The token in front of what is kept is the comment only if nothing was passed over. -/
theorem lastComment?_lead (hcomment : comment.kind = c.comment.piece.kind)
    (hstands : comment.StandsFor c.comment.piece)
    (hus : Spell us (c.passedOver.map ClassModifier.piece)) :
    (Token.lastComment? (comment :: us)).map (·.text) = c.found.comment := by
  rw [found]
  cases hpassed : c.passedOver with
  | nil =>
    rw [hpassed] at hus
    cases hus
    have htrivia : comment.kind.isTrivia = false := by rw [hcomment]; rfl
    have hisComment : comment.kind.isComment = true := by rw [hcomment]; rfl
    rw [← List.nil_append [comment], Token.lastComment?_concat htrivia, if_pos hisComment]
    exact congrArg some (hstands.text_eq rfl)
  | cons m passed =>
    have hne : us ≠ [] := by
      rw [hpassed] at hus
      rintro rfl
      cases hus
    obtain ⟨front, t, rfl⟩ := us.eq_nil_or_concat'.resolve_left hne
    have hword := (of_spell_modifiers hus).2.2 t List.mem_concat_self
    have htrivia : t.kind.isTrivia = false ∧ t.kind.isComment = false := by
      rcases hword.kind_cases with ⟨word, hkind⟩ | hkind <;> rw [hkind] <;> exact ⟨rfl, rfl⟩
    rw [← List.cons_append, Token.lastComment?_concat htrivia.1,
      if_neg (by rw [htrivia.2]; decide)]
    rfl

end Tokens

end EmptyClass

end Written

/-- **The modifiers and the comment of a class**, however it is laid out: the modifiers from the
first one on that sets the visibility, and the comment if there are no others. So both are as they
are written if and only if the first modifier sets the visibility, or there are none. -/
theorem ParsedUnit.ofText_modifiers (c : Written.EmptyClass) {source : String}
    (h : Laid c.pieces source.toList) :
    ∃ decl, ofText source = ⟨some ⟨[decl]⟩, [], [], []⟩ ∧ decl.unplaced = c.found ∧
      ((decl.modifiers = c.modifiers.map Written.ClassModifier.text ∧
          decl.comment = some c.comment.text) ↔
        ∀ m ∈ c.modifiers.head?, m.isVisibility = true) := by
  obtain ⟨ts, last, htokens, hlast, hspell⟩ := Token.exists_tokenize_eq h.strewn
  have hnoEnd := hspell.kind_ne_endOfInput
  obtain ⟨comment, ts, rfl, hcomment, hcommentText, hspell⟩ := spell_cons_iff.mp hspell
  rw [← c.passedOver_append_kept, List.map_append, List.append_assoc] at hspell
  obtain ⟨us, ts, rfl, hus, hspell⟩ := spell_append_iff.mp hspell
  obtain ⟨vs, ts, rfl, hvs, hspell⟩ := spell_append_iff.mp hspell
  obtain ⟨keyword, ts, rfl, hkeyword, -, hspell⟩ := spell_cons_iff.mp hspell
  obtain ⟨name, ts, rfl, hname, hnameText, hspell⟩ := spell_cons_iff.mp hspell
  obtain ⟨opening, ts, rfl, hopening, -, hspell⟩ := spell_cons_iff.mp hspell
  obtain ⟨closing, rfl, hclosing, -⟩ := spell_singleton_iff.mp hspell
  let f : ClassFrame := ⟨keyword, name, opening, closing, hkeyword, hname, hopening, hclosing⟩
  obtain ⟨hvsText, -, hvsWords⟩ := Written.of_spell_modifiers hvs
  have hread : Prelude.read (some source.toList) (vs ++ (f.front [] [] ++ [f.closing])) =
      .found { modifiers := vs.map (·.text) } (f.front [] [] ++ [f.closing]) := by
    have hparen : Ahead.atMark .openParen (f.front [] [] ++ [f.closing]) = false :=
      Token.isMark_eq_false_of_kind hkeyword (fun _ ↦ Kind.noConfusion) _
    rw [Prelude.read, Prelude.readFrom_modifierWords hvsWords hparen, List.nil_append]
    exact Prelude.readFrom_of_classWord hkeyword
  -- what is passed over belongs to the lead of the class, behind its comment
  have hunit := ParsedUnit.ofTokens_of_row (some source) f (comment :: us) [] hnoEnd hlast
    (Written.EmptyClass.startsDeclaration_lead hcomment hus)
    (Written.EmptyClass.startsDeclaration_kept hvs hkeyword _) hread (List.forall_mem_nil _)
    (@Row.nil _ last [f.closing])
  have hfoundComment := Written.EmptyClass.lastComment?_lead hcomment hcommentText hus
  have hname' : name.text = c.name.text := hnameText.text_eq rfl
  refine ⟨_, by rw [ofText, htokens]; exact hunit, ?_, ?_⟩
  · rw [ClassDecl.unplaced, ClassFrame.declBehind, Option.or_none, hfoundComment, hvsText]
    dsimp only
    rw [hname']
    rfl
  · rw [← c.comment_found_iff, ← hfoundComment, ClassFrame.declBehind, Option.or_none]
    dsimp only
    rw [hvsText]
    refine ⟨fun hboth ↦ hboth.2, fun hcomment ↦ ⟨?_, hcomment⟩⟩
    rw [hfoundComment] at hcomment
    rw [c.kept_eq_modifiers hcomment]

/-- A class with two modifiers, the first of which sets the visibility. -/
def Written.publicSealed : EmptyClass where
  comment := .block "* d ".toList (by decide)
  modifiers := [.reserved Class.publicModifier, .reserved ⟨.staticWord, rfl⟩,
    .contextual (.of "sealed" (by decide)) (by decide)]
  name := .of "N" (by decide)

/-- The text of the class. -/
def Written.publicSealedText : String := "/** d */public static sealed class N\x7b\x7d"

private theorem Written.laid_publicSealedText :
    Laid publicSealed.pieces publicSealedText.toList := by
  have htext : publicSealedText = String.ofList (printTight publicSealed.pieces) := by
    decide
  rw [htext, String.toList_ofList]
  exact laid_printTight (List.forall₂_same.mpr fun p _ ↦ .plain p)

/-- A class with a modifier that sets its visibility has all of its modifiers and its comment. -/
theorem ParsedUnit.ofText_publicSealedText :
    ∃ decl, ofText Written.publicSealedText = ⟨some ⟨[decl]⟩, [], [], []⟩ ∧ decl.name = "N" ∧
      decl.modifiers = ["public", "static", "sealed"] ∧ decl.comment = some "/** d */" := by
  obtain ⟨decl, htext, hdecl, hiff⟩ :=
    ofText_modifiers Written.publicSealed Written.laid_publicSealedText
  have hname : decl.name = Written.publicSealed.name.text := congrArg ClassDecl.name hdecl
  obtain ⟨hmodifiers, hcomment⟩ := hiff.mpr (by decide)
  exact ⟨decl, htext, hname.trans (by decide), hmodifiers.trans (by decide),
    hcomment.trans (by decide)⟩

/-- A class whose only modifier does not set its visibility has neither its modifier nor its
comment. -/
theorem ParsedUnit.ofText_finalClass :
    (ofText "/** d */ final class N \x7b \x7d").errors = [] ∧
      ((ofText "/** d */ final class N \x7b \x7d").tree.map fun unit ↦
        unit.classes.map fun decl ↦ (decl.name, decl.modifiers, decl.comment)) =
          some [("N", [], none)] := by
  decide +kernel

end ClassSchema

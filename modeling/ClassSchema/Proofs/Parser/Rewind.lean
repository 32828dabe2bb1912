import ClassSchema.Parser.Session
import ClassSchema.Proofs.Parser.Onward

/-!
# Going back to a checkpoint

A checkpoint is three numbers. Going back to it moves to the first of them and cuts the errors and
the warnings down to the other two. That undoes what has happened since if all of it only moved the
parser and added reports behind those that were there. `Parser.KeptBy` says so: the tokens are the
same ones in the same order, and the reports of the earlier parser are the first ones of the later.

All operations of a parser keep what was there, and so do all rules. Going back to some other
checkpoint does as well, as long as that one counts no fewer reports, and this is so if it was taken
later: then, too, all that was there had been kept. It does not matter whether it has been undone in
the meantime, for cutting a list down to more than it has leaves the list as it is. So a session has
one thing to remember of the checkpoints that were taken since, which is how much they count.
-/

namespace ClassSchema

namespace Parser

variable {p q r : Parser}

/-! ## Where a parser goes -/

/-- At a position that many tokens have been passed. -/
theorem passed_goTo (p : Parser) (position : Nat) :
    (p.goTo position).passed = ((p.passed.reverse ++ p.ahead).take position).reverse := by
  rw [List.take_append, List.length_reverse, List.reverse_append, goTo]
  split
  · rename_i hle
    have hlong : p.passed.reverse.length ≤ position := by rwa [List.length_reverse]
    rw [List.take_of_length_le hlong, List.reverse_reverse]
    rfl
  · rename_i hlt
    have hback : position - p.passed.length = 0 := Nat.sub_eq_zero_of_le (Nat.le_of_not_le hlt)
    rw [hback, List.take_zero, List.reverse_nil, List.nil_append, List.take_reverse,
      List.reverse_reverse]
    rfl

/-- At a position the tokens behind that many are ahead. -/
theorem ahead_goTo (p : Parser) (position : Nat) :
    (p.goTo position).ahead = (p.passed.reverse ++ p.ahead).drop position := by
  rw [List.drop_append, List.length_reverse, goTo]
  split
  · rename_i hle
    have hlong : p.passed.reverse.length ≤ position := by rwa [List.length_reverse]
    rw [List.drop_of_length_le hlong, List.nil_append]
    rfl
  · rename_i hlt
    have hback : position - p.passed.length = 0 := Nat.sub_eq_zero_of_le (Nat.le_of_not_le hlt)
    rw [hback, List.drop_zero, List.drop_reverse]
    rfl

theorem goTo_eq (p : Parser) (position : Nat) :
    p.goTo position =
      { p with passed := (p.goTo position).passed, ahead := (p.goTo position).ahead } := by
  rw [goTo]
  split <;> rfl

/-! ## What is kept -/

/-- `q` has the tokens of `p`, wherever it stands in them, and all reports of `p` in front of its
own ones. -/
structure KeptBy (p q : Parser) : Prop where
  /-- The tokens in front of the end are the same. -/
  passed_append_ahead : q.passed.reverse ++ q.ahead = p.passed.reverse ++ p.ahead
  final_eq : q.final = p.final
  beyond_eq : q.beyond = p.beyond
  source_eq : q.source = p.source
  errors_prefix : p.errors <+: q.errors
  warnings_prefix : p.warnings <+: q.warnings

/-- The checkpoint counts all reports of the parser, and maybe more. -/
structure Checkpoint.Counts (c : Checkpoint) (p : Parser) : Prop where
  errors_le : p.errors.length ≤ c.errors
  warnings_le : p.warnings.length ≤ c.warnings

theorem Onward.keptBy (h : p.Onward q) (herrors : p.errors <+: q.errors)
    (hwarnings : p.warnings <+: q.warnings) : p.KeptBy q :=
  ⟨h.passed_append_ahead, h.final_eq, h.beyond_eq, h.source_eq, herrors, hwarnings⟩

private theorem errors_prefix_report (p : Parser) (d : Diagnostic) :
    p.errors <+: (p.report d).errors := by
  unfold report
  split
  · split
    · exact List.prefix_refl _
    · exact List.prefix_append _ _
  · rename_i hlast
    rw [List.getLast?_eq_none_iff.mp hlast]
    exact List.nil_prefix

namespace KeptBy

theorem refl (p : Parser) : p.KeptBy p :=
  (Onward.refl p).keptBy (List.prefix_refl _) (List.prefix_refl _)

theorem trans (h : p.KeptBy q) (h' : q.KeptBy r) : p.KeptBy r where
  passed_append_ahead := h'.passed_append_ahead.trans h.passed_append_ahead
  final_eq := h'.final_eq.trans h.final_eq
  beyond_eq := h'.beyond_eq.trans h.beyond_eq
  source_eq := h'.source_eq.trans h.source_eq
  errors_prefix := h.errors_prefix.trans h'.errors_prefix
  warnings_prefix := h.warnings_prefix.trans h'.warnings_prefix

theorem advance (p : Parser) (n : Nat) : p.KeptBy (p.advance n) :=
  (p.onward_advance n).keptBy (List.prefix_refl _) (List.prefix_refl _)

theorem settle (p : Parser) (rest : List Token) : p.KeptBy (p.settle rest) := .advance p _

theorem warn (p : Parser) (text : String) : p.KeptBy (p.warn text) :=
  (p.onward_warn text).keptBy (List.prefix_refl _) (List.prefix_append _ _)

theorem complain (p : Parser) (c : Complaint) (message : String) :
    p.KeptBy (p.complain c message) :=
  (p.onward_complain c message).keptBy (p.errors_prefix_report _)
    (p.warnings_complain c message ▸ List.prefix_refl _)

theorem expect (p : Parser) (kind : Kind) (c : Complaint) : p.KeptBy (p.expect kind c).2 := by
  unfold Parser.expect
  split
  · exact .advance p 1
  · exact .complain p c ""

/-! ### Checkpoints -/

private theorem counts_checkpoint (h : p.KeptBy q) : q.checkpoint.Counts p :=
  ⟨h.errors_prefix.length_le, h.warnings_prefix.length_le⟩

/-- Going back to a checkpoint keeps the reports that it counts. -/
theorem rewind {c : Checkpoint} (h : p.KeptBy q) (hc : c.Counts p) : p.KeptBy (q.rewind c) where
  passed_append_ahead := by
    have hplace :
        (q.rewind c).passed.reverse ++ (q.rewind c).ahead = q.passed.reverse ++ q.ahead := by
      rw [Parser.rewind, passed_goTo, ahead_goTo, List.reverse_reverse, List.take_append_drop]
    exact hplace.trans h.passed_append_ahead
  final_eq := by
    rw [Parser.rewind, goTo_eq]
    exact h.final_eq
  beyond_eq := by
    rw [Parser.rewind, goTo_eq]
    exact h.beyond_eq
  source_eq := by
    rw [Parser.rewind, goTo_eq]
    exact h.source_eq
  errors_prefix := List.prefix_take_iff.mpr ⟨h.errors_prefix, hc.errors_le⟩
  warnings_prefix := List.prefix_take_iff.mpr ⟨h.warnings_prefix, hc.warnings_le⟩

/-- **Going back undoes all that was done in between**, but for the notes of declarations that were
passed over. -/
theorem rewind_checkpoint (h : p.KeptBy q) :
    q.rewind p.checkpoint = { p with skipped := q.skipped } := by
  have hpassed : (q.goTo p.position).passed = p.passed := by
    rw [passed_goTo, h.passed_append_ahead, position, List.take_left' List.length_reverse,
      List.reverse_reverse]
  have hahead : (q.goTo p.position).ahead = p.ahead := by
    rw [ahead_goTo, h.passed_append_ahead, position, List.drop_left' List.length_reverse]
  have herrors : q.errors.take p.errors.length = p.errors :=
    (List.prefix_iff_eq_take.mp h.errors_prefix).symm
  have hwarnings : q.warnings.take p.warnings.length = p.warnings :=
    (List.prefix_iff_eq_take.mp h.warnings_prefix).symm
  rw [Parser.rewind, checkpoint, goTo_eq, hpassed, hahead, herrors, hwarnings, h.final_eq,
    h.beyond_eq, h.source_eq]

end KeptBy

end Parser

/-! ## Rules -/

namespace Rule

variable {α β : Type} {p : Parser}

/-- The rule keeps what the parser has that it starts with, whatever it comes to. -/
def Keeps (rule : Rule α) : Prop := ∀ p : Parser, p.KeptBy (rule p).2

theorem Keeps.of_eq {rule : Rule α} {outcome : Outcome α} {q : Parser} (h : Keeps rule)
    (hresult : rule p = (outcome, q)) : p.KeptBy q := by
  have hkept := h p
  rwa [hresult] at hkept

theorem pure_keeps (value : α) : Keeps (pure value) := fun p ↦ .refl p

theorem Keeps.bind {rule : Rule α} {next : α → Rule β} (hrule : Keeps rule)
    (hnext : ∀ value, Keeps (next value)) : Keeps (Rule.bind rule next) := by
  intro p
  unfold Rule.bind
  split
  · rename_i value q hresult
    exact (hrule.of_eq hresult).trans (hnext value q)
  · exact hrule.of_eq ‹_›
  · exact hrule.of_eq ‹_›

theorem reading_keeps (read : Option (List Char) → List Token → Reading α) :
    Keeps (reading read) := by
  intro p
  unfold reading
  split
  · exact .settle p _
  · exact (Parser.KeptBy.settle p _).trans (.complain _ _ _)
  · exact .settle p _
  · exact .settle p _

private theorem expect_keeps (kind : Kind) (c : Complaint) : Keeps (expect kind c) := by
  intro p
  have hexpect := Parser.KeptBy.expect p kind c
  unfold expect
  split
  · rename_i q hq
    rwa [hq] at hexpect
  · rename_i q hq
    rwa [hq] at hexpect

private theorem skipUntil_keeps (stops : Kind → Bool) : Keeps (modify (·.skipUntil stops)) :=
  fun p ↦ .advance p _

/-! ### Members -/

private theorem giveUp_keeps (why : Malformation) : Keeps (giveUp why) :=
  fun p ↦ (Parser.KeptBy.warn p _).trans (.advance _ _)

theorem classMember_keeps : Keeps classMember := by
  intro p
  unfold classMember
  split
  · exact .settle p _
  · rename_i what rest _
    exact ((Parser.KeptBy.settle p rest).trans (.warn _ _)).trans (.advance _ _)
  · exact giveUp_keeps _ p
  · exact .settle p _
  · exact giveUp_keeps _ p
  · rename_i rest _
    dsimp only
    split
    · exact (Parser.KeptBy.settle p rest).trans (.complain _ _ _)
    · exact giveUp_keeps _ p

theorem classBody_keeps : Keeps classBody := by
  intro p
  fun_induction classBody p with
  | case1 p => exact .refl p
  | case2 p hend decls q hmember hlt more r hbody ih =>
    rw [hbody] at ih
    exact (classMember_keeps.of_eq hmember).trans ih
  | case3 p hend decls q hmember hlt hbody ih => exact (classMember_keeps.of_eq hmember).trans ih
  | case4 p hend decls q hmember => exact classMember_keeps.of_eq hmember
  | case5 p hend decls q hmember => exact classMember_keeps.of_eq hmember
  | case6 p hend q hmember => exact classMember_keeps.of_eq hmember
  | case7 p hend cause q hmember => exact classMember_keeps.of_eq hmember

/-! ### Declarations -/

private theorem classRest_keeps (comment : Option Token) (head : Prelude) :
    Keeps (classRest comment head) :=
  (expect_keeps _ _).bind fun _ ↦ (expect_keeps _ _).bind fun _ ↦
    (skipUntil_keeps _).bind fun _ ↦ (expect_keeps _ _).bind fun _ ↦
    classBody_keeps.bind fun _ ↦ (expect_keeps _ _).bind fun _ ↦ pure_keeps _

private theorem declarationRest_keeps (start : Token) (comment : Option Token) (head : Prelude) :
    Keeps (declarationRest start comment head) := by
  intro p
  unfold declarationRest
  split
  · rename_i what _
    let noted : Parser := { p with skipped := p.skipped ++ [⟨what, start.line, start.column⟩] }
    have hnoted : p.KeptBy noted := ⟨rfl, rfl, rfl, rfl, List.prefix_refl _, List.prefix_refl _⟩
    exact hnoted.trans (.advance noted _)
  · exact (classRest_keeps comment head).bind (fun _ ↦ pure_keeps _) p

theorem typeDeclaration_keeps : Keeps typeDeclaration := by
  intro p
  unfold typeDeclaration
  split
  · rename_i head q hhead
    exact ((reading_keeps _).of_eq hhead).trans (declarationRest_keeps _ _ head q)
  · rename_i q hhead
    have hkept := (reading_keeps _).of_eq hhead
    dsimp only
    split
    · exact hkept
    · exact hkept.trans (.complain q _ _)
  · exact (reading_keeps _).of_eq ‹_›

theorem toDeclaration_kept (p : Parser) : p.KeptBy (toDeclaration p) := .advance p _

private theorem classesFrom_keeps : Keeps classesFrom := by
  intro p
  fun_induction classesFrom p with
  | case1 p decl q hdecl =>
    exact (typeDeclaration_keeps.of_eq hdecl).trans (toDeclaration_kept q)
  | case2 p decl q hdecl start hend hlt more r hmore ih =>
    rw [hmore] at ih
    exact ((typeDeclaration_keeps.of_eq hdecl).trans (toDeclaration_kept q)).trans ih
  | case3 p decl q hdecl start hend hlt hmore ih =>
    exact ((typeDeclaration_keeps.of_eq hdecl).trans (toDeclaration_kept q)).trans ih
  | case4 p decl q hdecl =>
    exact (typeDeclaration_keeps.of_eq hdecl).trans (toDeclaration_kept q)
  | case5 p q hdecl => exact typeDeclaration_keeps.of_eq hdecl
  | case6 p cause q hdecl => exact typeDeclaration_keeps.of_eq hdecl

private theorem compilationUnit_keeps : Keeps compilationUnit := by
  intro p
  have hstart := toDeclaration_kept p
  unfold compilationUnit
  dsimp only
  split
  · exact hstart
  · exact hstart.trans (classesFrom_keeps.bind (fun _ ↦ pure_keeps _) _)

end Rule

private theorem Construct.rule_keeps (construct : Construct) : Rule.Keeps construct.rule := by
  have hreading {α : Type} (read : Option (List Char) → List Token → Reading α)
      (found : α → Construed) : Rule.Keeps (.bind (.reading read) (.pure <| found ·)) :=
    (Rule.reading_keeps read).bind fun _ ↦ Rule.pure_keeps _
  cases construct with
  | compilationUnit => exact Rule.compilationUnit_keeps.bind fun _ ↦ Rule.pure_keeps _
  | typeDeclaration => exact Rule.typeDeclaration_keeps.bind fun _ ↦ Rule.pure_keeps _
  | classBody => exact Rule.classBody_keeps.bind fun _ ↦ Rule.pure_keeps _
  | classMember => exact Rule.classMember_keeps.bind fun _ ↦ Rule.pure_keeps _
  | parameter => exact hreading _ _
  | type => exact hreading _ _
  | defaultValue => exact hreading _ _
  | prelude => exact hreading _ _
  | annotationUse => exact hreading _ _
  | argument => exact hreading _ _

/-! ## Sessions -/

/-- The names under which checkpoints have been taken behind the command. -/
def Command.taken (names : List String) : Command → List String
  | .checkpoint name => name :: names
  | _ => names

/-- If the command goes back to a checkpoint, it is one under these names. -/
def Command.GoesBackTo (names : List String) : Command → Prop
  | .rewind name => name ∈ names
  | _ => True

/-- The commands go back only to checkpoints under the names and to those that were taken among
themselves. -/
def Command.StayBehind (names : List String) : List Command → Prop
  | [] => True
  | command :: commands =>
    command.GoesBackTo names ∧ StayBehind (command.taken names) commands

namespace Session

variable {p : Parser} {names : List String} {s : Session} {command : Command}
  {commands : List Command}

/-- A session that was at `p` once, and has kept what was there. The checkpoints under the names,
which were taken since, count it. -/
structure Since (p : Parser) (names : List String) (s : Session) : Prop where
  kept : p.KeptBy s.parser
  counts : ∀ name ∈ names, ∀ c, s.checkpoints.get? name = some c → c.Counts p

/-! ### Commands -/

theorem execute_keeps (s : Session) (h : command.GoesBackTo []) :
    s.parser.KeptBy (s.execute command).2.parser := by
  -- each command moves on, reports, or does both; only going back is left out
  cases command with
  | bump => exact .advance s.parser 1
  | eat kind =>
    rw [execute]
    split
    · exact .advance s.parser 1
    · exact .refl s.parser
  | expect kind complaint => exact .expect s.parser kind complaint
  | rewind name => exact absurd h List.not_mem_nil
  | complain complaint message => exact .complain s.parser complaint message
  | warn text => exact .warn s.parser text
  | skipBalanced | skipUntil | skipToMemberEnd | skipTypeDeclaration | search =>
    exact .advance s.parser _
  | parse construct =>
    rw [execute]
    split <;> exact construct.rule_keeps.of_eq ‹_›
  | demand construct =>
    rw [execute]
    split <;> exact construct.rule_keeps.of_eq ‹_›
  | arguments =>
    rw [execute]
    split <;> exact (Rule.reading_keeps Arguments.read).of_eq ‹_›
  | sourceText start stop =>
    rw [execute]
    split <;> exact .refl s.parser
  | _ => exact .refl s.parser

/-- Only taking a checkpoint changes the checkpoints of a session. -/
theorem checkpoints_execute (s : Session) (command : Command) :
    (s.execute command).2.checkpoints =
      match command with
      | .checkpoint name => s.checkpoints.put name s.parser.checkpoint
      | _ => s.checkpoints := by
  cases command with
  | eat | rewind | parse | demand | arguments | sourceText =>
    rw [execute]
    split <;> rfl
  | _ => rfl

/-- **A command undoes nothing that was there**, if it goes back to a later checkpoint at most. -/
theorem Since.execute (h : Since p names s) (hback : command.GoesBackTo names) :
    Since p (command.taken names) (s.execute command).2 := by
  cases command with
  | checkpoint taken =>
    refine ⟨h.kept, fun name hname c hc ↦ ?_⟩
    rw [checkpoints_execute] at hc
    by_cases hsame : name = taken
    · subst hsame
      obtain rfl := Option.some.inj ((Assoc.get?_put_self _ _ _).symm.trans hc)
      exact h.kept.counts_checkpoint
    · rw [Assoc.get?_put_of_ne _ _ hsame] at hc
      exact h.counts name (List.mem_of_ne_of_mem hsame hname) c hc
  | rewind name =>
    refine ⟨?_, fun other hother c hc ↦ ?_⟩
    · rw [Session.execute]
      split
      · exact h.kept.rewind (h.counts name hback _ ‹_›)
      · exact h.kept
    · rw [checkpoints_execute] at hc
      exact h.counts other hother c hc
  | _ =>
    refine ⟨h.kept.trans (execute_keeps s trivial), fun name hname c hc ↦ ?_⟩
    rw [checkpoints_execute] at hc
    exact h.counts name hname c hc

/-! ### Runs -/

private theorem Since.kept_run (h : Since p names s) (hbehind : Command.StayBehind names commands) :
    p.KeptBy (s.run commands).2.parser := by
  induction commands generalizing s names with
  | nil => exact h.kept
  | cons command commands ih => exact ih (h.execute hbehind.1) hbehind.2

theorem get?_checkpoints_run {name : String} (h : .checkpoint name ∉ commands) :
    (s.run commands).2.checkpoints.get? name = s.checkpoints.get? name := by
  induction commands generalizing s with
  | nil => rfl
  | cons command commands ih =>
    rw [List.mem_cons, not_or] at h
    have hrest : ((s.execute command).2.run commands).2.checkpoints.get? name =
        (s.execute command).2.checkpoints.get? name := ih h.2
    refine hrest.trans ?_
    cases command with
    | checkpoint other => exact Assoc.get?_put_of_ne _ _ fun hsame ↦ h.1 (congrArg _ hsame)
    | _ => rw [checkpoints_execute]

/-- **Going back to a checkpoint is an exact undo.** Whatever is done behind a checkpoint, going
back to it leaves the parser where it was, with its tokens, its errors and its warnings, as long as
no command goes back behind it. Only the notes of declarations that were passed over stay. Under its
name the checkpoint is found again unless another one was taken under that name. -/
theorem rewind_undoes_run (s : Session) (name : String) (commands : List Command)
    (h : Command.StayBehind [name] commands) :
    let t := (s.run (.checkpoint name :: commands)).2
    t.parser.rewind s.parser.checkpoint = { s.parser with skipped := t.parser.skipped } ∧
      (.checkpoint name ∉ commands →
        (t.execute (.rewind name)).2.parser = { s.parser with skipped := t.parser.skipped }) := by
  intro t
  have hstart : Since s.parser [] s := ⟨.refl s.parser, nofun⟩
  have hsince : Since s.parser [name] (s.execute (.checkpoint name)).2 :=
    hstart.execute (show (Command.checkpoint name).GoesBackTo [] from trivial)
  have hundone := (hsince.kept_run h).rewind_checkpoint
  refine ⟨hundone, fun honce ↦ ?_⟩
  have hfound : t.checkpoints.get? name = some s.parser.checkpoint :=
    (get?_checkpoints_run honce).trans (Assoc.get?_put_self _ _ _)
  rw [Session.execute, hfound]
  exact hundone

/-- A malformed member is left out with a warning, arguments behind it are not closed, and a later
checkpoint is gone back to although it has been undone already. -/
def staleDetour : List Command :=
  [.parse .classMember, .checkpoint "later", .parse .annotationUse, .rewind "start", .warn "note",
    .rewind "later", .demand .annotationUse]

/-- The detour ends further on, with an error and a warning, and it is undone. -/
theorem rewind_undoes_staleDetour :
    let s := Session.start (Token.tokenize "int x y; @B(;") none
    let t := (s.run (.checkpoint "start" :: staleDetour)).2
    (t.parser.position, t.parser.errors.length, t.parser.warnings) = (7, 1, ["note"]) ∧
      Command.StayBehind ["start"] staleDetour ∧ .checkpoint "start" ∉ staleDetour ∧
      (t.execute (.rewind "start")).2.parser =
        { s.parser with skipped := t.parser.skipped } := by
  have hbehind : Command.StayBehind ["start"] staleDetour := by
    simp [staleDetour, Command.StayBehind, Command.GoesBackTo, Command.taken]
  have honce : Command.checkpoint "start" ∉ staleDetour := by simp [staleDetour]
  have hundone (s : Session) := (rewind_undoes_run s "start" staleDetour hbehind).2 honce
  exact ⟨by decide +kernel, hbehind, honce, hundone _⟩

end Session

end ClassSchema

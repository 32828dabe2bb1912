import ClassSchema.Proofs.Member.Row
import Mathlib.Data.List.Forall2

/-!
# What members are read off

A member has the name and the place of one token, its name. Here members are traced back to these
tokens. On the way from one place of the tokens to a later one some members are read, and their
names are found there in the order of the members, each token for one member only. This is kept by
going on, since what is read later is read off tokens further behind.

A reading that was given up does not disturb this. It has read nothing, and the tokens it has looked
at are passed over; no member is named by one of them unless it is read off them afterwards.
-/

namespace ClassSchema

/-! ## Reading one thing after the other -/

section

variable {α β : Type} {Off : α → List Token → Prop} {ts us vs : List Token} {x : α} {xs ys : List α}

/-- On the way from the tokens `ts` to `rest` the things `xs` were read, each off tokens of its own,
which come in the order of the things. `Off` tells off which tokens a thing is read. -/
def ReadOff (Off : α → List Token → Prop) (ts : List Token) (xs : List α) (rest : List Token) :
    Prop :=
  ∃ front parts, ts = front ++ rest ∧ parts.flatten.Sublist front ∧ List.Forall₂ Off xs parts

namespace ReadOff

theorem none (h : us <:+ ts) : ReadOff Off ts [] us := by
  obtain ⟨front, rfl⟩ := h
  exact ⟨front, [], rfl, List.nil_sublist front, .nil⟩

theorem single {front part : List Token} (hpart : part.Sublist front) (hoff : Off x part)
    (rest : List Token) : ReadOff Off (front ++ rest) [x] rest := by
  refine ⟨front, [part], rfl, ?_, .cons hoff .nil⟩
  rw [List.flatten_singleton]
  exact hpart

theorem append (h : ReadOff Off ts xs us) (h' : ReadOff Off us ys vs) :
    ReadOff Off ts (xs ++ ys) vs := by
  obtain ⟨front, parts, rfl, hsub, hoff⟩ := h
  obtain ⟨front', parts', rfl, hsub', hoff'⟩ := h'
  refine ⟨front ++ front', parts ++ parts', (List.append_assoc ..).symm, ?_,
    List.rel_append hoff hoff'⟩
  rw [List.flatten_append]
  exact hsub.append hsub'

theorem behind (h : ReadOff Off us xs vs) (hus : us <:+ ts) : ReadOff Off ts xs vs :=
  (none hus).append h

theorem onward (h : ReadOff Off ts xs us) (hvs : vs <:+ us) : ReadOff Off ts xs vs := by
  have hmore := h.append (none hvs)
  rwa [List.append_nil] at hmore

private theorem map {Off' : β → List Token → Prop} {f : α → β} (h : ReadOff Off ts xs us)
    (hf : ∀ x part, Off x part → Off' (f x) part) : ReadOff Off' ts (xs.map f) us := by
  obtain ⟨front, parts, rfl, hsub, hoff⟩ := h
  exact ⟨front, parts, rfl, hsub, List.forall₂_map_left_iff.mpr (hoff.imp hf)⟩

end ReadOff

end

/-! ## Names -/

namespace Member

/-- The name of a member. -/
def name : Member → String
  | field f => f.name
  | method m => m.name

/-- The line of a member. -/
def line : Member → Nat
  | field f => f.line
  | method m => m.line

/-- The column of a member. -/
def column : Member → Nat
  | field f => f.column
  | method m => m.column

/-- The token is the name of the member, and the member has its place. -/
structure NamedBy (m : Member) (t : Token) : Prop where
  kind_eq : t.kind = .identifier
  name_eq : m.name = t.text
  line_eq : m.line = t.line
  column_eq : m.column = t.column

/-- A member is read off its name. -/
def Off (m : Member) (ts : List Token) : Prop := ∃ t, ts = [t] ∧ m.NamedBy t

end Member

/-! ## Members -/

/-- A declarator is read off its name. -/
def Declarator.Off (d : Declarator) (ts : List Token) : Prop :=
  ts = [d.name] ∧ d.name.kind = .identifier

section

variable {source : Option (List Char)} {final : Token} {head : Prelude} {ts rest : List Token}

/-- Declarators are read off the names behind the commas, the first one off the name in front. -/
theorem Declarator.readList_readOff {type : String} {name : Token} {ds : List Declarator}
    (hname : name.kind = .identifier) (h : readList source type name ts = .found ds rest) :
    ReadOff Off (name :: ts) ds rest := by
  have hfirst {name : Token} (hname : name.kind = .identifier) (own : String)
      (value : Option String) {ts front rest : List Token} (hfront : ts = front ++ rest) :
      ReadOff Off (name :: ts) [⟨name, own, value⟩] rest :=
    hfront ▸ .single (List.singleton_sublist.mpr List.mem_cons_self) ⟨rfl, hname⟩ rest
  have hbehind {name : Token} {ts behind : List Token} {value : Option String}
      (hvalue : readValue source name (Ahead.bracketPairs ts).2 = .found value behind) :
      ∃ front, ts = front ++ behind := by
    obtain ⟨front, hfront⟩ := ((readValue_grounded source name _).suffix_of_found hvalue).trans
      (Ahead.bracketPairs_rest_suffix ts)
    exact ⟨front, hfront.symm⟩
  -- another declarator follows, or none does, or the value is missing
  fun_induction readList source type name ts generalizing ds with
  | case1 name ts own value comma next more hvalue hnext =>
    rename_i ih
    obtain ⟨others, rfl, hothers⟩ := Reading.exists_of_map_eq_found h
    have hkind : next.kind = .identifier := of_decide_eq_true (Bool.and_eq_true_iff.mp hnext).2
    obtain ⟨front, hfront⟩ := hbehind hvalue
    rw [List.append_cons] at hfront
    exact (hfirst hname own value hfront).append (ih hkind hothers)
  | case2 name ts own value comma next more hvalue =>
    obtain ⟨rfl, rfl⟩ := Reading.found.inj h
    obtain ⟨front, hfront⟩ := hbehind hvalue
    exact hfirst hname own value hfront
  | case3 name ts own value behind =>
    rename_i hvalue
    obtain ⟨rfl, rfl⟩ := Reading.found.inj h
    obtain ⟨front, hfront⟩ := hbehind hvalue
    exact hfirst hname own value hfront
  | case4 => cases h

theorem MethodDecl.readRest_readOff {returnType : Option String} {name : Token} {m : MethodDecl}
    {us : List Token} (hname : name.kind = .identifier) (hus : us <:+ ts)
    (h : readRest source head returnType name us = .found m rest) :
    ReadOff Member.Off (name :: ts) [.method m] rest := by
  obtain ⟨front, rfl⟩ :=
    ((readRest_grounded source head returnType name us).suffix_of_found h).trans hus
  obtain ⟨parameters, between, -, hbody⟩ := Reading.exists_of_andThen_eq_found h
  obtain ⟨_, rfl, -⟩ := Reading.exists_of_map_eq_found hbody
  exact .single (List.singleton_sublist.mpr List.mem_cons_self) ⟨name, rfl, hname, rfl, rfl, rfl⟩
    rest

theorem FieldDecl.readRest_readOff {type : String} {name : Token} {fields : List FieldDecl}
    (hname : name.kind = .identifier) (h : readRest source head type name ts = .found fields rest) :
    ReadOff Member.Off (name :: ts) (fields.map .field) rest := by
  obtain ⟨declarators, between, hdeclarators, h⟩ := Reading.exists_of_andThen_eq_found h
  dsimp only at h
  split at h
  · obtain ⟨rfl, rfl⟩ := Reading.found.inj h
    have hnames := (Declarator.readList_readOff hname hdeclarators).onward
      ((List.drop_suffix 1 _).trans (trailingComment?_rest_suffix between))
    rw [List.map_map]
    exact hnames.map fun d part hd ↦ ⟨d.name, hd.1, hd.2, rfl, rfl, rfl⟩
  · cases h

namespace MemberItem

private theorem typed_readOff {decls : List Member}
    (h : readDeclared.typed source final head ts = .found (members decls) rest) :
    ReadOff Member.Off ts decls rest := by
  obtain ⟨type, between, htype, h⟩ := Reading.exists_of_andThen_eq_found h
  refine .behind ?_ (((TypeText.read_grounded ts).orMalformed _).suffix_of_found htype)
  cases between with
  | nil => cases h
  | cons name more =>
    dsimp only at h
    split at h
    · rename_i hname
      have hkind : name.kind = .identifier := of_decide_eq_true hname
      split at h
      · obtain ⟨m, hitem, hmethod⟩ := Reading.exists_of_map_eq_found h
        obtain rfl := MemberItem.members.inj hitem
        exact MethodDecl.readRest_readOff hkind (List.drop_suffix _ _) hmethod
      · obtain ⟨fields, hitem, hfields⟩ := Reading.exists_of_map_eq_found h
        obtain rfl := MemberItem.members.inj hitem
        exact FieldDecl.readRest_readOff hkind hfields
    · cases h

private theorem readDeclared_readOff {decls : List Member}
    (h : readDeclared source final head ts = .found (members decls) rest) :
    ReadOff Member.Off ts decls rest := by
  unfold readDeclared at h
  split at h
  · split at h
    · rename_i name paren more hname
      have hkind : name.kind = .identifier := of_decide_eq_true (Bool.and_eq_true_iff.mp hname).1
      obtain ⟨m, hitem, hmethod⟩ := Reading.exists_of_map_eq_found h
      obtain rfl := MemberItem.members.inj hitem
      exact MethodDecl.readRest_readOff hkind (List.suffix_cons paren more) hmethod
    · exact typed_readOff h
  · exact typed_readOff h

private theorem readBehind_readOff {decls : List Member}
    (h : readBehind source final head ts = .found (members decls) rest) :
    ReadOff Member.Off ts decls rest := by
  have hsuffix := (readBehind_grounded source final head ts).suffix_of_found h
  unfold readBehind at h
  split at h
  · obtain rfl := MemberItem.members.inj (Reading.found.inj h).1
    exact .none hsuffix
  · split at h
    · obtain rfl := MemberItem.members.inj (Reading.found.inj h).1
      exact .none hsuffix
    · split at h
      · cases h
      · split at h
        · exact (readDeclared_readOff h).behind (List.drop_suffix _ _)
        · exact readDeclared_readOff h

/-- **Members are read off their names.** -/
theorem read_readOff {decls : List Member}
    (h : read source final ts = .found (members decls) rest) :
    ReadOff Member.Off ts decls rest := by
  have hsuffix := (read_grounded source final ts).suffix_of_found h
  unfold read at h
  split at h
  · obtain rfl := MemberItem.members.inj (Reading.found.inj h).1
    exact .none hsuffix
  · split at h
    · obtain rfl := MemberItem.members.inj (Reading.found.inj h).1
      exact .none hsuffix
    · obtain ⟨head, between, hprelude, hbehind⟩ := Reading.exists_of_andThen_eq_found h
      exact (readBehind_readOff hbehind).behind
        ((Prelude.read_grounded source ts).suffix_of_found hprelude)

end MemberItem

end

/-! ## Bodies of classes -/

namespace Rule

variable {p q : Parser} {decls : List Member}

private theorem classMember_readOff (h : classMember p = (.present decls, q)) :
    ReadOff Member.Off p.ahead decls q.ahead := by
  rcases classMember_cases h with ⟨rest, hread, rfl⟩ | ⟨rfl, -⟩
  · have hsuffix := (MemberItem.read_grounded _ _ _).suffix_of_found hread
    rw [Parser.ahead_settle hsuffix]
    exact MemberItem.read_readOff hread
  · have hmoved := (classMember_endsFrom p).onward
    rw [h] at hmoved
    exact .none hmoved.ahead_suffix

/-- **The members of a class are read off their names**, one behind the other. -/
theorem classBody_readOff (h : classBody p = (.present decls, q)) :
    ReadOff Member.Off p.ahead decls q.ahead := by
  induction hn : p.ahead.length using Nat.strongRecOn generalizing p decls with
  | ind n ih =>
    cases hend : endsBody p with
    | true =>
      rw [classBody, if_pos hend] at h
      obtain ⟨hdecls, rfl⟩ := Prod.mk.inj h
      obtain rfl := Outcome.present.inj hdecls
      exact .none (List.suffix_refl _)
    | false =>
      obtain ⟨first, more, r, hmember, hbody, rfl⟩ := exists_of_classBody_eq_present hend h
      have hlt := length_ahead_classMember_lt hend hmember
      exact (classMember_readOff hmember).append (ih _ (hn ▸ hlt) hbody rfl)

end Rule

end ClassSchema

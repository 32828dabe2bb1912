import ClassSchema.CommandLine.Run

/-!
# What steps do to the files

What a step of a job gives and what it does to the files does not depend on what has been printed
before. `JobM.Leads` says so for a step that goes through, whatever was printed, and `JobM.CanLead`
that it goes through for some such text. A job that is put together from steps goes through if they
all do, and has only if they all have.
-/

namespace ClassSchema.CommandLine

namespace JobM

variable {α β : Type} {x : JobM α} {f : α → JobM β} {t t' u : FileTree} {a a' : α} {b : β}

/-- On the tree `t` the step gives `a` and leaves `t'`, whatever was printed before. -/
def Leads (x : JobM α) (t : FileTree) (a : α) (t' : FileTree) : Prop :=
  ∀ out err, ∃ out' err', x.run.run ⟨t, out, err⟩ = (.ok a, ⟨t', out', err'⟩)

/-- On the tree `t` the step can give `a` and leave `t'`. -/
def CanLead (x : JobM α) (t : FileTree) (a : α) (t' : FileTree) : Prop :=
  ∃ out err out' err', x.run.run ⟨t, out, err⟩ = (.ok a, ⟨t', out', err'⟩)

theorem Leads.eq_of_canLead (h : Leads x t a u) (h' : CanLead x t a' t') : a' = a ∧ t' = u := by
  obtain ⟨out, err, _, _, hcan⟩ := h'
  obtain ⟨_, _, hleads⟩ := h out err
  cases hleads.symm.trans hcan
  exact ⟨rfl, rfl⟩

/-! ## Putting steps together -/

theorem leads_pure (a : α) (t : FileTree) : Leads (pure a) t a t := fun out err ↦ ⟨out, err, rfl⟩

theorem Leads.bind (h : Leads x t a u) (hf : Leads (f a) u b t') : Leads (x >>= f) t b t' := by
  intro out err
  obtain ⟨out', err', hrun⟩ := h out err
  obtain ⟨out'', err'', hnext⟩ := hf out' err'
  refine ⟨out'', err'', ?_⟩
  simp only [ExceptT.run_bind, StateT.run_bind, hrun]
  exact hnext

theorem CanLead.bind (h : CanLead (x >>= f) t b t') :
    ∃ a u, CanLead x t a u ∧ CanLead (f a) u b t' := by
  obtain ⟨out, err, out'', err'', hrun⟩ := h
  simp only [ExceptT.run_bind, StateT.run_bind] at hrun
  cases hx : x.run.run ⟨t, out, err⟩ with
  | mk result w =>
    rw [hx] at hrun
    cases result with
    | error halt => cases hrun
    | ok a => exact ⟨a, w.tree, ⟨out, err, w.out, w.err, hx⟩, ⟨w.out, w.err, out'', err'', hrun⟩⟩

theorem Leads.rest_of_canLead (h : Leads x t a u) (h' : CanLead (x >>= f) t b t') :
    CanLead (f a) u b t' := by
  obtain ⟨a', u', hx, hf⟩ := h'.bind
  obtain ⟨rfl, rfl⟩ := h.eq_of_canLead hx
  exact hf

theorem not_canLead_throw (halt : Halt) : ¬CanLead (throw halt : JobM α) t a t' := by
  rintro ⟨out, err, out', err', h⟩
  cases h

theorem CanLead.eq_of_pure (h : CanLead (pure a : JobM α) t a' t') : a' = a ∧ t' = t :=
  (leads_pure a t).eq_of_canLead h

/-! ## Reports -/

theorem leads_report (line : String) (t : FileTree) : Leads (report line) t () t :=
  fun out err ↦ ⟨out, err ++ line ++ "\n", rfl⟩

theorem leads_forM {γ : Type} {f : γ → JobM Unit} {items : List γ}
    (h : ∀ item ∈ items, Leads (f item) t () t) : Leads (items.forM f) t () t := by
  induction items with
  | nil => exact leads_pure () t
  | cons item items ih =>
    rw [List.forall_mem_cons] at h
    exact h.1.bind (ih h.2)

theorem leads_log (s : Settings) (notes : List Note) (t : FileTree) :
    Leads (log s notes) t () t := by
  rw [log]
  split
  · exact leads_forM fun note _ ↦ leads_report note.line t
  · exact leads_pure () t

/-! ## Files -/

variable {question : FileTree → Except FileFault α} {path : Path} {text : String}

private theorem run_get_bind (k : World → JobM α) (w : World) :
    (get >>= k).run.run w = (k w).run.run w := rfl

theorem run_ask (question : FileTree → Except FileFault α) (w : World) :
    (ask question).run.run w = ((question w.tree).mapError Halt.file, w) := by
  rw [ask, run_get_bind]
  cases question w.tree <;> rfl

theorem leads_ask (h : question t = .ok a) : Leads (ask question) t a t := by
  intro out err
  rw [run_ask, h]
  exact ⟨out, err, rfl⟩

theorem CanLead.of_ask (h : CanLead (ask question) t a t') : question t = .ok a ∧ t' = t := by
  obtain ⟨out, err, out', err', hrun⟩ := h
  rw [run_ask] at hrun
  dsimp only at hrun
  cases hanswer : question t with
  | ok answer =>
    rw [hanswer] at hrun
    cases hrun
    exact ⟨rfl, rfl⟩
  | error fault =>
    rw [hanswer] at hrun
    cases hrun

private theorem leads_change {f : FileTree → Except FileFault FileTree} (h : f t = .ok t') :
    Leads (change f) t () t' :=
  (leads_ask h).bind fun out err ↦ ⟨out, err, rfl⟩

private theorem CanLead.of_change {f : FileTree → Except FileFault FileTree}
    (h : CanLead (change f) t () t') : f t = .ok t' := by
  obtain ⟨tree, u, hask, hmodify⟩ := h.bind
  obtain ⟨hf, rfl⟩ := hask.of_ask
  obtain ⟨_, _, _, _, hrun⟩ := hmodify
  cases hrun
  exact hf

theorem leads_readText {bytes : List UInt8} (hread : t.read path = .ok bytes)
    (htext : Utf8.readText bytes = .ok text) : Leads (readText path) t text t := by
  refine (leads_ask hread).bind ?_
  rw [htext]
  exact leads_pure text t

theorem CanLead.of_readText (h : CanLead (readText path) t text t') :
    t' = t ∧ ∃ bytes, t.read path = .ok bytes ∧ Utf8.readText bytes = .ok text := by
  obtain ⟨bytes, u, hask, hmatch⟩ := CanLead.bind h
  obtain ⟨hread, rfl⟩ := hask.of_ask
  cases htext : Utf8.readText bytes with
  | ok source =>
    rw [htext] at hmatch
    obtain ⟨rfl, rfl⟩ := hmatch.eq_of_pure
    exact ⟨rfl, bytes, hread, htext⟩
  | error fault =>
    rw [htext] at hmatch
    exact absurd hmatch (not_canLead_throw _)

theorem leads_writeText (hfolder : t.ensureFolder path.parent = .ok u)
    (hwrite : u.write path (Utf8.encode text) = .ok t') : Leads (writeText path text) t () t' :=
  (leads_change hfolder).bind (leads_change hwrite)

theorem CanLead.of_writeText (h : CanLead (writeText path text) t () t') :
    ∃ u, t.ensureFolder path.parent = .ok u ∧ u.write path (Utf8.encode text) = .ok t' := by
  obtain ⟨_, u, hfolder, hwrite⟩ := CanLead.bind h
  exact ⟨u, hfolder.of_change, hwrite.of_change⟩

end JobM

end ClassSchema.CommandLine

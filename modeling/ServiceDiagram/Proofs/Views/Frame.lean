import ServiceDiagram.Proofs.Views.History

namespace ServiceDiagram

namespace Workspace

variable {w w' w'' : Workspace}

/-- What is left of a workspace by reading and calling: what is kept of accessors is only added
to. -/
structure ReadTo (w w' : Workspace) : Prop where
  models : w'.models = w.models
  registries : w'.registries = w.registries
  typeSystems : w'.typeSystems = w.typeSystems
  engines : w'.engines = w.engines
  augmented : w'.augmented = w.augmented
  hosts : w'.hosts = w.hosts
  memo : ∀ key d, w.memo.lookup key = some d → w'.memo.lookup key = some d

theorem ReadTo.refl (w : Workspace) : w.ReadTo w := ⟨rfl, rfl, rfl, rfl, rfl, rfl, fun _ _ => id⟩

theorem ReadTo.trans (first : w.ReadTo w') (later : w'.ReadTo w'') : w.ReadTo w'' where
  models := later.models.trans first.models
  registries := later.registries.trans first.registries
  typeSystems := later.typeSystems.trans first.typeSystems
  engines := later.engines.trans first.engines
  augmented := later.augmented.trans first.augmented
  hosts := later.hosts.trans first.hosts
  memo := fun key d kept => later.memo key d (first.memo key d kept)

/-- A relation between workspaces that whatever changes neither the diagram nor the views nor what is
kept of accessors stays in. -/
structure IsFrame (R : Workspace → Workspace → Prop) : Prop where
  trans : ∀ {w w' w'' : Workspace}, R w w' → R w' w'' → R w w''
  blind : ∀ {w w' : Workspace}, w'.models = w.models → w'.registries = w.registries →
    w'.typeSystems = w.typeSystems → w'.engines = w.engines → w'.augmented = w.augmented →
    w'.hosts = w.hosts → w'.memo = w.memo → R w w'

theorem IsFrame.refl {R : Workspace → Workspace → Prop} (frame : IsFrame R) (w : Workspace) :
    R w w := frame.blind rfl rfl rfl rfl rfl rfl rfl

/-- What reading leaves as it is stays so over any reading. -/
theorem isFrame_readTo : IsFrame ReadTo where
  trans := ReadTo.trans
  blind := fun models registries typeSystems engines augmented hosts memo =>
    ⟨models, registries, typeSystems, engines, augmented, hosts, fun _ _ kept => memo ▸ kept⟩

end Workspace

open Workspace

namespace Work

variable {α β : Type} {answer : Request → Work Datum}

/-- Work that leads from each workspace to one in a relation to it. -/
def Follows (R : Workspace → Workspace → Prop) (x : Work α) : Prop :=
  ∀ w : Workspace, R w (x.outcome w).2

/-- What each of two works makes of a workspace, both make of it one after the other. -/
theorem bind_of_trans {R : Workspace → Workspace → Prop}
    (trans : ∀ {w w' w'' : Workspace}, R w w' → R w' w'' → R w w'') {x : Work α} {f : α → Work β}
    (first : ∀ w, R w (x.outcome w).2) (rest : ∀ a w, R w ((f a).outcome w).2) (w : Workspace) :
    R w ((x >>= f).outcome w).2 := by
  have left := first w
  rcases came : x.outcome w with ⟨e | a, w'⟩ <;> rw [came] at left
  · rw [outcome_bind_of_error came]
    exact left
  · rw [outcome_bind_of_ok came]
    exact trans left (rest a w')

/-- Reads an attribute of a view that there is. -/
def readNode (answer : Request → Work Datum) (v : ViewRef) (n : NodeView) (name : String) :
    Work Datum :=
  match viewAttribute? v n name with
  | some work => work
  | none =>
    if name.toList.head? = some '_' then throw (.privateName name)
    else
      match n.capability? name with
      | some c =>
        match c.kind with
        | .function => return .function v c.definition
        | .accessor => accessor answer c.definition v name
      | none => nodeAttribute n.node name

theorem readView_outcome (answer : Request → Work Datum) (v : ViewRef) (name : String)
    (w : Workspace) :
    (readView answer v name).outcome w =
      match w.view? v with
      | none => (.error (.unknownClass v.classId), w)
      | some n => (readNode answer v n name).outcome w := by
  unfold readView
  rw [outcome_get]
  cases w.view? v <;> rfl

/-- To keep what an accessor comes to stays in a relation. -/
def Stores (R : Workspace → Workspace → Prop) (answer : Request → Work Datum) (d : Definition)
    (v : ViewRef) (name : String) (w : Workspace) : Prop :=
  ∀ r w', (evaluate answer d v []).outcome w = (.ok r, w') → R w w' →
    w'.memo.lookup (v, name) = none → R w { w' with memo := ((v, name), r) :: w'.memo }

section Frame

variable {R : Workspace → Workspace → Prop} (frame : IsFrame R)

include frame

/-- Steps that keep to a relation keep to it in a row. -/
theorem Follows.bind {x : Work α} {f : α → Work β} (first : x.Follows R)
    (rest : ∀ a, (f a).Follows R) : (x >>= f).Follows R :=
  bind_of_trans (R := R) frame.trans first rest

theorem follows_of_same {x : Work α} (same : ∀ w, (x.outcome w).2 = w) : x.Follows R :=
  fun w => (same w).symm ▸ frame.refl w

/-- A program keeps to whatever its answers keep to. -/
theorem follows_run (answers : ∀ request, (answer request).Follows R) (x : Program α) :
    (x.run answer).Follows R := by
  induction x with
  | done a => exact frame.refl
  | fail e => exact frame.refl
  | ask request next ih => exact fun w => frame.trans (answers request w) (ih _ _)
  | fetch cell next ih => exact fun w => ih _ w
  | keep cell n next ih =>
    intro w
    have kept : R w { w with cells := Table.put cell n w.cells } :=
      frame.blind rfl rfl rfl rfl rfl rfl rfl
    exact frame.trans kept (ih _)

theorem follows_evaluate (answers : ∀ request, (answer request).Follows R) (d : Definition)
    (v : ViewRef) (args : List Datum) : (evaluate answer d v args).Follows R := by
  intro w
  unfold evaluate
  rw [outcome_get]
  exact Follows.bind frame (follows_of_same frame fun _ => rfl)
    (fun _ => follows_run frame answers (d.body w v args)) w

/-- An accessor keeps to it if keeping its result does. -/
theorem follows_accessor (answers : ∀ request, (answer request).Follows R) {d : Definition}
    {v : ViewRef} {name : String} {w : Workspace} (stores : Stores R answer d v name w) :
    R w ((accessor answer d v name).outcome w).2 := by
  unfold accessor
  rw [outcome_get]
  cases w.memo.lookup (v, name) with
  | some result => exact frame.refl w
  | none =>
    have evaluated := follows_evaluate frame answers d v [] w
    dsimp only
    rcases came : (evaluate answer d v []).outcome w with ⟨e | r, w'⟩ <;> rw [came] at evaluated
    · rw [outcome_bind_of_error came]
      exact evaluated
    · rw [outcome_bind_of_ok came, outcome_get]
      cases unread : w'.memo.lookup (v, name) with
      | some earlier => exact evaluated
      | none => exact stores r w' came evaluated unread

theorem follows_nodeAttribute (n : Node) (name : String) : (nodeAttribute n name).Follows R := by
  intro w
  unfold nodeAttribute
  rw [outcome_get]
  split <;> exact frame.refl w

theorem follows_readNode (answers : ∀ request, (answer request).Follows R) {v : ViewRef}
    {n : NodeView} {name : String} {w : Workspace}
    (stores : ∀ c, viewAttribute? v n name = none → n.capability? name = some c →
      c.kind = .accessor → Stores R answer c.definition v name w) :
    R w ((readNode answer v n name).outcome w).2 := by
  unfold readNode
  cases own : viewAttribute? v n name with
  | some work => exact follows_of_same frame (unchanged_viewAttribute own) w
  | none =>
    dsimp only
    split
    · exact frame.refl w
    · cases granted : n.capability? name with
      | none => exact follows_nodeAttribute frame n.node name w
      | some c =>
        dsimp only
        cases kind : c.kind with
        | function => exact frame.refl w
        | accessor => exact follows_accessor frame answers (stores c own granted kind)

theorem follows_callDatum (answers : ∀ request, (answer request).Follows R) (on : Datum)
    (args : List Datum) : (callDatum answer on args).Follows R := by
  unfold callDatum
  split
  · exact follows_evaluate frame answers _ _ args
  · intro w
    rw [generate_outcome]
    exact frame.blind rfl rfl rfl rfl rfl rfl rfl
  · exact .bind frame (follows_of_same frame fun _ => rfl) fun _ =>
      follows_of_same frame fun _ => rfl
  · exact follows_of_same frame fun _ => rfl

theorem follows_dependents (model : Nat) (c : Class) (stereotype : Datum) :
    (dependents model c stereotype).Follows R := by
  intro w
  have reported (result : Except Failure Datum) : R w (result,
      { w with events := w.events ++ (w.model model).dependentEvents c }).2 :=
    frame.blind rfl rfl rfl rfl rfl rfl rfl
  cases stereotype with
  | value x => cases x <;> exact reported _
  | _ => exact reported _

/-- The induction is on how deep definitions may be inside definitions. -/
theorem follows_answer
    (stores : ∀ depth w v n name c, w.view? v = some n → viewAttribute? v n name = none →
      n.capability? name = some c → c.kind = .accessor →
      Stores R (Work.answer depth) c.definition v name w)
    (depth : Nat) (request : Request) : (Work.answer depth request).Follows R := by
  induction depth generalizing request with
  | zero => exact frame.refl
  | succ depth ih =>
    cases request with
    | read on name =>
      cases on with
      | view v =>
        intro w
        change R w ((readView (Work.answer depth) v name).outcome w).2
        rw [readView_outcome]
        cases there : w.view? v with
        | none => exact frame.refl w
        | some n => exact follows_readNode frame ih fun c => stores depth w v n name c there
      | _ =>
        intro w
        rw [outcome_read_part depth name fun _ => Datum.noConfusion]
        exact frame.refl w
    | call on args => exact follows_callDatum frame ih on args
    | dependents model c stereotype => exact follows_dependents frame model c stereotype

end Frame

/-- Work that reads and calls, and no more. -/
def OnlyReads (x : Work α) : Prop := ∀ w : Workspace, w.ReadTo (x.outcome w).2

theorem OnlyReads.bind {x : Work α} {f : α → Work β} (first : x.OnlyReads)
    (rest : ∀ a, (f a).OnlyReads) : (x >>= f).OnlyReads :=
  Follows.bind isFrame_readTo first rest

theorem onlyReads_of_same {x : Work α} (same : ∀ w, (x.outcome w).2 = w) : x.OnlyReads :=
  follows_of_same isFrame_readTo same

/-- The result of an accessor is put before what is kept, and only where nothing is kept of it. -/
theorem stores_readTo (answer : Request → Work Datum) (d : Definition) (v : ViewRef)
    (name : String) (w : Workspace) : Stores ReadTo answer d v name w := by
  intro r w' _ evaluated unread
  refine evaluated.trans ⟨rfl, rfl, rfl, rfl, rfl, rfl, fun key r' kept => ?_⟩
  have other : key ≠ (v, name) := by
    rintro rfl
    cases kept.symm.trans unread
  exact (List.lookup_cons.trans (by rw [beq_false_of_ne other])).trans kept

theorem onlyReads_accessor (answers : ∀ request, (answer request).OnlyReads) (d : Definition)
    (v : ViewRef) (name : String) : (accessor answer d v name).OnlyReads :=
  fun w => follows_accessor isFrame_readTo answers (stores_readTo answer d v name w)

/-- No answer changes anything but what is kept of accessors, the counts of samples, the cells and
the events. -/
theorem onlyReads_answer (depth : Nat) (request : Request) :
    (Work.answer depth request).OnlyReads :=
  follows_answer isFrame_readTo
    (fun depth w v _ name c _ _ _ _ => stores_readTo (Work.answer depth) c.definition v name w)
    depth request

end Work

namespace Workspace

variable {engine : Nat} {w w' : Workspace}

theorem ReadTo.later (read : w.ReadTo w') (engine : Nat) : Later engine w w' := by
  obtain ⟨models, registries, -, engines, augmented, -, -⟩ := read
  refine ⟨by rw [engines], by rw [models], by rw [Workspace.engine, engines]; rfl, fun i => ?_,
    fun i => ?_, [], by rw [augmented, List.append_nil]⟩
  · have same : w'.registry i = w.registry i := by rw [registry, registries]; rfl
    exact same ▸ .refl _
  · have same : w'.model i = w.model i := by rw [model, models]; rfl
    exact same ▸ .refl _

theorem readTo_read (w : Workspace) (on : Datum) (name : String) :
    w.ReadTo ((Act.read on name).after w) :=
  Work.onlyReads_answer Work.depthLimit (.read on name) w

/-- To call something is a kind of reading. -/
theorem readTo_call (w : Workspace) (on : Datum) (args : List Datum) :
    w.ReadTo ((Act.call on args).after w) :=
  Work.onlyReads_answer Work.depthLimit (.call on args) w

/-- The work of an engine reports, or it builds views. -/
theorem apply_cases (w : Workspace) (engine : Nat) (target : Option Nat) :
    (∃ events, (Step.apply target).after engine w = { w with events := events }) ∨
      ∃ model classes, (Step.apply target).after engine w = w.withViews engine model classes := by
  cases target with
  | none => exact .inl ⟨w.events, rfl⟩
  | some i =>
    rw [Step.after, Work.apply_outcome]
    cases Work.appliedBefore? w (w.engine engine) i with
    | some number => exact .inl ⟨_, rfl⟩
    | none =>
      cases AugmentedModel.buildClasses (w.registry (w.engine engine).registry) (w.model i) with
      | error e => exact .inl ⟨w.events, rfl⟩
      | ok classes => exact .inr ⟨i, classes, rfl⟩

section Other

variable {other : Nat} (differ : engine ≠ other)

include differ

theorem engine_withViews_of_ne (model : Nat) (classes : List ClassView) :
    (w.withViews other model classes).engine engine = w.engine engine := by
  simp only [withViews, Workspace.engine, List.getElem?_set_ne (Ne.symm differ)]

/-- A step around one engine leaves what any other keeps, and what the views of the other depend on
is only added to. -/
theorem other_step (s : Step) :
    (s.after other w).engine engine = w.engine engine ∧ Later engine w (s.after other w) := by
  cases s with
  | register i a =>
    refine ⟨?_, later_register i a⟩
    rw [Step.after, Work.register_outcome]
    cases (w.registry i).register a <;> rfl
  | addClass i c =>
    refine ⟨?_, later_addClass i c⟩
    rw [Step.after, Work.addClass_outcome]
    cases (w.model i).addClass c <;> rfl
  | apply target =>
    rcases apply_cases w other target with ⟨events, same⟩ | ⟨model, classes, same⟩ <;> rw [same]
    · exact ⟨rfl, rfl, rfl, rfl, fun _ => .refl _, fun _ => .refl _, [], (List.append_nil _).symm⟩
    · have kept := engine_withViews_of_ne (w := w) differ model classes
      exact ⟨kept, List.length_set, rfl, congrArg Engine.registry kept, fun _ => .refl _,
        fun _ => .refl _, _, rfl⟩

end Other

/-- What was built stays sound as long as the engine keeps what it kept. -/
theorem Coherent.later (coherent : Coherent engine w) (later : Later engine w w')
    (same : w'.engine engine = w.engine engine) : Coherent engine w' := by
  intro model a kept
  rw [kept?, same] at kept
  exact (coherent model a kept).later later

/-- An engine that is not there has no views that could be outdated. -/
theorem coherent_of_absent (absent : w.engines.length ≤ engine) : Coherent engine w := by
  intro model a kept
  rw [kept?, Workspace.engine, List.getElem?_eq_none absent] at kept
  cases kept

theorem length_engines_act (w : Workspace) (act : Act) :
    (act.after w).engines.length = w.engines.length := by
  cases act with
  | read on name => rw [(readTo_read w on name).engines]
  | call on args => rw [(readTo_call w on args).engines]
  | step engine s =>
    cases s with
    | register i a => exact (later_register i a : Later engine w _).engines
    | addClass i c => exact (later_addClass i c : Later engine w _).engines
    | apply target =>
      change ((Step.apply target).after engine w).engines.length = _
      rcases apply_cases w engine target with ⟨events, same⟩ | ⟨model, classes, same⟩ <;> rw [same]
      exact List.length_set

/-- Whatever is done around whatever engine, an engine keeps nothing but what has been built. -/
theorem Coherent.act (coherent : Coherent engine w) (act : Act) :
    Coherent engine (act.after w) := by
  have ofRead (read : w.ReadTo (act.after w)) : Coherent engine (act.after w) := by
    refine coherent.later (read.later engine) ?_
    rw [Workspace.engine, read.engines]
    rfl
  cases act with
  | read on name => exact ofRead (readTo_read w on name)
  | call on args => exact ofRead (readTo_call w on args)
  | step other s =>
    by_cases same : engine = other
    · subst same
      by_cases known : engine < w.engines.length
      · exact coherent.step known s
      · have length := length_engines_act w (.step engine s)
        exact coherent_of_absent (length ▸ Nat.le_of_not_lt known)
    · obtain ⟨kept, later⟩ := other_step (w := w) same s
      exact coherent.later later kept

/-- Engines stay coherent over any acts. -/
theorem Coherent.acts (coherent : Coherent engine w) (acts : List Act) :
    Coherent engine (w.afterActs acts) := by
  induction acts generalizing w with
  | nil => exact coherent
  | cons act acts ih => exact ih (coherent.act act)

end Workspace

end ServiceDiagram

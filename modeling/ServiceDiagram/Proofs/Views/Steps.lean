import ServiceDiagram.Proofs.Views.Outcome

namespace ServiceDiagram

/-- What has become of a model: classes are added to it, and nothing else happens to it. -/
structure Model.Extends (m m' : Model) : Prop where
  revision_le : m.revision ≤ m'.revision
  unchanged : m'.revision = m.revision → m'.classes = m.classes

theorem Model.Extends.refl (m : Model) : m.Extends m := ⟨Nat.le_refl _, fun _ => rfl⟩

theorem Model.Extends.trans {m m' m'' : Model} (first : m.Extends m') (later : m'.Extends m'') :
    m.Extends m'' := by
  have firstLe := first.revision_le
  have laterLe := later.revision_le
  refine ⟨by omega, fun same => ?_⟩
  exact (later.unchanged (by omega)).trans (first.unchanged (by omega))

theorem Model.addClass_revision {m m' : Model} {c : Class} (added : m.addClass c = .ok m') :
    m'.revision = m.revision + 1 := by
  unfold Model.addClass at added
  split at added
  · cases added
  · cases added
    rfl

/-- A class more extends a model and its revision. -/
theorem Model.addClass_extends {m m' : Model} {c : Class} (added : m.addClass c = .ok m') :
    m.Extends m' := by
  have revision := Model.addClass_revision added
  refine ⟨by omega, fun same => ?_⟩
  omega

/-- What is done around an engine: registrations, additions of classes, and the engine's own
work on models. -/
inductive Step where
  | register (registry : Nat) (a : Registration)
  | addClass (model : Nat) (c : Class)
  | apply (model : Option Nat)

namespace Step

/-- The workspace after a step; the engine is known by its number. -/
def after (engine : Nat) (w : Workspace) : Step → Workspace
  | register registry a => ((Work.register registry a).outcome w).2
  | addClass model c => ((Work.addClass model c).outcome w).2
  | apply model => ((Work.apply engine model).outcome w).2

/-- The step is work of the engine on a model that gives views. -/
def Gives (engine model : Nat) (w : Workspace) (s : Step) : Prop :=
  s = apply (some model) ∧
    ∃ number, ((Work.apply engine (some model)).outcome w).1 = .ok number

/-- The step changes what the views of a model depend on: it registers a capability or a conflict
that the engine's registry did not have, or adds a class to the model. -/
def Changes (engine model : Nat) (w : Workspace) (s : Step) : Prop :=
  match s with
  | register i _ => i = (w.engine engine).registry ∧
    ((w.registry i).size < ((s.after engine w).registry i).size ∨
      (w.registry i).conflicts.length < ((s.after engine w).registry i).conflicts.length)
  | addClass i c => i = model ∧ ((Work.addClass i c).outcome w).1 = .ok (.ok ())
  | apply _ => False

end Step

namespace Workspace

/-- The workspace after steps. -/
def after (engine : Nat) (w : Workspace) (steps : List Step) : Workspace :=
  steps.foldl (Step.after engine) w

/-- Something holds of one of the steps and the workspace that it is done in. -/
def Meets (engine : Nat) (event : Workspace → Step → Prop) : Workspace → List Step → Prop
  | _, [] => False
  | w, s :: later => event w s ∨ Meets engine event (s.after engine w) later

variable {engine : Nat} {w w' w'' : Workspace}

/-- What any step leaves of a workspace, as far as the views of an engine depend on it. -/
structure Later (engine : Nat) (w w' : Workspace) : Prop where
  engines : w'.engines.length = w.engines.length
  models : w'.models.length = w.models.length
  sameRegistry : (w'.engine engine).registry = (w.engine engine).registry
  registry : ∀ i, (w.registry i).Extends (w'.registry i)
  model : ∀ i, (w.model i).Extends (w'.model i)
  augmented : ∃ more, w'.augmented = w.augmented ++ more

theorem Later.refl (engine : Nat) (w : Workspace) : Later engine w w :=
  ⟨rfl, rfl, rfl, fun _ => .refl _, fun _ => .refl _, [], (List.append_nil _).symm⟩

/-- What comes later than something later comes later. -/
theorem Later.trans (first : Later engine w w') (later : Later engine w' w'') :
    Later engine w w'' := by
  obtain ⟨more, views⟩ := first.augmented
  obtain ⟨more', views'⟩ := later.augmented
  refine ⟨later.engines.trans first.engines, later.models.trans first.models,
    later.sameRegistry.trans first.sameRegistry,
    fun i => (first.registry i).trans (later.registry i),
    fun i => (first.model i).trans (later.model i), more ++ more', ?_⟩
  rw [views', views, List.append_assoc]

theorem registry_set (w : Workspace) (i : Nat) (r : Registry) (events : List Event) (j : Nat) :
    ({ w with registries := w.registries.set i r, events := events } : Workspace).registry j =
      if i = j ∧ i < w.registries.length then r else w.registry j := by
  simp only [Workspace.registry, List.getElem?_set]
  by_cases same : i = j
  · subst same
    by_cases inside : i < w.registries.length
    · simp [inside]
    · simp [inside]
  · simp [same]

theorem model_set (w : Workspace) (i : Nat) (m : Model) (j : Nat) :
    ({ w with models := w.models.set i m } : Workspace).model j =
      if i = j ∧ i < w.models.length then m else w.model j := by
  simp only [Workspace.model, List.getElem?_set]
  by_cases same : i = j
  · subst same
    by_cases inside : i < w.models.length
    · simp [inside]
    · simp [inside]
  · simp [same]

theorem engine_set (w : Workspace) {i : Nat} (known : i < w.engines.length) (e : Engine)
    (augmented : List AugmentedModel) (events : List Event) :
    ({ w with
      augmented := augmented, engines := w.engines.set i e, events := events } : Workspace).engine
        i = e := by
  simp [Workspace.engine, known]

/-- To register something comes to a later state of every engine. -/
theorem later_register (registry : Nat) (a : Registration) :
    Later engine w ((Work.register registry a).outcome w).2 := by
  rw [Work.register_outcome]
  cases registered : (w.registry registry).register a with
  | error e => exact .refl engine w
  | ok result =>
    obtain ⟨r, es⟩ := result
    refine ⟨rfl, rfl, rfl, ?_, fun _ => .refl _, [], (List.append_nil _).symm⟩
    intro i
    rw [registry_set]
    split
    · rename_i here
      exact here.1 ▸ Registry.register_extends registered
    · exact .refl _

theorem later_addClass (model : Nat) (c : Class) :
    Later engine w ((Work.addClass model c).outcome w).2 := by
  rw [Work.addClass_outcome]
  cases added : (w.model model).addClass c with
  | error e => exact .refl engine w
  | ok m =>
    refine ⟨rfl, by simp, rfl, fun _ => .refl _, ?_, [], (List.append_nil _).symm⟩
    intro i
    rw [model_set]
    split
    · rename_i here
      exact here.1 ▸ Model.addClass_extends added
    · exact .refl _

theorem later_withViews (known : engine < w.engines.length) (model : Nat)
    (classes : List ClassView) : Later engine w (w.withViews engine model classes) := by
  refine ⟨by simp [withViews], rfl, ?_, fun _ => .refl _, fun _ => .refl _, _, rfl⟩
  rw [withViews, engine_set w known]

theorem later_apply (known : engine < w.engines.length) (model : Option Nat) :
    Later engine w ((Work.apply engine model).outcome w).2 := by
  cases model with
  | none => exact .refl engine w
  | some model =>
    rw [Work.apply_outcome]
    cases Work.appliedBefore? w (w.engine engine) model with
    | some number =>
      exact ⟨rfl, rfl, rfl, fun _ => .refl _, fun _ => .refl _, [], (List.append_nil _).symm⟩
    | none =>
      cases AugmentedModel.buildClasses (w.registry (w.engine engine).registry) (w.model model) with
      | error e => exact .refl engine w
      | ok classes => exact later_withViews known model classes

/-- No step takes anything back: registries and models only grow, and views that were built stay
what they are. -/
theorem later_step (known : engine < w.engines.length) (s : Step) :
    Later engine w (s.after engine w) := by
  cases s with
  | register registry a => exact later_register registry a
  | addClass model c => exact later_addClass model c
  | apply model => exact later_apply known model

/-- Nor do steps in a row. -/
theorem later_after (known : engine < w.engines.length) (steps : List Step) :
    Later engine w (w.after engine steps) := by
  induction steps generalizing w with
  | nil => exact .refl engine w
  | cons s steps ih =>
    have first := later_step known s
    exact first.trans (ih (first.engines ▸ known))

end Workspace
end ServiceDiagram

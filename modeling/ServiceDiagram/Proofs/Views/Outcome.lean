import ServiceDiagram.Proofs.Registry.Revision
import ServiceDiagram.Views.Workspace

namespace ServiceDiagram

/-- The views that are built depend on the conflicts, on the capabilities of nodes and on the
classes alone. -/
theorem AugmentedModel.buildClasses_congr {r r' : Registry} {m m' : Model}
    (conflicts : r'.conflicts = r.conflicts)
    (capabilities : ∀ kind n, r'.capabilitiesFor kind n = r.capabilitiesFor kind n)
    (classes : m'.classes = m.classes) : buildClasses r' m' = buildClasses r m := by
  have parameter : ParameterView.build r' = ParameterView.build r := by
    funext o p
    simp only [ParameterView.build, capabilities]
  have view : ClassView.build r' = ClassView.build r := by
    funext c
    simp only [ClassView.build, capabilities, parameter]
  simp only [buildClasses, Registry.checkConflicts, conflicts, classes, view]

/-- What comes of work in a workspace, and the workspace afterwards. -/
def Work.outcome {α : Type} (x : Work α) (w : Workspace) : Except Failure α × Workspace :=
  x.run.run w

theorem Work.outcome_get {α : Type} (f : Workspace → Work α) (w : Workspace) :
    (get >>= f : Work α).outcome w = (f w).outcome w := rfl

namespace Workspace

/-- The workspace with views that an engine has just built. -/
def withViews (w : Workspace) (engine model : Nat) (classes : List ClassView) : Workspace :=
  let e := w.engine engine
  let m := w.model model
  let a : AugmentedModel := ⟨model, e.typeSystem, e.config, classes⟩
  let now : Applied := ⟨(w.registry e.registry).revision, m.revision, w.augmented.length⟩
  { w with
    augmented := w.augmented ++ [a]
    engines := w.engines.set engine { e with applied := Table.put model now e.applied }
    events := w.events ++ [.viewsBuilt m.name a.classes.length a.parameterCount] }

end Workspace

/-- What becomes of a workspace when something is registered. -/
theorem Work.register_outcome (registry : Nat) (a : Registration) (w : Workspace) :
    (Work.register registry a).outcome w =
      match (w.registry registry).register a with
      | .ok (r, es) =>
        (.ok (.ok ()), { w with registries := w.registries.set registry r, events := w.events ++ es })
      | .error e => (.ok (.error e), w) := by
  unfold Work.register
  rw [Work.outcome_get]
  cases (w.registry registry).register a <;> rfl

/-- What becomes of a workspace when a class is added to a model. -/
theorem Work.addClass_outcome (model : Nat) (c : Class) (w : Workspace) :
    (Work.addClass model c).outcome w =
      match (w.model model).addClass c with
      | .ok m => (.ok (.ok ()), { w with models := w.models.set model m })
      | .error e => (.ok (.error e), w) := by
  unfold Work.addClass
  rw [Work.outcome_get]
  cases (w.model model).addClass c <;> rfl

/-- What comes of building views: those of before if they are still current, or new ones if there is
no conflict. -/
theorem Work.apply_outcome (engine model : Nat) (w : Workspace) :
    (Work.apply engine (some model)).outcome w =
      match Work.appliedBefore? w (w.engine engine) model with
      | some number =>
        (.ok number, { w with events := w.events ++ [.viewsReused (w.model model).name] })
      | none =>
        match AugmentedModel.buildClasses (w.registry (w.engine engine).registry)
          (w.model model) with
        | .ok classes => (.ok w.augmented.length, w.withViews engine model classes)
        | .error e => (.error (.refused e), w) := by
  unfold Work.apply
  rw [Work.outcome_get]
  dsimp only
  cases Work.appliedBefore? w (w.engine engine) model with
  | some number => rfl
  | none =>
    cases AugmentedModel.buildClasses (w.registry (w.engine engine).registry) (w.model model) <;>
      rfl

end ServiceDiagram

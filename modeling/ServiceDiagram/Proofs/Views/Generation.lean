import ServiceDiagram.Proofs.Diagram.WellFormed
import ServiceDiagram.Proofs.Except
import ServiceDiagram.Proofs.Views.Evaluation
import ServiceDiagram.Proofs.Views.Steps
import ServiceDiagram.Views.Context

namespace ServiceDiagram

namespace Registry

/-- The registry of a run when the capabilities of services have been granted. -/
def withServices (config : Config) : Registry where
  table := [(.services config, Capability.ofServices)]
  conflicts := []
  revision := 4

/-- The registry of a run. -/
def ofRun (config : Config) : Registry where
  table := [(.services config, Capability.ofServices), (.parameters, Capability.ofParameters)]
  conflicts := []
  revision := 6

/-- Registering the capabilities of services fills the first scope of a registry. -/
theorem insert_services (config : Config) :
    (empty.insert (.services config) Capability.ofServices).1 = withServices config := rfl

theorem insert_parameters (config : Config) :
    ((withServices config).insert .parameters Capability.ofParameters).1 = ofRun config := rfl

theorem passes_services (config : Config) (c : Class) :
    (NodeFilter.ofStereotype config.serviceStereotype).passes (.ofClass c) =
      decide (c.stereotype = some config.serviceStereotype) := by
  have same : (Node.optionalValue c.stereotype).eqv (.text config.serviceStereotype) =
      decide (c.stereotype = some config.serviceStereotype) := by
    cases c.stereotype with
    | none => rfl
    | some s =>
      simp only [Node.optionalValue, Option.map_some, Option.getD_some, Value.eqv,
        Option.some.injEq]
      rfl
  simp only [NodeFilter.passes, NodeFilter.ofStereotype, List.all_cons, List.all_nil,
    Node.value?, Option.map_some, Option.getD_some, same, Bool.and_true]

/-- A class has the capabilities of services exactly if it has the stereotype, and no others. -/
theorem capabilitiesFor_class (config : Config) (c : Class) :
    (ofRun config).capabilitiesFor .ofClass (.ofClass c) =
      .ok (if c.stereotype = some config.serviceStereotype then Capability.ofServices else []) := by
  have passes := passes_services config c
  by_cases service : c.stereotype = some config.serviceStereotype
  · simp only [service, decide_true] at passes
    simp [capabilitiesFor, ofRun, Scope.services, Scope.parameters, passes, service]
    rfl
  · simp only [service, decide_false] at passes
    simp [capabilitiesFor, ofRun, Scope.services, Scope.parameters, passes, service]
    rfl

end Registry

/-- The view of a class in a run. -/
def ClassView.ofRun (config : Config) (c : Class) : ClassView where
  node := c
  capabilities := if c.stereotype = some config.serviceStereotype then Capability.ofServices else []
  parameters := c.parameters.map fun (o, p) => ⟨o, p, Capability.ofParameters⟩

theorem ClassView.build_ofRun (config : Config) (c : Class) :
    ClassView.build (.ofRun config) c = .ok (.ofRun config c) := by
  have parameters : (c.parameters.mapM fun (o, p) => ParameterView.build (.ofRun config) o p) =
      .ok (c.parameters.map fun (o, p) => ⟨o, p, Capability.ofParameters⟩) :=
    mapM_of_ok fun _ _ => rfl
  unfold ClassView.build
  rw [Registry.capabilitiesFor_class, parameters]
  rfl

namespace AugmentedModel

/-- The views of a run. -/
def ofRun (m : Model) (config : Config) : AugmentedModel :=
  ⟨0, 0, config, m.classes.map (ClassView.ofRun config)⟩

theorem class?_ofRun (m : Model) (config : Config) (id : String) :
    (ofRun m config).class? id = (m.class? id).map (ClassView.ofRun config) := List.find?_map ..

/-- The views of a run are those of all classes of its model. -/
theorem buildClasses_ofRun (config : Config) (m : Model) :
    buildClasses (.ofRun config) m = .ok (ofRun m config).classes :=
  mapM_of_ok fun c _ => ClassView.build_ofRun config c

end AugmentedModel

theorem Work.grant_outcome (registry : Nat) (scope : Scope) (cs : List Capability)
    (w : Workspace) :
    (Work.grant registry scope cs).outcome w =
      (.ok (), { w with
        registries := w.registries.set registry ((w.registry registry).insert scope cs).1
        events := w.events ++ ((w.registry registry).insert scope cs).2 }) := rfl

namespace Context

/-- Brings a model along and builds its views in a run of its own. -/
def augmentModel (m : Model) (config : Config) : Work Nat := do
  let i ← Work.addModel m
  let c ← make (some i) config none none
  let (_, number) ← c.augment
  return number

/-- A registry with the capabilities of services and of parameters. -/
def granted (c : Context) (r : Registry) : Registry :=
  ((r.insert (.services c.config) Capability.ofServices).1.insert .parameters
    Capability.ofParameters).1

/-- To begin a run registers what it needs. -/
theorem initStereotype_outcome (c : Context) {w : Workspace}
    (known : c.registry < w.registries.length) :
    ∃ events, c.initStereotype.outcome w =
      (.ok (), { w with
        registries := w.registries.set c.registry (c.granted (w.registry c.registry))
        events := events }) := by
  let r := w.registry c.registry
  let w' : Workspace := { w with
    registries := w.registries.set c.registry (r.insert (.services c.config) Capability.ofServices).1
    events := w.events ++ (r.insert (.services c.config) Capability.ofServices).2 }
  have first : (Work.grantServices c.registry c.config).outcome w = (.ok (), w') :=
    Work.grant_outcome ..
  have held : w'.registry c.registry = (r.insert (.services c.config) Capability.ofServices).1 := by
    rw [Workspace.registry_set, if_pos ⟨rfl, known⟩]
  have second := Work.grant_outcome c.registry .parameters Capability.ofParameters w'
  rw [held, List.set_set] at second
  have run : c.initStereotype.outcome w = _ :=
    (Work.outcome_bind_of_ok first).trans ((Work.outcome_bind_of_ok second).trans rfl)
  exact ⟨_, run⟩

theorem granted_empty (c : Context) : c.granted .empty = .ofRun c.config := by
  rw [granted, Registry.insert_services, Registry.insert_parameters]

end Context

/-- The workspace after a run. -/
def Workspace.ofRun (m : Model) (config : Config) (events : List Event) : Workspace where
  models := [m]
  registries := [.ofRun config]
  typeSystems := [.catalog (.builtin config.seed)]
  engines := [⟨0, 0, config, [(0, ⟨6, m.revision, 0⟩)]⟩]
  augmented := [.ofRun m config]
  hosts := []
  memo := []
  calls := []
  cells := []
  events := events

/-- So a run of its own always comes to views, whatever the model and the configuration. -/
theorem Context.augmentModel_outcome (m : Model) (config : Config) :
    ∃ events, (augmentModel m config).outcome .empty = (.ok 0, .ofRun m config events) := by
  let c : Context := ⟨0, config, 0, 0, none⟩
  let started : Workspace := { Workspace.empty with models := [m] }
  let w : Workspace := { started with
    registries := [.empty], typeSystems := [.catalog (.builtin config.seed)] }
  have brought : (Work.addModel m).outcome .empty = (.ok 0, started) := rfl
  have made : (make (some 0) config none none).outcome started = (.ok c, w) := rfl
  obtain ⟨events, granted⟩ := initStereotype_outcome c (w := w) Nat.one_pos
  have isNew : w.registry c.registry = .empty := rfl
  rw [isNew, granted_empty] at granted
  let w' : Workspace := { w with
    registries := [.ofRun config], engines := [⟨0, 0, config, []⟩], events := events }
  have outdated : Work.appliedBefore? w' (w'.engine 0) 0 = none := rfl
  have built : AugmentedModel.buildClasses (w'.registry (w'.engine 0).registry) (w'.model 0) =
      .ok (AugmentedModel.ofRun m config).classes := AugmentedModel.buildClasses_ofRun config m
  have applied := Work.apply_outcome 0 0 w'
  rw [outdated] at applied
  simp only [built] at applied
  have engine : c.withEngine.outcome { w with registries := [.ofRun config], events := events } =
      (.ok ({ c with engine := some 0 }, 0), w') := rfl
  have augmented : c.augment.outcome w = (.ok ({ c with engine := some 0 }, 0), _) :=
    (Work.outcome_bind_of_ok granted).trans
      ((Work.outcome_bind_of_ok engine).trans ((Work.outcome_bind_of_ok applied).trans rfl))
  have run : (augmentModel m config).outcome .empty = _ :=
    (Work.outcome_bind_of_ok brought).trans
      ((Work.outcome_bind_of_ok made).trans ((Work.outcome_bind_of_ok augmented).trans rfl))
  exact ⟨_, run⟩

end ServiceDiagram

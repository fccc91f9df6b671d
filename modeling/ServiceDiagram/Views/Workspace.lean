import ServiceDiagram.Diagram.Dependents
import ServiceDiagram.Registry.Builtin
import ServiceDiagram.Table
import ServiceDiagram.Views.AugmentedModel
import ServiceDiagram.Views.Program

namespace ServiceDiagram

/-- A definition that the host program brings along: the names of its arguments after the view,
and what it computes. -/
structure HostDefinition where
  parameters : List String
  body : ViewRef → List Datum → Program Datum

/-- The views that an engine built for a model, with the revisions of the registry and of the
model at that time. -/
structure Applied where
  registryRevision : Nat
  modelRevision : Nat
  augmented : Nat

/-- An engine builds views of models with the capabilities of one registry. -/
structure Engine where
  registry : Nat
  typeSystem : Nat
  config : Config
  applied : List (Nat × Applied)

/-- The models, registries, type systems and engines of a host program, and the augmented models
that were built from them. Each is known by the number of its place. The results of accessors are
kept for good, and so are the counts of the samples that were drawn. -/
structure Workspace where
  models : List Model
  registries : List Registry
  typeSystems : List TypeSystem
  engines : List Engine
  augmented : List AugmentedModel
  hosts : List (String × HostDefinition)
  /-- The results of accessors. -/
  memo : List ((ViewRef × String) × Datum)
  /-- How often the generator of a type was called. -/
  calls : List ((Nat × TypeKey) × Nat)
  /-- The numbers that definitions keep. -/
  cells : List (String × Nat)
  events : List Event

/-- Work in a workspace; what was done before a failure stays done. -/
abbrev Work := ExceptT Failure (StateM Workspace)

namespace Workspace

def empty : Workspace := ⟨[], [], [], [], [], [], [], [], [], []⟩

def model (w : Workspace) (i : Nat) : Model := w.models[i]?.getD (.empty "")

def registry (w : Workspace) (i : Nat) : Registry := w.registries[i]?.getD .empty

def typeSystem (w : Workspace) (i : Nat) : TypeSystem := w.typeSystems[i]?.getD (.table [])

def engine (w : Workspace) (i : Nat) : Engine := w.engines[i]?.getD ⟨0, 0, .default, []⟩

def augmentedModel (w : Workspace) (i : Nat) : AugmentedModel :=
  w.augmented[i]?.getD ⟨0, 0, .default, []⟩

/-- The view that a reference names. -/
def view? (w : Workspace) (v : ViewRef) : Option NodeView :=
  (w.augmentedModel v.augmented).view? v

end Workspace

namespace Work

def report (es : List Event) : Work Unit := modify fun w => { w with events := w.events ++ es }

/-- Does what may be refused for conflicting registrations. -/
def ofConfiguration {α : Type} (x : Except Refusal α) : Work α :=
  match x with
  | .ok a => return a
  | .error e => throw (.refused e)

def addModel (m : Model) : Work Nat := do
  let w ← get
  set { w with models := w.models ++ [m] }
  return w.models.length

def addRegistry : Work Nat := do
  let w ← get
  set { w with registries := w.registries ++ [Registry.empty] }
  return w.registries.length

def addTypeSystem (t : TypeSystem) : Work Nat := do
  let w ← get
  set { w with typeSystems := w.typeSystems ++ [t] }
  return w.typeSystems.length

/-- An engine over a registry and a type system, which must both be there. -/
def addEngine (registry typeSystem : Option Nat) (config : Config) : Work Nat :=
  match registry, typeSystem with
  | none, _ => throw (.absent "registry")
  | _, none => throw (.absent "type_system")
  | some r, some t => do
    let w ← get
    let e : Engine := ⟨r, t, config, []⟩
    set { w with engines := w.engines ++ [e] }
    return w.engines.length

/-- Adds a class to a model. -/
def addClass (model : Nat) (c : Class) : Work (Except NodeError Unit) := do
  let w ← get
  match (w.model model).addClass c with
  | .ok m =>
    set { w with models := w.models.set model m }
    return .ok ()
  | .error e => return .error e

/-- Registers capabilities. -/
def register (registry : Nat) (a : Registration) : Work (Except RegistryError Unit) := do
  let w ← get
  match (w.registry registry).register a with
  | .ok (r, es) =>
    set { w with registries := w.registries.set registry r, events := w.events ++ es }
    return .ok ()
  | .error e => return .error e

/-- Adds capabilities to a scope. -/
def grant (registry : Nat) (scope : Scope) (cs : List Capability) : Work Unit := do
  let w ← get
  let (r, es) := (w.registry registry).insert scope cs
  set { w with registries := w.registries.set registry r, events := w.events ++ es }

/-- Adds the capabilities of services. -/
def grantServices (registry : Nat) (config : Config) : Work Unit :=
  grant registry (.services config) Capability.ofServices

/-- Adds the capabilities of parameters. -/
def grantParameters (registry : Nat) : Work Unit :=
  grant registry .parameters Capability.ofParameters

/-- The views that an engine built before, if nothing has changed since. -/
def appliedBefore? (w : Workspace) (e : Engine) (model : Nat) : Option Nat :=
  match e.applied.lookup model with
  | some a =>
    if a.registryRevision = (w.registry e.registry).revision ∧
        a.modelRevision = (w.model model).revision then some a.augmented
    else none
  | none => none

/-- Builds the views of a model, or gives those built before. -/
def apply (engine : Nat) (model : Option Nat) : Work Nat :=
  match model with
  | none => throw (.absent "model")
  | some model => do
    let w ← get
    let e := w.engine engine
    let m := w.model model
    let r := w.registry e.registry
    match appliedBefore? w e model with
    | some number =>
      report [.viewsReused m.name]
      return number
    | none =>
      let classes ← ofConfiguration (AugmentedModel.buildClasses r m)
      let a : AugmentedModel := ⟨model, e.typeSystem, e.config, classes⟩
      let number := w.augmented.length
      let now : Applied := ⟨r.revision, m.revision, number⟩
      set { w with
        augmented := w.augmented ++ [a]
        engines := w.engines.set engine { e with applied := Table.put model now e.applied } }
      report [.viewsBuilt m.name a.classes.length a.parameterCount]
      return number

end Work

end ServiceDiagram

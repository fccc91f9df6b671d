import ServiceDiagram.Views.Reading

namespace ServiceDiagram

/-- Generation runs: a model with the configuration, the registry and the type system of one run.
The engine of a run is made when it is first needed. -/
structure Context where
  model : Nat
  config : Config
  registry : Nat
  typeSystem : Nat
  engine : Option Nat

namespace Context

/-- A run for a model, which must be there. Without a registry of its own it starts with an empty
one, without a type system with the catalog of the configured seed. -/
def make (model : Option Nat) (config : Config) (registry typeSystem : Option Nat) :
    Work Context :=
  match model with
  | none => throw (.absent "model")
  | some m => do
    let r ←
      match registry with
      | some r => pure r
      | none => Work.addRegistry
    let t ←
      match typeSystem with
      | some t => pure t
      | none => Work.addTypeSystem (.catalog (.builtin config.seed))
    return ⟨m, config, r, t, none⟩

/-- Registers the capabilities of services and of parameters. -/
def initStereotype (c : Context) : Work Unit := do
  Work.grantServices c.registry c.config
  Work.grantParameters c.registry
  let size := ((← get).registry c.registry).size
  Work.report [.stereotypeReady c.config.serviceStereotype size]

/-- The run with its engine. -/
def withEngine (c : Context) : Work (Context × Nat) :=
  match c.engine with
  | some e => return (c, e)
  | none => do
    let e ← Work.addEngine (some c.registry) (some c.typeSystem) c.config
    return ({ c with engine := some e }, e)

/-- Registers the capabilities and builds the views of the model. -/
def augment (c : Context) : Work (Context × Nat) := do
  c.initStereotype
  let (c, e) ← c.withEngine
  let number ← Work.apply e (some c.model)
  return (c, number)

end Context

end ServiceDiagram

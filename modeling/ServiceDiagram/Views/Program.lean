import ServiceDiagram.Views.Datum
import ServiceDiagram.Views.Failure

namespace ServiceDiagram

/-- What a program asks for. -/
inductive Request where
  | read (on : Datum) (name : String)
  | call (on : Datum) (args : List Datum)
  /-- The classes with a stereotype on which a class depends in a model as it is now. -/
  | dependents (model : Nat) (c : Class) (stereotype : Datum)

/-- What the definition of a capability computes. A program reads attributes, calls what can be
called, and may keep numbers in cells from one evaluation to the next. It meets the failure of what
it asks for and may go on from there. -/
inductive Program (α : Type) where
  | done (a : α)
  | fail (e : Failure)
  | ask (request : Request) (next : Except Failure Datum → Program α)
  | fetch (cell : String) (next : Nat → Program α)
  | keep (cell : String) (n : Nat) (next : Program α)

namespace Program

def bind {α β : Type} : Program α → (α → Program β) → Program β
  | done a, f => f a
  | fail e, _ => fail e
  | ask request next, f => ask request fun answer => (next answer).bind f
  | fetch cell next, f => fetch cell fun n => (next n).bind f
  | keep cell n next, f => keep cell n (next.bind f)

instance monad : Monad Program where
  pure := done
  bind := Program.bind

/-- Asks, and fails as the answer does. -/
def demand (request : Request) : Program Datum :=
  ask request fun answer =>
    match answer with
    | .ok d => done d
    | .error e => fail e

/-- The attribute of a datum with a name. -/
def read (on : Datum) (name : String) : Program Datum := demand (.read on name)

/-- An attribute of an attribute, and so on. -/
def path (on : Datum) : List String → Program Datum
  | [] => done on
  | name :: rest => (read on name).bind fun d => path d rest

def call (on : Datum) (args : List Datum) : Program Datum := demand (.call on args)

/-- Calls a method with one argument. -/
def callMethod (on : Datum) (name : String) (arg : Datum) : Program Datum :=
  (read on name).bind fun f => call f [arg]

/-- The parts of a datum. -/
def items (d : Datum) : Program (List Datum) :=
  match d.items? with
  | some ds => done ds
  | none => fail (.notIterable d.typeName)

/-- Counts the evaluations that come this way, from one on. -/
def count (cell : String) : Program Nat :=
  fetch cell fun n => keep cell (n + 1) (done (n + 1))

end Program

end ServiceDiagram

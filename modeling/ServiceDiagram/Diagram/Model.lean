import ServiceDiagram.Diagram.Class

namespace ServiceDiagram

/-- Models: the classes of a diagram in the order in which they were added, no two with one id. The
revision counts the classes that were added after the model was made. -/
structure Model where
  name : String
  classes : List Class
  revision : Nat
  unique : (classes.map Class.id).Nodup

namespace Model

def empty (name : String) : Model := ⟨name, [], 0, List.nodup_nil⟩

def class? (m : Model) (id : String) : Option Class := m.classes.find? fun c => c.id == id

/-- The first class with a name. -/
def findClass? (m : Model) (name : String) : Option Class :=
  m.classes.find? fun c => c.name == name

def addClass (m : Model) (c : Class) : Except NodeError Model :=
  if h : c.id ∈ m.classes.map Class.id then .error (.duplicateClass c.id)
  else
    .ok ⟨m.name, m.classes ++ [c], m.revision + 1, by
      rw [List.map_append, List.nodup_append]
      refine ⟨m.unique, by simp, ?_⟩
      intro a ha b hb
      simp only [List.map_cons, List.map_nil, List.mem_singleton] at hb
      intro same
      exact h (by rw [← hb, ← same]; exact ha)⟩

/-- A model of classes that are added one after the other. -/
def ofClasses (name : String) (classes : List Class) : Except NodeError Model :=
  classes.foldlM addClass (empty name)

/-- A model from a table of classes by id. -/
def ofTable (name : String) (table : List (String × Class)) : Except NodeError Model :=
  match table.find? fun (key, c) => key != c.id with
  | some (key, c) => .error (.keyMismatch c.id key)
  | none => (ofClasses name (table.map Prod.snd)).map fun m => { m with revision := 0 }

/-- The parameters of all classes, each with its class and its operation. -/
def parameters (m : Model) : List (Class × Operation × Parameter) :=
  m.classes.flatMap fun c => c.parameters.map fun (o, p) => (c, o, p)

end Model

end ServiceDiagram

import ServiceDiagram.Registry.Capability
import ServiceDiagram.Registry.Filter

namespace ServiceDiagram

/-- Where a capability is registered: the kind of nodes and the filter that chooses among
them. -/
structure Scope where
  kind : NodeKind
  filter : NodeFilter

namespace Scope

def eqv (s t : Scope) : Bool := s.kind == t.kind && s.filter.eqv t.filter

def display (s : Scope) : String := s.kind.label ++ " [" ++ s.filter.display ++ "]"

def isShowable (s : Scope) : Bool := s.filter.isShowable

end Scope

/-- The message for a capability that cannot be. -/
def conflictMessage (name scope reason : String) : String :=
  s!"Conflicting capability '{name}' on {scope}: {reason}"

/-- Why the capabilities that were registered do not agree. -/
inductive ConfigurationError where
  /-- A name that views use themselves. -/
  | reserved (scope : Scope) (name : String)
  /-- Two capabilities with one name in one scope. -/
  | conflict (scope : Scope) (first second : Capability)
  /-- Two capabilities with one name in different scopes that both take in a node. -/
  | overlap (kind : NodeKind) (node : Node) (name : String)

namespace ConfigurationError

def scope : ConfigurationError → String
  | reserved scope _ => scope.display
  | conflict scope _ _ => scope.display
  | overlap kind node _ => kind.label ++ " " ++ node.title

def name : ConfigurationError → String
  | reserved _ name => name
  | conflict _ first _ => first.name
  | overlap _ _ name => name

def reason : ConfigurationError → String
  | reserved _ _ => "name is taken by a view attribute"
  | conflict _ first second => first.description ++ " vs " ++ second.description
  | overlap _ _ _ => "matched by several filters with different definitions"

def message (e : ConfigurationError) : String := conflictMessage e.name e.scope e.reason

/-- Whether the scope that an error tells can be shown. -/
def isShowable : ConfigurationError → Bool
  | reserved scope _ => scope.isShowable
  | conflict scope _ _ => scope.isShowable
  | overlap _ node _ => node.isShowable

end ConfigurationError

/-- What is raised for an error of the configuration: the error itself or, if its scope cannot be
shown, that an integer is too long. -/
inductive Refusal where
  | configuration (e : ConfigurationError)
  | longInteger

namespace Refusal

def of (e : ConfigurationError) : Refusal :=
  if e.isShowable then .configuration e else .longInteger

theorem of_eq_configuration_iff {e e' : ConfigurationError} :
    of e = .configuration e' ↔ e.isShowable = true ∧ e = e' := by
  unfold of
  cases e.isShowable <;> simp

theorem of_eq_longInteger_iff {e : ConfigurationError} :
    of e = .longInteger ↔ e.isShowable = false := by
  unfold of
  cases e.isShowable <;> simp

def message : Refusal → String
  | configuration e => e.message
  | longInteger => unshowableMessage

end Refusal

inductive RegistryError where
  | notNodeKind (typeName : String)
  | notFilter (typeName : String)
  | capability (e : CapabilityError)
  | refused (r : Refusal)
  | unhashable (typeName : String)

def RegistryError.message : RegistryError → String
  | notNodeKind typeName => "node_kind must be NodeKind, got " ++ typeName
  | notFilter typeName => "node_filter must be NodeFilter, got " ++ typeName
  | capability e => e.message
  | refused r => r.message
  | unhashable typeName => s!"unhashable type: '{typeName}'"

end ServiceDiagram

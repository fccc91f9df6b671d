import ServiceDiagram.Registry.Basic

namespace ServiceDiagram

namespace Capability

def allowExternalAccess : Capability :=
  ⟨"allowExternalAccess", .allowExternalAccess, .accessor, by decide⟩

def dependentServices : Capability :=
  ⟨"dependentServices", .dependentServices, .accessor, by decide⟩

def dependentDaos : Capability := ⟨"dependentDaos", .dependentDaos, .accessor, by decide⟩

def getDependentClasses : Capability :=
  ⟨"getDependentClasses", .dependentClasses, .function, by decide⟩

def joiDefinition : Capability := ⟨"joiDefinition", .joiDefinition, .accessor, by decide⟩

def mockValue : Capability := ⟨"mockValue", .mockValue, .accessor, by decide⟩

end Capability

/-- The filter for classes with a stereotype. -/
def NodeFilter.ofStereotype (stereotype : String) : NodeFilter :=
  ⟨[("stereotype_name", .text stereotype)], by simp [Canonical]⟩

namespace Scope

/-- The classes with the service stereotype. -/
def services (config : Config) : Scope := ⟨.ofClass, .ofStereotype config.serviceStereotype⟩

/-- All parameters. -/
def parameters : Scope := ⟨.ofParameter, .all⟩

end Scope

namespace Capability

/-- The capabilities of services: whether one is open to the outside, and on which services and data
access it depends. -/
def ofServices : List Capability :=
  [allowExternalAccess, dependentServices, dependentDaos, getDependentClasses]

/-- The capabilities of parameters: a validation rule and a sample value. -/
def ofParameters : List Capability := [joiDefinition, mockValue]

end Capability

end ServiceDiagram

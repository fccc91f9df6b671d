import ServiceDiagram.Number.IntText
import ServiceDiagram.Text.Identifier
import ServiceDiagram.Text.Quoted

namespace ServiceDiagram

inductive ConfigError where
  | emptyServiceStereotype
  | emptyDaoStereotype
  | sameStereotypes (stereotype : String)
  | emptyAccessTag
  | badNamespace (name : String)
  | negativeSeed (seed : Int)
  | narrowWidth (width : Int)
  deriving DecidableEq, Repr

def ConfigError.message : ConfigError → String
  | emptyServiceStereotype => "service_stereotype must not be empty"
  | emptyDaoStereotype => "dao_stereotype must not be empty"
  | sameStereotypes stereotype =>
    "service and dao stereotypes must differ, both are " ++ Text.quoted stereotype
  | emptyAccessTag => "external_access_tag must not be empty"
  | badNamespace name => "validation_namespace must be an identifier, got " ++ Text.quoted name
  | negativeSeed seed => messageWithInt "mock_seed must be >= 0, got " seed
  | narrowWidth width => messageWithInt "width must be >= 40, got " width

/-- What the service stereotype means: which stereotypes count as services and as data access, the
tag that can close a service to the outside, the name in front of generated rules, and the seed of
sample values. -/
structure Config where
  serviceStereotype : String
  daoStereotype : String
  accessTag : String
  ruleNamespace : String
  seed : Nat
  distinct : serviceStereotype ≠ daoStereotype
  named : serviceStereotype ≠ "" ∧ daoStereotype ≠ "" ∧ accessTag ≠ ""
  identifier : Text.isIdentifier ruleNamespace = true

namespace Config

def make (serviceStereotype daoStereotype accessTag ruleNamespace : String) (seed : Int) :
    Except ConfigError Config :=
  if hs : serviceStereotype = "" then .error .emptyServiceStereotype
  else if hd : daoStereotype = "" then .error .emptyDaoStereotype
  else if same : serviceStereotype = daoStereotype then .error (.sameStereotypes serviceStereotype)
  else if ht : accessTag = "" then .error .emptyAccessTag
  else if hn : Text.isIdentifier ruleNamespace = true then
    if seed < 0 then .error (.negativeSeed seed)
    else
      .ok ⟨serviceStereotype, daoStereotype, accessTag, ruleNamespace, seed.toNat, same,
        ⟨hs, hd, ht⟩, hn⟩
  else .error (.badNamespace ruleNamespace)

/-- The defaults of the fields. -/
def default : Config :=
  ⟨"Service", "Entity", "externalAccess", "Joi", 0, by decide, by decide, by decide⟩

end Config

/-- How a report is written: the width of its lines in cells, whether it is coloured, and
whether the parameters of services are listed. -/
structure ReportConfig where
  width : Nat
  color : Bool
  showParameters : Bool
  wide : 40 ≤ width

namespace ReportConfig

def make (width : Int) (color showParameters : Bool) : Except ConfigError ReportConfig :=
  if h : 40 ≤ width then .ok ⟨width.toNat, color, showParameters, by omega⟩
  else .error (.narrowWidth width)

def default : ReportConfig := ⟨120, true, true, by decide⟩

end ReportConfig

end ServiceDiagram

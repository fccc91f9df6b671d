import ServiceDiagram.Proofs.Views.Answers
import ServiceDiagram.Report.Content

namespace ServiceDiagram

open Workspace

namespace Report

variable (m : Model) (config : Config)

/-- The row of a parameter, if its type resolves and has a sample. -/
def rowOf (c : Class) (o : Operation) (p : Parameter) : Except Failure ParameterRow :=
  match (Catalog.builtin config.seed).resolve? p.type with
  | some d => d.sampleText.map fun sample =>
      ⟨o.name, p.name, p.type.name, ruleText p d.kind d.addOn config.ruleNamespace, sample⟩
  | none => .error (.unresolvedType c.name o.name p.name p.type.name)

/-- The names of the classes with a stereotype on which a class depends. -/
def dependentNames (c : Class) (stereotype : String) : List String :=
  (m.dependents c (some stereotype)).map Class.name

def sectionOf (withParameters : Bool) (c : Class) : Except Failure ServiceSection := do
  let rows ←
    if withParameters then c.parameters.mapM fun (o, p) => rowOf config c o p
    else pure []
  return ⟨c.title, c.isOpen config.accessTag, dependentNames m c config.serviceStereotype,
    dependentNames m c config.daoStereotype, rows⟩

def servicesOf : List Class :=
  m.classes.filter fun c => c.stereotype = some config.serviceStereotype

def contentOf (withParameters : Bool) : Except Failure Content := do
  let sections ← (servicesOf m config).mapM (sectionOf m config withParameters)
  return ⟨m.name, m.classes.length, sections⟩

section Reading

variable {m : Model} {config : Config} {c : Class}

theorem settles_cellText (s : String) :
    (cellText (.text s)).Settles (IsRun m config) (.ok s) := .pure s

/-- The row of a parameter is settled by the model and the configuration. -/
theorem settles_readParameter (member : c ∈ m.classes) {i : Nat} {o : Operation} {p : Parameter}
    (place : c.parameters[i]? = some (o, p)) :
    (readParameter ⟨0, c.id, some i⟩).Settles (IsRun m config) (rowOf config c o p) := by
  have there := fun w (isRun : IsRun m config w) => isRun.view?_parameter member place
  refine (Work.settles_own there rfl).bind ?_
  refine (Work.settles_part (.operation o) nofun fun _ _ => rfl).bind ?_
  refine (settles_cellText o.name).bind ?_
  refine (Work.settles_own there rfl).bind ?_
  refine (Work.settles_part (.parameter p) nofun fun _ _ => rfl).bind ?_
  refine (settles_cellText p.name).bind ?_
  refine (Work.settles_part (.parameter p) nofun fun _ _ => rfl).bind ?_
  refine (Work.settles_part (.typeRef p.type) nofun fun _ _ => rfl).bind ?_
  refine (settles_cellText p.type.name).bind ?_
  have rule : (Work.read (.view ⟨0, c.id, some i⟩) "joiDefinition").Settles (IsRun m config) _ :=
    Model.settles_joiDefinition member place
  have sample : (Work.read (.view ⟨0, c.id, some i⟩) "mockValue").Settles (IsRun m config) _ :=
    Model.settles_mockValue member place
  unfold Model.ofType at rule sample
  unfold rowOf
  generalize (Catalog.builtin config.seed).resolve? p.type = found at rule sample
  cases found with
  | none => exact rule.bind_error
  | some d =>
    refine rule.bind ((settles_cellText _).bind ?_)
    dsimp only at sample ⊢
    cases drawn : d.sampleText with
    | error e => exact (drawn ▸ sample).bind_error
    | ok text => exact (drawn ▸ sample).bind ((settles_cellText _).bind (.pure _))

theorem settles_namesIn {role stereotype : String}
    (settles : (Work.read (.view ⟨0, c.id, none⟩) role).Settles (IsRun m config)
      (.ok (m.dependentViews c (some stereotype)))) :
    (namesIn ⟨0, c.id, none⟩ role).Settles (IsRun m config) (.ok (dependentNames m c stereotype)) := by
  have names : (classNames (m.dependentViews c (some stereotype))).Settles (IsRun m config)
      (.ok (dependentNames m c stereotype)) := by
    have each : (m.dependents c (some stereotype)).mapM (fun t => Except.ok t.name) =
        (.ok (dependentNames m c stereotype) : Except Failure (List String)) :=
      mapM_of_ok fun _ _ => rfl
    rw [← each]
    refine .mapM (List.forall₂_map_left_iff.mpr (List.forall₂_same.mpr fun t here => ?_))
    have there := fun w (isRun : IsRun m config w) => isRun.view?_class (Model.dependents_mem here)
    refine (Work.settles_own there rfl).bind ?_
    exact (Work.settles_part (.ofClass t) nofun fun _ _ => rfl).bind (.pure _)
  refine settles.bind ?_
  -- an empty row of views is not truthy, so no names are looked for
  cases few : m.dependents c (some stereotype) with
  | nil =>
    simp only [Model.dependentViews, dependentNames, few]
    exact .pure []
  | cons t ts =>
    simp only [Model.dependentViews, few] at names ⊢
    exact names

theorem settles_rows (member : c ∈ m.classes) :
    ((AugmentedModel.parameterRefs 0 (.ofRun config c)).mapM readParameter).Settles
      (IsRun m config) (c.parameters.mapM fun (o, p) => rowOf config c o p) := by
  refine .mapM (List.forall₂_iff_get.mpr ⟨?_, fun i inRefs inParameters => ?_⟩)
  · simp [AugmentedModel.parameterRefs, ClassView.ofRun]
  · have ref : (AugmentedModel.parameterRefs 0 (.ofRun config c)).get ⟨i, inRefs⟩ =
        ⟨0, c.id, some i⟩ := by
      simp [AugmentedModel.parameterRefs, ClassView.ofRun]
    rw [ref]
    exact settles_readParameter member (List.getElem?_eq_getElem inParameters)

theorem settles_readService (withParameters : Bool) (member : c ∈ m.classes)
    (service : c.stereotype = some config.serviceStereotype) :
    (readService withParameters 0 (.ofRun config c)).Settles (IsRun m config)
      (sectionOf m config withParameters c) := by
  refine (Model.settles_allowExternalAccess member service).bind ?_
  refine (settles_namesIn (Model.settles_dependentServices member service)).bind ?_
  refine (settles_namesIn (Model.settles_dependentDaos member service)).bind ?_
  cases withParameters with
  | false => exact (Work.Settles.pure []).bind (.pure _)
  | true =>
    have rows : Work.Settles (IsRun m config) _ _ := settles_rows member
    simp only [sectionOf, if_true]
    cases given : c.parameters.mapM fun (o, p) => rowOf config c o p with
    | error e => exact (given ▸ rows).bind_error
    | ok bs => exact (given ▸ rows).bind (.pure _)

/-- The classes that a report takes up are those with the service stereotype. -/
theorem withCapability_ofRun (m : Model) (config : Config) :
    (AugmentedModel.ofRun m config).withCapability "allowExternalAccess" =
      (servicesOf m config).map (.ofRun config) := by
  unfold AugmentedModel.withCapability AugmentedModel.ofRun servicesOf
  rw [List.filter_map]
  congr 1
  refine List.filter_congr fun c _ => ?_
  by_cases service : c.stereotype = some config.serviceStereotype
  · simp only [Function.comp, ClassView.ofRun, service, if_true]
    rfl
  · simp [ClassView.ofRun, service]

/-- A model and its configuration determine the content of the report on it. -/
theorem settles_read (m : Model) (config : Config) (withParameters : Bool) :
    (Report.read withParameters 0).Settles (IsRun m config)
      (contentOf m config withParameters) := by
  have sections : (((servicesOf m config).map (ClassView.ofRun config)).mapM
      (readService withParameters 0)).Settles (IsRun m config)
        ((servicesOf m config).mapM (sectionOf m config withParameters)) := by
    refine .mapM (List.forall₂_map_left_iff.mpr (List.forall₂_same.mpr fun c here => ?_))
    obtain ⟨member, service⟩ := List.mem_filter.mp here
    exact settles_readService withParameters member (of_decide_eq_true service)
  intro w isRun
  unfold Report.read contentOf
  rw [Work.outcome_get]
  dsimp only
  rw [isRun.augmentedModel, withCapability_ofRun]
  cases given : (servicesOf m config).mapM (sectionOf m config withParameters) with
  | error e => exact (given ▸ sections).bind_error w isRun
  | ok parts =>
    refine (given ▸ sections).bind ?_ w isRun
    have length : (AugmentedModel.ofRun m config).classes.length = m.classes.length :=
      List.length_map _
    have name : (w.model (AugmentedModel.ofRun m config).model).name = m.name :=
      congrArg Model.name isRun.model
    rw [length, name]
    exact .pure _

end Reading

/-- The types of all parameters of services resolve. -/
def Resolves (m : Model) (config : Config) : Prop :=
  ∀ c ∈ servicesOf m config, ∀ part ∈ c.parameters,
    ((Catalog.builtin config.seed).resolve? part.2.type).isSome

/-- A parameter of a service whose type does not resolve. -/
structure Unresolved (m : Model) (config : Config) (c : Class) (o : Operation) (p : Parameter) :
    Prop where
  service : c ∈ servicesOf m config
  parameter : (o, p) ∈ c.parameters
  unresolved : (Catalog.builtin config.seed).resolve? p.type = none

variable {m : Model} {config : Config}

/-- A type that resolves has a sample, unless it is one of the catalog and the seed is too long. -/
theorem sampleText_cases {t : TypeRef} {d : TypeDescriptor}
    (resolved : (Catalog.builtin config.seed).resolve? t = some d) :
    (∃ s, d.sampleText = .ok s) ∧ (t.kind = .primitive → config.seed < 10 ^ digitLimit) ∨
      d.sampleText = .error (.generator Catalog.seedError) ∧ t.kind = .primitive ∧
        10 ^ digitLimit ≤ config.seed := by
  unfold Catalog.resolve? at resolved
  cases kind : t.kind with
  | object =>
    rw [kind] at resolved
    cases resolved
    exact .inl ⟨⟨_, rfl⟩, nofun⟩
  | unknown =>
    rw [kind] at resolved
    cases resolved
  | primitive =>
    rw [kind] at resolved
    obtain ⟨entry, isEntry⟩ := Catalog.isEntry_of_find? resolved
    rw [TypeDescriptor.sampleText, isEntry.generator]
    rcases Nat.lt_or_ge config.seed (10 ^ digitLimit) with short | long
    · rw [Catalog.sample_of_short short]
      exact .inl ⟨⟨_, rfl⟩, fun _ => short⟩
    · rw [Catalog.sample_of_long long]
      exact .inr ⟨rfl, rfl, long⟩

/-- A row comes about, or the type does not resolve, or the seed is too long for a sample. -/
theorem rowOf_cases (config : Config) (c : Class) (o : Operation) (p : Parameter) :
    ((Catalog.builtin config.seed).resolve? p.type).isSome ∧ (∃ row, rowOf config c o p = .ok row) ∨
      (Catalog.builtin config.seed).resolve? p.type = none ∧
        rowOf config c o p = .error (.unresolvedType c.name o.name p.name p.type.name) ∨
      10 ^ digitLimit ≤ config.seed ∧
        rowOf config c o p = .error (.generator Catalog.seedError) := by
  unfold rowOf
  cases resolved : (Catalog.builtin config.seed).resolve? p.type with
  | none => exact .inr (.inl ⟨rfl, rfl⟩)
  | some d =>
    rcases sampleText_cases resolved with ⟨⟨s, drawn⟩, -⟩ | ⟨failed, -, long⟩
    · exact .inl ⟨rfl, _, congrArg (Except.map _) drawn⟩
    · exact .inr (.inr ⟨long, congrArg (Except.map _) failed⟩)

/-- A section comes about, or it breaks off for one of these reasons. -/
theorem sectionOf_cases {c : Class} (service : c ∈ servicesOf m config) :
    (∃ part, sectionOf m config true c = .ok part) ∧
      (∀ part ∈ c.parameters, ((Catalog.builtin config.seed).resolve? part.2.type).isSome) ∨
    (∃ o p, Unresolved m config c o p ∧
      sectionOf m config true c = .error (.unresolvedType c.name o.name p.name p.type.name)) ∨
    10 ^ digitLimit ≤ config.seed ∧
      sectionOf m config true c = .error (.generator Catalog.seedError) := by
  simp only [sectionOf, if_true]
  rcases mapM_cases (fun (o, p) => rowOf config c o p) c.parameters with
    ⟨rows, given, each⟩ | ⟨⟨o, p⟩, here, e, failed, given⟩
  · rw [given]
    refine .inl ⟨⟨_, rfl⟩, fun (o, p) here => ?_⟩
    obtain ⟨row, isRow⟩ := each (o, p) here
    rcases rowOf_cases config c o p with ⟨resolved, -⟩ | ⟨-, failed⟩ | ⟨-, failed⟩
    · exact resolved
    · cases isRow.symm.trans failed
    · cases isRow.symm.trans failed
  · rw [given]
    rcases rowOf_cases config c o p with ⟨-, row, isRow⟩ | ⟨unresolved, failed'⟩ | ⟨long, failed'⟩
    · cases failed.symm.trans isRow
    · cases failed.symm.trans failed'
      exact .inr (.inl ⟨o, p, ⟨service, here, unresolved⟩, rfl⟩)
    · cases failed.symm.trans failed'
      exact .inr (.inr ⟨long, rfl⟩)

/-- The report on a run breaks off only if the type of a parameter of a service does not resolve, and
tells such a parameter, or if the seed is too long for a sample. -/
theorem contentOf_cases (m : Model) (config : Config) :
    (∃ content, contentOf m config true = .ok content) ∧ Resolves m config ∨
    (∃ c o p, Unresolved m config c o p ∧
      contentOf m config true = .error (.unresolvedType c.name o.name p.name p.type.name)) ∨
    10 ^ digitLimit ≤ config.seed ∧
      contentOf m config true = .error (.generator Catalog.seedError) := by
  unfold contentOf
  rcases mapM_cases (sectionOf m config true) (servicesOf m config) with
    ⟨sections, given, each⟩ | ⟨c, service, e, failed, given⟩
  · rw [given]
    refine .inl ⟨⟨_, rfl⟩, fun c service => ?_⟩
    obtain ⟨part, isPart⟩ := each c service
    rcases sectionOf_cases service with ⟨-, resolve⟩ | ⟨o, p, -, failed⟩ | ⟨-, failed⟩
    · exact resolve
    · cases isPart.symm.trans failed
    · cases isPart.symm.trans failed
  · rw [given]
    rcases sectionOf_cases service with
      ⟨⟨part, isPart⟩, -⟩ | ⟨o, p, unresolved, failed'⟩ | ⟨long, failed'⟩
    · cases failed.symm.trans isPart
    · cases failed.symm.trans failed'
      exact .inr (.inl ⟨c, o, p, unresolved, rfl⟩)
    · cases failed.symm.trans failed'
      exact .inr (.inr ⟨long, rfl⟩)

end Report

/-- The text of the report is what the renderer makes of this content. -/
theorem Work.settles_reportText (render : Report.Renderer) (m : Model) (config : Config)
    (console : ReportConfig) :
    (Work.reportText render console 0).Settles (IsRun m config)
      ((Report.contentOf m config console.showParameters).map (render console)) := by
  have content := Report.settles_read m config console.showParameters
  cases given : Report.contentOf m config console.showParameters with
  | error e => exact (given ▸ content).bind_error
  | ok c => exact (given ▸ content).bind (.pure _)

end ServiceDiagram

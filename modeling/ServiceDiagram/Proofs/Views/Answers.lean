import ServiceDiagram.Proofs.Types.Passing
import ServiceDiagram.Proofs.Views.Additions
import ServiceDiagram.Proofs.Views.Rules

namespace ServiceDiagram

/-- Wherever something holds of the workspace, the work comes to a result, and it still holds. -/
def Work.Settles {α : Type} (P : Workspace → Prop) (x : Work α) (r : Except Failure α) : Prop :=
  ∀ w, P w → ∃ w', P w' ∧ x.outcome w = (r, w')

namespace Work.Settles

variable {α β : Type} {P : Workspace → Prop} {x : Work α} {f : α → Work β}

theorem of_unchanged {r : Except Failure α} (same : ∀ w, P w → x.outcome w = (r, w)) :
    Settles P x r :=
  fun w holds => ⟨w, holds, same w holds⟩

theorem pure (a : α) : Settles P (Pure.pure a : Work α) (.ok a) := of_unchanged fun _ _ => rfl

theorem bind {a : α} {r : Except Failure β} (first : Settles P x (.ok a))
    (rest : Settles P (f a) r) : Settles P (x >>= f) r := by
  intro w holds
  obtain ⟨w', holds', came⟩ := first w holds
  obtain ⟨w'', holds'', came'⟩ := rest w' holds'
  exact ⟨w'', holds'', (outcome_bind_of_ok came).trans came'⟩

/-- Work that fails settles what would follow it. -/
theorem bind_error {e : Failure} (failed : Settles P x (.error e)) :
    Settles P (x >>= f) (.error e) := by
  intro w holds
  obtain ⟨w', holds', came⟩ := failed w holds
  exact ⟨w', holds', outcome_bind_of_error came⟩

/-- A list is settled if every item of it is. -/
theorem mapM {γ : Type} {f : α → Work β} {g : γ → Except Failure β} {as : List α} {cs : List γ}
    (each : List.Forall₂ (fun a c => Settles P (f a) (g c)) as cs) :
    Settles P (as.mapM f) (cs.mapM g) := by
  induction each with
  | nil => exact pure []
  | @cons a c as cs first _ later =>
    rw [List.mapM_cons, List.mapM_cons]
    cases given : g c with
    | error e => exact bind_error (given ▸ first)
    | ok b =>
      refine bind (given ▸ first) ?_
      cases rest : cs.mapM g with
      | error e => exact bind_error (rest ▸ later)
      | ok bs => exact bind (rest ▸ later) (pure _)

end Work.Settles

def Class.isOpen (c : Class) (tag : String) : Bool := if c.hasTag tag then c.isTaggedAs tag else true

/-- What a generator gave, as the text of a sample. -/
def writtenSample : Except GeneratorError Value → Except Failure Datum
  | .error e => .error (.generator e)
  | .ok v =>
    match Json.printSorted? v with
    | some s => .ok (.text s)
    | none => .error (.notSerializable Value.foreign.typeName)

/-- The sample of a type as it is written, unless its generator fails. -/
def TypeDescriptor.sampleText (d : TypeDescriptor) : Except Failure String :=
  match d.generator 0 with
  | .error e => .error (.generator e)
  | .ok v => .ok ((Json.printSorted? v).getD "")

/-- A type gives the same at every call, and if that is a sample, it can be written. -/
theorem Catalog.writtenSample_of_resolve? {seed : Nat} {t : TypeRef} {d : TypeDescriptor}
    (resolved : (builtin seed).resolve? t = some d) (call : Nat) :
    writtenSample (d.generator call) = d.sampleText.map .text := by
  rcases resolve?_builtin resolved with rfl | ⟨entry, isEntry⟩
  · simp [writtenSample, TypeDescriptor.sampleText, TypeDescriptor.object, Json.printSorted?,
      Json.sorted, Json.sortedEntries, Json.print?, Json.printEntries?, Except.map]
  · rw [TypeDescriptor.sampleText, isEntry.generator]
    rcases Nat.lt_or_ge seed (10 ^ digitLimit) with short | long
    · have gives : entry.sampler.Gives _ :=
        Sampler.gives_run Twister.source_inRange entry.sampler
          (Twister.ofText (intText seed ++ ":" ++ Text.lowercase t.name))
      obtain ⟨s, printed, -⟩ := gives.fits.atom.readsAs
      rw [sample_of_short short]
      simp only [writtenSample, Twister.runSeeded, printed, Option.getD_some, Except.map]
    · rw [sample_of_long long]
      rfl

namespace Model

variable (m : Model) (config : Config)

def serviceAnswers (c : Class) : List (String × Datum) :=
  [("allowExternalAccess", .bool (c.isOpen config.accessTag)),
   ("dependentServices", m.dependentViews c (some config.serviceStereotype)),
   ("dependentDaos", m.dependentViews c (some config.daoStereotype))]

def parameterAnswer? (p : Parameter) (d : TypeDescriptor) : String → Option Datum
  | "joiDefinition" => some (.text (ruleText p d.kind d.addOn config.ruleNamespace))
  | "mockValue" => d.sampleText.toOption.map .text
  | _ => none

/-- What a view of a run answers, if it does. -/
def answer? (v : ViewRef) (name : String) : Option Datum :=
  (m.class? v.classId).bind fun c =>
    match v.parameter with
    | none => (m.serviceAnswers config c).lookup name
    | some i => (c.parameters[i]?).bind fun (_, p) =>
      ((Catalog.builtin config.seed).resolve? p.type).bind fun d =>
        parameterAnswer? config p d name

end Model

/-- A workspace as a run leaves it, with whatever has been read since. -/
structure Workspace.IsRun (m : Model) (config : Config) (w : Workspace) : Prop where
  models : w.models = [m]
  typeSystems : w.typeSystems = [.catalog (.builtin config.seed)]
  augmented : w.augmented = [.ofRun m config]
  memo : ∀ v name d, w.memo.lookup (v, name) = some d → m.answer? config v name = some d

namespace Workspace.IsRun

variable {m : Model} {config : Config} {w w' : Workspace}

theorem of_same (isRun : IsRun m config w) (models : w'.models = w.models)
    (typeSystems : w'.typeSystems = w.typeSystems) (augmented : w'.augmented = w.augmented)
    (memo : w'.memo = w.memo) : IsRun m config w' where
  models := models.trans isRun.models
  typeSystems := typeSystems.trans isRun.typeSystems
  augmented := augmented.trans isRun.augmented
  memo := memo ▸ isRun.memo

theorem ofRun (m : Model) (config : Config) (events : List Event) :
    IsRun m config (.ofRun m config events) := ⟨rfl, rfl, rfl, nofun⟩

theorem model (isRun : IsRun m config w) : w.model 0 = m := by
  simp [Workspace.model, isRun.models]

theorem typeSystem (isRun : IsRun m config w) :
    w.typeSystem 0 = .catalog (.builtin config.seed) := by
  simp [Workspace.typeSystem, isRun.typeSystems]

theorem augmentedModel (isRun : IsRun m config w) : w.augmentedModel 0 = .ofRun m config := by
  simp [Workspace.augmentedModel, isRun.augmented]

/-- In a run the view of a class is the one that was built for it. -/
theorem view?_class (isRun : IsRun m config w) {c : Class} (member : c ∈ m.classes) :
    w.view? ⟨0, c.id, none⟩ = some (.ofClass (.ofRun config c)) := by
  simp only [Workspace.view?, isRun.augmentedModel, AugmentedModel.view?,
    AugmentedModel.class?_ofRun, Model.class?_of_mem member, Option.map_some]

theorem view?_parameter (isRun : IsRun m config w) {c : Class} (member : c ∈ m.classes) {i : Nat}
    {o : Operation} {p : Parameter} (place : c.parameters[i]? = some (o, p)) :
    w.view? ⟨0, c.id, some i⟩ = some (.ofParameter c ⟨o, p, Capability.ofParameters⟩) := by
  simp only [Workspace.view?, isRun.augmentedModel, AugmentedModel.view?,
    AugmentedModel.class?_ofRun, Model.class?_of_mem member, Option.map_some, ClassView.ofRun,
    List.getElem?_map, place]

/-- The types of parameters are those of the catalog of the configured seed. -/
theorem resolve? (isRun : IsRun m config w) (t : TypeRef) :
    (w.typeSystem (w.augmentedModel 0).typeSystem).resolve? t =
      (Catalog.builtin config.seed).resolve? t := by
  rw [isRun.augmentedModel]
  change (w.typeSystem 0).resolve? t = _
  rw [isRun.typeSystem]
  rfl

theorem classView (isRun : IsRun m config w) {c : Class} (member : c ∈ m.classes) :
    Datum.classView w 0 (.text c.id) = .ok (.view ⟨0, c.id, none⟩) := by
  simp only [Datum.classView, isRun.augmentedModel, AugmentedModel.class?_ofRun,
    Model.class?_of_mem member, Option.map_some]
  rfl

end Workspace.IsRun

open Workspace

section Accessors

variable {m : Model} {config : Config}

/-- An accessor settles as its definition does: what is kept of it is what it comes to. -/
theorem Work.settles_accessor {v : ViewRef} {n : NodeView} {c : Capability}
    {result : Except Failure Datum} (there : ∀ w, IsRun m config w → w.view? v = some n)
    (notOwn : Work.viewAttribute? v n c.name = none)
    (granted : n.capability? c.name = some c) (isAccessor : c.kind = .accessor)
    (alone : ∀ w, c.definition.parameters w = [])
    (answers : m.answer? config v c.name = result.toOption)
    (evaluates : ∀ w, IsRun m config w → ∃ w', IsRun m config w' ∧
      ((c.definition.body w v []).run (Work.answer 399)).outcome w = (result, w')) :
    (Work.read (.view v) c.name).Settles (IsRun m config) result := by
  intro w isRun
  have read := Work.read_capability 399 (there w isRun) notOwn granted
  rw [isAccessor] at read
  rw [Work.read, Work.depthLimit, read]
  unfold Work.accessor
  rw [Work.outcome_get]
  -- what is kept before the read, and what an evaluation keeps meanwhile, is the answer of a run
  cases kept : w.memo.lookup (v, c.name) with
  | some d =>
    have same : result.toOption = some d := answers.symm.trans (isRun.memo v c.name d kept)
    cases result with
    | error e => cases same
    | ok r =>
      cases same
      exact ⟨w, isRun, rfl⟩
  | none =>
    obtain ⟨w', isRun', run⟩ := evaluates w isRun
    have evaluated : (Work.evaluate (Work.answer 399) c.definition v []).outcome w =
        (result, w') :=
      (Work.evaluate_outcome (congrArg List.length (alone w).symm)).trans run
    cases result with
    | error e => exact ⟨w', isRun', Work.outcome_bind_of_error evaluated⟩
    | ok r =>
      dsimp only
      rw [Work.outcome_bind_of_ok evaluated, Work.outcome_get]
      cases kept' : w'.memo.lookup (v, c.name) with
      | some d =>
        cases answers.symm.trans (isRun'.memo v c.name d kept')
        exact ⟨w', isRun', rfl⟩
      | none =>
        let keeping : Workspace := { w' with memo := ((v, c.name), r) :: w'.memo }
        refine ⟨keeping, ⟨isRun'.models, isRun'.typeSystems, isRun'.augmented, ?_⟩, rfl⟩
        intro u name d found
        rw [List.lookup_cons] at found
        split at found
        · rename_i here
          cases beq_iff_eq.mp here
          cases found
          exact answers
        · exact isRun'.memo u name d found

theorem Work.settles_part (on : Datum) {d : Datum} {name : String} (noView : ∀ v, on ≠ .view v)
    (part : ∀ w, IsRun m config w → on.attribute? w name = some d) :
    (Work.read on name).Settles (IsRun m config) (.ok d) :=
  .of_unchanged fun w isRun => Work.read_part 399 noView (part w isRun)

theorem Work.settles_own {v : ViewRef} {n : NodeView} {name : String} {d : Datum}
    (there : ∀ w, IsRun m config w → w.view? v = some n)
    (own : Work.viewAttribute? v n name = some (pure d)) :
    (Work.read (.view v) name).Settles (IsRun m config) (.ok d) :=
  .of_unchanged fun w isRun => by
    rw [Work.read, Work.depthLimit, Work.read_own 399 name (there w isRun) own]
    rfl

end Accessors

theorem Program.outcome_classMethod (depth : Nat) {w : Workspace} {c : Class} {name : String}
    {method : Method} (has : (Datum.ofClass c).attribute? w name = some (.method (.ofClass c) method))
    (one : method.parameters.length = 1) (arg : Datum) :
    ((callMethod (.ofClass c) name arg).run (Work.answer (depth + 1))).outcome w =
      (.ok (Datum.answerClass c method arg), w) := by
  have found : ((read (.ofClass c) name).run (Work.answer (depth + 1))).outcome w =
      (.ok (.method (.ofClass c) method), w) := read_part depth nofun has
  have checked : Work.checkArity (method.owner ++ "." ++ method.name) 1 method.parameters =
      .ok () := by
    simp [Work.checkArity, one]
  rw [callMethod, outcome_bind_of_ok found, call, run_demand]
  change (Work.ofExcept (Work.checkArity _ 1 _) >>= _ : Work Datum).outcome w = _
  rw [checked]
  rfl

theorem allowExternalAccess_outcome (depth : Nat) {w : Workspace} {v : ViewRef} {c : ClassView}
    (there : w.view? v = some (.ofClass c)) :
    ((allowExternalAccess v).run (Work.answer (depth + 1))).outcome w =
      (.ok (.bool (c.node.isOpen (w.augmentedModel v.augmented).config.accessTag)), w) := by
  generalize isTag : (w.augmentedModel v.augmented).config.accessTag = tag
  have configured := Program.path_config depth "external_access_tag" there (d := .text tag)
    (isTag ▸ rfl)
  have node := Program.read_own depth "class_" there rfl
  have tagged : ((Program.callMethod (.ofClass c.node) "has_tag" (.text tag)).run
      (Work.answer (depth + 1))).outcome w =
        (.ok (Datum.answerClass c.node .hasTag (.text tag)), w) :=
    Program.outcome_classMethod depth rfl rfl (.text tag)
  have closed : ((Program.callMethod (.ofClass c.node) "is_tagged_as" (.text tag)).run
      (Work.answer (depth + 1))).outcome w =
        (.ok (Datum.answerClass c.node .isTaggedAs (.text tag)), w) :=
    Program.outcome_classMethod depth rfl rfl (.text tag)
  refine (Program.outcome_bind_of_ok configured).trans ?_
  refine (Program.outcome_bind_of_ok node).trans ?_
  refine (Program.outcome_bind_of_ok tagged).trans ?_
  have truth : (Datum.answerClass c.node .hasTag (.text tag)).isTruthy = c.node.hasTag tag := rfl
  rw [Class.isOpen]
  by_cases has : c.node.hasTag tag = true
  · rw [if_pos (truth.trans has), if_pos has]
    exact (Program.outcome_bind_of_ok node).trans closed
  · rw [if_neg (truth ▸ has), if_neg has]
    rfl

theorem Work.descriptor_unresolved (owner : Class) {w : Workspace} {v : ViewRef} {p : ParameterView}
    (unresolved : (w.typeSystem (w.augmentedModel v.augmented).typeSystem).resolve?
      p.parameter.type = none) :
    (Work.descriptor v owner p).outcome w =
      (.error (.unresolvedType owner.name p.operation.name p.parameter.name p.parameter.type.name),
        w) := by
  unfold Work.descriptor
  rw [Work.outcome_get]
  simp only [unresolved]
  rfl

section Sample

variable (depth : Nat) {w : Workspace} {v : ViewRef} {owner : Class} {p : ParameterView}

/-- The sample of a parameter whose type resolves. The type counts that its generator was called. -/
theorem mockValue_outcome {d : TypeDescriptor} (there : w.view? v = some (.ofParameter owner p))
    (resolved : (w.typeSystem (w.augmentedModel v.augmented).typeSystem).resolve? p.parameter.type =
      some d) :
    ∃ system key, ((mockValue v).run (Work.answer (depth + 1))).outcome w =
      (writtenSample (d.generator (w.drawn system key)), w.afterDraw system key) := by
  obtain ⟨system, key, described⟩ := Work.descriptor_outcome owner resolved
  have descriptor : ((Program.read (.view v) "descriptor").run (Work.answer (depth + 1))).outcome w =
      (.ok (.descriptor system key d), w) := by
    rw [Program.read, Program.run_demand, Work.read_own depth "descriptor" there rfl]
    exact described
  have generator : ((Program.read (.descriptor system key d) "mock_generator").run
      (Work.answer (depth + 1))).outcome w =
        (.ok (.method (.descriptor system key d) .generate), w) :=
    Program.read_part depth (fun _ => Datum.noConfusion) rfl
  have path : ((Program.path (.view v) ["descriptor", "mock_generator"]).run
      (Work.answer (depth + 1))).outcome w =
        (.ok (.method (.descriptor system key d) .generate), w) :=
    (Program.outcome_bind_of_ok descriptor).trans (Program.outcome_bind_of_ok generator)
  have called : ((Program.call (.method (.descriptor system key d) .generate) []).run
      (Work.answer (depth + 1))).outcome w =
        (((d.generator (w.drawn system key)).map Datum.value).mapError Failure.generator,
          w.afterDraw system key) := by
    rw [Program.call, Program.run_demand]
    exact Work.generate_outcome system key d w
  refine ⟨system, key, (Program.outcome_bind_of_ok path).trans ?_⟩
  cases given : d.generator (w.drawn system key) with
  | error e =>
    rw [given] at called
    exact Program.outcome_bind_of_error called
  | ok value =>
    rw [given] at called
    refine (Program.outcome_bind_of_ok called).trans ?_
    dsimp only [writtenSample]
    cases Json.printSorted? value <;> rfl

variable (there : w.view? v = some (.ofParameter owner p))
  (unresolved : (w.typeSystem (w.augmentedModel v.augmented).typeSystem).resolve?
    p.parameter.type = none)

include there unresolved

/-- A parameter whose type does not resolve has no type to show, and tells where it stands. -/
theorem descriptor_unresolved :
    ((Program.read (.view v) "descriptor").run (Work.answer (depth + 1))).outcome w =
      (.error (.unresolvedType owner.name p.operation.name p.parameter.name p.parameter.type.name),
        w) := by
  rw [Program.read, Program.run_demand, Work.read_own depth "descriptor" there rfl]
  exact Work.descriptor_unresolved owner unresolved

theorem joiDefinition_unresolved :
    ((joiDefinition v).run (Work.answer (depth + 1))).outcome w =
      (.error (.unresolvedType owner.name p.operation.name p.parameter.name p.parameter.type.name),
        w) := by
  have parameter := Program.read_own depth "parameter" there rfl
  refine (Program.outcome_bind_of_ok parameter).trans ?_
  exact Program.outcome_bind_of_error (descriptor_unresolved depth there unresolved)

theorem mockValue_unresolved :
    ((mockValue v).run (Work.answer (depth + 1))).outcome w =
      (.error (.unresolvedType owner.name p.operation.name p.parameter.name p.parameter.type.name),
        w) := by
  refine Program.outcome_bind_of_error ?_
  exact Program.outcome_bind_of_error (descriptor_unresolved depth there unresolved)

end Sample

namespace Model

variable {m : Model} {config : Config} {c : Class} (member : c ∈ m.classes)

include member in
theorem answer?_class (name : String) :
    m.answer? config ⟨0, c.id, none⟩ name = (m.serviceAnswers config c).lookup name := by
  simp only [answer?, class?_of_mem member, Option.bind_some]

include member in
theorem answer?_parameter {i : Nat} {o : Operation} {p : Parameter}
    (place : c.parameters[i]? = some (o, p)) (name : String) :
    m.answer? config ⟨0, c.id, some i⟩ name =
      ((Catalog.builtin config.seed).resolve? p.type).bind fun d =>
        parameterAnswer? config p d name := by
  simp only [answer?, class?_of_mem member, Option.bind_some, place]

section Service

variable (service : c.stereotype = some config.serviceStereotype)

include member service

/-- Whether a service is open is settled by its tags and the configuration. -/
theorem settles_allowExternalAccess :
    (Work.read (.view ⟨0, c.id, none⟩) "allowExternalAccess").Settles (IsRun m config)
      (.ok (.bool (c.isOpen config.accessTag))) := by
  refine Work.settles_accessor (c := .allowExternalAccess)
    (fun w isRun => isRun.view?_class member) rfl
    (DependentRead.capability?_of_service _ (if_pos service) rfl) rfl (fun _ => rfl)
    (answer?_class member _) fun w isRun => ?_
  have run := allowExternalAccess_outcome 398 (isRun.view?_class member)
  rw [isRun.augmentedModel] at run
  exact ⟨w, isRun, run⟩

theorem dependentsByRole_run {w : Workspace} (isRun : IsRun m config w) {role stereotype : String}
    (isRole : (Datum.config config).attribute? w role = some (.text stereotype)) :
    ∃ w', IsRun m config w' ∧
      ((dependentsByRole ⟨0, c.id, none⟩ role).run (Work.answer 399)).outcome w =
        (.ok (m.dependentViews c (some stereotype)), w') := by
  have there := isRun.view?_class member
  have function : (NodeView.ofClass (.ofRun config c)).capability? "getDependentClasses" = _ :=
    DependentRead.capability?_of_service .getDependentClasses (if_pos service) rfl
  have configured : (Datum.config (w.augmentedModel 0).config).attribute? w role =
      some (.text stereotype) := by
    rw [isRun.augmentedModel]
    exact isRole
  have asked := dependentsByRole_outcome 398 there function configured
  have followed := dependentClasses_outcome 397 there (some stereotype)
  have views : (m.dependents c (some stereotype)).mapM (fun t => Datum.classView w 0 (.text t.id)) =
      _ := mapM_of_ok fun t here => isRun.classView (dependents_mem here)
  dsimp only at followed
  rw [isRun.augmentedModel] at followed
  change _ = ((((w.model 0).dependents c (some stereotype)).mapM fun t =>
    Datum.classView w 0 (.text t.id)).map Datum.tuple, _) at followed
  rw [isRun.model, views] at followed
  refine ⟨_, ?_, asked.trans followed⟩
  exact isRun.of_same rfl rfl rfl rfl

/-- Which services a service depends on is settled by the model. -/
theorem settles_dependentServices :
    (Work.read (.view ⟨0, c.id, none⟩) "dependentServices").Settles (IsRun m config)
      (.ok (m.dependentViews c (some config.serviceStereotype))) := by
  exact Work.settles_accessor (c := .dependentServices)
    (fun w isRun => isRun.view?_class member) rfl
    (DependentRead.capability?_of_service _ (if_pos service) rfl) rfl (fun _ => rfl)
    (answer?_class member _) fun w isRun => dependentsByRole_run member service isRun rfl

theorem settles_dependentDaos :
    (Work.read (.view ⟨0, c.id, none⟩) "dependentDaos").Settles (IsRun m config)
      (.ok (m.dependentViews c (some config.daoStereotype))) := by
  exact Work.settles_accessor (c := .dependentDaos)
    (fun w isRun => isRun.view?_class member) rfl
    (DependentRead.capability?_of_service _ (if_pos service) rfl) rfl (fun _ => rfl)
    (answer?_class member _) fun w isRun => dependentsByRole_run member service isRun rfl

end Service

section Parameters

variable {i : Nat} {o : Operation} {p : Parameter} (place : c.parameters[i]? = some (o, p))

/-- What a parameter comes to that needs its type. -/
def ofType (config : Config) (c : Class) (o : Operation) (p : Parameter)
    (f : TypeDescriptor → Except Failure String) : Except Failure String :=
  match (Catalog.builtin config.seed).resolve? p.type with
  | some d => f d
  | none => .error (.unresolvedType c.name o.name p.name p.type.name)

include member place

/-- The rule of a parameter is that of the type which it resolves to. -/
theorem settles_joiDefinition :
    (Work.read (.view ⟨0, c.id, some i⟩) "joiDefinition").Settles (IsRun m config)
      ((ofType config c o p fun d => .ok (ruleText p d.kind d.addOn config.ruleNamespace)).map
        .text) := by
  refine Work.settles_accessor (c := .joiDefinition)
    (fun w isRun => isRun.view?_parameter member place) rfl rfl rfl (fun _ => rfl) ?_
    fun w isRun => ?_
  · rw [answer?_parameter member place, ofType]
    cases (Catalog.builtin config.seed).resolve? p.type <;> rfl
  · have there := isRun.view?_parameter member place
    have types := isRun.resolve? p.type
    unfold ofType
    cases resolved : (Catalog.builtin config.seed).resolve? p.type with
    | none => exact ⟨w, isRun, joiDefinition_unresolved 398 there (types.trans resolved)⟩
    | some d =>
      have run := joiDefinition_outcome 398 there (types.trans resolved)
      rw [isRun.augmentedModel] at run
      exact ⟨w, isRun, run⟩

/-- Its sample is that of the catalog, if it has one. -/
theorem settles_mockValue :
    (Work.read (.view ⟨0, c.id, some i⟩) "mockValue").Settles (IsRun m config)
      ((ofType config c o p TypeDescriptor.sampleText).map .text) := by
  refine Work.settles_accessor (c := .mockValue)
    (fun w isRun => isRun.view?_parameter member place) rfl rfl rfl (fun _ => rfl) ?_
    fun w isRun => ?_
  · rw [answer?_parameter member place, ofType]
    cases (Catalog.builtin config.seed).resolve? p.type with
    | none => rfl
    | some d =>
      change d.sampleText.toOption.map Datum.text = (d.sampleText.map Datum.text).toOption
      cases d.sampleText <;> rfl
  · have there := isRun.view?_parameter member place
    have types := isRun.resolve? p.type
    unfold ofType
    cases resolved : (Catalog.builtin config.seed).resolve? p.type with
    | none => exact ⟨w, isRun, mockValue_unresolved 398 there (types.trans resolved)⟩
    | some d =>
      obtain ⟨system, key, run⟩ := mockValue_outcome 398 there (types.trans resolved)
      rw [Catalog.writtenSample_of_resolve? resolved] at run
      exact ⟨w.afterDraw system key, isRun.of_same rfl rfl rfl rfl, run⟩

end Parameters

end Model

end ServiceDiagram

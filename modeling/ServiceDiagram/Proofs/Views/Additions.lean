import Mathlib.Data.List.Nodup
import ServiceDiagram.Proofs.Views.Generation

namespace ServiceDiagram

namespace Model

/-- The model with classes added one after the other; one whose id is taken is left out. -/
def adding (m : Model) (cs : List Class) : Model :=
  cs.foldl (fun m c => (m.addClass c).toOption.getD m) m

theorem addClass_grows {m m' : Model} {c : Class} (added : m.addClass c = .ok m') :
    m.classes <+: m'.classes := by
  unfold addClass at added
  split at added
  · cases added
  · cases added
    exact List.prefix_append _ _

theorem adding_grows (m : Model) (cs : List Class) : m.classes <+: (m.adding cs).classes := by
  induction cs generalizing m with
  | nil => exact List.prefix_rfl
  | cons c cs ih =>
    cases added : m.addClass c with
    | error e =>
      have same : m.adding (c :: cs) = m.adding cs := by
        rw [adding, List.foldl_cons, added]
        rfl
      exact same ▸ ih m
    | ok m' =>
      have next : m.adding (c :: cs) = m'.adding cs := by
        rw [adding, List.foldl_cons, added]
        rfl
      exact next ▸ (addClass_grows added).trans (ih m')

/-- A class that is found has been there, or it came later. -/
theorem class?_grown {m m' : Model} (grown : m.classes <+: m'.classes) {id : String} {t : Class}
    (found : m'.class? id = some t) : m.class? id = some t ∨ m.class? id = none ∧ t ∉ m.classes := by
  obtain ⟨later, same⟩ := grown
  rw [class?, ← same, List.find?_append] at found
  cases before : m.class? id with
  | some c =>
    rw [class?] at before
    rw [before] at found
    exact .inl found
  | none =>
    refine .inr ⟨rfl, fun member => ?_⟩
    rw [class?] at before
    rw [before, Option.none_or] at found
    have named := List.find?_some (p := fun c : Class => c.id == id) found
    exact List.find?_eq_none.mp before t member named

theorem class?_kept {m m' : Model} (grown : m.classes <+: m'.classes) {id : String} {c : Class}
    (found : m.class? id = some c) : m'.class? id = some c := by
  obtain ⟨later, same⟩ := grown
  rw [class?, ← same, List.find?_append]
  rw [class?] at found
  rw [found, Option.some_or]

/-- The class with a stereotype to which a dependency leads. -/
def lead? (m : Model) (stereotype : Option String) (d : Dependency) : Option Class :=
  match m.follow d with
  | .toClass t => if t.stereotype = stereotype then some t else none
  | _ => none

/-- A dependency leads wherever its id leads in a model, or nowhere in any model. -/
theorem follow_cases (d : Dependency) :
    (∃ id, ∀ m : Model, m.follow d = ((m.class? id).map Lead.toClass).getD (.unknown id)) ∨
      ∀ m : Model, ∀ stereotype, m.lead? stereotype d = none := by
  cases kind : d.target.kind with
  | object =>
    cases target : d.target.classId with
    | some id =>
      refine .inl ⟨id, fun m => ?_⟩
      simp only [follow, kind, target]
      cases m.class? id <;> rfl
    | none => exact .inr fun m stereotype => by simp only [lead?, follow, kind, target]
  | primitive => exact .inr fun m stereotype => by simp only [lead?, follow, kind]
  | unknown =>
    refine .inr fun m stereotype => ?_
    cases target : d.target.classId <;> simp only [lead?, follow, kind, target]

/-- A dependency leads where it led before, or to a class that came later. -/
theorem lead?_grown {m m' : Model} (grown : m.classes <+: m'.classes) (stereotype : Option String)
    (d : Dependency) :
    m'.lead? stereotype d = m.lead? stereotype d ∨
      ∃ t, m'.lead? stereotype d = some t ∧ t ∉ m.classes := by
  rcases follow_cases d with ⟨id, follows⟩ | nowhere
  · cases now : m'.class? id with
    | none =>
      have before : m.class? id = none := by
        cases before : m.class? id with
        | none => rfl
        | some c => rw [class?_kept grown before] at now; cases now
      simp only [lead?, follows, now, before, true_or]
    | some t =>
      rcases class?_grown grown now with before | ⟨before, late⟩
      · simp only [lead?, follows, now, before, true_or]
      · by_cases same : t.stereotype = stereotype
        · exact .inr ⟨t, by simp [lead?, follows, now, same], late⟩
        · refine .inl ?_
          simp [lead?, follows, now, before, same]
  · simp only [nowhere, true_or]

theorem lead?_mem {m : Model} {stereotype : Option String} {d : Dependency} {t : Class}
    (leads : m.lead? stereotype d = some t) : t ∈ m.classes := by
  rcases follow_cases d with ⟨id, follows⟩ | nowhere
  · cases found : m.class? id with
    | none => simp [lead?, follows, found] at leads
    | some c =>
      simp only [lead?, follows, found, Option.map_some, Option.getD_some] at leads
      split at leads
      · cases leads
        exact (class?_mem found).1
      · cases leads
  · rw [nowhere] at leads
    cases leads

theorem dependents_mem {m : Model} {c : Class} {stereotype : Option String} {t : Class}
    (member : t ∈ m.dependents c stereotype) : t ∈ m.classes := by
  obtain ⟨d, -, leads⟩ := List.mem_filterMap.mp member
  exact lead?_mem leads

/-- What a class depends on stays as it is while no dependency leads to a class that came later. -/
theorem dependents_grown {m m' : Model} (grown : m.classes <+: m'.classes) {c : Class}
    {stereotype : Option String} (settled : ∀ t ∈ m'.dependents c stereotype, t ∈ m.classes) :
    m'.dependents c stereotype = m.dependents c stereotype := by
  refine List.filterMap_congr fun d member => ?_
  rcases lead?_grown grown stereotype d with same | ⟨t, leads, late⟩
  · exact same
  · exact absurd (settled t (List.mem_filterMap.mpr ⟨d, member, leads⟩)) late

end Model

namespace Workspace

theorem after_adding (w : Workspace) (m : Model) (cs : List Class) :
    ({ w with models := [m] } : Workspace).after 0 (cs.map (.addClass 0)) =
      { w with models := [m.adding cs] } := by
  induction cs generalizing m with
  | nil => rfl
  | cons c cs ih =>
    have step : (Step.addClass 0 c).after 0 { w with models := [m] } =
        { w with models := [(m.addClass c).toOption.getD m] } := by
      have here : ({ w with models := [m] } : Workspace).model 0 = m := rfl
      rw [Step.after, Work.addClass_outcome, here]
      cases m.addClass c <;> rfl
    rw [List.map_cons, after, List.foldl_cons, step]
    exact ih _

end Workspace

/-- The reads of a service that follow its dependencies. -/
inductive DependentRead where
  | classes (stereotype : Option String)
  | services
  | daos

namespace DependentRead

/-- The stereotype of the classes that are asked for. -/
def stereotype (config : Config) : DependentRead → Option String
  | classes s => s
  | services => some config.serviceStereotype
  | daos => some config.daoStereotype

def work (v : ViewRef) : DependentRead → Work Datum
  | classes s => Work.callMethod (.view v) "getDependentClasses" (Datum.optionalText s)
  | services => Work.read (.view v) "dependentServices"
  | daos => Work.read (.view v) "dependentDaos"

theorem capability?_of_service (capability : Capability) {c : ClassView}
    (service : c.capabilities = Capability.ofServices)
    (found : (Capability.ofServices.find? fun c => c.name == capability.name) = some capability) :
    (NodeView.ofClass c).capability? capability.name = some capability := by
  rw [NodeView.capability?, NodeView.capabilities, service, found]

/-- A first read of an accessor that asks for the stereotype of a role. -/
theorem role_outcome {w : Workspace} {v : ViewRef} {c : ClassView} {capability : Capability}
    {role stereotype : String} (there : w.view? v = some (.ofClass c))
    (service : c.capabilities = Capability.ofServices) (unread : w.memo = [])
    (granted : (NodeView.ofClass c).capability? capability.name = some capability)
    (notOwn : Work.viewAttribute? v (.ofClass c) capability.name = none)
    (isAccessor : capability.kind = .accessor) (alone : capability.definition.parameters w = [])
    (byRole : capability.definition.body w v [] = dependentsByRole v role)
    (configured : (Datum.config (w.augmentedModel v.augmented).config).attribute? w role =
      some (.text stereotype)) :
    ((Work.read (.view v) capability.name).outcome w).1 =
      ((((w.model (w.augmentedModel v.augmented).model).dependents c.node (some stereotype)).mapM
        fun t => Datum.classView w v.augmented (.text t.id)).map .tuple) := by
  have function := capability?_of_service .getDependentClasses service rfl
  have followed := (dependentsByRole_outcome 398 there function configured).trans
    (dependentClasses_outcome 397 there (some stereotype))
  rw [← byRole] at followed
  exact Work.first_read there notOwn granted isAccessor alone followed unread unread

/-- To ask a view for classes by a stereotype is to run the definition of doing so. -/
theorem classes_outcome {w : Workspace} {v : ViewRef} {c : ClassView} (stereotype : Option String)
    (there : w.view? v = some (.ofClass c))
    (granted : (NodeView.ofClass c).capability? "getDependentClasses" = some .getDependentClasses) :
    ((classes stereotype).work v).outcome w =
      ((dependentClasses v (.optionalText stereotype)).run (Work.answer 399)).outcome w := by
  have function : (Work.read (.view v) "getDependentClasses").outcome w =
      (.ok (.function v .dependentClasses), w) :=
    Work.read_capability 399 (c := .getDependentClasses) there rfl granted
  have called : ((classes stereotype).work v).outcome w =
      (Work.call (.function v .dependentClasses) [Datum.optionalText stereotype]).outcome w :=
    Work.outcome_bind_of_ok function
  exact called.trans (Work.evaluate_outcome rfl)

/-- A service that has not answered yet follows its dependencies in the model of now. -/
theorem work_outcome {w : Workspace} {v : ViewRef} {c : ClassView} (r : DependentRead)
    (there : w.view? v = some (.ofClass c)) (service : c.capabilities = Capability.ofServices)
    (unread : w.memo = []) :
    ((r.work v).outcome w).1 =
      let a := w.augmentedModel v.augmented
      ((((w.model a.model).dependents c.node (r.stereotype a.config)).mapM fun t =>
        Datum.classView w v.augmented (.text t.id)).map .tuple) := by
  cases r with
  | classes s =>
    have granted := capability?_of_service .getDependentClasses service rfl
    have followed := dependentClasses_outcome 398 there s
    exact congrArg Prod.fst ((classes_outcome s there granted).trans followed)
  | services =>
    have granted := capability?_of_service .dependentServices service rfl
    have configured : (Datum.config (w.augmentedModel v.augmented).config).attribute? w
      "service_stereotype" = some (.text _) := rfl
    have read := role_outcome there service unread granted rfl rfl rfl rfl configured
    exact read
  | daos =>
    have granted := capability?_of_service .dependentDaos service rfl
    have configured : (Datum.config (w.augmentedModel v.augmented).config).attribute? w
      "dao_stereotype" = some (.text _) := rfl
    have read := role_outcome there service unread granted rfl rfl rfl rfl configured
    exact read

end DependentRead

/-- The workspace of a run in which the model has changed since. -/
def Workspace.later (m m' : Model) (config : Config) (events : List Event) : Workspace :=
  { Workspace.ofRun m config events with models := [m'] }

/-- The views that a service of a run is to give for the classes on which it depends. -/
def Model.dependentViews (m : Model) (c : Class) (stereotype : Option String) : Datum :=
  .tuple ((m.dependents c stereotype).map fun t => .view ⟨0, t.id, none⟩)

namespace Workspace

variable {m : Model} (m' : Model) (config : Config) (events : List Event)

/-- The views stay those of the classes that the model had. -/
theorem view?_later {c : Class} (member : c ∈ m.classes) :
    (later m m' config events).view? ⟨0, c.id, none⟩ = some (.ofClass (.ofRun config c)) := by
  change (AugmentedModel.ofRun m config).view? ⟨0, c.id, none⟩ = _
  simp only [AugmentedModel.view?, AugmentedModel.class?_ofRun, Model.class?_of_mem member,
    Option.map_some]

theorem classView_later (id : String) :
    Datum.classView (later m m' config events) 0 (.text id) =
      match m.class? id with
      | some t => .ok (.view ⟨0, t.id, none⟩)
      | none => .error (.unknownClass id) := by
  have same : (later m m' config events).augmentedModel 0 = .ofRun m config := rfl
  simp only [Datum.classView, same, AugmentedModel.class?_ofRun]
  cases m.class? id <;> rfl

/-- A class that was there has a view after as before. -/
theorem classView_of_mem {t : Class} (member : t ∈ m.classes) :
    Datum.classView (later m m' config events) 0 (.text t.id) = .ok (.view ⟨0, t.id, none⟩) := by
  rw [classView_later, Model.class?_of_mem member]

/-- A class that came later has none. -/
theorem classView_of_late (grown : m.classes <+: m'.classes) {t : Class} (member : t ∈ m'.classes)
    (late : t ∉ m.classes) :
    Datum.classView (later m m' config events) 0 (.text t.id) = .error (.unknownClass t.id) := by
  rcases Model.class?_grown grown (Model.class?_of_mem member) with before | ⟨before, -⟩
  · exact absurd (Model.class?_mem before).1 late
  · rw [classView_later, before]

end Workspace

namespace DependentRead

variable {m m' : Model} {config : Config} {c : Class} (events : List Event)

/-- What a service tells of its dependencies is what the model of now tells, each class with the
view that it had. -/
theorem work_later (r : DependentRead) (member : c ∈ m.classes)
    (service : c.stereotype = some config.serviceStereotype) :
    ((r.work ⟨0, c.id, none⟩).outcome (.later m m' config events)).1 =
      (((m'.dependents c (r.stereotype config)).mapM fun t =>
        Datum.classView (.later m m' config events) 0 (.text t.id)).map .tuple) :=
  work_outcome r (Workspace.view?_later m' config events member) (if_pos service) rfl

/-- While nothing leads to a later class, a service tells the same as before. -/
theorem work_settled (r : DependentRead) (grown : m.classes <+: m'.classes)
    (member : c ∈ m.classes) (service : c.stereotype = some config.serviceStereotype)
    (settled : ∀ t ∈ m'.dependents c (r.stereotype config), t ∈ m.classes) :
    ((r.work ⟨0, c.id, none⟩).outcome (.later m m' config events)).1 =
      .ok (m.dependentViews c (r.stereotype config)) := by
  have views := mapM_of_ok fun t here =>
    Workspace.classView_of_mem m' config events (settled t here)
  rw [work_later events r member service, views, Model.dependents_grown grown settled]
  rfl

/-- Once something does, it fails for the first class without a view. -/
theorem work_unsettled (r : DependentRead) (grown : m.classes <+: m'.classes)
    (member : c ∈ m.classes) (service : c.stereotype = some config.serviceStereotype)
    (late : ∃ t ∈ m'.dependents c (r.stereotype config), t ∉ m.classes) :
    ∃ t ∈ m'.dependents c (r.stereotype config), t ∉ m.classes ∧
      ((r.work ⟨0, c.id, none⟩).outcome (.later m m' config events)).1 =
        .error (.unknownClass t.id) := by
  obtain ⟨t, here, isLate, failed⟩ := exists_of_mapM_error
    (fun t _ here => Workspace.classView_of_mem m' config events here)
    (fun t here isLate =>
      Workspace.classView_of_late m' config events grown (Model.dependents_mem here) isLate) late
  refine ⟨t, here, isLate, ?_⟩
  rw [work_later events r member service, failed]
  rfl

end DependentRead

namespace Context

/-- The views of a run stay as they are. After classes are added to the model, a service whose
dependencies lead to none of them gives what it gave before, and one with a dependency that leads to
a new class of the stereotype that is asked for fails, since there is no view of that class. -/
theorem dependents_after_adding {m : Model} {config : Config} {c : Class} (cs : List Class)
    (r : DependentRead) (member : c ∈ m.classes)
    (service : c.stereotype = some config.serviceStereotype) :
    ∃ w, (augmentModel m config).outcome .empty = (.ok 0, w) ∧
      let w' := w.after 0 (cs.map (.addClass 0))
      let late t := t ∈ (w'.model 0).dependents c (r.stereotype config) ∧ t ∉ m.classes
      ((r.work ⟨0, c.id, none⟩).outcome w).1 =
          .ok (m.dependentViews c (r.stereotype config)) ∧
        ((∀ t, ¬ late t) ↔ ((r.work ⟨0, c.id, none⟩).outcome w').1 =
          ((r.work ⟨0, c.id, none⟩).outcome w).1) ∧
        ∀ t, late t → ∃ t, late t ∧
          ((r.work ⟨0, c.id, none⟩).outcome w').1 = .error (.unknownClass t.id) := by
  obtain ⟨events, run⟩ := augmentModel_outcome m config
  refine ⟨_, run, ?_⟩
  have after : (Workspace.ofRun m config events).after 0 (cs.map (.addClass 0)) =
      .later m (m.adding cs) config events :=
    Workspace.after_adding (.ofRun m config events) m cs
  have grown := m.adding_grows cs
  rw [after]
  have before : ((r.work ⟨0, c.id, none⟩).outcome (.ofRun m config events)).1 =
      .ok (m.dependentViews c (r.stereotype config)) :=
    DependentRead.work_settled events r List.prefix_rfl member service
      fun t here => Model.dependents_mem here
  have fails := DependentRead.work_unsettled events r grown member service
  refine ⟨before, ⟨fun settled => ?_, fun same t late => ?_⟩, fun t late => ?_⟩
  · rw [before]
    refine DependentRead.work_settled events r grown member service fun t here => ?_
    exact Decidable.byContradiction fun notThere => settled t ⟨here, notThere⟩
  · obtain ⟨t', -, -, failed⟩ := fails ⟨t, late⟩
    rw [before, failed] at same
    cases same
  · obtain ⟨t', here, isLate, failed⟩ := fails ⟨t, late⟩
    exact ⟨t', ⟨here, isLate⟩, failed⟩

/-- A service that depends on a class that is not there yet. -/
def sampleService : Class where
  id := "S"
  name := "Orders"
  stereotype := some "Service"
  dependencies := [⟨⟨"Order", .object, some "E", by decide⟩⟩]
  operations := []
  tags := []
  valid := by decide

def sampleEntity : Class := ⟨"E", "Order", some "Entity", [], [], [], by decide⟩

def sampleModel : Model := ⟨"orders", [sampleService], 0, by simp⟩

/-- Once the class is there, the service fails. -/
theorem dependents_after_adding_sample :
    sampleService ∈ sampleModel.classes ∧
      sampleService.stereotype = some Config.default.serviceStereotype ∧
      ∃ w, (augmentModel sampleModel .default).outcome .empty = (.ok 0, w) ∧
        ((DependentRead.daos.work ⟨0, "S", none⟩).outcome w).1 = .ok (.tuple []) ∧
        ((DependentRead.daos.work ⟨0, "S", none⟩).outcome (w.after 0 [.addClass 0 sampleEntity])).1 =
          .error (.unknownClass "E") := by
  have member : sampleService ∈ sampleModel.classes := List.mem_cons_self
  have service : sampleService.stereotype = some Config.default.serviceStereotype := rfl
  obtain ⟨w, run, before, -, fails⟩ := dependents_after_adding [sampleEntity] .daos member service
  obtain ⟨events, same⟩ := augmentModel_outcome sampleModel .default
  cases run.symm.trans same
  obtain ⟨t, ⟨here, -⟩, failed⟩ := fails sampleEntity ⟨List.mem_singleton_self _, by decide⟩
  cases List.mem_singleton.mp here
  exact ⟨member, service, _, run, before, failed⟩

end Context
end ServiceDiagram

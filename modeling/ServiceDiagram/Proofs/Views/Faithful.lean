import ServiceDiagram.Proofs.Diagram.Targets
import ServiceDiagram.Proofs.Report.Repeat
import ServiceDiagram.Proofs.Views.Additions

namespace ServiceDiagram

/-- The stereotypes to which a configuration gives a role. -/
inductive Role where
  | services
  | daos

namespace Role

/-- The accessor of services that follows the dependencies on classes with a role. -/
def capability : Role → Capability
  | services => .dependentServices
  | daos => .dependentDaos

def field : Role → String
  | services => "service_stereotype"
  | daos => "dao_stereotype"

def stereotype (config : Config) : Role → String
  | services => config.serviceStereotype
  | daos => config.daoStereotype

theorem attribute?_field (role : Role) (config : Config) (w : Workspace) :
    (Datum.config config).attribute? w role.field = some (.text (role.stereotype config)) := by
  cases role <;> rfl

theorem body_eq (role : Role) (w : Workspace) (v : ViewRef) :
    role.capability.definition.body w v [] = dependentsByRole v role.field := by
  cases role <;> rfl

end Role

/-- A view offers what services offer, each under its own name. -/
def ClassView.IsService (c : ClassView) : Prop :=
  ∀ capability ∈ Capability.ofServices,
    (NodeView.ofClass c).capability? capability.name = some capability

theorem ClassView.IsService.ofRole {c : ClassView} (service : c.IsService) (role : Role) :
    (NodeView.ofClass c).capability? role.capability.name = some role.capability :=
  service role.capability (by cases role <;> decide)

theorem ClassView.node_of_build {r : Registry} {c : Class} {v : ClassView}
    (built : build r c = .ok v) : v.node = c := by
  obtain ⟨capabilities, -, built⟩ := exists_of_bind_ok built
  obtain ⟨parameters, -, built⟩ := exists_of_bind_ok built
  cases built
  rfl

/-- A view offers what the registry grants its class, and has a view for each parameter of it. -/
theorem ClassView.of_build {r : Registry} {c : Class} {k : ClassView} (built : build r c = .ok k) :
    r.capabilitiesFor .ofClass (.ofClass k.node) = .ok k.capabilities ∧
      (k.parameters.map fun p => (p.operation, p.parameter)) = k.node.parameters ∧
      ∀ p ∈ k.parameters,
        r.capabilitiesFor .ofParameter (.ofParameter p.parameter) = .ok p.capabilities := by
  have origin (x : Operation × Parameter) (p : ParameterView)
      (built : ParameterView.build r x.1 x.2 = .ok p) : (p.operation, p.parameter) = x := by
    obtain ⟨cs, -, built⟩ := exists_of_bind_ok built
    cases built
    rfl
  obtain ⟨cs, granted, built⟩ := exists_of_bind_ok built
  obtain ⟨ps, parameters, built⟩ := exists_of_bind_ok built
  cases built
  obtain ⟨same, each⟩ := origins_of_mapM_ok origin parameters
  refine ⟨granted, same, fun p member => ?_⟩
  obtain ⟨ds, given, rebuilt⟩ := exists_of_bind_ok (each p member)
  have kept : ds = p.capabilities := congrArg ParameterView.capabilities (Except.ok.inj rebuilt)
  exact kept ▸ given

/-- Views are built only without conflicts, and then one for each class. -/
theorem AugmentedModel.of_buildClasses {r : Registry} {m : Model} {classes : List ClassView}
    (built : buildClasses r m = .ok classes) :
    r.checkConflicts = .ok () ∧ classes.map ClassView.node = m.classes ∧
      ∀ v ∈ classes, ClassView.build r v.node = .ok v := by
  obtain ⟨_, clean, built⟩ := exists_of_bind_ok built
  exact ⟨clean, origins_of_mapM_ok (fun _ _ => ClassView.node_of_build) built⟩

section Lookup

variable {a : AugmentedModel} {m : Model} (nodes : a.classes.map ClassView.node = m.classes)
  {k : ClassView} (member : k ∈ a.classes)

include nodes

/-- No two views of classes have one id. -/
theorem AugmentedModel.nodup_ids : (a.classes.map fun k => k.node.id).Nodup := by
  have ids := congrArg (List.map Class.id) nodes
  rw [List.map_map] at ids
  exact ids ▸ m.unique

/-- Classes and their views are found in the same places. -/
theorem AugmentedModel.find?_nodes (p : Class → Bool) :
    (a.classes.find? fun k => p k.node).map ClassView.node = m.classes.find? p := by
  rw [← nodes, List.find?_map]
  rfl

include member

/-- No two classes of a model have one id, so a view is found by the id of its class. -/
theorem AugmentedModel.class?_of_mem : a.class? k.node.id = some k :=
  find?_of_nodup_map (nodup_ids nodes) member

/-- Every class that has a view is found under its id. -/
theorem AugmentedModel.view?_class (number : Nat) :
    a.view? ⟨number, k.node.id, none⟩ = some (.ofClass k) := by
  simp only [view?, class?_of_mem nodes member]

theorem AugmentedModel.view?_parameter (number : Nat) {i : Nat} {p : ParameterView}
    (place : k.parameters[i]? = some p) :
    a.view? ⟨number, k.node.id, some i⟩ = some (.ofParameter k.node p) := by
  simp only [view?, class?_of_mem nodes member, place, Option.map_some]

end Lookup

/-- The views of classes, in an augmented model known by a number, by the ids of the classes. -/
def Datum.ofIds (number : Nat) (ids : List String) : Datum :=
  tuple (ids.map fun id => view ⟨number, id, none⟩)

namespace Workspace

/-- The model of views, as it is now. -/
def modelOf (w : Workspace) (number : Nat) : Model := w.model (w.augmentedModel number).model

/-- The classes that have views are those of the model as it is now. -/
def IsUpToDate (w : Workspace) (number : Nat) : Prop :=
  (w.augmentedModel number).classes.map ClassView.node = (w.modelOf number).classes

/-- What the model as it is now tells of the dependencies of a class on classes with a role. -/
def told (w : Workspace) (number : Nat) (c : Class) (role : Role) : Datum :=
  .ofIds number ((w.modelOf number).targetIds c
    (some (role.stereotype (w.augmentedModel number).config)))

/-- The views that an engine keeps for a model are of this model and under the engine's configuration. -/
structure Belongs (w : Workspace) (engine model : Nat) (a : Applied) : Prop where
  there : a.augmented < w.augmented.length
  model : (w.augmentedModel a.augmented).model = model
  config : (w.augmentedModel a.augmented).config = (w.engine engine).config

/-- What has been built and kept is faithful to the models: nothing is kept of views that are not there,
the classes that have views are the first ones of their model, the views that an engine keeps belong to
it, and what a service keeps is what its model tells, as long as its views are up to date. -/
structure Faithful (w : Workspace) : Prop where
  known : ∀ key d, w.memo.lookup key = some d → key.1.augmented < w.augmented.length
  nodes : ∀ number < w.augmented.length,
    (w.augmentedModel number).classes.map ClassView.node <+: (w.modelOf number).classes
  kept : ∀ engine model a, w.kept? engine model = some a → w.Belongs engine model a
  roles : ∀ v c, w.view? v = some (.ofClass c) → c.IsService → w.IsUpToDate v.augmented →
    ∀ role d, w.memo.lookup (v, role.capability.name) = some d →
      d = w.told v.augmented c.node role

variable {w w' : Workspace}

/-- What is faithful stays so when classes are added to models and engines that keep nothing are
made. -/
theorem Faithful.grown (faithful : w.Faithful) (augmented : w'.augmented = w.augmented)
    (memo : w'.memo = w.memo) (grown : ∀ i, (w.model i).classes <+: (w'.model i).classes)
    (kept : ∀ engine model a, w'.kept? engine model = some a →
      w.kept? engine model = some a ∧ (w'.engine engine).config = (w.engine engine).config) :
    w'.Faithful := by
  have views (number : Nat) : w'.augmentedModel number = w.augmentedModel number := by
    rw [augmentedModel, augmentedModel, augmented]
  have modelOf (number : Nat) : w'.modelOf number = w'.model (w.augmentedModel number).model := by
    rw [Workspace.modelOf, views]
  refine ⟨fun key d => ?_, fun number there => ?_, fun engine model a here => ?_, ?_⟩
  · rw [memo, augmented]
    exact faithful.known key d
  · rw [views, modelOf]
    exact (faithful.nodes number (augmented ▸ there)).trans (grown _)
  · obtain ⟨before, config⟩ := kept engine model a here
    have belongs := faithful.kept engine model a before
    exact ⟨augmented ▸ belongs.there, views _ ▸ belongs.model,
      (views _ ▸ belongs.config).trans config.symm⟩
  · intro v c there service upToDate role d here
    have same : w.view? v = w'.view? v := by rw [Workspace.view?, Workspace.view?, views]
    have there' := same.trans there
    have nodes := faithful.nodes v.augmented (lt_of_view? there')
    -- the classes that have views come first, so none has been added if these are all
    have classes : (w'.modelOf v.augmented).classes = (w.modelOf v.augmented).classes := by
      rw [IsUpToDate, views] at upToDate
      have more := grown (w.augmentedModel v.augmented).model
      rw [modelOf]
      rw [modelOf] at upToDate
      exact (more.eq_of_length_le (upToDate ▸ nodes.length_le)).symm
    rw [IsUpToDate, views, classes] at upToDate
    rw [memo] at here
    rw [told, Model.targetIds_congr classes, views]
    exact faithful.roles v c there' service upToDate role d here

/-- What is faithful depends on the models, the engines, the views and what is kept of accessors. -/
theorem Faithful.of_same (faithful : w.Faithful) (models : w'.models = w.models)
    (engines : w'.engines = w.engines) (augmented : w'.augmented = w.augmented)
    (memo : w'.memo = w.memo) : w'.Faithful := by
  refine faithful.grown augmented memo (fun i => ?_) fun engine model a here => ?_
  · rw [model, model, models]
  · rw [kept?, Workspace.engine, engines] at here
    rw [Workspace.engine, engines]
    exact ⟨here, rfl⟩

section Building

variable (engine model : Nat) (classes : List ClassView)

/-- With new views only the engine changes that built them. -/
theorem engine_withViews (other : Nat) :
    (w.withViews engine model classes).engine other = w.engine other ∨
      other = engine ∧ ∃ now : Applied, now.augmented = w.augmented.length ∧
        (w.withViews engine model classes).engine other =
          { w.engine engine with applied := Table.put model now (w.engine engine).applied } := by
  by_cases same : other = engine
  · subst same
    by_cases known : other < w.engines.length
    · exact .inr ⟨rfl, ⟨_, _, w.augmented.length⟩, rfl, engine_set w known _ _ _⟩
    · refine .inl ?_
      simp only [withViews, Workspace.engine, List.set_eq_of_length_le (Nat.le_of_not_lt known)]
  · exact .inl (engine_withViews_of_ne same model classes)

theorem augmentedModel_withViews_of_lt {number : Nat} (there : number < w.augmented.length) :
    (w.withViews engine model classes).augmentedModel number = w.augmentedModel number := by
  simp only [augmentedModel, withViews, List.getElem?_append_left there]

theorem length_withViews :
    (w.withViews engine model classes).augmented.length = w.augmented.length + 1 := by
  simp [withViews]

theorem config_withViews (other : Nat) :
    ((w.withViews engine model classes).engine other).config = (w.engine other).config := by
  rcases engine_withViews (w := w) engine model classes other with same | ⟨rfl, now, -, same⟩ <;>
    rw [same]

/-- Views that belong to a model go on to belong to it when others are built. -/
theorem Belongs.withViews {other model' : Nat} {a : Applied} (belongs : w.Belongs other model' a) :
    (w.withViews engine model classes).Belongs other model' a := by
  have same := augmentedModel_withViews_of_lt engine model classes belongs.there
  refine ⟨?_, same ▸ belongs.model, ?_⟩
  · rw [length_withViews]
    exact Nat.lt_succ_of_lt belongs.there
  · rw [config_withViews, same, belongs.config]

/-- What an engine keeps after views have been built, it kept before, or it is these views. -/
theorem kept_withViews {other model' : Nat} {a : Applied}
    (kept : (w.withViews engine model classes).kept? other model' = some a) :
    w.kept? other model' = some a ∨
      other = engine ∧ model' = model ∧ a.augmented = w.augmented.length := by
  rw [kept?] at kept
  rcases engine_withViews (w := w) engine model classes other with same | ⟨rfl, now, new, same⟩
  · rw [same] at kept
    exact .inl kept
  · rw [same, Table.lookup_put] at kept
    split at kept
    · rename_i here
      cases kept
      exact .inr ⟨rfl, here, new⟩
    · exact .inl kept

end Building

/-- Views that have just been built are those of all classes, and nothing is kept of them. -/
theorem Faithful.withViews (faithful : w.Faithful) {engine model : Nat} {classes : List ClassView}
    (nodes : classes.map ClassView.node = (w.model model).classes) :
    (w.withViews engine model classes).Faithful := by
  have length := length_withViews (w := w) engine model classes
  have before {number : Nat} (there : number < w.augmented.length) :=
    augmentedModel_withViews_of_lt engine model classes there
  have modelOf {number : Nat} (there : number < w.augmented.length) :
      (w.withViews engine model classes).modelOf number = w.modelOf number := by
    rw [Workspace.modelOf, before there]
    rfl
  refine ⟨fun key d here => ?_, fun number there => ?_, fun other model' a kept => ?_,
    fun v c there service upToDate role d here => ?_⟩
  · rw [length]
    exact Nat.lt_succ_of_lt (faithful.known key d here)
  · rcases Nat.lt_succ_iff_lt_or_eq.mp (length ▸ there) with old | rfl
    · rw [before old, modelOf old]
      exact faithful.nodes number old
    · rw [Workspace.modelOf, augmentedModel_withViews, nodes]
      exact List.prefix_rfl
  · rcases kept_withViews engine model classes kept with old | ⟨rfl, rfl, new⟩
    · exact (faithful.kept other model' a old).withViews engine model classes
    · have views := augmentedModel_withViews (w := w) other model' classes
      rw [← new] at views
      refine ⟨by omega, by rw [views], ?_⟩
      rw [views, config_withViews]
  · have old : v.augmented < w.augmented.length := faithful.known (v, _) d here
    rw [Workspace.view?, before old] at there
    rw [IsUpToDate, before old, modelOf old] at upToDate
    rw [told, before old, modelOf old]
    exact faithful.roles v c there service upToDate role d here

section Navigation

variable {v : ViewRef} {c : ClassView} (there : w.view? v = some (.ofClass c))
  (upToDate : w.IsUpToDate v.augmented)

/-- While there is a view of every class, an id leads to the view of the class that it names. -/
theorem IsUpToDate.class? {number : Nat} (upToDate : w.IsUpToDate number) (id : String) :
    ((w.augmentedModel number).class? id).map ClassView.node = (w.modelOf number).class? id :=
  AugmentedModel.find?_nodes upToDate fun c => c.id == id

theorem IsUpToDate.classView {number : Nat} (upToDate : w.IsUpToDate number) {t : Class}
    (member : t ∈ (w.modelOf number).classes) :
    Datum.classView w number (.text t.id) = .ok (.view ⟨number, t.id, none⟩) := by
  have found := (upToDate.class? t.id).trans (Model.class?_of_mem member)
  obtain ⟨k, isView, rfl⟩ := Option.map_eq_some_iff.mp found
  simp only [Datum.classView, isView]
  rfl

include there upToDate

/-- Every class on which a class depends has a view, so nothing fails. -/
theorem dependentClasses_told (depth : Nat) (stereotype : Option String) :
    ∃ events, ((dependentClasses v (.optionalText stereotype)).run
        (Work.answer (depth + 1))).outcome w =
      (.ok (.ofIds v.augmented ((w.modelOf v.augmented).targetIds c.node stereotype)),
        { w with events := events }) := by
  have followed := dependentClasses_outcome depth there stereotype
  have views : ((w.modelOf v.augmented).dependents c.node stereotype).mapM
      (fun t => Datum.classView w v.augmented (.text t.id)) = _ :=
    mapM_of_ok fun t here => upToDate.classView (Model.dependents_mem here)
  change _ = ((((w.modelOf v.augmented).dependents c.node stereotype).mapM fun t =>
    Datum.classView w v.augmented (.text t.id)).map Datum.tuple, _) at followed
  rw [views] at followed
  rw [Datum.ofIds, ← Model.map_id_dependents, List.map_map]
  exact ⟨_, followed⟩

/-- Then a service tells what the model tells of its dependencies. -/
theorem dependentsByRole_told (depth : Nat) (service : c.IsService) (role : Role) :
    ∃ events, ((dependentsByRole v role.field).run (Work.answer (depth + 2))).outcome w =
      (.ok (w.told v.augmented c.node role), { w with events := events }) := by
  have function := service .getDependentClasses (by decide)
  have configured := role.attribute?_field (w.augmentedModel v.augmented).config w
  rw [dependentsByRole_outcome (depth + 1) there function configured]
  exact dependentClasses_told there upToDate depth (some _)

/-- What comes of a role, at whatever depth it is asked for, is what the model tells. -/
theorem told_of_evaluate {depth : Nat} {r : Datum} (service : c.IsService) (role : Role)
    (came : (Work.evaluate (Work.answer depth) role.capability.definition v []).outcome w =
      (.ok r, w')) : r = w.told v.augmented c.node role := by
  have function := service .getDependentClasses (by decide)
  have configured := role.attribute?_field (w.augmentedModel v.augmented).config w
  have alone : ([] : List Datum).length = (role.capability.definition.parameters w).length := by
    cases role <;> rfl
  rw [Work.evaluate_outcome alone, role.body_eq] at came
  -- at the first two depths there is no result
  cases depth with
  | zero => cases came
  | succ depth =>
    cases depth with
    | zero =>
      rw [dependentsByRole_outcome 0 there function configured] at came
      cases came
    | succ depth =>
      obtain ⟨events, told⟩ := dependentsByRole_told there upToDate depth service role
      cases came.symm.trans told
      rfl

end Navigation

theorem ReadTo.augmentedModel (read : w.ReadTo w') (number : Nat) :
    w'.augmentedModel number = w.augmentedModel number := by
  rw [Workspace.augmentedModel, Workspace.augmentedModel, read.augmented]

theorem ReadTo.modelOf (read : w.ReadTo w') (number : Nat) :
    w'.modelOf number = w.modelOf number := by
  rw [Workspace.modelOf, Workspace.modelOf, read.augmentedModel, model, model, read.models]

/-- What was faithful is so still. -/
def StaysFaithful (w w' : Workspace) : Prop := w.Faithful → w'.Faithful

/-- Faithfulness passes from step to step. -/
theorem isFrame_staysFaithful : IsFrame StaysFaithful where
  trans := fun first later faithful => later (first faithful)
  blind := fun models _ _ engines augmented _ memo faithful =>
    faithful.of_same models engines augmented memo

/-- What comes to be kept of a service is what the model tells. -/
theorem stores_faithful (depth : Nat) (w : Workspace) (v : ViewRef) (n : NodeView) (name : String)
    (c : Capability) (there : w.view? v = some n) (granted : n.capability? name = some c) :
    Work.Stores StaysFaithful (Work.answer depth) c.definition v name w := by
  intro r w' came evaluated _ faithful
  have read := Work.follows_evaluate isFrame_readTo (Work.onlyReads_answer depth) c.definition v [] w
  rw [came] at read
  have after := evaluated faithful
  have kept (engine model : Nat) (a : Applied) (here : w'.kept? engine model = some a) :
      { w' with memo := ((v, name), r) :: w'.memo }.Belongs engine model a :=
    have belongs := after.kept engine model a here
    ⟨belongs.there, belongs.model, belongs.config⟩
  refine ⟨fun key d here => ?_, after.nodes, kept, fun u k thereU service upToDate role d here => ?_⟩
  · rw [List.lookup_cons] at here
    split at here
    · rename_i same
      cases beq_iff_eq.mp same
      exact read.augmented ▸ lt_of_view? there
    · exact after.known key d here
  · rw [List.lookup_cons] at here
    split at here
    · rename_i same
      cases beq_iff_eq.mp same
      cases here
      have there' : w.view? v = some (.ofClass k) := by
        rw [Workspace.view?, ← read.augmentedModel]
        exact thereU
      have upToDate' : w.IsUpToDate v.augmented := by
        rw [IsUpToDate, ← read.augmentedModel, ← read.modelOf]
        exact upToDate
      cases there.symm.trans there'
      cases granted.symm.trans (service.ofRole role)
      rw [told_of_evaluate there upToDate' service role came, told, ← read.augmentedModel,
        ← read.modelOf]
      rfl
    · exact after.roles u k thereU service upToDate role d here

theorem answer_staysFaithful (depth : Nat) (request : Request) :
    (Work.answer depth request).Follows StaysFaithful :=
  Work.follows_answer isFrame_staysFaithful
    (fun depth w v n name c there _ granted _ => stores_faithful depth w v n name c there granted)
    depth request

theorem grant_staysFaithful (i : Nat) (scope : Scope) (cs : List Capability) :
    (Work.grant i scope cs).Follows StaysFaithful :=
  fun _ faithful => faithful.of_same rfl rfl rfl rfl

/-- Building views leaves a workspace faithful: they are views of the classes that the model has. -/
theorem apply_staysFaithful (engine : Nat) (model : Option Nat) :
    (Work.apply engine model).Follows StaysFaithful := by
  intro w faithful
  cases model with
  | none => exact faithful
  | some model =>
    rw [Work.apply_outcome]
    cases Work.appliedBefore? w (w.engine engine) model with
    | some number => exact faithful.of_same rfl rfl rfl rfl
    | none =>
      cases built : AugmentedModel.buildClasses (w.registry (w.engine engine).registry)
        (w.model model) with
      | error e => exact faithful
      | ok classes => exact faithful.withViews (AugmentedModel.of_buildClasses built).2.1

theorem addEngine_staysFaithful (registry typeSystem : Nat) (config : Config) :
    (Work.addEngine (some registry) (some typeSystem) config).Follows StaysFaithful := by
  intro w faithful
  refine faithful.grown rfl rfl (fun i => List.prefix_rfl) fun engine model a here => ?_
  rcases engine_added w (e := ⟨registry, typeSystem, config, []⟩) rfl engine with same | nothing
  · exact ⟨(congrArg (fun e => e.applied.lookup model) same).symm.trans here,
      congrArg Engine.config same⟩
  · cases (congrArg (List.lookup model) nothing).symm.trans here

theorem augment_staysFaithful (c : Context) : c.augment.Follows StaysFaithful :=
  c.follows_augment isFrame_staysFaithful (grant_staysFaithful _ _ _) (grant_staysFaithful _ _ _)
    addEngine_staysFaithful apply_staysFaithful

theorem Faithful.step (faithful : w.Faithful) (engine : Nat) (s : Step) :
    (s.after engine w).Faithful := by
  cases s with
  | register i a =>
    rw [Step.after, Work.register_outcome]
    cases (w.registry i).register a with
    | error e => exact faithful
    | ok result => exact faithful.of_same rfl rfl rfl rfl
  | addClass i c =>
    rw [Step.after, Work.addClass_outcome]
    cases added : (w.model i).addClass c with
    | error e => exact faithful
    | ok m =>
      refine faithful.grown rfl rfl (fun j => ?_) fun _ _ _ here => ⟨here, rfl⟩
      rw [model_set]
      split
      · rename_i here
        exact here.1 ▸ Model.addClass_grows added
      · exact List.prefix_rfl
  | apply target => exact apply_staysFaithful engine target w faithful

theorem Faithful.move (faithful : w.Faithful) (move : Move) : (move.after w).Faithful :=
  follows_move isFrame_staysFaithful (answer_staysFaithful Work.depthLimit)
    (fun engine s _ faithful => faithful.step engine s) augment_staysFaithful
    (fun _ _ _ _ _ faithful => faithful.of_same rfl rfl rfl rfl) move w faithful

/-- Whatever is done in a workspace, what was faithful stays so. -/
theorem Faithful.moves (faithful : w.Faithful) (moves : List Move) :
    (w.afterMoves moves).Faithful :=
  follows_moves isFrame_staysFaithful (fun move _ faithful => faithful.move move) moves w faithful

/-- Nothing was registered, no views were built and nothing was read. -/
structure IsUnused (w : Workspace) : Prop extends IsFresh w where
  augmented : w.augmented = []
  memo : w.memo = []

/-- A workspace without views is faithful. -/
theorem IsUnused.faithful (unused : w.IsUnused) : w.Faithful where
  known := fun key d here => by rw [unused.memo] at here; cases here
  nodes := fun number there => by rw [unused.augmented] at there; cases there
  kept := fun engine model a here => by
    cases unused.toIsFresh.coherent engine model a here with
    | mk there => rw [unused.augmented] at there; cases there
  roles := fun v c there _ _ role d here => by rw [unused.memo] at here; cases here

end Workspace

end ServiceDiagram

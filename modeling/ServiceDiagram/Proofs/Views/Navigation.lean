import ServiceDiagram.Proofs.Views.Services

namespace ServiceDiagram

/-- What can be gone to from a datum: its items, or it itself. -/
def Datum.ends : Datum → List Datum
  | tuple items => items
  | d => [d]

/-- The views of an augmented model known by a number: those of classes, and those of parameters. -/
def AugmentedModel.refs (number : Nat) (a : AugmentedModel) : List ViewRef :=
  a.classes.map (refOf number) ++ a.classes.flatMap (parameterRefs number)

/-- A read that leads from a view to others. -/
inductive Hop where
  | dependents (r : DependentRead)
  | parameters
  | owner

namespace Hop

def work (v : ViewRef) : Hop → Work Datum
  | dependents r => r.work v
  | parameters => Work.read (.view v) "parameter_views"
  | owner => Work.read (.view v) "owner"

/-- The read is there for a view: services follow dependencies, classes have parameters, and parameters
have an owner. -/
def AppliesTo (w : Workspace) (v : ViewRef) (h : Hop) : Prop :=
  match h, w.view? v with
  | dependents _, some (.ofClass k) =>
    k.node.stereotype = some (w.augmentedModel v.augmented).config.serviceStereotype
  | parameters, some (.ofClass _) => True
  | owner, some (.ofParameter ..) => True
  | _, _ => False

end Hop

/-- The ways from a view in a workspace: reads that lead on, and between them whatever leaves the
classes of the model as they are. -/
inductive Context.Reaches (c : Context) (w : Workspace) (v : ViewRef) : Workspace → ViewRef → Prop
  | here : Reaches c w v w v
  | move {w' : Workspace} {v' : ViewRef} (move : Move) (way : Reaches c w v w' v')
      (same : ((move.after w').model c.model).classes = (w'.model c.model).classes) :
      Reaches c w v (move.after w') v'
  | hop {w' w'' : Workspace} {v' u : ViewRef} {d : Datum} (h : Hop) (way : Reaches c w v w' v')
      (applies : h.AppliesTo w' v') (came : (h.work v').outcome w' = (.ok d, w''))
      (leads : .view u ∈ d.ends) : Reaches c w v w'' u

open Workspace

namespace DependentRead

variable {w : Workspace} {v : ViewRef} {k : ClassView}

/-- The role that is asked for by an accessor. -/
theorem role_told (faithful : w.Faithful) (there : w.view? v = some (.ofClass k))
    (upToDate : w.IsUpToDate v.augmented) (service : k.IsService) (role : Role) :
    ((Work.read (.view v) role.capability.name).outcome w).1 =
      .ok (w.told v.augmented k.node role) := by
  have notOwn : Work.viewAttribute? v (.ofClass k) role.capability.name = none := by
    cases role <;> rfl
  have isAccessor : role.capability.kind = .accessor := by cases role <;> rfl
  have read := Work.read_capability 399 there notOwn (service.ofRole role)
  rw [isAccessor] at read
  refine (congrArg Prod.fst read).trans ?_
  cases kept : w.memo.lookup (v, role.capability.name) with
  | some d =>
    dsimp only
    rw [Work.accessor_of_kept kept, faithful.roles v k there service upToDate role d kept]
  | none =>
    obtain ⟨events, told⟩ := dependentsByRole_told there upToDate 397 service role
    have alone : ([] : List Datum).length = (role.capability.definition.parameters w).length := by
      cases role <;> rfl
    rw [← role.body_eq w] at told
    exact Work.accessor_outcome kept ((Work.evaluate_outcome alone).trans told) kept

/-- A service leads to what the model tells of its dependencies. -/
theorem work_told (faithful : w.Faithful) (there : w.view? v = some (.ofClass k))
    (upToDate : w.IsUpToDate v.augmented) (service : k.IsService) (r : DependentRead) :
    ((r.work v).outcome w).1 = .ok (.ofIds v.augmented ((w.modelOf v.augmented).targetIds k.node
      (r.stereotype (w.augmentedModel v.augmented).config))) := by
  cases r with
  | classes s =>
    have granted := service .getDependentClasses (by decide)
    obtain ⟨events, told⟩ := dependentClasses_told there upToDate 398 s
    exact congrArg Prod.fst ((classes_outcome s there granted).trans told)
  | services => exact role_told faithful there upToDate service .services
  | daos => exact role_told faithful there upToDate service .daos

end DependentRead

namespace Hop

section Frame

variable {R : Workspace → Workspace → Prop} (frame : IsFrame R)
  (answers : ∀ request, (Work.answer Work.depthLimit request).Follows R)

include frame answers

/-- A hop from view to view keeps to whatever reading keeps to. -/
theorem follows_work (v : ViewRef) (h : Hop) : (h.work v).Follows R := by
  cases h with
  | dependents r =>
    cases r with
    | classes s => exact .bind frame (answers (.read (.view v) _)) fun f => answers (.call f _)
    | services => exact answers (.read (.view v) _)
    | daos => exact answers (.read (.view v) _)
  | parameters => exact answers (.read (.view v) _)
  | owner => exact answers (.read (.view v) _)

end Frame

end Hop

namespace Context

variable {c : Context} {number : Nat} {w w' : Workspace} {v : ViewRef}

namespace Views

/-- The views of a run stay its views as long as its model has the classes that it had. -/
theorem later (views : c.Views number w) (retains : w.Retains w')
    (same : (w'.model c.model).classes = (w.model c.model).classes) : c.Views number w' := by
  have kept := retains.augmentedModel views.there
  obtain ⟨more, added⟩ := retains.grows
  refine ⟨?_, kept ▸ views.model, kept ▸ views.config, ?_, kept ▸ views.services⟩
  · rw [added, List.length_append]
    exact Nat.lt_add_right _ views.there
  · have before := views.upToDate
    rw [IsUpToDate, modelOf, views.model] at before
    rw [IsUpToDate, modelOf, kept, views.model, same, before]

theorem modelOf (views : c.Views number w) : w.modelOf number = w.model c.model := by
  rw [Workspace.modelOf, views.model]

theorem view?_class (views : c.Views number w) {k : ClassView}
    (member : k ∈ (w.augmentedModel number).classes) :
    w.view? ⟨number, k.node.id, none⟩ = some (.ofClass k) :=
  AugmentedModel.view?_class views.upToDate member number

theorem view?_parameter (views : c.Views number w) {k : ClassView} {i : Nat} {p : ParameterView}
    (member : k ∈ (w.augmentedModel number).classes) (place : k.parameters[i]? = some p) :
    w.view? ⟨number, k.node.id, some i⟩ = some (.ofParameter k.node p) :=
  AugmentedModel.view?_parameter views.upToDate member number place

/-- There is a view of every class of the model. -/
theorem exists_view (views : c.Views number w) {t : Class}
    (member : t ∈ (w.model c.model).classes) :
    ∃ k ∈ (w.augmentedModel number).classes, k.node = t := by
  rw [← views.modelOf, ← views.upToDate] at member
  exact List.mem_map.mp member

/-- Every class of the model has one of the views. -/
theorem view_mem_refs (views : c.Views number w) {t : Class}
    (member : t ∈ (w.model c.model).classes) :
    ⟨number, t.id, none⟩ ∈ (w.augmentedModel number).refs number := by
  obtain ⟨k, isView, rfl⟩ := views.exists_view member
  exact List.mem_append_left _ (List.mem_map_of_mem isView)

/-- A view that was built is that of a class or that of a parameter of one. -/
theorem cases_of_mem_refs (views : c.Views number w)
    (member : v ∈ (w.augmentedModel number).refs number) :
    ∃ k ∈ (w.augmentedModel number).classes,
      v = ⟨number, k.node.id, none⟩ ∧ w.view? v = some (.ofClass k) ∨
      ∃ i p, v = ⟨number, k.node.id, some i⟩ ∧ w.view? v = some (.ofParameter k.node p) := by
  rcases List.mem_append.mp member with ofClass | ofParameter
  · obtain ⟨k, isView, rfl⟩ := List.mem_map.mp ofClass
    exact ⟨k, isView, .inl ⟨rfl, views.view?_class isView⟩⟩
  · obtain ⟨k, isView, place⟩ := List.mem_flatMap.mp ofParameter
    obtain ⟨i, inside, rfl⟩ := List.mem_map.mp place
    have there := List.getElem?_eq_getElem (List.mem_range.mp inside)
    exact ⟨k, isView, .inr ⟨i, _, rfl, views.view?_parameter isView there⟩⟩

/-- Every read that is there for a view comes to views that were built with it. -/
theorem hop_closed (views : c.Views number w) (faithful : w.Faithful)
    (member : v ∈ (w.augmentedModel number).refs number) {h : Hop} (applies : h.AppliesTo w v) :
    ∃ d, ((h.work v).outcome w).1 = .ok d ∧
      ∀ x ∈ d.ends, ∃ u ∈ (w.augmentedModel number).refs number, x = .view u := by
  obtain ⟨k, isView, ⟨rfl, there⟩ | ⟨i, p, rfl, there⟩⟩ := views.cases_of_mem_refs member <;>
    unfold Hop.AppliesTo at applies <;> rw [there] at applies
  · cases h with
    | dependents r =>
      rw [views.config] at applies
      have told := r.work_told faithful there views.upToDate (views.services k isView applies)
      refine ⟨_, told, fun x end' => ?_⟩
      obtain ⟨id, isTarget, rfl⟩ := List.mem_map.mp end'
      obtain ⟨t, here, rfl, -⟩ := Model.mem_targetIds isTarget
      rw [views.modelOf] at here
      exact ⟨_, views.view_mem_refs here, rfl⟩
    | parameters =>
      have read : (Work.read (.view _) "parameter_views").outcome w = _ :=
        Work.read_own 399 "parameter_views" there rfl
      refine ⟨_, congrArg Prod.fst read, fun x end' => ?_⟩
      obtain ⟨u, isParameter, rfl⟩ := List.mem_map.mp end'
      exact ⟨u, List.mem_append_right _ (List.mem_flatMap.mpr ⟨k, isView, isParameter⟩), rfl⟩
    | owner => cases applies
  · cases h with
    | dependents r => cases applies
    | parameters => cases applies
    | owner =>
      have read : (Work.read (.view _) "owner").outcome w = _ :=
        Work.read_own 399 "owner" there rfl
      refine ⟨_, congrArg Prod.fst read, fun x end' => ?_⟩
      cases List.mem_singleton.mp end'
      exact ⟨_, List.mem_append_left _ (List.mem_map_of_mem isView), rfl⟩

end Views

/-- The induction is on the way: what is built stays as it is, and what is reached is part of it. -/
theorem Reaches.closed {v' : ViewRef} (way : c.Reaches w v w' v') (views : c.Views number w)
    (faithful : w.Faithful) (member : v ∈ (w.augmentedModel number).refs number) :
    c.Views number w' ∧ w'.Faithful ∧ w'.augmentedModel number = w.augmentedModel number ∧
      v' ∈ (w.augmentedModel number).refs number := by
  induction way with
  | here => exact ⟨views, faithful, rfl, member⟩
  | @move w' v' move way same ih =>
    obtain ⟨views', faithful', kept, member'⟩ := ih
    have retains := (advances_move (w := w') move).retains
    exact ⟨views'.later retains same, faithful'.move move,
      (retains.augmentedModel views'.there).trans kept, member'⟩
  | @hop w' w'' v' u d h way applies came leads ih =>
    obtain ⟨views', faithful', kept, member'⟩ := ih
    have read := h.follows_work isFrame_readTo (Work.onlyReads_answer Work.depthLimit) v' w'
    have stays := h.follows_work isFrame_staysFaithful (answer_staysFaithful Work.depthLimit) v' w'
      faithful'
    rw [came] at read stays
    have retains := read.retains
    have same : (w''.model c.model).classes = (w'.model c.model).classes := by
      rw [Workspace.model, Workspace.model, read.models]
    refine ⟨views'.later retains same, stays, (retains.augmentedModel views'.there).trans kept, ?_⟩
    obtain ⟨d', came', closed⟩ := views'.hop_closed faithful' (kept.symm ▸ member') applies
    rw [came] at came'
    cases came'
    obtain ⟨u', isOwn, same'⟩ := closed _ leads
    cases same'
    exact kept ▸ isOwn

end Context

namespace Workspace

variable {w : Workspace}

/-- What a run leaves, and what has been done since without a class being added to its model. -/
theorem views_after (unused : w.IsUnused) (before between : List Move) {c c' : Context} {number : Nat}
    {w₁ : Workspace} (own : c.IsOwn (w.afterMoves before))
    (built : c.augment.outcome (w.afterMoves before) = (.ok (c', number), w₁))
    (same : ((w₁.afterMoves between).model c.model).classes = (w₁.model c.model).classes) :
    c.Views number (w₁.afterMoves between) ∧ (w₁.afterMoves between).Faithful := by
  have faithful := unused.faithful.moves before
  have sound := (advances_moves before).coherent unused.toIsFresh.coherent
  have views := Context.views_of_augment own faithful sound built
  have faithful₁ := augment_staysFaithful c _ faithful
  rw [built] at faithful₁
  exact ⟨views.later (advances_moves between).retains same, faithful₁.moves between⟩

/-- A class of the model leads to its view. -/
theorem classView_outcome {w : Workspace} {number : Nat} (upToDate : w.IsUpToDate number) {t : Class}
    (member : t ∈ (w.modelOf number).classes) :
    (Work.callMethod (.augmented number) "class_view" (.text t.id)).outcome w =
      (.ok (.view ⟨number, t.id, none⟩), w) := by
  have method : (Work.read (.augmented number) "class_view").outcome w =
      (.ok (.method (.augmented number) .classView), w) := Work.read_part 399 nofun rfl
  refine (Work.outcome_bind_of_ok method).trans ?_
  have answered : (Work.call (.method (.augmented number) .classView) [.text t.id]).outcome w =
      (Datum.classView w number (.text t.id), w) := rfl
  rw [answered, upToDate.classView member]

/-- Once a run has built its views, and whatever has been done since without a class being added to its
model: a service that is asked for classes by a stereotype gives, for each of its dependencies on such a
class in their order, the view of that class; what it gives for the configured stereotypes is the same,
and has nothing in common. A dependency on a class with a stereotype counts for this one alone. And no
way from one view to others ends, or leaves the views of the run. -/
theorem navigation_exact (unused : w.IsUnused) (before between : List Move) {c c' : Context}
    {number : Nat} {w₁ : Workspace} (own : c.IsOwn (w.afterMoves before))
    (built : c.augment.outcome (w.afterMoves before) = (.ok (c', number), w₁))
    (same : ((w₁.afterMoves between).model c.model).classes = (w₁.model c.model).classes) :
    let w₂ := w₁.afterMoves between
    let m := w₂.model c.model
    let refs := (w₂.augmentedModel number).refs number
    (∀ k ∈ m.classes, k.stereotype = some c.config.serviceStereotype →
      let get (r : DependentRead) := ((r.work ⟨number, k.id, none⟩).outcome w₂).1
      (∀ s : String, get (.classes (some s)) = .ok (.ofIds number (m.targetIds k (some s))) ∧
        ∀ id ∈ m.targetIds k (some s),
          (Work.callMethod (.augmented number) "class_view" (.text id)).outcome w₂ =
            (.ok (.view ⟨number, id, none⟩), w₂)) ∧
      get .services = get (.classes (some c.config.serviceStereotype)) ∧
      get .daos = get (.classes (some c.config.daoStereotype)) ∧
      ∀ d d', get .services = .ok d → get .daos = .ok d' → ∀ x ∈ d.ends, x ∉ d'.ends) ∧
    (∀ d id t s, d.targetClassId = some id → m.class? id = some t → t.stereotype = some s →
      ∃! s, m.target? (some s) d = some id) ∧
    ∀ v ∈ refs, ∀ w₃ v', c.Reaches w₂ v w₃ v' → v' ∈ refs ∧
      ∀ h : Hop, h.AppliesTo w₃ v' → ∃ d, ((h.work v').outcome w₃).1 = .ok d ∧
        ∀ x ∈ d.ends, ∃ u ∈ refs, x = .view u := by
  obtain ⟨views, faithful⟩ := views_after unused before between own built same
  intro w₂ m refs
  refine ⟨fun k member stereotype => ?_, fun d id t s far found named => ?_,
    fun v start w₃ v' way => ?_⟩
  · obtain ⟨kv, isView, rfl⟩ := views.exists_view member
    have told (r : DependentRead) := r.work_told faithful (views.view?_class isView) views.upToDate
      (views.services kv isView stereotype)
    rw [views.modelOf, views.config] at told
    refine ⟨fun s => ⟨told (.classes (some s)), fun id isTarget => ?_⟩,
      (told .services).trans (told (.classes _)).symm, (told .daos).trans (told (.classes _)).symm,
      fun d d' services daos x inServices inDaos => ?_⟩
    · obtain ⟨t, here, rfl, -⟩ := Model.mem_targetIds isTarget
      exact classView_outcome views.upToDate (views.modelOf ▸ here)
    · cases (told .services).symm.trans services
      cases (told .daos).symm.trans daos
      obtain ⟨id, isService, rfl⟩ := List.mem_map.mp inServices
      obtain ⟨id', isDao, same'⟩ := List.mem_map.mp inDaos
      cases same'
      have differ : some c.config.serviceStereotype ≠ some c.config.daoStereotype :=
        fun same => c.config.distinct (Option.some.inj same)
      exact Model.targetIds_disjoint differ isService isDao
  · exact Model.existsUnique_target? far found named
  · obtain ⟨views', faithful', kept, member⟩ := way.closed views faithful start
    refine ⟨member, fun h applies => ?_⟩
    have closed := views'.hop_closed faithful' (kept.symm ▸ member) applies
    rwa [kept] at closed

/-- A service with dependencies of all kinds: on another service, on data twice, on a class that is not
there, on a primitive type and on one that is unknown. -/
def sampleDesk : Class where
  id := "S1"
  name := "Desk"
  stereotype := some "Service"
  dependencies := [⟨⟨"Office", .object, some "S2", by decide⟩⟩,
    ⟨⟨"Ledger", .object, some "E", by decide⟩⟩, ⟨⟨"Gone", .object, some "X", by decide⟩⟩,
    ⟨⟨"Money", .primitive, none, by decide⟩⟩, ⟨⟨"", .unknown, some "E", by decide⟩⟩,
    ⟨⟨"Ledger", .object, some "E", by decide⟩⟩]
  operations := []
  tags := []
  valid := by decide

/-- A service that leads back. -/
def sampleOffice : Class where
  id := "S2"
  name := "Office"
  stereotype := some "Service"
  dependencies := [⟨⟨"Desk", .object, some "S1", by decide⟩⟩]
  operations := []
  tags := []
  valid := by decide

def sampleLedger : Class := ⟨"E", "Ledger", some "Entity", [], [], [], by decide⟩

def sampleBureau : Workspace :=
  { sampleShop with models := [⟨"bureau", [sampleDesk, sampleOffice, sampleLedger], 0, by decide⟩] }

/-- The data are given twice, and the ways between the two services go round and round. -/
theorem navigation_exact_sample :
    sampleBureau.IsUnused ∧ sampleRun.IsOwn sampleBureau ∧
      ∃ w₁, sampleRun.augment.outcome sampleBureau = (.ok (sampleRun, 0), w₁) ∧
        ((DependentRead.daos.work ⟨0, "S1", none⟩).outcome w₁).1 = .ok (.ofIds 0 ["E", "E"]) ∧
        ∀ w₃ v, sampleRun.Reaches w₁ ⟨0, "S1", none⟩ w₃ v → v ∈ (w₁.augmentedModel 0).refs 0 := by
  have unused : sampleBureau.IsUnused :=
    ⟨⟨by simp [sampleBureau, sampleShop], by simp [sampleBureau, sampleShop]⟩, rfl, rfl⟩
  have own : sampleRun.IsOwn sampleBureau := by
    refine ⟨by decide, fun e known => ?_⟩
    cases known
    exact ⟨by decide, rfl, rfl⟩
  have built : sampleRun.augment.outcome sampleBureau =
      (.ok (sampleRun, 0), (sampleRun.augment.outcome sampleBureau).2) := rfl
  obtain ⟨services, -, ways⟩ := navigation_exact unused [] [] own built rfl
  obtain ⟨get, -, daos, -⟩ := services sampleDesk List.mem_cons_self rfl
  refine ⟨unused, own, _, built, ?_, fun w₃ v way => (ways _ ?_ w₃ v way).1⟩
  · exact daos.trans (get "Entity").1
  · decide +kernel

end Workspace

end ServiceDiagram

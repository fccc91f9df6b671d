import ServiceDiagram.Proofs.Registry.Reserved
import ServiceDiagram.Proofs.Views.Faithful

namespace ServiceDiagram

/-- The names that are reserved for a kind of nodes are those that its views use themselves. -/
theorem Work.viewAttribute?_eq_none_iff (v : ViewRef) (n : NodeView) (name : String) :
    viewAttribute? v n name = none ↔ name ∉ n.node.kind.reservedNames := by
  cases n <;> unfold viewAttribute? <;> split <;>
    simp_all [NodeView.node, Node.kind, NodeKind.reservedNames, NodeKind.viewNames]

/-- The capabilities of a view have different names, and none that the view uses itself. -/
def NodeView.WellNamed (n : NodeView) : Prop :=
  (n.capabilities.map Capability.name).Nodup ∧
    ∀ c ∈ n.capabilities, c.name ∉ n.node.kind.reservedNames

/-- Views that are built with a registry free of reserved names have no capability with such a name.
-/
theorem AugmentedModel.wellNamed_of_build {r : Registry} {a : AugmentedModel} {v : ViewRef}
    {n : NodeView} (free : r.Unreserved)
    (each : ∀ k ∈ a.classes, ClassView.build r k.node = .ok k) (there : a.view? v = some n) :
    n.WellNamed := by
  unfold view? at there
  cases found : a.class? v.classId with
  | none => rw [found] at there; cases there
  | some k =>
    obtain ⟨ofClass, -, ofParameters⟩ := ClassView.of_build (each k (List.mem_of_find?_eq_some found))
    rw [found] at there
    cases place : v.parameter with
    | none =>
      rw [place] at there
      cases there
      exact free.granted ofClass
    | some i =>
      rw [place] at there
      obtain ⟨p, isView, rfl⟩ := Option.map_eq_some_iff.mp there
      exact free.granted (ofParameters p (List.mem_of_getElem? isView))

namespace Workspace

variable {w w' : Workspace}

/-- No registry has a capability with a reserved name, and no view. -/
structure WellNamed (w : Workspace) : Prop where
  registries : ∀ r ∈ w.registries, r.Unreserved
  views : ∀ v n, w.view? v = some n → n.WellNamed

namespace WellNamed

theorem of_same (named : w.WellNamed) (registries : w'.registries = w.registries)
    (augmented : w'.augmented = w.augmented) : w'.WellNamed := by
  refine ⟨registries ▸ named.registries, fun v n there => named.views v n ?_⟩
  rw [Workspace.view?, augmentedModel, ← augmented]
  exact there

theorem registry (named : w.WellNamed) (i : Nat) : (w.registry i).Unreserved := by
  unfold Workspace.registry
  cases here : w.registries[i]? with
  | none => exact Registry.unreserved_empty
  | some r => exact named.registries r (List.mem_of_getElem? here)

theorem inserted (named : w.WellNamed) (i : Nat) {scope : Scope} {cs : List Capability}
    (allowed : ∀ c ∈ cs, c.name ∉ scope.kind.reservedNames) (events : List Event) :
    { w with
      registries := w.registries.set i ((w.registry i).insert scope cs).1
      events := events }.WellNamed := by
  refine ⟨fun r member => ?_, named.views⟩
  rcases List.mem_or_eq_of_mem_set member with old | rfl
  · exact named.registries r old
  · exact (named.registry i).insert allowed

/-- Views that have just been built are named as their registry allows. -/
theorem withViews (named : w.WellNamed) {engine model : Nat} {classes : List ClassView}
    (built : AugmentedModel.buildClasses (w.registry (w.engine engine).registry) (w.model model) =
      .ok classes) : (w.withViews engine model classes).WellNamed := by
  refine ⟨named.registries, fun v n there => ?_⟩
  have inside := lt_of_view? there
  rw [length_withViews] at inside
  rw [Workspace.view?] at there
  rcases Nat.lt_succ_iff_lt_or_eq.mp inside with old | new
  · rw [augmentedModel_withViews_of_lt engine model classes old] at there
    exact named.views v n there
  · rw [new, augmentedModel_withViews] at there
    exact AugmentedModel.wellNamed_of_build (named.registry _)
      (AugmentedModel.of_buildClasses built).2.2 there

end WellNamed

/-- What was well named is so still. -/
def StaysWellNamed (w w' : Workspace) : Prop := w.WellNamed → w'.WellNamed

theorem isFrame_staysWellNamed : IsFrame StaysWellNamed where
  trans := fun first later named => later (first named)
  blind := fun _ registries _ _ augmented _ _ named => named.of_same registries augmented

theorem answer_staysWellNamed (depth : Nat) (request : Request) :
    (Work.answer depth request).Follows StaysWellNamed :=
  Work.follows_answer isFrame_staysWellNamed
    (fun _ _ _ _ _ _ _ _ _ _ _ _ _ evaluated _ named => (evaluated named).of_same rfl rfl)
    depth request

theorem grant_staysWellNamed (i : Nat) {scope : Scope} {cs : List Capability}
    (allowed : ∀ c ∈ cs, c.name ∉ scope.kind.reservedNames) :
    (Work.grant i scope cs).Follows StaysWellNamed :=
  fun _ named => named.inserted i allowed _

/-- Building views keeps a workspace free of them. -/
theorem apply_staysWellNamed (engine : Nat) (model : Option Nat) :
    (Work.apply engine model).Follows StaysWellNamed := by
  intro w named
  cases model with
  | none => exact named
  | some model =>
    rw [Work.apply_outcome]
    cases Work.appliedBefore? w (w.engine engine) model with
    | some number => exact named.of_same rfl rfl
    | none =>
      cases built : AugmentedModel.buildClasses (w.registry (w.engine engine).registry)
        (w.model model) with
      | error e => exact named
      | ok classes => exact named.withViews built

theorem augment_staysWellNamed (c : Context) : c.augment.Follows StaysWellNamed := by
  have services : ∀ c ∈ Capability.ofServices, c.name ∉ NodeKind.ofClass.reservedNames := by decide
  have parameters : ∀ c ∈ Capability.ofParameters, c.name ∉ NodeKind.ofParameter.reservedNames := by
    decide
  exact c.follows_augment isFrame_staysWellNamed (grant_staysWellNamed c.registry services)
    (grant_staysWellNamed c.registry parameters) (fun _ _ _ _ named => named.of_same rfl rfl)
    apply_staysWellNamed

namespace WellNamed

theorem step (named : w.WellNamed) (engine : Nat) (s : Step) : (s.after engine w).WellNamed := by
  cases s with
  | register i a =>
    rw [Step.after, Work.register_outcome, Registry.register_eq]
    cases read : a.read with
    | error e => exact named
    | ok call => exact named.inserted i (Registration.unreserved_of_read read) _
  | addClass i c =>
    rw [Step.after, Work.addClass_outcome]
    cases (w.model i).addClass c with
    | error e => exact named
    | ok m => exact named.of_same rfl rfl
  | apply target => exact apply_staysWellNamed engine target w named

theorem moves (named : w.WellNamed) (moves : List Move) : (w.afterMoves moves).WellNamed := by
  refine follows_moves isFrame_staysWellNamed (fun move w => ?_) moves w named
  exact follows_move isFrame_staysWellNamed (answer_staysWellNamed Work.depthLimit)
    (fun engine s _ named => named.step engine s) augment_staysWellNamed
    (fun _ _ _ _ _ named => named.of_same rfl rfl) move w

end WellNamed

theorem IsUnused.wellNamed (unused : w.IsUnused) : w.WellNamed where
  registries := fun r member => by
    rw [unused.registries r member]
    exact Registry.unreserved_empty
  views := fun v n there => by
    have inside := lt_of_view? there
    rw [unused.augmented] at inside
    cases inside

end Workspace

section Bare

/-- The view without what it offers. -/
def ParameterView.bare (p : ParameterView) : ParameterView := { p with capabilities := [] }

/-- The view and those of its parameters without what they offer. -/
def ClassView.bare (k : ClassView) : ClassView := ⟨k.node, [], k.parameters.map ParameterView.bare⟩

def NodeView.bare : NodeView → NodeView
  | ofClass k => ofClass k.bare
  | ofParameter c p => ofParameter c p.bare

def AugmentedModel.bare (a : AugmentedModel) : AugmentedModel :=
  { a with classes := a.classes.map ClassView.bare }

/-- A workspace with the same views, none of which offers anything. -/
def Workspace.bare (w : Workspace) : Workspace :=
  { w with augmented := w.augmented.map AugmentedModel.bare }

variable (w : Workspace) (v : ViewRef) (n : NodeView)

theorem Workspace.augmentedModel_bare (number : Nat) :
    w.bare.augmentedModel number = (w.augmentedModel number).bare := by
  unfold Workspace.augmentedModel Workspace.bare
  rw [List.getElem?_map]
  cases w.augmented[number]? <;> rfl

theorem AugmentedModel.class?_bare (a : AugmentedModel) (id : String) :
    a.bare.class? id = (a.class? id).map ClassView.bare := by
  rw [class?, bare, List.find?_map]
  rfl

/-- The bare views are the views without what was granted. -/
theorem Workspace.view?_bare : w.bare.view? v = (w.view? v).map NodeView.bare := by
  rw [Workspace.view?, augmentedModel_bare, AugmentedModel.view?, AugmentedModel.class?_bare,
    Workspace.view?, AugmentedModel.view?]
  cases (w.augmentedModel v.augmented).class? v.classId with
  | none => rfl
  | some k =>
    cases v.parameter with
    | none => rfl
    | some i =>
      simp only [Option.map_some, ClassView.bare, List.getElem?_map]
      cases k.parameters[i]? <;> rfl

/-- What a view has of itself does not depend on what it offers, the names of this excepted. -/
theorem Work.viewAttribute?_bare {name : String} (other : name ≠ "capability_names") :
    viewAttribute? v n.bare name = viewAttribute? v n name := by
  by_cases own : name ∈ n.node.kind.reservedNames
  · cases n with
    | ofClass k =>
      have refs : AugmentedModel.parameterRefs v.augmented k.bare =
          AugmentedModel.parameterRefs v.augmented k := by
        simp [AugmentedModel.parameterRefs, ClassView.bare]
      simp only [NodeView.node, Node.kind, NodeKind.reservedNames, NodeKind.viewNames,
        List.cons_append, List.nil_append, List.mem_cons, List.not_mem_nil, or_false, other,
        false_or] at own
      rcases own with rfl | rfl | rfl | rfl | rfl
      case inr.inr.inr.inr => exact congrArg (fun refs => some (pure (Datum.ofRefs refs))) refs
      all_goals rfl
    | ofParameter c p =>
      simp only [NodeView.node, Node.kind, NodeKind.reservedNames, NodeKind.viewNames,
        List.cons_append, List.nil_append, List.mem_cons, List.not_mem_nil, or_false, other,
        false_or] at own
      rcases own with rfl | rfl | rfl | rfl | rfl | rfl | rfl <;> rfl
  · have sameKind : n.bare.node.kind = n.node.kind := by cases n <;> rfl
    rw [(viewAttribute?_eq_none_iff v n name).mpr own,
      (viewAttribute?_eq_none_iff v n.bare name).mpr (sameKind ▸ own)]

theorem Work.outcome_viewAttribute_bare {name : String} {work : Work Datum}
    (own : viewAttribute? v n name = some work) : (work.outcome w.bare).1 = (work.outcome w).1 := by
  unfold viewAttribute? at own
  split at own
  case h_10 owner p =>
    have system : (w.bare.augmentedModel v.augmented).typeSystem =
        (w.augmentedModel v.augmented).typeSystem := by
      rw [Workspace.augmentedModel_bare]
      rfl
    have types (i : Nat) : w.bare.typeSystem i = w.typeSystem i := rfl
    cases own
    unfold descriptor
    rw [outcome_get, outcome_get]
    simp only [system, types]
    split <;> rfl
  case h_11 => cases own
  all_goals
    cases own
    rfl

/-- What is read of the node does not depend on capabilities. -/
theorem Work.outcome_nodeAttribute_bare (n : Node) (name : String) :
    ((nodeAttribute n name).outcome w.bare).1 = ((nodeAttribute n name).outcome w).1 := by
  have same : (Datum.ofNode n).attribute? w.bare name = (Datum.ofNode n).attribute? w name := by
    cases n <;> rfl
  unfold nodeAttribute
  rw [outcome_get, outcome_get, same]
  split <;> rfl

end Bare

namespace Workspace

variable {w : Workspace} {v : ViewRef} {n : NodeView}

/-- The name of a capability is read as the capability: as the function, bound to the view, or as the
result of the accessor that is kept, or else as that of evaluating it now. -/
structure Resolves (w : Workspace) (v : ViewRef) (c : Capability) : Prop where
  function : c.kind = .function →
    (Work.read (.view v) c.name).outcome w = (.ok (.function v c.definition), w)
  kept : c.kind = .accessor → ∀ d, w.memo.lookup (v, c.name) = some d →
    (Work.read (.view v) c.name).outcome w = (.ok d, w)
  evaluated : c.kind = .accessor → w.memo.lookup (v, c.name) = none → ∀ result w',
    (Work.evaluate (Work.answer 399) c.definition v []).outcome w = (result, w') →
    ((Work.read (.view v) c.name).outcome w).1 =
      result.map fun d => (w'.memo.lookup (v, c.name)).getD d

/-- A capability that a view has is found under its name. -/
theorem WellNamed.resolves (named : w.WellNamed) (there : w.view? v = some n) {c : Capability}
    (member : c ∈ n.capabilities) :
    Work.viewAttribute? v n c.name = none ∧ w.Resolves v c := by
  obtain ⟨differ, free⟩ := named.views v n there
  have notOwn := (Work.viewAttribute?_eq_none_iff v n c.name).mpr (free c member)
  have granted := (Registry.find?_name_iff differ c.name c).mpr ⟨member, rfl⟩
  have read : (Work.read (.view v) c.name).outcome w = _ :=
    Work.read_capability 399 there notOwn granted
  refine ⟨notOwn, fun isFunction => ?_, fun isAccessor d kept => ?_,
    fun isAccessor unread result w' came => ?_⟩
  · rw [read, isFunction]
  · rw [read, isAccessor]
    exact Work.accessor_of_kept kept
  · rw [read, isAccessor]
    exact Work.accessor_unread unread came

/-- A public name that is not that of a capability is read as an attribute of the view, or else as one
of its node. -/
theorem read_ungranted (there : w.view? v = some n) {name : String}
    (ungranted : n.capability? name = none) (isPublic : name.toList.head? ≠ some '_') :
    (Work.read (.view v) name).outcome w =
      ((Work.viewAttribute? v n name).getD (Work.nodeAttribute n.node name)).outcome w := by
  change (Work.readView (Work.answer 399) v name).outcome w = _
  rw [Work.readView_outcome, there]
  dsimp only
  unfold Work.readNode
  cases Work.viewAttribute? v n name with
  | some work => rfl
  | none => simp only [isPublic, if_false, ungranted, Option.getD_none]

/-- Any other public name is looked for as if the view offered nothing. -/
theorem read_bare (there : w.view? v = some n) {name : String}
    (ungranted : n.capability? name = none) (isPublic : name.toList.head? ≠ some '_')
    (other : name ≠ "capability_names") :
    ((Work.read (.view v) name).outcome w.bare).1 = ((Work.read (.view v) name).outcome w).1 := by
  have there' : w.bare.view? v = some n.bare := by rw [view?_bare, there, Option.map_some]
  have ungranted' : n.bare.capability? name = none := by cases n <;> rfl
  have node : n.bare.node = n.node := by cases n <;> rfl
  rw [read_ungranted there ungranted isPublic, read_ungranted there' ungranted' isPublic, node,
    Work.viewAttribute?_bare v n other]
  cases own : Work.viewAttribute? v n name with
  | some work => exact Work.outcome_viewAttribute_bare w v n own
  | none => exact Work.outcome_nodeAttribute_bare w n.node name

/-- Whatever is done with registries, models and views: each name that a view shows among those of its
capabilities is that of one capability and of no attribute of the view, and is read as this capability,
whether or not the node has such an attribute. Any other public name is read as an attribute of the view,
or else as one of the node, and so it is where the views offer nothing. -/
theorem capabilities_visible (unused : w.IsUnused) (moves : List Move)
    (there : (w.afterMoves moves).view? v = some n) :
    let w' := w.afterMoves moves
    let read (name : String) (w : Workspace) := (Work.read (.view v) name).outcome w
    read "capability_names" w' = (.ok (.names n.capabilityNames), w') ∧
    (∀ name ∈ n.capabilityNames, Work.viewAttribute? v n name = none ∧
      ∃ c, (∀ d, d ∈ n.capabilities ∧ d.name = name ↔ d = c) ∧ w'.Resolves v c) ∧
    ∀ name, name ∉ n.capabilityNames → name.toList.head? ≠ some '_' →
      read name w' =
        ((Work.viewAttribute? v n name).getD (Work.nodeAttribute n.node name)).outcome w' ∧
      (name ≠ "capability_names" → (read name w'.bare).1 = (read name w').1) := by
  intro w' read
  have named := unused.wellNamed.moves moves
  have names (name : String) : name ∈ n.capabilityNames ↔ name ∈ n.capabilities.map Capability.name :=
    List.mem_mergeSort
  refine ⟨Work.read_own 399 "capability_names" there rfl, fun name shown => ?_,
    fun name notShown isPublic => ?_⟩
  · obtain ⟨c, member, rfl⟩ := List.mem_map.mp ((names name).mp shown)
    obtain ⟨notOwn, resolves⟩ := named.resolves there member
    refine ⟨notOwn, c, fun d => ⟨fun ⟨isCapability, sameName⟩ => ?_, ?_⟩, resolves⟩
    · exact Registry.agree_of_nodup (named.views v n there).1 d isCapability c member sameName
    · rintro rfl
      exact ⟨member, rfl⟩
  · have ungranted : n.capability? name = none :=
      (Registry.find?_name_none n.capabilities name).mpr (mt (names name).mpr notShown)
    exact ⟨read_ungranted there ungranted isPublic, read_bare there ungranted isPublic⟩

def sampleBoutique : Workspace :=
  { sampleShop with models := [⟨"boutique", [sampleClass], 0, by simp⟩] }

/-- A capability with a name that every class has, and then views. -/
def sampleNaming : List Move :=
  [.act (.step 0 (.register 0
      ⟨.ok .ofClass, .ok .all, [.capability ⟨"name", .allowExternalAccess, .accessor, by decide⟩], []⟩)),
    .act (.step 0 (.apply (some 0)))]

/-- The name of a class is hidden by the capability, the id is not. -/
theorem capabilities_visible_sample :
    sampleBoutique.IsUnused ∧ ∃ n,
      (sampleBoutique.afterMoves sampleNaming).view? sampleView = some n ∧
        "name" ∈ n.capabilityNames ∧
        ((Work.read (.view sampleView) "name").outcome (sampleBoutique.afterMoves sampleNaming)).1 =
          .ok (.bool true) ∧
        ((Work.read (.view sampleView) "id").outcome (sampleBoutique.afterMoves sampleNaming)).1 =
          .ok (.text "C1") := by
  have unused : sampleBoutique.IsUnused :=
    ⟨⟨by simp [sampleBoutique, sampleShop], by simp [sampleBoutique, sampleShop]⟩, rfl, rfl⟩
  let c : Capability := ⟨"name", .allowExternalAccess, .accessor, by decide⟩
  let n : NodeView := .ofClass ⟨sampleClass, [c], []⟩
  have there : (sampleBoutique.afterMoves sampleNaming).view? sampleView = some n := rfl
  have names : n.capabilityNames = ["name"] := by
    simp [NodeView.capabilityNames, NodeView.capabilities, n, c]
  obtain ⟨-, granted, others⟩ := capabilities_visible unused sampleNaming there
  obtain ⟨-, d, isOnly, resolves⟩ := granted "name" (by simp [names])
  cases (isOnly c).mp ⟨List.mem_singleton_self c, rfl⟩
  have id := (others "id" (by simp [names]) (by decide)).1
  exact ⟨unused, n, there, by simp [names], resolves.evaluated rfl rfl _ _ rfl, congrArg Prod.fst id⟩

end Workspace
end ServiceDiagram

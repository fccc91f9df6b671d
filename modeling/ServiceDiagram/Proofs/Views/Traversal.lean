import Mathlib.Data.List.Forall2
import ServiceDiagram.Proofs.Views.Faithful

namespace ServiceDiagram

/-- Reads a method and calls it. -/
def Work.invoke (on : Datum) (name : String) (args : List Datum) : Work Datum := do
  call (← read on name) args

theorem Work.invoke_augmented {w : Workspace} {number : Nat} {name : String} {args : List Datum}
    (m : Method)
    (found : (Datum.augmented number).attribute? w name = some (.method (.augmented number) m))
    (arity : args.length = m.parameters.length) :
    (invoke (.augmented number) name args).outcome w =
      (Datum.answerAugmented w number m (args.head?.getD .null), w) := by
  have method : (Work.read (.augmented number) name).outcome w =
      (.ok (.method (.augmented number) m), w) := Work.read_part 399 nofun found
  refine (Work.outcome_bind_of_ok method).trans ?_
  have checked : (ofExcept (checkArity (m.owner ++ "." ++ m.name) args.length m.parameters)).outcome w =
      (.ok (), w) := by
    simp only [checkArity, arity, Nat.lt_irrefl, if_false]
    rfl
  exact Work.outcome_bind_of_ok checked

namespace AugmentedModel

/-- The references to the views of the classes. -/
def classRefs (number : Nat) (a : AugmentedModel) : List ViewRef := a.classes.map (refOf number)

/-- The references to the views of the parameters, class by class. -/
def parameterGroups (number : Nat) (a : AugmentedModel) : List (List ViewRef) :=
  a.classes.map (parameterRefs number)

end AugmentedModel

namespace Workspace

variable {w : Workspace} {v : ViewRef}

/-- A view shows a datum under a name, and to read it changes nothing. -/
def Shows (w : Workspace) (v : ViewRef) (name : String) (d : Datum) : Prop :=
  (Work.read (.view v) name).outcome w = (.ok d, w)

def WrapsClass (w : Workspace) (v : ViewRef) (c : Class) : Prop :=
  w.Shows v "node" (.ofClass c) ∧ w.Shows v "class_" (.ofClass c)

/-- A view wraps a parameter, shows its operation, and leads to that one of some views which wraps its
class. -/
structure WrapsParameter (w : Workspace) (vs : List ViewRef) (u : ViewRef)
    (place : Class × Operation × Parameter) : Prop where
  node : w.Shows u "node" (.parameter place.2.2)
  parameter : w.Shows u "parameter" (.parameter place.2.2)
  operation : w.Shows u "operation" (.operation place.2.1)
  owner : ∃ v ∈ vs, w.Shows u "owner" (.view v) ∧ w.WrapsClass v place.1

/-- The names that a view shows are those of the capabilities that a registry grants its node. -/
def Offers (w : Workspace) (r : Registry) (v : ViewRef) : Prop :=
  ∃ n cs, w.Shows v "node" (.ofNode n) ∧ r.capabilitiesFor n.kind n = .ok cs ∧
    w.Shows v "capability_names" (.names ((cs.map Capability.name).mergeSort NodeFilter.nameLe))

/-- Work comes to that one of some views which wraps a class; without a class it comes to something
else. -/
def ComesTo (w : Workspace) (vs : List ViewRef) (x : Work Datum) (otherwise : Except Failure Datum) :
    Option Class → Prop
  | some c => ∃ v ∈ vs, x.outcome w = (.ok (.view v), w) ∧ w.WrapsClass v c
  | none => x.outcome w = (otherwise, w)

theorem shows_own {n : NodeView} {name : String} {d : Datum} (there : w.view? v = some n)
    (own : Work.viewAttribute? v n name = some (pure d)) : w.Shows v name d :=
  Work.read_own 399 name there own

theorem wrapsClass {k : ClassView} (there : w.view? v = some (.ofClass k)) : w.WrapsClass v k.node :=
  ⟨shows_own there rfl, shows_own there rfl⟩

theorem offers {r : Registry} {n : NodeView} (there : w.view? v = some n)
    (granted : r.capabilitiesFor n.node.kind n.node = .ok n.capabilities) : w.Offers r v :=
  ⟨n.node, n.capabilities, shows_own there rfl, granted, shows_own there rfl⟩

section Nodes

variable {number : Nat} {m : Model}
  (nodes : (w.augmentedModel number).classes.map ClassView.node = m.classes)

include nodes

theorem wrapsClass_refOf {k : ClassView} (member : k ∈ (w.augmentedModel number).classes) :
    w.WrapsClass (AugmentedModel.refOf number k) k.node :=
  wrapsClass (AugmentedModel.view?_class nodes member number)

/-- The views of classes are those of the classes of the model, in its order. -/
theorem wraps_classes :
    List.Forall₂ w.WrapsClass ((w.augmentedModel number).classRefs number) m.classes := by
  rw [AugmentedModel.classRefs, ← nodes, List.forall₂_map_left_iff, List.forall₂_map_right_iff,
    List.forall₂_same]
  exact fun k member => wrapsClass_refOf nodes member

/-- No view is given twice. -/
theorem nodup_classRefs : ((w.augmentedModel number).classRefs number).Nodup := by
  refine List.Nodup.of_map ViewRef.classId ?_
  rw [AugmentedModel.classRefs, List.map_map]
  exact AugmentedModel.nodup_ids nodes

/-- Views of parameters differ by their class, and in one class by their place. -/
theorem nodup_parameterGroups :
    ((w.augmentedModel number).parameterGroups number).flatten.Nodup := by
  rw [AugmentedModel.parameterGroups, ← List.flatMap_def, List.nodup_flatMap]
  constructor
  · intro k _
    refine List.nodup_range.map fun i j same => ?_
    cases same
    rfl
  · have differ := List.pairwise_map.mp (AugmentedModel.nodup_ids nodes)
    refine differ.imp fun {k k'} other u inK inK' => other ?_
    obtain ⟨i, -, rfl⟩ := List.mem_map.mp inK
    obtain ⟨j, -, same⟩ := List.mem_map.mp inK'
    exact (congrArg ViewRef.classId same).symm

/-- The views of the parameters of one class. -/
theorem wraps_parameters_of {k : ClassView} (member : k ∈ (w.augmentedModel number).classes)
    (same : (k.parameters.map fun p => (p.operation, p.parameter)) = k.node.parameters) :
    List.Forall₂ (w.WrapsParameter ((w.augmentedModel number).classRefs number))
      (AugmentedModel.parameterRefs number k)
      (k.node.parameters.map fun (o, p) => (k.node, o, p)) := by
  have length : (AugmentedModel.parameterRefs number k).length =
      (k.node.parameters.map fun (o, p) => (k.node, o, p)).length := by
    simp [AugmentedModel.parameterRefs, ← same]
  refine List.forall₂_of_length_eq_of_get length fun i here there => ?_
  have inside : i < k.parameters.length := by simpa [AugmentedModel.parameterRefs] using here
  have isView := AugmentedModel.view?_parameter nodes member number
    (List.getElem?_eq_getElem inside)
  simp only [AugmentedModel.parameterRefs, ← same, List.get_eq_getElem, List.getElem_map,
    List.getElem_range]
  refine ⟨shows_own isView rfl, shows_own isView rfl, shows_own isView rfl,
    AugmentedModel.refOf number k, List.mem_map_of_mem member, shows_own isView rfl,
    wrapsClass_refOf nodes member⟩

/-- A view is found wherever its class is. -/
theorem comesTo_of_find? {p : Class → Bool} {x : Work Datum} {otherwise : Except Failure Datum}
    (found : ∀ k, (w.augmentedModel number).classes.find? (fun k => p k.node) = some k →
      x.outcome w = (.ok (.view (AugmentedModel.refOf number k)), w))
    (absent : (w.augmentedModel number).classes.find? (fun k => p k.node) = none →
      x.outcome w = (otherwise, w)) :
    w.ComesTo ((w.augmentedModel number).classRefs number) x otherwise (m.classes.find? p) := by
  rw [← AugmentedModel.find?_nodes nodes p]
  cases here : (w.augmentedModel number).classes.find? fun k => p k.node with
  | none => exact absent here
  | some k =>
    have member := List.mem_of_find?_eq_some here
    exact ⟨_, List.mem_map_of_mem member, found k here, wrapsClass_refOf nodes member⟩

/-- To look for a name leads to the view of the first class that has it. -/
theorem comesTo_find (name : String) :
    w.ComesTo ((w.augmentedModel number).classRefs number)
      (Work.invoke (.augmented number) "find" [.text name]) (.ok .null) (m.findClass? name) := by
  have asked : (Work.invoke (.augmented number) "find" [.text name]).outcome w =
      (.ok (.ofView? number ((w.augmentedModel number).findClass? name)), w) :=
    Work.invoke_augmented .findView rfl rfl
  refine comesTo_of_find? nodes (fun k here => ?_) fun here => ?_
  · rw [asked, AugmentedModel.findClass?, here]
    rfl
  · rw [asked, AugmentedModel.findClass?, here]
    rfl

/-- To ask for an id leads to the view of the class with this id. -/
theorem comesTo_classView (id : String) :
    w.ComesTo ((w.augmentedModel number).classRefs number)
      (Work.invoke (.augmented number) "class_view" [.text id]) (.error (.unknownClass id))
      (m.class? id) := by
  have asked : (Work.invoke (.augmented number) "class_view" [.text id]).outcome w =
      (Datum.classView w number (.text id), w) := Work.invoke_augmented .classView rfl rfl
  refine comesTo_of_find? nodes (fun k here => ?_) fun here => ?_
  · simp only [asked, Datum.classView, AugmentedModel.class?, here]
  · simp only [asked, Datum.classView, AugmentedModel.class?, here]

end Nodes

section Built

variable {number : Nat} {r : Registry} {m : Model}
  (built : AugmentedModel.buildClasses r m = .ok (w.augmentedModel number).classes)

include built

/-- The views of parameters are those of the parameters of the model, class by class and in their
order. -/
theorem wraps_parameters :
    List.Forall₂ (w.WrapsParameter ((w.augmentedModel number).classRefs number))
      ((w.augmentedModel number).parameterGroups number).flatten m.parameters := by
  obtain ⟨-, nodes, each⟩ := AugmentedModel.of_buildClasses built
  rw [Model.parameters, List.flatMap_def, ← nodes, List.map_map]
  refine List.rel_flatten ?_
  rw [AugmentedModel.parameterGroups, List.forall₂_map_left_iff, List.forall₂_map_right_iff,
    List.forall₂_same]
  exact fun k member => wraps_parameters_of nodes member (ClassView.of_build (each k member)).2.1

/-- Every view offers what the registry grants its node. -/
theorem offers_of_mem {v : ViewRef}
    (member : v ∈ (w.augmentedModel number).classRefs number ++
      ((w.augmentedModel number).parameterGroups number).flatten) :
    w.Offers r v := by
  obtain ⟨-, nodes, each⟩ := AugmentedModel.of_buildClasses built
  rcases List.mem_append.mp member with ofClass | ofParameter
  · obtain ⟨k, isView, rfl⟩ := List.mem_map.mp ofClass
    exact offers (AugmentedModel.view?_class nodes isView number)
      (ClassView.of_build (each k isView)).1
  · rw [AugmentedModel.parameterGroups, ← List.flatMap_def] at ofParameter
    obtain ⟨k, isView, place⟩ := List.mem_flatMap.mp ofParameter
    obtain ⟨i, inside, rfl⟩ := List.mem_map.mp place
    have there := List.getElem?_eq_getElem (List.mem_range.mp inside)
    exact offers (AugmentedModel.view?_parameter nodes isView number there)
      ((ClassView.of_build (each k isView)).2.2 _ (List.mem_of_getElem? there))

end Built

/-- Whatever was done before: where the views of a model are given, the views of classes that can be gone
through wrap the classes of the model, in their order and one each, and so do the views of parameters with
the parameters of the model, the operations and the classes that these belong to. The views of parameters
are the same ones that the views of the classes have, class by class. Every view offers what the registry
grants its node. And a view is found, by name or by id, where the model has a class, which it wraps. -/
theorem traversals_exact {w w' : Workspace} (fresh : w.IsFresh) (before : List Move)
    {engine model number : Nat}
    (applied : (Work.apply engine (some model)).outcome (w.afterMoves before) = (.ok number, w')) :
    let m := (w.afterMoves before).model model
    let r := (w.afterMoves before).registry ((w.afterMoves before).engine engine).registry
    let invoke (name : String) (args : List Datum) := Work.invoke (.augmented number) name args
    ∃ (vs : List ViewRef) (parts : List (List ViewRef)),
      ((invoke "iter_classes" []).outcome w' = (.ok (.ofRefs vs), w') ∧ vs.Nodup ∧
        List.Forall₂ w'.WrapsClass vs m.classes) ∧
      ((invoke "iter_parameters" []).outcome w' = (.ok (.ofRefs parts.flatten), w') ∧
        parts.flatten.Nodup ∧ List.Forall₂ (w'.WrapsParameter vs) parts.flatten m.parameters) ∧
      List.Forall₂ (fun v part => w'.Shows v "parameter_views" (.ofRefs part)) vs parts ∧
      (∀ v ∈ vs ++ parts.flatten, w'.Offers r v) ∧
      (∀ name, w'.ComesTo vs (invoke "find" [.text name]) (.ok .null) (m.findClass? name)) ∧
      ∀ id, w'.ComesTo vs (invoke "class_view" [.text id]) (.error (.unknownClass id))
        (m.class? id) := by
  intro m r invoke
  have sound := (advances_moves before).coherent fresh.coherent
  have built := built_of_apply (sound engine) applied
  obtain ⟨-, nodes, -⟩ := AugmentedModel.of_buildClasses built
  let a := w'.augmentedModel number
  have ofClasses : (invoke "iter_classes" []).outcome w' = (.ok (.ofRefs (a.classRefs number)), w') := by
    rw [Datum.ofRefs, AugmentedModel.classRefs, List.map_map]
    exact Work.invoke_augmented .iterClassViews rfl rfl
  have ofParameters : (invoke "iter_parameters" []).outcome w' =
      (.ok (.ofRefs (a.parameterGroups number).flatten), w') := by
    rw [AugmentedModel.parameterGroups, ← List.flatMap_def]
    exact Work.invoke_augmented .iterParameterViews rfl rfl
  have groups : List.Forall₂ (fun v part => w'.Shows v "parameter_views" (.ofRefs part))
      (a.classRefs number) (a.parameterGroups number) := by
    rw [AugmentedModel.classRefs, AugmentedModel.parameterGroups, List.forall₂_map_left_iff,
      List.forall₂_map_right_iff, List.forall₂_same]
    exact fun k member => shows_own (AugmentedModel.view?_class nodes member number) rfl
  exact ⟨a.classRefs number, a.parameterGroups number,
    ⟨ofClasses, nodup_classRefs nodes, wraps_classes nodes⟩,
    ⟨ofParameters, nodup_parameterGroups nodes, wraps_parameters built⟩, groups,
    fun v => offers_of_mem built, comesTo_find nodes, comesTo_classView nodes⟩

def sampleCharge : Operation := ⟨"charge", [sampleAmount], by decide⟩

/-- A class with two operations that are equal. -/
def sampleBooth : Class := ⟨"B", "Booth", none, [], [sampleCharge, sampleCharge], [], by decide⟩

def sampleBooths : Workspace :=
  { sampleShop with models := [⟨"booths", [sampleBooth], 0, by simp⟩] }

/-- The two operations that are equal have two views of their parameter. -/
theorem traversals_exact_sample :
    sampleBooths.IsFresh ∧
      ∃ w', (Work.apply 0 (some 0)).outcome sampleBooths = (.ok 0, w') ∧
        ∃ u u', u ≠ u' ∧ (Work.invoke (.augmented 0) "iter_parameters" []).outcome w' =
            (.ok (.ofRefs [u, u']), w') ∧
          w'.Shows u "operation" (.operation sampleCharge) ∧
          w'.Shows u' "operation" (.operation sampleCharge) := by
  have fresh : sampleBooths.IsFresh := ⟨by simp [sampleBooths, sampleShop],
    by simp [sampleBooths, sampleShop]⟩
  have applied : (Work.apply 0 (some 0)).outcome sampleBooths =
      (.ok 0, ((Work.apply 0 (some 0)).outcome sampleBooths).2) := rfl
  obtain ⟨vs, parts, -, ⟨came, differ, wraps⟩, -⟩ := traversals_exact fresh [] applied
  obtain ⟨u, rest, first, wraps, isFirst⟩ := List.forall₂_cons_right_iff.mp wraps
  obtain ⟨u', rest', second, wraps, isSecond⟩ := List.forall₂_cons_right_iff.mp wraps
  cases wraps
  rw [isFirst, isSecond] at came differ
  exact ⟨fresh, _, applied, u, u', by simpa using differ, came, first.operation, second.operation⟩

end Workspace
end ServiceDiagram

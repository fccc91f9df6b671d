import ServiceDiagram.Proofs.Diagram.Targets
import ServiceDiagram.Proofs.Ingest.Steady

namespace ServiceDiagram

namespace Ingest

/-- The far end that three texts describe, each of which may be missing. -/
def targetOf (kind classId typeName : Option String) : Except NodeError TypeRef :=
  let k := TargetKind.ofLabel (kind.getD "")
  let name := textOr typeName (classId.getD "")
  if k = .object ∧ classId = none then TypeRef.make name .unknown none
  else TypeRef.make name k (if k = .object then classId else none)

/-- A far end without a name that must have one: an object with an empty class, or a primitive
type. -/
def Nameless (kind classId typeName : Option String) : Prop :=
  typeName.getD "" = "" ∧
    (kind = some "Object" ∧ classId = some "" ∨ kind = some "Primitive" ∧ classId.getD "" = "")

/-- A property is missing, null or a text. -/
def TellsText (fields : Fields) (key : String) (s : Option String) : Prop :=
  (fields.lookup key).getD .null = Node.optionalValue s

variable {kind classId typeName : Option String}

theorem ofLabel_getD (kind : Option String) :
    (TargetKind.ofLabel (kind.getD "") = .object ↔ kind = some "Object") ∧
      (TargetKind.ofLabel (kind.getD "") = .primitive ↔ kind = some "Primitive") := by
  cases kind with
  | none => decide
  | some s =>
    simp only [TargetKind.ofLabel, Option.getD_some, Option.some.injEq]
    by_cases isObject : s = "Object"
    · simp [isObject]
    · by_cases isPrimitive : s = "Primitive" <;> simp [isObject, isPrimitive]

theorem textOr_eq_empty : textOr typeName (classId.getD "") = "" ↔
    typeName.getD "" = "" ∧ classId.getD "" = "" := by
  cases typeName with
  | none => simp [textOr]
  | some s =>
    by_cases empty : s = ""
    · simp [textOr, empty]
    · simp [textOr, empty]

/-- Where a name is needed and none is given, no name is made up. -/
theorem nameless_iff : Nameless kind classId typeName ↔
    textOr typeName (classId.getD "") = "" ∧ TargetKind.ofLabel (kind.getD "") ≠ .unknown ∧
      ¬ (TargetKind.ofLabel (kind.getD "") = .object ∧ classId = none) := by
  obtain ⟨isObject, isPrimitive⟩ := ofLabel_getD kind
  rw [Nameless, textOr_eq_empty, ← isObject, ← isPrimitive]
  cases TargetKind.ofLabel (kind.getD "") with
  | unknown => simp
  | primitive => simp
  | object => cases classId <;> simp

/-- A far end that names nothing where a name is needed is none. -/
theorem targetOf_nameless (nameless : Nameless kind classId typeName) :
    targetOf kind classId typeName = .error .emptyTypeName := by
  obtain ⟨empty, known, notGivenUp⟩ := nameless_iff.mp nameless
  have invalid (classId' : Option String) :
      ¬ TypeRef.Valid "" (TargetKind.ofLabel (kind.getD "")) classId' :=
    fun valid => valid.2 known rfl
  unfold targetOf
  dsimp only
  rw [if_neg notGivenUp, empty, TypeRef.make, dif_neg (invalid _), if_neg]
  rintro ⟨isPrimitive, there⟩
  exact there (by rw [isPrimitive]; rfl)

/-- Any other far end is one; its class counts only if it is said to be an object. -/
theorem exists_targetOf (named : ¬ Nameless kind classId typeName) :
    ∃ t, targetOf kind classId typeName = .ok t ∧
      (Dependency.mk t).targetClassId = if kind = some "Object" then classId else none := by
  obtain ⟨isObject, -⟩ := ofLabel_getD kind
  unfold targetOf
  dsimp only
  split
  · rename_i givenUp
    have valid : TypeRef.Valid (textOr typeName (classId.getD "")) .unknown none :=
      ⟨nofun, fun known => absurd rfl known⟩
    refine ⟨⟨_, _, _, valid⟩, dif_pos valid, ?_⟩
    rw [if_pos (isObject.mp givenUp.1)]
    exact givenUp.2.symm
  · rename_i notGivenUp
    have valid : TypeRef.Valid (textOr typeName (classId.getD "")) (TargetKind.ofLabel (kind.getD ""))
        (if TargetKind.ofLabel (kind.getD "") = .object then classId else none) := by
      refine ⟨fun isPrimitive => by rw [isPrimitive]; rfl, fun known empty => ?_⟩
      exact named (nameless_iff.mpr ⟨empty, known, notGivenUp⟩)
    refine ⟨⟨_, _, _, valid⟩, dif_pos valid, ?_⟩
    unfold Dependency.targetClassId TypeRef.isObject
    by_cases object : TargetKind.ofLabel (kind.getD "") = .object
    · rw [if_pos (isObject.mp object)]
      cases classId <;> simp [object]
    · rw [if_neg fun same => object (isObject.mpr same)]
      simp [object]

variable {item : Fields}

theorem fails_atPath {α : Type} {x : Except NodeError α} {e : NodeError} (path : String)
    (failed : x = .error e) : Fails (atPath path x) ⟨path, .node e⟩ :=
  failed ▸ fun events => ⟨events, rfl⟩

theorem gives_report (e : Event) : Gives (report e) () := fun _ => ⟨_, rfl⟩

section

variable (tellsKind : TellsText item "targetKind" kind)
variable (tellsClass : TellsText item "targetClass" classId)
variable (tellsName : TellsText item "typeName" typeName) (path : String)
include tellsKind tellsClass tellsName

/-- Where there is a far end, the reader gives it, whatever the place. -/
theorem gives_target {t : TypeRef} (target : targetOf kind classId typeName = .ok t) :
    Gives (loadTypeRef item path) t := by
  refine (gives_optionalText path tellsKind).bind ?_
  refine (gives_optionalText path tellsClass).bind ?_
  refine (gives_optionalText path tellsName).bind ?_
  unfold targetOf at target
  dsimp only at target ⊢
  split at target
  · rename_i givenUp
    rw [if_pos givenUp]
    exact (gives_report _).bind (gives_atPath path target)
  · rename_i notGivenUp
    rw [if_neg notGivenUp]
    exact gives_atPath path target

/-- Where there is none, the reader fails with the place of the dependency. -/
theorem fails_target {e : NodeError} (target : targetOf kind classId typeName = .error e) :
    Fails (loadTypeRef item path) ⟨path, .node e⟩ := by
  refine (gives_optionalText path tellsKind).bind_fails ?_
  refine (gives_optionalText path tellsClass).bind_fails ?_
  refine (gives_optionalText path tellsName).bind_fails ?_
  unfold targetOf at target
  dsimp only at target ⊢
  split at target
  · rename_i givenUp
    rw [if_pos givenUp]
    exact (gives_report _).bind_fails (fails_atPath path target)
  · rename_i notGivenUp
    rw [if_neg notGivenUp]
    exact fails_atPath path target

end

/-- An item in data, among the dependencies of a class: what stands before it and after it. -/
structure Site (data item : Value) where
  root : Fields
  before : List Value
  fields : Fields
  after : List Value
  first : List Value
  later : List Value
  isRecord : data = .record root
  classes : root.lookup "classes" = some (.list (before ++ .record fields :: after))
  dependencies : fields.lookup "dependencies" = some (.list (first ++ item :: later))

namespace Site

variable {data v : Value} (s : Site data v)

/-- The class without the item. -/
def classWithout : Value := .record (("dependencies", .list (s.first ++ s.later)) :: s.fields)

/-- The data without the item. -/
def without : Value :=
  .record (("classes", .list (s.before ++ s.classWithout :: s.after)) :: s.root)

/-- The place of the item. -/
def path : String :=
  itemPath (propertyPath (itemPath "classes" s.before.length) "dependencies") s.first.length

/-- A model with one dependency more than another, at the place of the item. -/
def Inserts (m m' : Model) (d : Dependency) : Prop :=
  m'.name = m.name ∧ m'.revision = m.revision ∧
    ∃ front c back firsts laters, m.classes = front ++ c :: back ∧
      front.length = s.before.length ∧ c.dependencies = firsts ++ laters ∧
      firsts.length = s.first.length ∧
      m'.classes = front ++ { c with dependencies := firsts ++ d :: laters } :: back

/-- With the item in it, the class is read with one dependency more, or not at all. -/
theorem loadClass_item {c : Class} (reads : ReadsClass s.classWithout c) :
    ∃ firsts laters, c.dependencies = firsts ++ laters ∧ firsts.length = s.first.length ∧
      (∀ d, (∀ path, Gives (loadDependency v path) d) →
        ReadsClass (.record s.fields) { c with dependencies := firsts ++ d :: laters }) ∧
      ∀ path e, Fails (loadDependency v (itemPath (propertyPath path "dependencies")
        s.first.length)) e → Fails (loadClass (.record s.fields) path) e := by
  have comes := (reads "").comes
  rw [classWithout, loadClass_record] at comes
  obtain ⟨name, named, comes⟩ := comes_bind comes
  obtain ⟨items, listed, comes⟩ := comes_bind comes
  obtain ⟨all, loaded, comes⟩ := comes_bind comes
  obtain rfl : items = s.first ++ s.later := listed.unique (gives_listField _ rfl)
  rw [loadItems_append] at loaded
  obtain ⟨firsts, loadedFirst, loaded⟩ := comes_bind loaded
  obtain ⟨laters, loadedLater, loaded⟩ := comes_bind loaded
  obtain rfl : all = firsts ++ laters := loaded.unique (gives_pure _)
  -- What stands before the item and after it is read as it was.
  have givesName (path : String) : Gives (requiredText s.fields "name" path) name :=
    steady_requiredText (lookup_override (by decide)) _ _ name named
  have givesItems (path : String) : Gives (listField s.fields "dependencies" path)
      (s.first ++ v :: s.later) := gives_listField path (by rw [s.dependencies]; rfl)
  have givesFirst (path : String) : Gives (loadItems loadDependency path 0 s.first) firsts :=
    steady_loadItems steady_loadDependency _ _ _ _ _ firsts loadedFirst
  have givesLater (path : String) (index : Nat) :
      Gives (loadItems loadDependency path index s.later) laters :=
    steady_loadItems steady_loadDependency _ _ _ _ _ laters loadedLater
  refine ⟨firsts, laters, dependencies_of_loadClassRest comes, length_of_loadItems loadedFirst,
    fun d each path => ?_, fun path e fails => ?_⟩
  · have givesAll (path : String) :
        Gives (loadItems loadDependency path 0 (s.first ++ v :: s.later)) (firsts ++ d :: laters) := by
      rw [loadItems_append]
      refine (givesFirst path).bind (Gives.bind ?_ (gives_pure _))
      exact (each _).bind ((givesLater path _).bind (gives_pure _))
    rw [loadClass_record]
    refine (givesName path).bind ((givesItems path).bind ((givesAll _).bind ?_))
    exact carries_loadClassRest (fun _ => lookup_override) _ _ _ _ _ c comes
  · rw [loadClass_record]
    refine (givesName path).bind_fails ((givesItems path).bind_fails (Fails.bind ?_ _))
    rw [loadItems_append, Nat.zero_add]
    exact (givesFirst _).bind_fails ((fails.bind _).bind _)

/-- Classes that are read from two lists are those of the first and then those of the second. -/
theorem exists_of_forall₂_append {first later : List Value} {classes : List Class}
    (reads : List.Forall₂ ReadsClass (first ++ later) classes) :
    ∃ front back, classes = front ++ back ∧ List.Forall₂ ReadsClass first front ∧
      List.Forall₂ ReadsClass later back := by
  induction first generalizing classes with
  | nil => exact ⟨[], classes, rfl, .nil, reads⟩
  | cons v first ih =>
    obtain ⟨c, rest, read, others, rfl⟩ := List.forall₂_cons_left_iff.mp reads
    obtain ⟨front, back, rfl, readsFront, readsBack⟩ := ih others
    exact ⟨c :: front, back, rfl, .cons read readsFront, readsBack⟩

/-- How a model was read from the data without the item: which name the data give it, and which
classes stand before the one with the item and after it. -/
structure Reading (name : String) (m : Model) (label : Option String) (front : List Class) (c : Class)
    (back : List Class) : Prop where
  givesLabel : Gives (optionalText s.root "name" "") label
  named : m.name = textOr label name
  readsFront : List.Forall₂ ReadsClass s.before front
  reads : ReadsClass s.classWithout c
  readsBack : List.Forall₂ ReadsClass s.after back
  classes : m.classes = front ++ c :: back
  revision : m.revision = m.classes.length

/-- A model that is read without the dependency shows how its class and the classes around it are
read. -/
theorem exists_reading {name : String} {m : Model} (otherwise : Model.load s.without name = .ok m) :
    ∃ label front c back, s.Reading name m label front c back := by
  have comes : Comes (loadModel s.without name) m := ⟨[], _, Prod.ext otherwise rfl⟩
  obtain ⟨fields, given, comes⟩ := comes_bind comes
  obtain rfl : fields = _ := given.unique (gives_pure _)
  obtain ⟨label, named, comes⟩ := comes_bind comes
  obtain ⟨items, listed, comes⟩ := comes_bind comes
  obtain rfl : items = _ := listed.unique (gives_listField _ rfl)
  obtain ⟨full, loaded, comes⟩ := comes_bind comes
  obtain rfl : m = full := by
    obtain ⟨_, -, _, _, given⟩ := comes_bind comes
    cases given
    rfl
  obtain ⟨later, reads, sameName, classes, revision⟩ := classes_of_loadClasses loaded
  obtain ⟨front, rest, rfl, readsFront, reads⟩ := exists_of_forall₂_append reads
  obtain ⟨c, back, read, readsBack, rfl⟩ := List.forall₂_cons_left_iff.mp reads
  change m.classes = front ++ c :: back at classes
  refine ⟨label, front, c, back, ?_, sameName, readsFront, read, readsBack, classes, ?_⟩
  · exact steady_optionalText (lookup_override (by decide)) _ _ label named
  · rw [revision, classes]
    exact Nat.zero_add _

namespace Reading

variable {s} {name : String} {m : Model} {label : Option String} {front back : List Class} {c : Class}

theorem gives_classes (root : Fields) {items : List Value}
    (listed : root.lookup "classes" = some (.list items)) :
    Gives (listField root "classes" "classes") items := gives_listField _ (by rw [listed]; rfl)

/-- A class with the id of the old one may be read in its place. -/
theorem load_ok (reading : s.Reading name m label front c back) {c' : Class}
    (read : ReadsClass (.record s.fields) c') (sameId : c'.id = c.id) :
    ∃ m', Model.load data name = .ok m' ∧ m'.name = m.name ∧ m'.revision = m.revision ∧
      m'.classes = front ++ c' :: back := by
  have unique : ((front ++ c' :: back).map Class.id).Nodup := by
    have unique := m.unique
    rw [reading.classes, List.map_append, List.map_cons] at unique
    rw [List.map_append, List.map_cons, sameId]
    exact unique
  let m' : Model := ⟨m.name, _, m.revision, unique⟩
  have readsAll : List.Forall₂ ReadsClass (s.before ++ .record s.fields :: s.after) m'.classes :=
    List.rel_append reading.readsFront (.cons read reading.readsBack)
  have loads : Gives (loadClasses (.empty (textOr label name)) 0
      (s.before ++ .record s.fields :: s.after)) m' := by
    refine gives_loadClasses readsAll reading.named rfl ?_ 0
    rw [reading.revision, reading.classes, List.length_append, List.length_append]
    exact (Nat.zero_add _).symm
  have gives : Gives (loadModel (.record s.root) name) m' :=
    (gives_pure s.root).bind (reading.givesLabel.bind ((gives_classes _ s.classes).bind (loads.bind
      ((gives_report _).bind (gives_pure m')))))
  obtain ⟨_, given⟩ := gives []
  refine ⟨m', ?_, rfl, rfl, rfl⟩
  rw [s.isRecord]
  exact congrArg Prod.fst given

/-- If the class with the item fails, so does the model. -/
theorem load_error (reading : s.Reading name m label front c back) {e : LoadError}
    (fails : Fails (loadClass (.record s.fields) (itemPath "classes" s.before.length)) e) :
    Model.load data name = .error e := by
  have unique : (front.map Class.id).Nodup := by
    have unique := m.unique
    rw [reading.classes, List.map_append, List.nodup_append] at unique
    exact unique.1
  have loads : Gives (loadClasses (.empty (textOr label name)) 0 s.before)
      ⟨textOr label name, front, front.length, unique⟩ := by
    refine gives_loadClasses reading.readsFront ?_ ?_ ?_ 0
    · rfl
    · rfl
    · exact (Nat.zero_add _).symm
  have failing : Fails (loadModel (.record s.root) name) e := by
    refine (gives_pure s.root).bind_fails (reading.givesLabel.bind_fails
      ((gives_classes _ s.classes).bind_fails ?_))
    rw [loadClasses_append, Nat.zero_add]
    exact Fails.bind (loads.bind_fails (fails.bind _)) _
  obtain ⟨_, given⟩ := failing []
  rw [s.isRecord]
  exact congrArg Prod.fst given

end Reading

/-- The model with the item in it is read if the item is, and otherwise fails as the item does. -/
theorem load_item {name : String} {m : Model} (otherwise : Model.load s.without name = .ok m) :
    (∀ d, (∀ path, Gives (loadDependency v path) d) →
      ∃ m', Model.load data name = .ok m' ∧ s.Inserts m m' d) ∧
      ∀ e, Fails (loadDependency v s.path) e → Model.load data name = .error e := by
  obtain ⟨label, front, c, back, reading⟩ := s.exists_reading otherwise
  obtain ⟨firsts, laters, shape, length, insert, fails⟩ := s.loadClass_item reading.reads
  refine ⟨fun d each => ?_, fun e failed => reading.load_error (fails _ e failed)⟩
  obtain ⟨m', loads, name, revision, classes⟩ := reading.load_ok (insert d each) rfl
  exact ⟨m', loads, name, revision, front, c, back, firsts, laters, reading.classes,
    reading.readsFront.length_eq.symm, shape, length, classes⟩

end Site

section

variable (tellsKind : TellsText item "targetKind" kind)
variable (tellsClass : TellsText item "targetClass" classId)
variable (tellsName : TellsText item "typeName" typeName)
include tellsKind tellsClass tellsName

/-- The dependency that is added is read with its far end. -/
theorem gives_edge {t : TypeRef} (target : targetOf kind classId typeName = .ok t) (path : String) :
    Gives (loadDependency (.record item) path) ⟨t⟩ :=
  (gives_pure item).bind ((gives_target tellsKind tellsClass tellsName path target).bind
    (gives_pure _))

/-- Without a far end the dependency fails, and with it the class. -/
theorem fails_edge {e : NodeError} (target : targetOf kind classId typeName = .error e)
    (path : String) : Fails (loadDependency (.record item) path) ⟨path, .node e⟩ :=
  (gives_pure item).bind_fails ((fails_target tellsKind tellsClass tellsName path target).bind _)

end

end Ingest

namespace Model

/-- A dependency contributes a class for some stereotype exactly if it leads to a class with one. -/
theorem contributes_iff {m : Model} {c : Class} {d : Dependency} :
    (∃ s, m.dependents { c with dependencies := [d] } (some s) ≠ []) ↔
      ∃ id t s, d.targetClassId = some id ∧ m.class? id = some t ∧ t.stereotype = some s := by
  have single (s : String) : m.dependents { c with dependencies := [d] } (some s) ≠ [] ↔
      ∃ id, m.target? (some s) d = some id := by
    have ids := map_id_dependents m { c with dependencies := [d] } (some s)
    rw [Ne, ← List.map_eq_nil_iff (f := Class.id), ids, targetIds]
    cases far : m.target? (some s) d <;> simp [far]
  simp only [single, target?_eq_some]
  constructor
  · rintro ⟨s, id, t, far, found, named⟩
    exact ⟨id, t, s, far, found, named⟩
  · rintro ⟨id, t, s, far, found, named⟩
    exact ⟨s, id, t, far, found, named⟩

open Ingest

/-- A record whose kind, class and name are missing, null or any texts, among the dependencies of a
class in data that otherwise describe a model. If it names nothing where a name is needed, the data
are refused at its place. Otherwise they are read, the model has one dependency more, at its place,
and this contributes a class to what its class depends on exactly if its kind is that of objects and
its class is the id of a class with a stereotype. -/
theorem load_edge {data : Value} {item : Fields} (site : Site data (.record item))
    {kind classId typeName : Option String} (tellsKind : TellsText item "targetKind" kind)
    (tellsClass : TellsText item "targetClass" classId)
    (tellsName : TellsText item "typeName" typeName) {name : String} {m : Model}
    (otherwise : load site.without name = .ok m) :
    (Nameless kind classId typeName →
      load data name = .error ⟨site.path, .node .emptyTypeName⟩) ∧
      (¬ Nameless kind classId typeName → ∃ m' d, load data name = .ok m' ∧ site.Inserts m m' d ∧
        ∀ c : Class, (∃ s, m'.dependents { c with dependencies := [d] } (some s) ≠ []) ↔
          kind = some "Object" ∧ ∃ id t s, classId = some id ∧ m'.class? id = some t ∧
            t.stereotype = some s) := by
  obtain ⟨reads, fails⟩ := site.load_item otherwise
  refine ⟨fun nameless => ?_, fun named => ?_⟩
  · have target := targetOf_nameless nameless
    exact fails _ (fails_edge tellsKind tellsClass tellsName target site.path)
  · obtain ⟨t, target, far⟩ := exists_targetOf named
    obtain ⟨m', read, inserts⟩ := reads ⟨t⟩ (gives_edge tellsKind tellsClass tellsName target)
    refine ⟨m', ⟨t⟩, read, inserts, fun c => ?_⟩
    rw [contributes_iff, far]
    by_cases isObject : kind = some "Object"
    · simp only [isObject, if_true, true_and]
    · simp [isObject]

end Model

/-- A class with one dependency, and a service. -/
def edgeData (item : Ingest.Fields) : Value :=
  .record [("classes", .list [.record [("name", .text "Page"), ("dependencies", .list [.record item])],
    .record [("name", .text "Orders"), ("stereotypeName", .text "Service")]])]

def edgeSite (item : Ingest.Fields) : Ingest.Site (edgeData item) (.record item) where
  root := _
  before := []
  fields := _
  after := _
  first := []
  later := []
  isRecord := rfl
  classes := rfl
  dependencies := rfl

/-- An edge to the service, and one that names nothing. -/
def serviceEdge : Ingest.Fields := [("targetKind", .text "Object"), ("targetClass", .text "Orders")]

def namelessEdge : Ingest.Fields := [("targetKind", .text "Primitive")]

/-- The sample with so many dependencies. -/
def edgeModel (dependencies : List Dependency) : Model where
  name := "shop"
  classes :=
    [⟨"Page", "Page", none, dependencies, [], [], by decide⟩,
      ⟨"Orders", "Orders", some "Service", [], [], [], by decide⟩]
  revision := 2
  unique := by simp

theorem Model.load_edge_sample :
    (∃ m, Model.load (edgeSite serviceEdge).without "shop" = .ok m) ∧
      (∃ m' d, Model.load (edgeData serviceEdge) "shop" = .ok m' ∧
        ∀ c : Class, ∃ s, m'.dependents { c with dependencies := [d] } (some s) ≠ []) ∧
      (∃ m, Model.load (edgeSite namelessEdge).without "shop" = .ok m) ∧
        Model.load (edgeData namelessEdge) "shop" =
          .error ⟨"classes[0].dependencies[0]", .node .emptyTypeName⟩ := by
  have otherwise (item : Ingest.Fields) :
      Model.load (edgeSite item).without "shop" = .ok (edgeModel []) := rfl
  refine ⟨⟨_, otherwise _⟩, ?_, ⟨_, otherwise _⟩, ?_⟩
  · have tellsKind : Ingest.TellsText serviceEdge "targetKind" (some "Object") := rfl
    have tellsClass : Ingest.TellsText serviceEdge "targetClass" (some "Orders") := rfl
    have tellsName : Ingest.TellsText serviceEdge "typeName" none := rfl
    have named : ¬ Ingest.Nameless (some "Object") (some "Orders") none := by
      simp [Ingest.Nameless]
    obtain ⟨m', d, read, -, contributes⟩ :=
      (Model.load_edge (edgeSite serviceEdge) tellsKind tellsClass tellsName (otherwise _)).2 named
    have loads : Model.load (edgeData serviceEdge) "shop" =
        .ok (edgeModel [⟨⟨"Orders", .object, some "Orders", by decide⟩⟩]) := rfl
    cases loads.symm.trans read
    exact ⟨_, d, read, fun c => (contributes c).mpr ⟨rfl, "Orders", _, "Service", rfl, rfl, rfl⟩⟩
  · have tellsKind : Ingest.TellsText namelessEdge "targetKind" (some "Primitive") := rfl
    have tellsClass : Ingest.TellsText namelessEdge "targetClass" none := rfl
    have tellsName : Ingest.TellsText namelessEdge "typeName" none := rfl
    have nameless : Ingest.Nameless (some "Primitive") none none := by
      simp [Ingest.Nameless]
    exact (Model.load_edge (edgeSite namelessEdge) tellsKind tellsClass tellsName
      (otherwise _)).1 nameless

end ServiceDiagram

import ServiceDiagram.Ingest.Reader
import ServiceDiagram.Proofs.Diagram.WellFormed
import ServiceDiagram.Registry.Node

namespace ServiceDiagram

namespace Ingest

/-- What a value tells of: it is a record whose properties do. -/
def Tells {α : Type} (properties : Fields → α → Prop) (v : Value) (a : α) : Prop :=
  ∃ fields, v = .record fields ∧ properties fields a

/-- A property lists what its items tell of; it may be absent if there is nothing. -/
def TellsAll {α : Type} (properties : Fields → α → Prop) (fields : Fields) (key : String)
    (as : List α) : Prop :=
  ∃ items, (fields.lookup key).getD (.list []) = .list items ∧
    List.Forall₂ (Tells properties) items as

def tagValue : Option TagValue → Value
  | none => .null
  | some (.bool b) => .bool b
  | some (.int n) => .int n
  | some (.text s) => .text s

structure TellsType (fields : Fields) (t : TypeRef) : Prop where
  kind : fields.lookup "targetKind" = some (.text t.kind.label)
  classId : (fields.lookup "targetClass").getD .null = Node.optionalValue t.classId
  name : fields.lookup "typeName" = some (.text t.name)

/-- The type of a parameter is told of in full, or by its name if it is primitive. -/
def TellsParameterType (v : Value) (t : TypeRef) : Prop :=
  Tells TellsType v t ∨ t.kind = .primitive ∧ v = .text t.name

structure TellsParameter (fields : Fields) (p : Parameter) : Prop where
  name : fields.lookup "name" = some (.text p.name)
  type : ∃ v, fields.lookup "type" = some v ∧ TellsParameterType v p.type
  isRequired : (fields.lookup "isRequired").getD (.bool false) = .bool p.isRequired
  hasMin : (fields.lookup "hasMinValue").getD (.bool false) = .bool p.hasMin
  min : (fields.lookup "minValue").getD .null = Node.boundValue p.min?
  hasMax : (fields.lookup "hasMaxValue").getD (.bool false) = .bool p.hasMax
  max : (fields.lookup "maxValue").getD .null = Node.boundValue p.max?

structure TellsOperation (fields : Fields) (o : Operation) : Prop where
  name : fields.lookup "name" = some (.text o.name)
  parameters : TellsAll TellsParameter fields "parameters" o.parameters

structure TellsTag (fields : Fields) (t : Tag) : Prop where
  name : fields.lookup "name" = some (.text t.name)
  value : (fields.lookup "value").getD .null = tagValue t.value

structure TellsClass (fields : Fields) (c : Class) : Prop where
  id : fields.lookup "id" = some (.text c.id)
  name : fields.lookup "name" = some (.text c.name)
  stereotype : (fields.lookup "stereotypeName").getD .null = Node.optionalValue c.stereotype
  dependencies : TellsAll TellsType fields "dependencies" (c.dependencies.map Dependency.target)
  operations : TellsAll TellsOperation fields "operations" c.operations
  tags : TellsAll TellsTag fields "tags" c.tags

structure TellsModel (fields : Fields) (m : Model) : Prop where
  name : fields.lookup "name" = some (.text m.name)
  classes : TellsAll TellsClass fields "classes" m.classes

def encodeType (t : TypeRef) : Value :=
  .record (("targetKind", .text t.kind.label) ::
    ((t.classId.map fun id => ("targetClass", .text id)).toList ++ [("typeName", .text t.name)]))

/-- The type of a parameter; a primitive one by its name alone where that is asked for. -/
def encodeParameterType (bare : Bool) (t : TypeRef) : Value :=
  if bare ∧ t.kind = .primitive then .text t.name else encodeType t

def encodeParameter (bare : Parameter → Bool) (p : Parameter) : Value :=
  .record [("name", .text p.name), ("type", encodeParameterType (bare p) p.type),
    ("isRequired", .bool p.isRequired), ("hasMinValue", .bool p.hasMin),
    ("minValue", Node.boundValue p.min?), ("hasMaxValue", .bool p.hasMax),
    ("maxValue", Node.boundValue p.max?)]

def encodeOperation (bare : Parameter → Bool) (o : Operation) : Value :=
  .record [("name", .text o.name), ("parameters", .list (o.parameters.map (encodeParameter bare)))]

def encodeTag (t : Tag) : Value := .record [("name", .text t.name), ("value", tagValue t.value)]

def encodeClass (bare : Parameter → Bool) (c : Class) : Value :=
  .record [("id", .text c.id), ("name", .text c.name),
    ("stereotypeName", Node.optionalValue c.stereotype),
    ("dependencies", .list ((c.dependencies.map Dependency.target).map encodeType)),
    ("tags", .list (c.tags.map encodeTag)),
    ("operations", .list (c.operations.map (encodeOperation bare)))]

end Ingest

/-- The data of a model. -/
def Model.encode (bare : Parameter → Bool) (m : Model) : Value :=
  .record [("name", .text m.name), ("classes", .list (m.classes.map (Ingest.encodeClass bare)))]

namespace Ingest

theorem forall₂_map {α : Type} {R : Value → α → Prop} {encode : α → Value}
    (tells : ∀ a, R (encode a) a) (as : List α) : List.Forall₂ R (as.map encode) as := by
  induction as with
  | nil => exact .nil
  | cons a as ih => exact .cons (tells a) ih

theorem tells_encodeType (t : TypeRef) : Tells TellsType (encodeType t) t := by
  refine ⟨_, rfl, rfl, ?_, ?_⟩
  · cases t.classId <;> rfl
  · cases t.classId <;> rfl

/-- The name alone tells of a primitive type as well as the record does. -/
theorem tells_encodeParameterType (bare : Bool) (t : TypeRef) :
    TellsParameterType (encodeParameterType bare t) t := by
  unfold encodeParameterType
  split
  · rename_i primitive
    exact .inr ⟨primitive.2, rfl⟩
  · exact .inl (tells_encodeType t)

theorem tells_encodeParameter (bare : Parameter → Bool) (p : Parameter) :
    Tells TellsParameter (encodeParameter bare p) p :=
  ⟨_, rfl, rfl, ⟨_, rfl, tells_encodeParameterType (bare p) p.type⟩, rfl, rfl, rfl, rfl, rfl⟩

theorem tells_encodeOperation (bare : Parameter → Bool) (o : Operation) :
    Tells TellsOperation (encodeOperation bare o) o :=
  ⟨_, rfl, rfl, _, rfl, forall₂_map (tells_encodeParameter bare) o.parameters⟩

theorem tells_encodeTag (t : Tag) : Tells TellsTag (encodeTag t) t := ⟨_, rfl, rfl, rfl⟩

/-- A class is told of by the record of what it has, in any form of its parameter types. -/
theorem tells_encodeClass (bare : Parameter → Bool) (c : Class) :
    Tells TellsClass (encodeClass bare c) c := by
  refine ⟨_, rfl, rfl, rfl, rfl, ⟨_, rfl, ?_⟩, ⟨_, rfl, ?_⟩, ⟨_, rfl, ?_⟩⟩
  · exact forall₂_map tells_encodeType (c.dependencies.map Dependency.target)
  · exact forall₂_map (tells_encodeOperation bare) c.operations
  · exact forall₂_map tells_encodeTag c.tags

/-- Every model is told of by its encoding. -/
theorem tells_encode (bare : Parameter → Bool) (m : Model) :
    Tells TellsModel (m.encode bare) m :=
  ⟨_, rfl, rfl, _, rfl, forall₂_map (tells_encodeClass bare) m.classes⟩

variable {α β : Type}

/-- Reading gives a value, whatever was reported before. -/
def Gives (x : Load α) (a : α) : Prop := ∀ events, ∃ later, x.run.run events = (.ok a, later)

theorem gives_pure (a : α) : Gives (pure a) a := fun events => ⟨events, rfl⟩

/-- A reader that goes on from what another gives gives what comes of it. -/
theorem Gives.bind {x : Load α} {f : α → Load β} {a : α} {b : β} (first : Gives x a)
    (next : Gives (f a) b) : Gives (x >>= f) b := by
  intro events
  obtain ⟨events', given⟩ := first events
  obtain ⟨later, given'⟩ := next events'
  refine ⟨later, ?_⟩
  change (match x.run.run events with | (r, s) => (ExceptT.bindCont f r).run s) = _
  rw [given]
  exact given'

theorem gives_atPath {x : Except NodeError α} {a : α} (path : String) (made : x = .ok a) :
    Gives (atPath path x) a := made ▸ gives_pure a

/-- A text that is told of, or is absent, is read as such. -/
theorem gives_optionalText {fields : Fields} {key : String} (path : String) {s : Option String}
    (told : (fields.lookup key).getD .null = Node.optionalValue s) :
    Gives (optionalText fields key path) s := by
  unfold optionalText
  cases found : fields.lookup key with
  | none =>
    rw [found] at told
    cases s with
    | none => exact gives_pure none
    | some s => cases told
  | some v =>
    rw [found] at told
    cases s with
    | none =>
      cases told
      exact gives_pure none
    | some s =>
      cases told
      exact gives_pure (some s)

theorem gives_requiredText {fields : Fields} {key : String} (path : String) {s : String}
    (told : fields.lookup key = some (.text s)) (notEmpty : s ≠ "") :
    Gives (requiredText fields key path) s := by
  have text : Gives (optionalText fields key path) (some s) :=
    gives_optionalText path (by rw [told]; rfl)
  refine text.bind ?_
  simp only [notEmpty, if_false]
  exact gives_pure s

theorem gives_boolField {fields : Fields} {key : String} (path : String) {b : Bool}
    (told : (fields.lookup key).getD (.bool false) = .bool b) :
    Gives (boolField fields key path) b := by
  unfold boolField
  cases found : fields.lookup key with
  | none =>
    rw [found] at told
    cases told
    exact gives_pure false
  | some v =>
    rw [found] at told
    cases told
    exact gives_pure b

theorem gives_numberField {fields : Fields} {key : String} (path : String) {n : Option Number}
    (told : (fields.lookup key).getD .null = Node.boundValue n) :
    Gives (numberField fields key path) n := by
  unfold numberField
  cases found : fields.lookup key with
  | none =>
    rw [found] at told
    cases n with
    | none => exact gives_pure none
    | some n => cases told
  | some v =>
    rw [found] at told
    cases n with
    | none =>
      cases told
      exact gives_pure none
    | some n =>
      cases told
      exact gives_pure (some n)

theorem gives_listField {fields : Fields} {key : String} (path : String) {items : List Value}
    (told : (fields.lookup key).getD (.list []) = .list items) :
    Gives (listField fields key path) items := by
  unfold listField
  rw [told]
  exact gives_pure items

/-- Items are read one by one, each as what it tells of. -/
theorem gives_loadItems {load : Value → String → Load α} {R : Value → α → Prop}
    {items : List Value} {as : List α} (told : List.Forall₂ R items as)
    (each : ∀ v, ∀ a ∈ as, R v a → ∀ path, Gives (load v path) a) (path : String) (index : Nat) :
    Gives (loadItems load path index items) as := by
  induction told generalizing index with
  | nil => exact gives_pure []
  | @cons v a items as tells _ ih =>
    refine (each v a List.mem_cons_self tells _).bind ?_
    refine (ih (fun v b member => each v b (.tail _ member)) (index + 1)).bind ?_
    exact gives_pure (a :: as)

theorem classId_eq_none {t : TypeRef} (wellFormed : t.WellFormed) (noObject : t.kind ≠ .object) :
    t.classId = none :=
  Option.not_isSome_iff_eq_none.mp fun there => noObject (wellFormed.classId.mp there)

theorem ofLabel_label (k : TargetKind) : TargetKind.ofLabel k.label = k := by
  cases k <;> rfl

/-- A name that is not left out stands for itself; without one, the reference is unknown. -/
theorem textOr_name (t : TypeRef) (wellFormed : t.WellFormed) :
    textOr (some t.name) (t.classId.getD "") = t.name := by
  by_cases unnamed : t.name = ""
  · have unknown : t.kind = .unknown :=
      Decidable.byContradiction fun known => wellFormed.named known unnamed
    have absent : t.classId = none := classId_eq_none wellFormed (by simp [unknown])
    simp [textOr, unnamed, absent]
  · simp [textOr, unnamed]

/-- A record that tells of a well-formed type is read as that type. -/
theorem gives_loadTypeRef {fields : Fields} {t : TypeRef} (told : TellsType fields t)
    (wellFormed : t.WellFormed) (path : String) : Gives (loadTypeRef fields path) t := by
  refine (gives_optionalText path (s := some t.kind.label) (by rw [told.kind]; rfl)).bind ?_
  refine (gives_optionalText path told.classId).bind ?_
  refine (gives_optionalText path (s := some t.name) (by rw [told.name]; rfl)).bind ?_
  simp only [Option.getD_some, ofLabel_label, textOr_name t wellFormed]
  have kept : (if t.kind = .object then t.classId else none) = t.classId := by
    split
    · rfl
    · rename_i noObject
      exact (classId_eq_none wellFormed noObject).symm
  have made : TypeRef.make t.name t.kind t.classId = .ok t := dif_pos t.valid
  split
  · rename_i claim
    exact absurd (wellFormed.classId.mpr claim.1) (by simp [claim.2])
  · rw [kept]
    exact gives_atPath path made

theorem gives_loadDependency {v : Value} {d : Dependency} (told : Tells TellsType v d.target)
    (wellFormed : d.target.WellFormed) (path : String) : Gives (loadDependency v path) d := by
  obtain ⟨fields, rfl, tells⟩ := told
  refine (gives_pure fields).bind ?_
  exact (gives_loadTypeRef tells wellFormed path).bind (gives_pure d)

theorem gives_loadParameterType {fields : Fields} {v : Value} {t : TypeRef}
    (there : fields.lookup "type" = some v) (told : TellsParameterType v t)
    (wellFormed : t.WellFormed) (path : String) : Gives (loadParameterType fields path) t := by
  unfold loadParameterType
  rw [there]
  rcases told with ⟨entries, rfl, tells⟩ | ⟨primitive, rfl⟩
  · exact gives_loadTypeRef tells wellFormed path
  · have absent : t.classId = none := t.valid.1 primitive
    have made : TypeRef.make t.name t.kind t.classId = .ok t := dif_pos t.valid
    rw [primitive, absent] at made
    exact gives_atPath path made

/-- A record that tells of a parameter with a well-formed type is read as that parameter. -/
theorem gives_loadParameter {v : Value} {p : Parameter} (told : Tells TellsParameter v p)
    (wellFormed : p.WellFormed) (path : String) : Gives (loadParameter v path) p := by
  obtain ⟨fields, rfl, tells⟩ := told
  obtain ⟨type, there, tellsType⟩ := tells.type
  have made : Parameter.make p.name (some p.type) p.isRequired p.hasMin p.min? p.hasMax p.max? =
      .ok p := by
    unfold Parameter.make
    rw [if_neg wellFormed.named]
    exact dif_pos p.valid
  refine (gives_pure fields).bind ?_
  refine (gives_loadParameterType there tellsType wellFormed.type _).bind ?_
  refine (gives_requiredText path tells.name wellFormed.named).bind ?_
  refine (gives_boolField path tells.isRequired).bind ?_
  refine (gives_boolField path tells.hasMin).bind ?_
  refine (gives_numberField path tells.min).bind ?_
  refine (gives_boolField path tells.hasMax).bind ?_
  refine (gives_numberField path tells.max).bind ?_
  exact gives_atPath path made

theorem gives_loadOperation {v : Value} {o : Operation} (told : Tells TellsOperation v o)
    (wellFormed : o.WellFormed) (path : String) : Gives (loadOperation v path) o := by
  obtain ⟨fields, rfl, tells⟩ := told
  obtain ⟨items, there, parameters⟩ := tells.parameters
  refine (gives_pure fields).bind ?_
  refine (gives_listField path there).bind ?_
  refine (gives_loadItems parameters (fun v p member told =>
    gives_loadParameter told (wellFormed.parameters p member)) _ 0).bind ?_
  refine (gives_requiredText path tells.name wellFormed.named).bind ?_
  exact gives_atPath path (dif_pos o.valid)

theorem gives_loadTag {v : Value} {t : Tag} (told : Tells TellsTag v t) (path : String) :
    Gives (loadTag v path) t := by
  obtain ⟨fields, rfl, tells⟩ := told
  obtain ⟨name, value, named⟩ := t
  have made : Gives (requiredText fields "name" path >>= fun name =>
      atPath path (Tag.make name value)) ⟨name, value, named⟩ :=
    (gives_requiredText path tells.name named).bind (gives_atPath path (dif_pos named))
  refine (gives_pure fields).bind ?_
  dsimp only
  rw [tells.value]
  rcases value with _ | b | n | s
  · exact (gives_pure none).bind made
  · exact (gives_pure (some (TagValue.bool b))).bind made
  · exact (gives_pure (some (TagValue.int n))).bind made
  · exact (gives_pure (some (TagValue.text s))).bind made

/-- A record that tells of a well-formed class is read as that class. -/
theorem gives_loadClass {v : Value} {c : Class} (told : Tells TellsClass v c)
    (wellFormed : c.WellFormed) (path : String) : Gives (loadClass v path) c := by
  obtain ⟨fields, rfl, tells⟩ := told
  obtain ⟨ends, endsThere, targets⟩ := tells.dependencies
  obtain ⟨items, itemsThere, operations⟩ := tells.operations
  obtain ⟨marks, marksThere, tags⟩ := tells.tags
  have id : textOr (some c.id) c.name = c.id := by simp [textOr, wellFormed.identified]
  refine (gives_pure fields).bind ?_
  refine (gives_requiredText path tells.name wellFormed.named).bind ?_
  refine (gives_listField path endsThere).bind ?_
  refine (gives_loadItems (List.forall₂_map_right_iff.mp targets) (fun v d member told =>
    gives_loadDependency told (wellFormed.dependencies d member)) _ 0).bind ?_
  refine (gives_listField path itemsThere).bind ?_
  refine (gives_loadItems operations (fun v o member told =>
    gives_loadOperation told (wellFormed.operations o member)) _ 0).bind ?_
  refine (gives_listField path marksThere).bind ?_
  refine (gives_loadItems tags (fun v t _ told => gives_loadTag told) _ 0).bind ?_
  refine (gives_optionalText path (s := some c.id) (by rw [tells.id]; rfl)).bind ?_
  refine (gives_optionalText path tells.stereotype).bind ?_
  rw [id]
  exact gives_atPath path (dif_pos c.valid)

/-- A value is read as a class, wherever it stands. -/
def ReadsClass (v : Value) (c : Class) : Prop := ∀ path, Gives (loadClass v path) c

/-- Whatever tells of well-formed classes is read as these classes. -/
theorem reads_of_tells {items : List Value} {later : List Class}
    (told : List.Forall₂ (Tells TellsClass) items later) (wellFormed : ∀ c ∈ later, c.WellFormed) :
    List.Forall₂ ReadsClass items later := by
  induction told with
  | nil => exact .nil
  | @cons v c items later tells _ ih =>
    obtain ⟨first, rest⟩ := List.forall_mem_cons.mp wellFormed
    exact .cons (gives_loadClass tells first) (ih rest)

/-- The classes that come after those that a model has are added in their order. -/
theorem gives_loadClasses {items : List Value} {later : List Class}
    (reads : List.Forall₂ ReadsClass items later) {m full : Model} (name : full.name = m.name)
    (classes : full.classes = m.classes ++ later)
    (revision : full.revision = m.revision + later.length) (index : Nat) :
    Gives (loadClasses m index items) full := by
  induction reads generalizing m index with
  | nil =>
    have same : m = full := by
      cases m
      cases full
      simp_all
    exact same ▸ gives_pure m
  | @cons v c items later reads _ ih =>
    have fresh : c.id ∉ m.classes.map Class.id := by
      have unique := full.unique
      rw [classes, List.map_append, List.nodup_append] at unique
      exact fun old => unique.2.2 _ old _ List.mem_cons_self rfl
    refine (reads _).bind ?_
    refine (gives_atPath _ (dif_neg fresh)).bind ?_
    refine ih ?_ ?_ ?_ (index + 1)
    · exact name
    · simp [classes]
    · simp only [revision, List.length_cons]
      omega

/-- Whatever tells of a well-formed model with a name is read as that model. -/
theorem gives_loadModel {data : Value} {m : Model} (told : Tells TellsModel data m)
    (named : m.name ≠ "") (wellFormed : m.WellFormed) (defaultName : String) :
    Gives (loadModel data defaultName) m := by
  obtain ⟨fields, rfl, tells⟩ := told
  obtain ⟨items, there, classes⟩ := tells.classes
  have name : textOr (some m.name) defaultName = m.name := by simp [textOr, named]
  have read : Gives (loadClasses (.empty m.name) 0 items) m := by
    refine gives_loadClasses (reads_of_tells classes wellFormed.classes) ?_ ?_ ?_ 0
    · rfl
    · rfl
    · simp [Model.empty, wellFormed.revision]
  refine (gives_pure fields).bind ?_
  refine (gives_optionalText _ (s := some m.name) (by rw [tells.name]; rfl)).bind ?_
  refine (gives_listField _ there).bind ?_
  rw [name]
  refine read.bind ?_
  exact Gives.bind (a := ()) (fun events => ⟨_, rfl⟩) (gives_pure m)

end Ingest

/-- Reading undoes encoding. A well-formed model, its revision the count of its classes, can be told
of by data, whichever of its primitive types are written by name alone; and any data that tell of a
model with a name are read as that model. -/
theorem Model.load_encode {m : Model} (named : m.name ≠ "") (wellFormed : m.WellFormed) :
    (∀ bare, Ingest.Tells Ingest.TellsModel (m.encode bare) m) ∧
      ∀ data, Ingest.Tells Ingest.TellsModel data m → ∀ defaultName,
        Model.load data defaultName = .ok m := by
  refine ⟨fun bare => Ingest.tells_encode bare m, fun data told defaultName => ?_⟩
  obtain ⟨events, read⟩ := Ingest.gives_loadModel told named wellFormed defaultName []
  exact congrArg Prod.fst read

/-- A service with an edge to a class, one that leads nowhere, a tag, and a parameter with a bound. -/
def sampleShop : Model where
  name := "shop"
  classes :=
    [{ id := "1"
       name := "Orders"
       stereotype := some "Service"
       dependencies := [⟨⟨"Order", .object, some "2", by decide⟩⟩, ⟨⟨"", .unknown, none, by decide⟩⟩]
       operations :=
        [⟨"find",
          [⟨"id", ⟨"Integer", .primitive, none, by decide⟩, true, true, some (.int 1), false, none,
            by decide⟩], by decide⟩]
       tags := [⟨"externalAccess", some (.bool false), by decide⟩]
       valid := by decide },
     { id := "2", name := "Order", stereotype := none, dependencies := [], operations := [],
       tags := [], valid := by decide }]
  revision := 2
  unique := by decide

theorem sampleShop_wellFormed : sampleShop.WellFormed := by
  refine Model.wellFormed (List.forall_mem_cons.mpr ⟨?_, List.forall_mem_singleton.mpr ?_⟩) rfl
  · refine Class.wellFormed ?_ (List.forall_mem_singleton.mpr ?_)
    · refine List.forall_mem_cons.mpr ⟨?_, List.forall_mem_singleton.mpr ?_⟩
      · exact ⟨by decide, by decide⟩
      · exact ⟨by decide, by decide⟩
    · refine Operation.wellFormed (List.forall_mem_singleton.mpr ?_)
      exact Parameter.wellFormed ⟨by decide, by decide⟩
  · exact Class.wellFormed nofun nofun

theorem Model.load_encode_sampleShop :
    sampleShop.name ≠ "" ∧ sampleShop.WellFormed ∧
      Model.load (sampleShop.encode fun _ => true) "model" = .ok sampleShop := by
  have named : sampleShop.name ≠ "" := by decide
  obtain ⟨told, read⟩ := Model.load_encode named sampleShop_wellFormed
  exact ⟨named, sampleShop_wellFormed, read _ (told fun _ => true) "model"⟩

end ServiceDiagram

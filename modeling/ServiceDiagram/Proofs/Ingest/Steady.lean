import ServiceDiagram.Proofs.Ingest.Encoding

namespace ServiceDiagram.Ingest

variable {α β γ : Type}

/-- Reading came to a value, after some events. -/
def Comes (x : Load α) (a : α) : Prop := ∃ events later, x.run.run events = (.ok a, later)

/-- Reading fails for a reason, whatever was reported before. -/
def Fails (x : Load α) (e : LoadError) : Prop :=
  ∀ events, ∃ later, x.run.run events = (.error e, later)

/-- Whatever the first reading came to, the second gives what a function makes of it. -/
def Carries (h : α → β) (x : Load α) (y : Load β) : Prop := ∀ a, Comes x a → Gives y (h a)

/-- Whatever the first reading came to, the second gives too. -/
abbrev Steady (x y : Load α) : Prop := Carries id x y

theorem Gives.comes {x : Load α} {a : α} (gives : Gives x a) : Comes x a := by
  obtain ⟨later, given⟩ := gives []
  exact ⟨[], later, given⟩

theorem Comes.unique {x : Load α} {a b : α} (comes : Comes x a) (gives : Gives x b) : a = b := by
  obtain ⟨events, later, given⟩ := comes
  obtain ⟨later', given'⟩ := gives events
  cases given.symm.trans given'
  rfl

theorem run_bind (x : Load α) (f : α → Load β) (events : List Event) :
    (x >>= f).run.run events =
      match x.run.run events with
      | (.ok a, later) => (f a).run.run later
      | (.error e, later) => (.error e, later) := by
  change (match x.run.run events with | (r, s) => (ExceptT.bindCont f r).run s) = _
  cases x.run.run events with
  | mk r s => cases r <;> rfl

/-- What comes of two steps comes of the second, with what came of the first. -/
theorem comes_bind {x : Load α} {f : α → Load β} {b : β} (comes : Comes (x >>= f) b) :
    ∃ a, Comes x a ∧ Comes (f a) b := by
  obtain ⟨events, later, given⟩ := comes
  rw [run_bind] at given
  cases first : x.run.run events with
  | mk r s =>
    rw [first] at given
    cases r with
    | error e => nomatch given
    | ok a => exact ⟨a, ⟨events, s, first⟩, s, later, given⟩

/-- A failure is not caught by what would follow. -/
theorem Fails.bind {x : Load α} {e : LoadError} (fails : Fails x e) (f : α → Load β) :
    Fails (x >>= f) e := by
  intro events
  obtain ⟨later, given⟩ := fails events
  exact ⟨later, by rw [run_bind, given]⟩

theorem Gives.bind_fails {x : Load α} {f : α → Load β} {a : α} {e : LoadError} (first : Gives x a)
    (next : Fails (f a) e) : Fails (x >>= f) e := by
  intro events
  obtain ⟨events', given⟩ := first events
  obtain ⟨later, given'⟩ := next events'
  exact ⟨later, by rw [run_bind, given]; exact given'⟩

theorem steady_pure (a : α) : Steady (pure a) (pure a) := by
  rintro b ⟨_, later, given⟩
  cases given
  exact gives_pure a

theorem carries_fail (h : α → β) (path : String) (fault : LoadFault) (y : Load β) :
    Carries h (fail path fault) y := by
  rintro b ⟨_, later, given⟩
  nomatch given

/-- Steps that are steady stay so in a row. -/
theorem Steady.bind {h : β → γ} {x y : Load α} {f : α → Load β} {g : α → Load γ}
    (first : Steady x y) (next : ∀ a, Carries h (f a) (g a)) : Carries h (x >>= f) (y >>= g) := by
  intro b comes
  obtain ⟨a, comes, comes'⟩ := comes_bind comes
  exact (first a comes).bind (next a b comes')

theorem steady_report (e e' : Event) : Steady (report e) (report e') :=
  fun _ _ _ => ⟨_, rfl⟩

theorem steady_atPath (path path' : String) (x : Except NodeError α) :
    Steady (atPath path x) (atPath path' x) := by
  cases x with
  | error e => exact carries_fail _ _ _ _
  | ok a => exact steady_pure a

theorem steady_fieldsOf (v : Value) (path path' : String) :
    Steady (fieldsOf v path) (fieldsOf v path') := by
  unfold fieldsOf
  split
  · exact steady_pure _
  · exact carries_fail _ _ _ _

theorem steady_itemsOf (v : Value) (path path' : String) :
    Steady (itemsOf v path) (itemsOf v path') := by
  unfold itemsOf
  split
  · exact steady_pure _
  · exact carries_fail _ _ _ _

section

variable {fields fields' : Fields} {key : String}
variable (same : fields'.lookup key = fields.lookup key) (path path' : String)
include same

theorem steady_listField : Steady (listField fields key path) (listField fields' key path') := by
  rw [listField, listField, same]
  exact steady_itemsOf _ _ _

theorem steady_optionalText :
    Steady (optionalText fields key path) (optionalText fields' key path') := by
  unfold optionalText
  rw [same]
  split
  · exact steady_pure _
  · exact steady_pure _
  · exact steady_pure _
  · exact carries_fail _ _ _ _

theorem steady_requiredText :
    Steady (requiredText fields key path) (requiredText fields' key path') := by
  refine (steady_optionalText same path path').bind fun s => ?_
  split
  · split
    · exact carries_fail _ _ _ _
    · exact steady_pure _
  · exact carries_fail _ _ _ _

theorem steady_boolField : Steady (boolField fields key path) (boolField fields' key path') := by
  unfold boolField
  rw [same]
  split
  · exact steady_pure _
  · exact steady_pure _
  · exact carries_fail _ _ _ _

theorem steady_numberField :
    Steady (numberField fields key path) (numberField fields' key path') := by
  unfold numberField
  rw [same]
  split
  · exact steady_pure _
  · exact steady_pure _
  · exact steady_pure _
  · exact carries_fail _ _ _ _

end

/-- A list is read alike in every place if its items are. -/
theorem steady_loadItems {load : Value → String → Load α}
    (each : ∀ v path path', Steady (load v path) (load v path')) (path path' : String)
    (index index' : Nat) (items : List Value) :
    Steady (loadItems load path index items) (loadItems load path' index' items) := by
  induction items generalizing index index' with
  | nil => exact steady_pure []
  | cons v items ih =>
    exact (each v _ _).bind fun a => (ih (index + 1) (index' + 1)).bind fun as => steady_pure _

/-- A type is read alike wherever it stands; only what is reported differs. -/
theorem steady_loadTypeRef (fields : Fields) (path path' : String) :
    Steady (loadTypeRef fields path) (loadTypeRef fields path') := by
  refine (steady_optionalText rfl _ _).bind fun label => ?_
  refine (steady_optionalText rfl _ _).bind fun classId => ?_
  refine (steady_optionalText rfl _ _).bind fun name => ?_
  dsimp only
  split
  · exact (steady_report _ _).bind fun _ => steady_atPath _ _ _
  · exact steady_atPath _ _ _

theorem steady_loadDependency (v : Value) (path path' : String) :
    Steady (loadDependency v path) (loadDependency v path') := by
  refine (steady_fieldsOf v _ _).bind fun fields => ?_
  exact (steady_loadTypeRef fields _ _).bind fun t => steady_pure _

theorem steady_loadParameterType (fields : Fields) (path path' : String) :
    Steady (loadParameterType fields path) (loadParameterType fields path') := by
  unfold loadParameterType
  split
  · exact steady_atPath _ _ _
  · exact steady_loadTypeRef _ _ _
  · exact carries_fail _ _ _ _

theorem steady_loadParameter (v : Value) (path path' : String) :
    Steady (loadParameter v path) (loadParameter v path') := by
  refine (steady_fieldsOf v _ _).bind fun fields => ?_
  refine (steady_loadParameterType fields _ _).bind fun type => ?_
  refine (steady_requiredText rfl _ _).bind fun name => ?_
  refine (steady_boolField rfl _ _).bind fun isRequired => ?_
  refine (steady_boolField rfl _ _).bind fun hasMin => ?_
  refine (steady_numberField rfl _ _).bind fun min? => ?_
  refine (steady_boolField rfl _ _).bind fun hasMax => ?_
  refine (steady_numberField rfl _ _).bind fun max? => ?_
  exact steady_atPath _ _ _

theorem steady_loadOperation (v : Value) (path path' : String) :
    Steady (loadOperation v path) (loadOperation v path') := by
  refine (steady_fieldsOf v _ _).bind fun fields => ?_
  refine (steady_listField rfl _ _).bind fun items => ?_
  refine (steady_loadItems steady_loadParameter _ _ 0 0 items).bind fun parameters => ?_
  refine (steady_requiredText rfl _ _).bind fun name => ?_
  exact steady_atPath _ _ _

theorem steady_loadTag (v : Value) (path path' : String) :
    Steady (loadTag v path) (loadTag v path') := by
  refine (steady_fieldsOf v _ _).bind fun fields => ?_
  have named (value : Option TagValue) :
      Steady (requiredText fields "name" path >>= fun name => atPath path (Tag.make name value))
        (requiredText fields "name" path' >>= fun name => atPath path' (Tag.make name value)) :=
    (steady_requiredText rfl _ _).bind fun name => steady_atPath _ _ _
  dsimp only
  split
  · exact (steady_pure _).bind named
  · exact (steady_pure _).bind named
  · exact (steady_pure _).bind named
  · exact (steady_pure _).bind named
  · exact Steady.bind (carries_fail _ _ _ _) named

/-- Items are read one after the other, those in front first. -/
theorem loadItems_append (load : Value → String → Load α) (path : String) (index : Nat)
    (first later : List Value) :
    loadItems load path index (first ++ later) = (do
      let as ← loadItems load path index first
      let bs ← loadItems load path (index + first.length) later
      return as ++ bs) := by
  induction first generalizing index with
  | nil => simp [loadItems]
  | cons v first ih =>
    have place : index + 1 + first.length = index + (v :: first).length := by
      rw [List.length_cons]
      omega
    rw [List.cons_append, loadItems, loadItems, ih, place]
    simp only [bind_assoc, pure_bind, List.cons_append]

/-- As many items are read as there are. -/
theorem length_of_loadItems {load : Value → String → Load α} {path : String} {index : Nat}
    {items : List Value} {as : List α} (comes : Comes (loadItems load path index items) as) :
    as.length = items.length := by
  induction items generalizing index as with
  | nil =>
    obtain ⟨_, _, given⟩ := comes
    cases given
    rfl
  | cons v items ih =>
    obtain ⟨a, -, comes⟩ := comes_bind comes
    obtain ⟨bs, rest, _, _, given⟩ := comes_bind comes
    cases given
    exact congrArg Nat.succ (ih rest)

/-- What is read of a class besides its name and its dependencies. -/
def loadClassRest (fields : Fields) (path name : String) (dependencies : List Dependency) :
    Load Class := do
  let operations ← loadItems loadOperation (propertyPath path "operations") 0
    (← listField fields "operations" path)
  let tags ← loadItems loadTag (propertyPath path "tags") 0 (← listField fields "tags" path)
  let id := textOr (← optionalText fields "id" path) name
  let stereotype ← optionalText fields "stereotypeName" path
  atPath path (Class.make id name stereotype dependencies operations tags)

/-- Reading a class comes to its dependencies after its name, and to everything else after them. -/
theorem loadClass_record (fields : Fields) (path : String) :
    loadClass (.record fields) path = (do
      let name ← requiredText fields "name" path
      let items ← listField fields "dependencies" path
      let dependencies ← loadItems loadDependency (propertyPath path "dependencies") 0 items
      loadClassRest fields path name dependencies) := rfl

/-- A property in front hides no property of another name. -/
theorem lookup_override {fields : Fields} {key key' : String} {v : Value} (differ : key' ≠ key) :
    fields.lookup key' = List.lookup key' ((key, v) :: fields) := by
  rw [List.lookup_cons, beq_false_of_ne differ]

/-- The dependencies of a class may be exchanged, and the rest of it is read as before. -/
theorem carries_loadClassRest {fields fields' : Fields}
    (same : ∀ key, key ≠ "dependencies" → fields'.lookup key = fields.lookup key)
    (path path' name : String) (dependencies dependencies' : List Dependency) :
    Carries (fun c => { c with dependencies := dependencies' })
      (loadClassRest fields path name dependencies)
      (loadClassRest fields' path' name dependencies') := by
  refine (steady_listField (same _ (by decide)) _ _).bind fun items => ?_
  refine (steady_loadItems steady_loadOperation _ _ 0 0 items).bind fun operations => ?_
  refine (steady_listField (same _ (by decide)) _ _).bind fun marks => ?_
  refine (steady_loadItems steady_loadTag _ _ 0 0 marks).bind fun tags => ?_
  refine (steady_optionalText (same _ (by decide)) _ _).bind fun id => ?_
  refine (steady_optionalText (same _ (by decide)) _ _).bind fun stereotype => ?_
  unfold Class.make
  split
  · rintro c ⟨_, later, given⟩
    cases given
    exact gives_pure _
  · split
    · exact carries_fail _ _ _ _
    · split
      · exact carries_fail _ _ _ _
      · exact carries_fail _ _ _ _

/-- What is read after the dependencies leaves them as they are. -/
theorem dependencies_of_loadClassRest {fields : Fields} {path name : String}
    {dependencies : List Dependency} {c : Class}
    (comes : Comes (loadClassRest fields path name dependencies) c) :
    c.dependencies = dependencies := by
  obtain ⟨items, -, comes⟩ := comes_bind comes
  obtain ⟨operations, -, comes⟩ := comes_bind comes
  obtain ⟨marks, -, comes⟩ := comes_bind comes
  obtain ⟨tags, -, comes⟩ := comes_bind comes
  obtain ⟨id, -, comes⟩ := comes_bind comes
  obtain ⟨stereotype, -, _, _, made⟩ := comes_bind comes
  unfold Class.make at made
  split at made
  · cases made
    rfl
  · split at made
    · nomatch made
    · split at made <;> nomatch made

theorem steady_loadClassRest (fields : Fields) (path path' name : String)
    (dependencies : List Dependency) :
    Steady (loadClassRest fields path name dependencies)
      (loadClassRest fields path' name dependencies) := by
  intro c comes
  obtain rfl := dependencies_of_loadClassRest comes
  exact carries_loadClassRest (fun _ _ => rfl) _ _ _ _ _ c comes

theorem steady_loadClass (v : Value) (path path' : String) :
    Steady (loadClass v path) (loadClass v path') := by
  refine (steady_fieldsOf v _ _).bind fun fields => ?_
  refine (steady_requiredText rfl _ _).bind fun name => ?_
  refine (steady_listField rfl _ _).bind fun ends => ?_
  refine (steady_loadItems steady_loadDependency _ _ 0 0 ends).bind fun dependencies => ?_
  exact steady_loadClassRest fields _ _ name dependencies

/-- The classes that are added to a model are those that the values are read as. -/
theorem classes_of_loadClasses {items : List Value} {m full : Model} {index : Nat}
    (comes : Comes (loadClasses m index items) full) :
    ∃ later, List.Forall₂ ReadsClass items later ∧ full.name = m.name ∧
      full.classes = m.classes ++ later ∧ full.revision = m.revision + later.length := by
  induction items generalizing m index with
  | nil =>
    obtain ⟨_, _, given⟩ := comes
    cases given
    exact ⟨[], .nil, rfl, (List.append_nil _).symm, rfl⟩
  | cons v items ih =>
    obtain ⟨c, read, comes⟩ := comes_bind comes
    obtain ⟨m', added, comes⟩ := comes_bind comes
    obtain ⟨later, reads, name, classes, revision⟩ := ih comes
    have shape : m'.name = m.name ∧ m'.classes = m.classes ++ [c] ∧
        m'.revision = m.revision + 1 := by
      obtain ⟨_, _, added⟩ := added
      unfold Model.addClass at added
      split at added
      · cases added
      · cases added
        exact ⟨rfl, rfl, rfl⟩
    refine ⟨c :: later, .cons (fun path => steady_loadClass v _ path c read) reads,
      name.trans shape.1, ?_, ?_⟩
    · rw [classes, shape.2.1, List.append_assoc, List.singleton_append]
    · rw [revision, shape.2.2, List.length_cons]
      omega

/-- Classes are added one after the other, those in front first. -/
theorem loadClasses_append (m : Model) (index : Nat) (first later : List Value) :
    loadClasses m index (first ++ later) =
      loadClasses m index first >>= fun m' => loadClasses m' (index + first.length) later := by
  induction first generalizing m index with
  | nil => simp [loadClasses]
  | cons v first ih =>
    have place : index + 1 + first.length = index + (v :: first).length := by
      rw [List.length_cons]
      omega
    rw [List.cons_append, loadClasses, loadClasses]
    simp only [ih, place, bind_assoc]

end ServiceDiagram.Ingest

import ServiceDiagram.Complaint
import ServiceDiagram.Ingest.Reader
import ServiceDiagram.Proofs.Diagram.WellFormed

namespace ServiceDiagram

namespace Ingest

variable {α β : Type}

/-- Whatever is read has a property. -/
def Yields (x : Load α) (P : α → Prop) : Prop :=
  ∀ events a later, x.run.run events = (.ok a, later) → P a

/-- What holds of every result of a reader can be used for what follows it. -/
theorem Yields.bind {x : Load α} {f : α → Load β} {P : α → Prop} {Q : β → Prop}
    (first : Yields x P) (next : ∀ a, P a → Yields (f a) Q) : Yields (x >>= f) Q := by
  intro events b later read
  change (match x.run.run events with | (r, s) => (ExceptT.bindCont f r).run s) = _ at read
  cases given : x.run.run events with
  | mk r s =>
    rw [given] at read
    cases r with
    | error e => cases read
    | ok a => exact next a (first events a s given) s b later read

theorem Yields.trivial (x : Load α) : Yields x fun _ => True := fun _ _ _ _ => True.intro

theorem yields_pure {a : α} {P : α → Prop} (holds : P a) : Yields (pure a) P := by
  intro events b later read
  cases read
  exact holds

theorem yields_fail {P : α → Prop} (path : String) (fault : LoadFault) :
    Yields (fail path fault) P := nofun

theorem yields_atPath {x : Except NodeError α} {P : α → Prop} (path : String)
    (made : ∀ a, x = .ok a → P a) : Yields (atPath path x) P := by
  cases x with
  | error e => exact yields_fail path (.node e)
  | ok a => exact yields_pure (made a rfl)

/-- What holds of every item that is read holds of all of them. -/
theorem yields_loadItems {load : Value → String → Load α} {P : α → Prop}
    (each : ∀ v path, Yields (load v path) P) (path : String) (index : Nat) (items : List Value) :
    Yields (loadItems load path index items) fun as => ∀ a ∈ as, P a := by
  induction items generalizing index with
  | nil => exact yields_pure nofun
  | cons v items ih =>
    refine (each v _).bind fun a holds => ?_
    refine (ih (index + 1)).bind fun as later => ?_
    exact yields_pure (List.forall_mem_cons.mpr ⟨holds, later⟩)

theorem TypeRef.fields_of_make {name : String} {kind : TargetKind} {classId : Option String}
    {t : TypeRef} (made : TypeRef.make name kind classId = .ok t) :
    t.name = name ∧ t.kind = kind ∧ t.classId = classId := by
  unfold TypeRef.make at made
  split at made
  · cases made
    exact ⟨rfl, rfl, rfl⟩
  · split at made <;> cases made

/-- A type that is made is well-formed if it has a class exactly as an object. -/
theorem wellFormed_of_make {name : String} {kind : TargetKind} {classId : Option String}
    {t : TypeRef} (made : TypeRef.make name kind classId = .ok t)
    (fits : classId.isSome ↔ kind = .object) : t.WellFormed := by
  obtain ⟨-, rfl, rfl⟩ := TypeRef.fields_of_make made
  exact ⟨fits, t.valid.2⟩

/-- A claim to be an object that names no class is given up, so that objects name classes, and nothing
else does. -/
theorem yields_loadTypeRef (fields : Fields) (path : String) :
    Yields (loadTypeRef fields path) TypeRef.WellFormed := by
  refine (Yields.trivial _).bind fun label _ => ?_
  refine (Yields.trivial _).bind fun classId _ => ?_
  refine (Yields.trivial _).bind fun name _ => ?_
  dsimp only
  split
  · refine (Yields.trivial _).bind fun _ _ => ?_
    exact yields_atPath path fun t made => wellFormed_of_make made (by simp)
  · rename_i notGivenUp
    refine yields_atPath path fun t made => wellFormed_of_make made ?_
    split
    · rename_i isObject
      simp only [isObject, iff_true]
      exact Option.isSome_iff_ne_none.mpr fun absent => notGivenUp ⟨isObject, absent⟩
    · rename_i noObject
      simp [noObject]

theorem yields_loadDependency (v : Value) (path : String) :
    Yields (loadDependency v path) fun d => d.target.WellFormed := by
  refine (Yields.trivial _).bind fun fields _ => ?_
  exact (yields_loadTypeRef fields path).bind fun t wellFormed => yields_pure wellFormed

theorem yields_loadParameterType (fields : Fields) (path : String) :
    Yields (loadParameterType fields path) TypeRef.WellFormed := by
  unfold loadParameterType
  split
  · exact yields_atPath path fun t made => wellFormed_of_make made (by simp)
  · exact yields_loadTypeRef _ path
  · exact yields_fail path _

theorem type_of_make {name : String} {type : TypeRef} {isRequired hasMin hasMax : Bool}
    {min? max? : Option Number} {p : Parameter}
    (made : Parameter.make name (some type) isRequired hasMin min? hasMax max? = .ok p) :
    p.type = type := by
  unfold Parameter.make at made
  split at made
  · cases made
  · dsimp only at made
    split at made
    · cases made
      rfl
    · cases made

/-- Whatever is read as a parameter is well-formed. -/
theorem yields_loadParameter (v : Value) (path : String) :
    Yields (loadParameter v path) Parameter.WellFormed := by
  refine (Yields.trivial _).bind fun fields _ => ?_
  refine (yields_loadParameterType fields _).bind fun type wellFormed => ?_
  refine (Yields.trivial _).bind fun name _ => ?_
  refine (Yields.trivial _).bind fun isRequired _ => ?_
  refine (Yields.trivial _).bind fun hasMin _ => ?_
  refine (Yields.trivial _).bind fun min? _ => ?_
  refine (Yields.trivial _).bind fun hasMax _ => ?_
  refine (Yields.trivial _).bind fun max? _ => ?_
  exact yields_atPath path fun p made => Parameter.wellFormed (type_of_make made ▸ wellFormed)

theorem yields_loadOperation (v : Value) (path : String) :
    Yields (loadOperation v path) Operation.WellFormed := by
  refine (Yields.trivial _).bind fun fields _ => ?_
  refine (Yields.trivial _).bind fun items _ => ?_
  refine (yields_loadItems yields_loadParameter _ 0 items).bind fun parameters wellFormed => ?_
  refine (Yields.trivial _).bind fun name _ => ?_
  refine yields_atPath path fun o made => ?_
  unfold Operation.make at made
  split at made
  · cases made
    exact Operation.wellFormed wellFormed
  · split at made <;> cases made

/-- Whatever is read as a class is well-formed. -/
theorem yields_loadClass (v : Value) (path : String) :
    Yields (loadClass v path) Class.WellFormed := by
  refine (Yields.trivial _).bind fun fields _ => ?_
  refine (Yields.trivial _).bind fun name _ => ?_
  refine (Yields.trivial _).bind fun ends _ => ?_
  refine (yields_loadItems yields_loadDependency _ 0 ends).bind fun dependencies targets => ?_
  refine (Yields.trivial _).bind fun items _ => ?_
  refine (yields_loadItems yields_loadOperation _ 0 items).bind fun operations wellFormed => ?_
  refine (Yields.trivial _).bind fun marks _ => ?_
  refine (Yields.trivial _).bind fun tags _ => ?_
  refine (Yields.trivial _).bind fun id _ => ?_
  refine (Yields.trivial _).bind fun stereotype _ => ?_
  refine yields_atPath path fun c made => ?_
  unfold Class.make at made
  split at made
  · cases made
    exact Class.wellFormed targets wellFormed
  · split at made
    · cases made
    · split at made <;> cases made

/-- A model stays well-formed with a class more: the revision goes on counting. -/
theorem wellFormed_of_addClass {m m' : Model} {c : Class} (model : m.WellFormed)
    (wellFormed : c.WellFormed) (added : m.addClass c = .ok m') : m'.WellFormed := by
  unfold Model.addClass at added
  split at added
  · cases added
  · cases added
    refine Model.wellFormed ?_ (by simp [model.revision])
    intro d member
    rcases List.mem_append.mp member with old | new
    · exact model.classes d old
    · exact List.mem_singleton.mp new ▸ wellFormed

/-- So classes are added one by one and the model stays well-formed. -/
theorem yields_loadClasses {m : Model} (wellFormed : m.WellFormed) (index : Nat)
    (items : List Value) : Yields (loadClasses m index items) Model.WellFormed := by
  induction items generalizing m index with
  | nil => exact yields_pure wellFormed
  | cons v items ih =>
    refine (yields_loadClass v _).bind fun c isClass => ?_
    refine (yields_atPath (P := Model.WellFormed) _ fun m' added => ?_).bind fun m' later => ?_
    · exact wellFormed_of_addClass wellFormed isClass added
    · exact ih later (index + 1)

/-- Whatever is read as a model is well-formed. -/
theorem yields_loadModel (data : Value) (defaultName : String) :
    Yields (loadModel data defaultName) Model.WellFormed := by
  refine (Yields.trivial _).bind fun fields _ => ?_
  refine (Yields.trivial _).bind fun name _ => ?_
  refine (Yields.trivial _).bind fun items _ => ?_
  have none : (Model.empty (textOr name defaultName)).WellFormed := Model.wellFormed nofun rfl
  refine (yields_loadClasses none 0 items).bind fun m wellFormed => ?_
  exact (Yields.trivial _).bind fun _ _ => yields_pure wellFormed

end Ingest

theorem NodeError.message_ne_empty (e : NodeError) : e.message ≠ "" := by
  cases e with
  | emptyTypeName => decide
  | noTarget => decide
  | emptyTagName => decide
  | emptyParameterName => decide
  | emptyOperationName => decide
  | emptyClassId => decide
  | emptyClassName => decide
  | _ =>
    unfold message
    simp only [toString, ne_eq, String.append_eq_empty_iff]
    simp

/-- Every fault has something to say, so that it can be raised. -/
theorem LoadFault.message_ne_empty (f : LoadFault) : f.message ≠ "" := by
  cases f with
  | node e => exact e.message_ne_empty
  | required => decide
  | noType => decide
  | _ =>
    unfold message
    simp only [ne_eq, String.append_eq_empty_iff]
    simp

/-- A fault can be raised: the complaint about it has a reason. -/
theorem LoadError.complaint (e : LoadError) :
    Complaint.make .modelLoad [e.path, e.fault.message] =
      .ok ⟨.modelLoad, [e.path, e.fault.message]⟩ := by
  simp [Complaint.make, ComplaintKind.fields, ComplaintKind.requiredFields,
    e.fault.message_ne_empty]

/-- Any data are read as a well-formed model, or refused with a complaint about the model; nothing else
comes of them. -/
theorem Model.load_wellFormed_or_error (data : Value) (defaultName : String) :
    (∃ m, Model.load data defaultName = .ok m ∧ m.WellFormed) ∨
      ∃ e c, Model.load data defaultName = .error e ∧
        Complaint.make .modelLoad [e.path, e.fault.message] = .ok c ∧ c.kind = .modelLoad ∧
        c.message = e.message := by
  cases loaded : Model.load data defaultName with
  | ok m =>
    have read : (Ingest.loadModel data defaultName).run.run [] = (.ok m, _) := Prod.ext loaded rfl
    exact .inl ⟨m, rfl, Ingest.yields_loadModel data defaultName _ m _ read⟩
  | error e => exact .inr ⟨e, _, rfl, e.complaint, rfl, rfl⟩

end ServiceDiagram

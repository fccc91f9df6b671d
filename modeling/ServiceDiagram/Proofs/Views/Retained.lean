import ServiceDiagram.Proofs.Views.Frame
import ServiceDiagram.Proofs.Views.Generation

namespace ServiceDiagram

namespace Workspace

variable {w w' w'' : Workspace}

/-- Views stay what they are, what is kept of accessors is only added to, and models keep their
names. -/
structure Retains (w w' : Workspace) : Prop where
  grows : w.Grows w'
  memo : ∀ key d, w.memo.lookup key = some d → w'.memo.lookup key = some d
  names : ∀ i, (w'.model i).name = (w.model i).name

/-- What is retained over one step and over another is retained over both. -/
theorem Retains.trans (first : w.Retains w') (later : w'.Retains w'') : w.Retains w'' where
  grows := first.grows.trans later.grows
  memo := fun key d kept => later.memo key d (first.memo key d kept)
  names := fun i => (later.names i).trans (first.names i)

theorem ReadTo.retains (read : w.ReadTo w') : w.Retains w' where
  grows := .of_eq read.augmented
  memo := read.memo
  names := fun i => by rw [model, model, read.models]

theorem Retains.refl (w : Workspace) : w.Retains w := (ReadTo.refl w).retains

theorem Retains.augmentedModel (retains : w.Retains w') {number : Nat}
    (there : number < w.augmented.length) : w'.augmentedModel number = w.augmentedModel number := by
  obtain ⟨more, views⟩ := retains.grows
  simp only [Workspace.augmentedModel, views, List.getElem?_append_left there]

theorem name_of_addClass {m m' : Model} {c : Class} (added : m.addClass c = .ok m') :
    m'.name = m.name := by
  unfold Model.addClass at added
  split at added
  · cases added
  · cases added
    rfl

/-- No step around an engine takes back views, or what is kept of accessors, or names of models. -/
theorem retains_step (engine : Nat) (s : Step) : w.Retains (s.after engine w) := by
  cases s with
  | register i a =>
    rw [Step.after, Work.register_outcome]
    cases (w.registry i).register a <;> exact ⟨.of_eq rfl, fun _ _ => id, fun _ => rfl⟩
  | addClass i c =>
    rw [Step.after, Work.addClass_outcome]
    cases added : (w.model i).addClass c with
    | error e => exact .refl w
    | ok m =>
      refine ⟨.of_eq rfl, fun _ _ => id, fun j => ?_⟩
      rw [model_set]
      split
      · rename_i here
        exact here.1 ▸ name_of_addClass added
      · rfl
  | apply target =>
    rcases apply_cases w engine target with ⟨events, same⟩ | ⟨model, classes, same⟩ <;> rw [same]
    · exact ⟨.of_eq rfl, fun _ _ => id, fun _ => rfl⟩
    · exact ⟨⟨_, rfl⟩, fun _ _ => id, fun _ => rfl⟩

theorem retains_act (act : Act) : w.Retains (act.after w) := by
  cases act with
  | read on name => exact (readTo_read w on name).retains
  | call on args => exact (readTo_call w on args).retains
  | step engine s => exact retains_step engine s

/-- Where an engine that keeps nothing is added, every engine is what it was or keeps nothing. -/
theorem engine_added (w : Workspace) {e : Engine} (unused : e.applied = []) (engine : Nat) :
    ({ w with engines := w.engines ++ [e] } : Workspace).engine engine = w.engine engine ∨
      (({ w with engines := w.engines ++ [e] } : Workspace).engine engine).applied = [] := by
  by_cases known : engine < w.engines.length
  · exact .inl (by simp only [Workspace.engine, List.getElem?_append_left known])
  · refine .inr ?_
    rw [Workspace.engine, List.getElem?_append_right (Nat.le_of_not_lt known),
      List.getElem?_singleton]
    split
    · exact unused
    · rfl

/-- What has become of a workspace: it retains what is retained for good, and if engines kept nothing
but what has been built, they still do. -/
structure Advances (w w' : Workspace) : Prop where
  retains : w.Retains w'
  coherent : (∀ engine, Coherent engine w) → ∀ engine, Coherent engine w'

theorem Advances.trans (first : w.Advances w') (later : w'.Advances w'') : w.Advances w'' :=
  ⟨first.retains.trans later.retains, fun sound => later.coherent (first.coherent sound)⟩

theorem Advances.refl (w : Workspace) : w.Advances w := ⟨.refl w, id⟩

theorem ReadTo.advances (read : w.ReadTo w') : w.Advances w' := by
  refine ⟨read.retains, fun sound engine => (sound engine).later (read.later engine) ?_⟩
  rw [Workspace.engine, read.engines]
  rfl

theorem isFrame_advances : IsFrame Advances where
  trans := Advances.trans
  blind := fun models registries typeSystems engines augmented hosts memo =>
    (isFrame_readTo.blind models registries typeSystems engines augmented hosts memo).advances

theorem advances_act (act : Act) : w.Advances (act.after w) :=
  ⟨retains_act act, fun sound engine => (sound engine).act act⟩

end Workspace

open Workspace

namespace Work

variable {α β : Type}

/-- Work that comes to the same result, and changes nothing any more, once it has come to one. -/
structure IsRepeatable (x : Work α) : Prop where
  onlyReads : x.OnlyReads
  again : ∀ {w w' w'' : Workspace} {a : α}, x.outcome w = (.ok a, w') → w'.Retains w'' →
    x.outcome w'' = (.ok a, w'')

/-- Work that comes to one and the same result always, and changes nothing. -/
theorem isRepeatable_of_same {x : Work α} {r : Except Failure α}
    (same : ∀ w, x.outcome w = (r, w)) : x.IsRepeatable where
  onlyReads := onlyReads_of_same fun w => by rw [same]
  again := by
    intro w w' w'' a given _
    rw [same] at given ⊢
    rw [(Prod.mk.inj given).1]

theorem isRepeatable_pure (a : α) : (pure a : Work α).IsRepeatable :=
  isRepeatable_of_same fun _ => rfl

theorem isRepeatable_throw (e : Failure) : (throw e : Work α).IsRepeatable :=
  isRepeatable_of_same fun _ => rfl

/-- Work that can be repeated can be repeated in a row. -/
theorem IsRepeatable.bind {x : Work α} {f : α → Work β} (first : x.IsRepeatable)
    (rest : ∀ a, (f a).IsRepeatable) : (x >>= f).IsRepeatable where
  onlyReads := first.onlyReads.bind fun a => (rest a).onlyReads
  again := by
    intro w w' w'' b given retains
    obtain ⟨a, w₁, came, given⟩ := exists_of_outcome_bind given
    have between : w₁.Retains w' := by
      have left := (rest a).onlyReads w₁
      rw [given] at left
      exact left.retains
    rw [outcome_bind_of_ok (first.again came (between.trans retains))]
    exact (rest a).again given retains

theorem pure_of_viewAttribute {v : ViewRef} {n : NodeView} {name : String} {work : Work Datum}
    (own : viewAttribute? v n name = some work) (noType : name ≠ "descriptor") :
    ∃ d, work = pure d := by
  unfold viewAttribute? at own
  split at own
  case h_10 => exact absurd rfl noType
  case h_11 => cases own
  all_goals
    cases own
    exact ⟨_, rfl⟩

/-- The result that an accessor comes to is kept. -/
theorem kept_of_accessor {answer : Request → Work Datum} {d : Definition} {v : ViewRef}
    {name : String} {w w' : Workspace} {r : Datum}
    (given : (accessor answer d v name).outcome w = (.ok r, w')) :
    w'.memo.lookup (v, name) = some r := by
  unfold accessor at given
  rw [outcome_get] at given
  cases kept : w.memo.lookup (v, name) with
  | some earlier =>
    rw [kept] at given
    cases given
    exact kept
  | none =>
    rw [kept] at given
    dsimp only at given
    obtain ⟨result, w₁, -, given⟩ := exists_of_outcome_bind given
    rw [outcome_get] at given
    cases kept' : w₁.memo.lookup (v, name) with
    | some earlier =>
      rw [kept'] at given
      cases given
      exact kept'
    | none =>
      rw [kept'] at given
      cases given
      exact List.lookup_cons_self

/-- A result that is kept is given again. -/
theorem accessor_of_kept {answer : Request → Work Datum} {d : Definition} {v : ViewRef}
    {name : String} {w : Workspace} {r : Datum} (kept : w.memo.lookup (v, name) = some r) :
    (accessor answer d v name).outcome w = (.ok r, w) := by
  unfold accessor
  rw [outcome_get, kept]
  rfl

theorem isRepeatable_nodeAttribute (n : Node) (name : String) :
    (nodeAttribute n name).IsRepeatable := by
  -- a node answers the same in every workspace
  refine isRepeatable_of_same (r := ((nodeAttribute n name).outcome .empty).1) fun w => ?_
  have same : (Datum.ofNode n).attribute? w name = (Datum.ofNode n).attribute? .empty name := by
    cases n <;> rfl
  unfold nodeAttribute
  rw [outcome_get, outcome_get, same]
  cases (Datum.ofNode n).attribute? .empty name <;> rfl

/-- So an accessor can be repeated once it has succeeded. -/
theorem isRepeatable_accessor {answer : Request → Work Datum}
    (answers : ∀ request, (answer request).OnlyReads) (d : Definition) (v : ViewRef)
    (name : String) : (accessor answer d v name).IsRepeatable where
  onlyReads := onlyReads_accessor answers d v name
  again := fun given retains => accessor_of_kept (retains.memo _ _ (kept_of_accessor given))

/-- Everything about a view but the type of its parameter is read from the view and from what is
kept. -/
theorem isRepeatable_readNode {answer : Request → Work Datum}
    (answers : ∀ request, (answer request).OnlyReads) (v : ViewRef) (n : NodeView) {name : String}
    (noType : name ≠ "descriptor") : (readNode answer v n name).IsRepeatable := by
  unfold readNode
  cases own : viewAttribute? v n name with
  | some work =>
    obtain ⟨d, rfl⟩ := pure_of_viewAttribute own noType
    exact isRepeatable_pure d
  | none =>
    dsimp only
    split
    · exact isRepeatable_throw _
    · cases n.capability? name with
      | none => exact isRepeatable_nodeAttribute n.node name
      | some c =>
        dsimp only
        cases c.kind with
        | function => exact isRepeatable_pure _
        | accessor => exact isRepeatable_accessor answers c.definition v name

/-- Every read of a view can be repeated but that of the type of a parameter, which the type system
gives. -/
theorem isRepeatable_readView (v : ViewRef) {name : String} (noType : name ≠ "descriptor") :
    (Work.read (.view v) name).IsRepeatable where
  onlyReads := onlyReads_answer depthLimit (.read (.view v) name)
  again := by
    intro w w' w'' r given retains
    have read := onlyReads_answer depthLimit (.read (.view v) name) w
    rw [show (answer depthLimit _).outcome w = _ from given] at read
    have all := read.retains.trans retains
    change (readView (answer 399) v name).outcome w = _ at given
    change (readView (answer 399) v name).outcome w'' = _
    rw [readView_outcome] at given ⊢
    cases there : w.view? v with
    | none =>
      rw [there] at given
      cases given
    | some n =>
      rw [there] at given
      rw [all.grows.view? there]
      exact (isRepeatable_readNode (onlyReads_answer 399) v n noType).again given retains

/-- The names under which all but views answer what they always answer. -/
def fixedNames : List String := ["class_", "name", "type"]

/-- The attributes that a report reads of data do not change either. -/
theorem attribute?_retained {w w' : Workspace} (retains : w.Retains w') {name : String}
    (fixed : name ∈ fixedNames) (d : Datum) : d.attribute? w' name = d.attribute? w name := by
  have field : d.field? w' name = d.field? w name := by
    simp only [fixedNames, List.mem_cons, List.not_mem_nil, or_false] at fixed
    rcases fixed with rfl | rfl | rfl
    · cases d <;> rfl
    · cases d with
      | model i => exact congrArg (fun s => some (Datum.text s)) (retains.names i)
      | _ => rfl
    · cases d <;> rfl
  rw [Datum.attribute?, Datum.attribute?, field]

theorem isRepeatable_read (d : Datum) {name : String} (fixed : name ∈ fixedNames) :
    (Work.read d name).IsRepeatable := by
  by_cases isView : ∃ v, d = .view v
  · obtain ⟨v, rfl⟩ := isView
    refine isRepeatable_readView v ?_
    rintro rfl
    exact absurd fixed (by decide)
  · have noView (v : ViewRef) : d ≠ .view v := fun same => isView ⟨v, same⟩
    refine ⟨onlyReads_answer depthLimit (.read d name), fun {w w' w'' r} given retains => ?_⟩
    rw [Work.read, depthLimit, outcome_read_part 399 name noView] at given ⊢
    obtain ⟨came, rfl⟩ := Prod.mk.inj given
    rw [attribute?_retained retains fixed d, came]

/-- Work that is made up of reads: of anything about a view but the type of its parameter, and of
what answers the same always. -/
inductive IsReading : {α : Type} → Work α → Prop
  | pure {α : Type} (a : α) : IsReading (Pure.pure a : Work α)
  | throw {α : Type} (e : Failure) : IsReading (MonadExcept.throw e : Work α)
  | bind {α β : Type} {x : Work α} {f : α → Work β} (first : IsReading x)
      (rest : ∀ a, IsReading (f a)) : IsReading (x >>= f)
  | view (v : ViewRef) {name : String} (noType : name ≠ "descriptor") :
      IsReading (Work.read (.view v) name)
  | part (d : Datum) {name : String} (fixed : name ∈ fixedNames) : IsReading (Work.read d name)

namespace IsReading

/-- Going through a list can be repeated if its items can. -/
theorem mapM {f : α → Work β} (each : ∀ a, (f a).IsReading) (as : List α) :
    (as.mapM f).IsReading := by
  induction as with
  | nil => exact .pure []
  | cons a as ih =>
    rw [List.mapM_cons]
    exact (each a).bind fun b => ih.bind fun bs => .pure (b :: bs)

theorem isRepeatable {x : Work α} (reading : x.IsReading) : x.IsRepeatable := by
  induction reading with
  | pure a => exact isRepeatable_pure a
  | throw e => exact isRepeatable_throw e
  | bind _ _ first rest => exact first.bind rest
  | view v noType => exact isRepeatable_readView v noType
  | part d fixed => exact isRepeatable_read d fixed

/-- What all answers keep to, readings keep to. -/
theorem follows {R : Workspace → Workspace → Prop} (frame : IsFrame R)
    (answers : ∀ request, (answer depthLimit request).Follows R) {x : Work α}
    (reading : x.IsReading) : x.Follows R := by
  induction reading with
  | pure a => exact follows_of_same frame fun _ => rfl
  | throw e => exact follows_of_same frame fun _ => rfl
  | bind _ _ first rest => exact first.bind frame rest
  | view v noType => exact answers (.read (.view v) _)
  | part d fixed => exact answers (.read d _)

end IsReading

/-- Work that only advances workspaces. -/
def Advances (x : Work α) : Prop := ∀ w : Workspace, w.Advances (x.outcome w).2

theorem advances_grant (i : Nat) (scope : Scope) (cs : List Capability) :
    (grant i scope cs).Advances := by
  refine fun w => ⟨⟨.of_eq rfl, fun _ _ => id, fun _ => rfl⟩, fun sound engine => ?_⟩
  rw [grant_outcome]
  refine (sound engine).later ⟨rfl, rfl, rfl, fun j => ?_, fun _ => .refl _, [],
    (List.append_nil _).symm⟩ rfl
  rw [registry_set]
  split
  · rename_i here
    exact here.1 ▸ Registry.insert_extends _ scope cs
  · exact .refl _

theorem advances_addEngine (registry typeSystem : Nat) (config : Config) :
    (addEngine (some registry) (some typeSystem) config).Advances := by
  refine fun w => ⟨⟨.of_eq rfl, fun _ _ => id, fun _ => rfl⟩, fun sound engine model a kept => ?_⟩
  rcases engine_added w (e := ⟨registry, typeSystem, config, []⟩) rfl engine with same | nothing
  · let w' : Workspace := { w with engines := w.engines ++ [⟨registry, typeSystem, config, []⟩] }
    change w'.kept? engine model = some a at kept
    change w'.Sound engine model a
    rw [kept?, same] at kept
    have built := sound engine model a kept
    refine ⟨built.number_lt, same ▸ built.registry_le, built.model_le, fun current => ?_⟩
    rw [IsCurrent, same] at current
    exact same ▸ built.views current
  · cases (congrArg (List.lookup model) nothing).symm.trans kept

/-- Building views takes nothing back. -/
theorem advances_apply (engine : Nat) (model : Option Nat) : (apply engine model).Advances :=
  fun _ => advances_act (.step engine (.apply model))

end Work

end ServiceDiagram

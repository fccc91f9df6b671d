import ServiceDiagram.Proofs.Views.Outcome
import ServiceDiagram.Views.Definitions
import ServiceDiagram.Views.Reading

namespace ServiceDiagram

namespace Program

variable {α β γ : Type}

theorem bind_done (x : Program α) : x.bind done = x := by
  induction x with
  | done a => rfl
  | fail e => rfl
  | ask request next ih => exact congrArg (ask request) (funext ih)
  | fetch cell next ih => exact congrArg (fetch cell) (funext ih)
  | keep cell n next ih => exact congrArg (keep cell n) ih

theorem bind_assoc (x : Program α) (f : α → Program β) (g : β → Program γ) :
    (x.bind f).bind g = x.bind fun a => (f a).bind g := by
  induction x with
  | done a => rfl
  | fail e => rfl
  | ask request next ih => exact congrArg (ask request) (funext ih)
  | fetch cell next ih => exact congrArg (fetch cell) (funext ih)
  | keep cell n next ih => exact congrArg (keep cell n) ih

instance lawfulMonad : LawfulMonad Program :=
  LawfulMonad.mk' Program bind_done (fun _ _ => rfl) bind_assoc

/-- A program runs part by part. -/
theorem run_bind (answer : Request → Work Datum) (x : Program α) (f : α → Program β) :
    (x.bind f).run answer = x.run answer >>= fun a => (f a).run answer := by
  induction x with
  | done a => rfl
  | fail e => rfl
  | ask request next ih =>
    funext w
    exact congrFun (ih (answer request w).1) (answer request w).2
  | fetch cell next ih =>
    funext w
    exact congrFun (ih _) w
  | keep cell n next ih =>
    funext w
    exact congrFun ih _

theorem run_demand (answer : Request → Work Datum) (request : Request) :
    (demand request).run answer = answer request := by
  funext w
  unfold demand run
  rcases answer request w with ⟨d | e, w'⟩ <;> rfl

end Program

namespace Workspace

/-- How many samples of a type were drawn. -/
def drawn (w : Workspace) (system : Nat) (key : TypeKey) : Nat :=
  (w.calls.lookup (system, key)).getD 0

/-- The workspace after one more sample of a type, whatever came of drawing it. -/
def afterDraw (w : Workspace) (system : Nat) (key : TypeKey) : Workspace :=
  { w with calls := Table.put (system, key) (w.drawn system key + 1) w.calls }

end Workspace

namespace Work

variable {α β : Type} {answer : Request → Work Datum} {w w' : Workspace}

/-- After a step that came to a result, the next one goes on from there. -/
theorem outcome_bind_of_ok {x : Work α} {f : α → Work β} {a : α}
    (given : x.outcome w = (.ok a, w')) : (x >>= f).outcome w = (f a).outcome w' := by
  change x w = _ at given
  change (match x w with | (r, w) => ExceptT.bindCont f r w) = _
  rw [given]
  rfl

theorem outcome_bind_of_error {x : Work α} {f : α → Work β} {e : Failure}
    (failed : x.outcome w = (.error e, w')) : (x >>= f).outcome w = (.error e, w') := by
  change x w = _ at failed
  change (match x w with | (r, w) => ExceptT.bindCont f r w) = _
  rw [failed]
  rfl

theorem exists_of_outcome_bind {x : Work α} {f : α → Work β} {b : β}
    (given : (x >>= f).outcome w = (.ok b, w')) :
    ∃ a w₁, x.outcome w = (.ok a, w₁) ∧ (f a).outcome w₁ = (.ok b, w') := by
  rcases came : x.outcome w with ⟨e | a, w₁⟩
  · rw [outcome_bind_of_error came] at given
    cases given
  · rw [outcome_bind_of_ok came] at given
    exact ⟨a, w₁, rfl, given⟩

theorem unchanged_viewAttribute {v : ViewRef} {n : NodeView} {name : String} {work : Work Datum}
    (own : viewAttribute? v n name = some work) (w : Workspace) : (work.outcome w).2 = w := by
  unfold viewAttribute? at own
  split at own
  case h_10 owner p =>
    cases own
    unfold descriptor
    rw [outcome_get]
    dsimp only
    split <;> rfl
  case h_11 => cases own
  all_goals
    cases own
    rfl

/-- What every view has by itself is read first. -/
theorem read_own (depth : Nat) (name : String) {v : ViewRef} {n : NodeView} {work : Work Datum}
    (there : w.view? v = some n) (own : viewAttribute? v n name = some work) :
    (Work.answer (depth + 1) (.read (.view v) name)).outcome w = work.outcome w := by
  change (readView _ v name).outcome w = _
  unfold readView
  rw [outcome_get]
  simp only [there, own]

/-- What is not a view's own is looked for among its capabilities. -/
theorem read_capability (depth : Nat) {v : ViewRef} {n : NodeView} {c : Capability}
    (there : w.view? v = some n) (notOwn : viewAttribute? v n c.name = none)
    (granted : n.capability? c.name = some c) :
    (Work.answer (depth + 1) (.read (.view v) c.name)).outcome w =
      match c.kind with
      | .function => (.ok (.function v c.definition), w)
      | .accessor => (accessor (Work.answer depth) c.definition v c.name).outcome w := by
  change (readView _ v c.name).outcome w = _
  unfold readView
  rw [outcome_get]
  simp only [there, notOwn, granted, c.isName.2, if_false]
  cases c.kind <;> rfl

/-- What anything but a view has, or that it does not have it. -/
theorem outcome_read_part (depth : Nat) {on : Datum} (name : String) (noView : ∀ v, on ≠ .view v) :
    (Work.answer (depth + 1) (.read on name)).outcome w =
      (match on.attribute? w name with
        | some d => .ok d
        | none => .error (.noAttribute on.typeName name), w) := by
  have unfolded : Work.answer (depth + 1) (.read on name) =
      (get >>= fun w =>
        match on.attribute? w name with
        | some result => pure result
        | none => throw (.noAttribute on.typeName name)) := by
    cases on with
    | view v => exact absurd rfl (noView v)
    | _ => rfl
  rw [unfolded, outcome_get]
  cases on.attribute? w name <;> rfl

theorem read_part (depth : Nat) {on d : Datum} {name : String} (noView : ∀ v, on ≠ .view v)
    (part : on.attribute? w name = some d) :
    (Work.answer (depth + 1) (.read on name)).outcome w = (.ok d, w) := by
  rw [outcome_read_part depth name noView, part]

/-- To follow dependencies reports what was met and changes nothing else. -/
theorem dependents_outcome (model : Nat) (c : Class) (stereotype : Option String) :
    (Work.dependents model c (.optionalText stereotype)).outcome w =
      (.ok (.tuple (((w.model model).dependents c stereotype).map .ofClass)),
        { w with events := w.events ++ (w.model model).dependentEvents c }) := by
  cases stereotype <;> rfl

/-- To draw a sample only counts the call; what the generator gives or fails with is what comes. -/
theorem generate_outcome (system : Nat) (key : TypeKey) (d : TypeDescriptor) (w : Workspace) :
    (generate system key d).outcome w =
      (((d.generator (w.drawn system key)).map Datum.value).mapError Failure.generator,
        w.afterDraw system key) := by
  unfold generate
  rw [outcome_get]
  cases given : d.generator (w.drawn system key) with
  | ok v =>
    rw [Workspace.drawn] at given
    simp only [given]
    rfl
  | error e =>
    rw [Workspace.drawn] at given
    simp only [given]
    rfl

/-- A definition with the right count of arguments runs its body. -/
theorem evaluate_outcome {d : Definition} {v : ViewRef} {args : List Datum}
    (arity : args.length = (d.parameters w).length) :
    (evaluate answer d v args).outcome w = ((d.body w v args).run answer).outcome w := by
  unfold evaluate
  rw [outcome_get]
  have checked : (ofExcept (checkArity d.label args.length (d.parameters w))).outcome w =
      (.ok (), w) := by
    simp only [checkArity, arity, Nat.lt_irrefl, if_false]
    rfl
  exact outcome_bind_of_ok checked

/-- An accessor of which nothing is kept comes to what its evaluation comes to, unless the evaluation
itself has left something to be kept. -/
theorem accessor_unread {d : Definition} {v : ViewRef} {name : String} {result : Except Failure Datum}
    (unread : w.memo.lookup (v, name) = none)
    (evaluated : (evaluate answer d v []).outcome w = (result, w')) :
    ((accessor answer d v name).outcome w).1 =
      result.map fun r => (w'.memo.lookup (v, name)).getD r := by
  unfold accessor
  rw [outcome_get, unread]
  cases result with
  | error e =>
    rw [outcome_bind_of_error evaluated]
    rfl
  | ok r =>
    rw [outcome_bind_of_ok evaluated, outcome_get]
    cases w'.memo.lookup (v, name) <;> rfl

/-- An accessor that was not read before comes to what its evaluation comes to. -/
theorem accessor_outcome {d : Definition} {v : ViewRef} {name : String} {result : Except Failure Datum}
    (unread : w.memo.lookup (v, name) = none)
    (evaluated : (evaluate answer d v []).outcome w = (result, w'))
    (stillUnread : w'.memo.lookup (v, name) = none) :
    ((accessor answer d v name).outcome w).1 = result := by
  rw [accessor_unread unread evaluated, stillUnread]
  cases result <;> rfl

/-- A first read of an accessor comes to what its definition comes to. -/
theorem first_read {v : ViewRef} {n : NodeView} {c : Capability} {result : Except Failure Datum}
    (there : w.view? v = some n) (notOwn : viewAttribute? v n c.name = none)
    (granted : n.capability? c.name = some c) (isAccessor : c.kind = .accessor)
    (alone : c.definition.parameters w = [])
    (run : ((c.definition.body w v []).run (Work.answer 399)).outcome w = (result, w'))
    (unread : w.memo = []) (stillUnread : w'.memo = []) :
    ((Work.read (.view v) c.name).outcome w).1 = result := by
  have read := read_capability 399 there notOwn granted
  rw [isAccessor] at read
  have evaluated : (evaluate (Work.answer 399) c.definition v []).outcome w = (result, w') :=
    (evaluate_outcome (congrArg List.length alone.symm)).trans run
  refine (congrArg Prod.fst read).trans ?_
  exact accessor_outcome (by rw [unread]; rfl) evaluated (by rw [stillUnread]; rfl)

end Work

namespace Program

variable {α β : Type} {answer : Request → Work Datum} {w w' : Workspace}

theorem outcome_bind_of_ok {x : Program α} {f : α → Program β} {a : α}
    (given : (x.run answer).outcome w = (.ok a, w')) :
    ((x.bind f).run answer).outcome w = ((f a).run answer).outcome w' := by
  rw [run_bind]
  exact Work.outcome_bind_of_ok given

theorem outcome_bind_of_error {x : Program α} {f : α → Program β} {e : Failure}
    (failed : (x.run answer).outcome w = (.error e, w')) :
    ((x.bind f).run answer).outcome w = (.error e, w') := by
  rw [run_bind]
  exact Work.outcome_bind_of_error failed

/-- Programs that leave the workspace as it is, one after the other. -/
theorem outcome_mapM {f : α → Program β} {g : α → Except Failure β}
    (each : ∀ a, ((f a).run answer).outcome w = (g a, w)) (as : List α) :
    ((as.mapM f).run answer).outcome w = (as.mapM g, w) := by
  induction as with
  | nil => rfl
  | cons a as ih =>
    rw [List.mapM_cons, List.mapM_cons]
    cases given : g a with
    | error e => exact outcome_bind_of_error (given ▸ each a)
    | ok b =>
      refine (outcome_bind_of_ok (given ▸ each a)).trans ?_
      cases rest : as.mapM g with
      | error e => exact outcome_bind_of_error (rest ▸ ih)
      | ok bs => exact outcome_bind_of_ok (rest ▸ ih)

theorem read_own (depth : Nat) (name : String) {v : ViewRef} {n : NodeView} {d : Datum}
    (there : w.view? v = some n) (own : Work.viewAttribute? v n name = some (pure d)) :
    ((read (.view v) name).run (Work.answer (depth + 1))).outcome w = (.ok d, w) := by
  rw [read, run_demand, Work.read_own depth name there own]
  rfl

theorem read_part (depth : Nat) {on d : Datum} {name : String} (noView : ∀ v, on ≠ .view v)
    (part : on.attribute? w name = some d) :
    ((read on name).run (Work.answer (depth + 1))).outcome w = (.ok d, w) := by
  rw [read, run_demand]
  exact Work.read_part depth noView part

/-- The value of a field of the configuration of a view's augmented model. -/
theorem path_config (depth : Nat) (field : String) {v : ViewRef} {n : NodeView} {d : Datum}
    (there : w.view? v = some n)
    (has : (Datum.config (w.augmentedModel v.augmented).config).attribute? w field = some d) :
    ((path (.view v) ["augmented", "config", field]).run (Work.answer (depth + 1))).outcome w =
      (.ok d, w) := by
  have augmented := read_own depth "augmented" there (by cases n <;> rfl)
  have config : ((read (.augmented v.augmented) "config").run (Work.answer (depth + 1))).outcome w =
      (.ok (.config (w.augmentedModel v.augmented).config), w) := read_part depth nofun rfl
  refine (outcome_bind_of_ok augmented).trans ?_
  refine (outcome_bind_of_ok config).trans ?_
  exact outcome_bind_of_ok (read_part depth nofun has)

theorem outcome_viewOf (depth : Nat) (number : Nat) (c : Class) :
    ((callMethod (.augmented number) "view_of" (.ofClass c)).run (Work.answer (depth + 1))).outcome w =
      (Datum.classView w number (.text c.id), w) := by
  have method : ((read (.augmented number) "view_of").run (Work.answer (depth + 1))).outcome w =
      (.ok (.method (.augmented number) .viewOf), w) := read_part depth nofun rfl
  rw [callMethod, outcome_bind_of_ok method, call, run_demand]
  rfl

end Program

/-- The classes on which a class depends are followed in the model of now, and their views are
looked for among those that were built. -/
theorem dependentClasses_outcome (depth : Nat) {w : Workspace} {v : ViewRef} {c : ClassView}
    (there : w.view? v = some (.ofClass c)) (stereotype : Option String) :
    ((dependentClasses v (.optionalText stereotype)).run (Work.answer (depth + 1))).outcome w =
      let m := w.model (w.augmentedModel v.augmented).model
      (((m.dependents c.node stereotype).mapM fun t =>
          Datum.classView w v.augmented (.text t.id)).map .tuple,
        { w with events := w.events ++ m.dependentEvents c.node }) := by
  extract_lets m
  let model := (w.augmentedModel v.augmented).model
  let w' : Workspace := { w with events := w.events ++ m.dependentEvents c.node }
  have augmented := Program.read_own depth "augmented" there rfl
  have node := Program.read_own depth "class_" there rfl
  have ofModel : ((Program.read (.augmented v.augmented) "model").run
      (Work.answer (depth + 1))).outcome w = (.ok (.model model), w) :=
    Program.read_part depth nofun rfl
  have targets : ((Program.demand (.dependents model c.node (.optionalText stereotype))).run
      (Work.answer (depth + 1))).outcome w =
        (.ok (.tuple ((m.dependents c.node stereotype).map .ofClass)), w') := by
    rw [Program.run_demand]
    exact Work.dependents_outcome model c.node stereotype
  have views : ((((m.dependents c.node stereotype).map Datum.ofClass).mapM fun t =>
      Program.callMethod (.augmented v.augmented) "view_of" t).run
        (Work.answer (depth + 1))).outcome w' =
      ((m.dependents c.node stereotype).mapM fun t =>
        Datum.classView w v.augmented (.text t.id), w') := by
    rw [List.mapM_map]
    exact Program.outcome_mapM (fun t => Program.outcome_viewOf depth v.augmented t) _
  refine (Program.outcome_bind_of_ok augmented).trans ?_
  refine (Program.outcome_bind_of_ok node).trans ?_
  refine (Program.outcome_bind_of_ok ofModel).trans ?_
  refine (Program.outcome_bind_of_ok targets).trans ?_
  refine (Program.outcome_bind_of_ok (x := .items (.tuple _)) rfl).trans ?_
  cases given : (m.dependents c.node stereotype).mapM fun t =>
      Datum.classView w v.augmented (.text t.id) with
  | error e => exact Program.outcome_bind_of_error (views.trans (congrArg (·, w') given))
  | ok ds => exact Program.outcome_bind_of_ok (views.trans (congrArg (·, w') given))

/-- What a definition for a role comes to: the configured stereotype, and then what depends by it.
-/
theorem dependentsByRole_outcome (depth : Nat) {w : Workspace} {v : ViewRef} {c : ClassView}
    {role stereotype : String} (there : w.view? v = some (.ofClass c))
    (granted : (NodeView.ofClass c).capability? "getDependentClasses" =
      some .getDependentClasses)
    (configured : (Datum.config (w.augmentedModel v.augmented).config).attribute? w role =
      some (.text stereotype)) :
    ((dependentsByRole v role).run (Work.answer (depth + 1))).outcome w =
      ((dependentClasses v (.text stereotype)).run (Work.answer depth)).outcome w := by
  have function : ((Program.read (.view v) "getDependentClasses").run
      (Work.answer (depth + 1))).outcome w = (.ok (.function v .dependentClasses), w) := by
    rw [Program.read, Program.run_demand]
    exact Work.read_capability depth (c := .getDependentClasses) there rfl granted
  refine (Program.outcome_bind_of_ok function).trans ?_
  refine (Program.outcome_bind_of_ok (Program.path_config depth role there configured)).trans ?_
  rw [Program.call, Program.run_demand]
  exact Work.evaluate_outcome rfl

end ServiceDiagram

import ServiceDiagram.Proofs.Views.Evaluation

namespace ServiceDiagram

/-- What is written down when it is done. -/
inductive Deed where
  | read (v : ViewRef) (name : String)
  | call (v : ViewRef) (d : Definition) (args : List Datum)
  | evaluate (d : Definition) (v : ViewRef) (args : List Datum)

/-- A deed with what happened inside of it, in order, and what came of it. -/
structure Note where
  deed : Deed
  inside : List Note
  result : Except Failure Datum

namespace Note

mutual

/-- A note, after all that happened inside of it. -/
def flat : Note → List Note
  | ⟨deed, inside, result⟩ => flatAll inside ++ [⟨deed, inside, result⟩]

/-- Notes, each after all that happened inside of it: deeds in the order of their ends. -/
def flatAll : List Note → List Note
  | [] => []
  | e :: es => e.flat ++ flatAll es

end

theorem flatAll_append (es es' : List Note) : flatAll (es ++ es') = flatAll es ++ flatAll es' := by
  induction es with
  | nil => rfl
  | cons e es ih => simp only [List.cons_append, flatAll, ih, List.append_assoc]

theorem flatAll_singleton (e : Note) : flatAll [e] = flatAll e.inside ++ [e] := by
  obtain ⟨deed, inside, result⟩ := e
  simp only [flatAll, flat, List.append_nil]

end Note

/-- What comes of work in a workspace, the workspace afterwards, and what happened meanwhile. -/
structure Course (α : Type) where
  answer : Except Failure α
  after : Workspace
  log : List Note

namespace Course

def under (deed : Deed) (c : Course Datum) : Course Datum :=
  ⟨c.answer, c.after, [⟨deed, c.log, c.answer⟩]⟩

/-- Keeps the result of an evaluation, unless one was kept meanwhile. -/
def keeping (key : ViewRef × String) (c : Course Datum) : Course Datum :=
  match c.answer with
  | .error e => ⟨.error e, c.after, c.log⟩
  | .ok result =>
    match c.after.memo.lookup key with
    | some earlier => ⟨.ok earlier, c.after, c.log⟩
    | none => ⟨.ok result, { c.after with memo := (key, result) :: c.after.memo }, c.log⟩

end Course

/-- Work of which notes are taken. -/
def Noted (α : Type) := Workspace → Course α

/-- The capability that a name of a view stands for. What a view has of itself comes first. -/
def Workspace.capability? (w : Workspace) (v : ViewRef) (name : String) : Option Capability :=
  match w.view? v with
  | none => none
  | some n => if (Work.viewAttribute? v n name).isSome then none else n.capability? name

def Workspace.accessor? (w : Workspace) (v : ViewRef) (name : String) : Option Definition :=
  match w.capability? v name with
  | some c => if c.kind = .accessor then some c.definition else none
  | none => none

namespace Noted

variable {α β : Type}

/-- Work of which nothing is written down. -/
def quietly (x : Work α) : Noted α := fun w => ⟨(x.outcome w).1, (x.outcome w).2, []⟩

def run (answer : Request → Noted Datum) : Program α → Noted α
  | .done a => fun w => ⟨.ok a, w, []⟩
  | .fail e => fun w => ⟨.error e, w, []⟩
  | .ask request next => fun w =>
    let asked := answer request w
    let rest := run answer (next asked.answer) asked.after
    ⟨rest.answer, rest.after, asked.log ++ rest.log⟩
  | .fetch cell next => fun w => run answer (next ((w.cells.lookup cell).getD 0)) w
  | .keep cell n next => fun w => run answer next { w with cells := Table.put cell n w.cells }

def evaluate (answer : Request → Noted Datum) (d : Definition) (v : ViewRef)
    (args : List Datum) : Noted Datum := fun w =>
  .under (.evaluate d v args) <|
    match Work.checkArity d.label args.length (d.parameters w) with
    | .error e => ⟨.error e, w, []⟩
    | .ok () => run answer (d.body w v args) w

/-- The result of an accessor: the one that was kept, or else that of evaluating it now. -/
def accessor (answer : Request → Noted Datum) (d : Definition) (v : ViewRef) (name : String) :
    Noted Datum := fun w =>
  .under (.read v name) <|
    match w.memo.lookup (v, name) with
    | some result => ⟨.ok result, w, []⟩
    | none => (evaluate answer d v [] w).keeping (v, name)

def callFunction (answer : Request → Noted Datum) (d : Definition) (v : ViewRef)
    (args : List Datum) : Noted Datum := fun w =>
  (evaluate answer d v args w).under (.call v d args)

/-- Does what is asked for: reads accessors and calls functions, and does anything else as the
workspace does it. -/
def respond (answer : Request → Noted Datum) (otherwise : Work Datum) : Request → Noted Datum
  | .read (.view v) name => fun w =>
    match w.accessor? v name with
    | some d => accessor answer d v name w
    | none => quietly otherwise w
  | .call (.function v d) args => callFunction answer d v args
  | _ => quietly otherwise

/-- Does what is asked for, with definitions inside definitions down to a depth. What is refused for
its depth evaluates nothing. -/
def answer : Nat → Request → Noted Datum
  | 0, request => quietly (Work.answer 0 request)
  | depth + 1, request => respond (answer depth) (Work.answer (depth + 1) request) request

/-- Notes are taken of a work. -/
def Describes (x : Noted α) (y : Work α) : Prop :=
  ∀ w, y.outcome w = ((x w).answer, (x w).after)

/-- Work without accessors and functions has nothing to note. -/
theorem quietly_describes (x : Work α) : (quietly x).Describes x := fun _ => rfl

end Noted

namespace Workspace

variable {w : Workspace} {v : ViewRef} {name : String}

theorem capability?_eq_some {c : Capability} (has : w.capability? v name = some c) :
    ∃ n, w.view? v = some n ∧ Work.viewAttribute? v n c.name = none ∧
      n.capability? c.name = some c ∧ c.name = name := by
  unfold capability? at has
  split at has
  · cases has
  · rename_i n there
    split at has
    · cases has
    · rename_i notOwn
      have named : c.name = name := by simpa using List.find?_some has
      rw [named]
      exact ⟨n, there, by simpa using notOwn, has, rfl⟩

theorem accessor?_eq_some {d : Definition} (has : w.accessor? v name = some d) :
    ∃ c, w.capability? v name = some c ∧ c.kind = .accessor ∧ c.definition = d := by
  unfold accessor? at has
  split at has
  · rename_i c granted
    split at has
    · rename_i isAccessor
      cases has
      exact ⟨c, granted, isAccessor, rfl⟩
    · cases has
  · cases has

end Workspace

namespace Work

variable {w : Workspace} {v : ViewRef} {name : String}

theorem answer_capability (depth : Nat) {c : Capability} (has : w.capability? v name = some c) :
    (Work.answer (depth + 1) (.read (.view v) name)).outcome w =
      match c.kind with
      | .function => (.ok (.function v c.definition), w)
      | .accessor => (accessor (Work.answer depth) c.definition v name).outcome w := by
  obtain ⟨n, there, notOwn, granted, rfl⟩ := Workspace.capability?_eq_some has
  exact read_capability depth there notOwn granted

theorem answer_accessor (depth : Nat) {d : Definition} (has : w.accessor? v name = some d) :
    (Work.answer (depth + 1) (.read (.view v) name)).outcome w =
      (accessor (Work.answer depth) d v name).outcome w := by
  obtain ⟨c, granted, isAccessor, rfl⟩ := Workspace.accessor?_eq_some has
  rw [answer_capability depth granted, isAccessor]

end Work

namespace Noted

variable {answer : Request → Noted Datum} {real : Request → Work Datum}

/-- Of what is read of a view only accessors are written down. -/
theorem respond_read (answer : Request → Noted Datum) (otherwise : Work Datum) (w : Workspace)
    (v : ViewRef) (name : String) :
    respond answer otherwise (.read (.view v) name) w =
      match w.accessor? v name with
      | some d => accessor answer d v name w
      | none => quietly otherwise w := rfl

/-- What is asked for is a part of a view, the result of a function, or something of which nothing
is written down. -/
theorem respond_cases (answer : Request → Noted Datum) (otherwise : Work Datum)
    (request : Request) :
    (∃ v name, request = .read (.view v) name) ∨
    (∃ v d args, request = .call (.function v d) args) ∨
    (∀ v name, request ≠ .read (.view v) name) ∧
      (∀ v d args, request ≠ .call (.function v d) args) ∧
      respond answer otherwise request = quietly otherwise := by
  cases request with
  | read on name =>
    cases on with
    | view v => exact .inl ⟨v, name, rfl⟩
    | _ => exact .inr (.inr ⟨nofun, nofun, rfl⟩)
  | call on args =>
    cases on with
    | function v d => exact .inr (.inl ⟨v, d, args, rfl⟩)
    | _ => exact .inr (.inr ⟨nofun, nofun, rfl⟩)
  | dependents model c stereotype => exact .inr (.inr ⟨nofun, nofun, rfl⟩)

/-- Taking notes of a program's requests does not change what the program comes to. -/
theorem run_describes {α : Type} (answers : ∀ request, (answer request).Describes (real request))
    (x : Program α) : (run answer x).Describes (x.run real) := by
  induction x with
  | done a => exact fun _ => rfl
  | fail e => exact fun _ => rfl
  | ask request next ih =>
    intro w
    have asked : real request w = ((answer request w).answer, (answer request w).after) :=
      answers request w
    have rest := ih (answer request w).answer (answer request w).after
    change (next (real request w).1).run real (real request w).2 = _
    rw [asked]
    exact rest
  | fetch cell next ih => exact fun w => ih _ w
  | keep cell n next ih => exact fun w => ih _

theorem evaluate_describes (answers : ∀ request, (answer request).Describes (real request))
    (d : Definition) (v : ViewRef) (args : List Datum) :
    (evaluate answer d v args).Describes (Work.evaluate real d v args) := by
  intro w
  unfold Work.evaluate
  rw [Work.outcome_get]
  unfold evaluate
  cases checked : Work.checkArity d.label args.length (d.parameters w) with
  | error e => rfl
  | ok u => exact run_describes answers _ w

/-- Nor does taking notes of an accessor. -/
theorem accessor_describes (answers : ∀ request, (answer request).Describes (real request))
    (d : Definition) (v : ViewRef) (name : String) :
    (accessor answer d v name).Describes (Work.accessor real d v name) := by
  intro w
  unfold Work.accessor
  rw [Work.outcome_get]
  unfold accessor
  cases w.memo.lookup (v, name) with
  | some result => rfl
  | none =>
    have evaluated := evaluate_describes answers d v [] w
    dsimp only
    -- both sides look again at what is kept, which the evaluation may have changed
    generalize evaluate answer d v [] w = c at evaluated
    obtain ⟨result, w', log⟩ := c
    cases result with
    | error e => exact Work.outcome_bind_of_error evaluated
    | ok result =>
      refine (Work.outcome_bind_of_ok evaluated).trans ?_
      rw [Work.outcome_get]
      dsimp only [Course.keeping]
      cases w'.memo.lookup (v, name) <;> rfl

/-- So the noted answers are the answers, by induction on the depth. -/
theorem answer_describes (depth : Nat) (request : Request) :
    (Noted.answer depth request).Describes (Work.answer depth request) := by
  induction depth generalizing request with
  | zero => exact quietly_describes (Work.answer 0 request)
  | succ depth ih =>
    rw [Noted.answer]
    rcases respond_cases (Noted.answer depth) (Work.answer (depth + 1) request) request with
      ⟨v, name, rfl⟩ | ⟨v, d, args, rfl⟩ | ⟨-, -, quiet⟩
    · intro w
      rw [respond_read]
      -- a name that stands for no accessor is read as the workspace reads it
      cases has : w.accessor? v name with
      | none => rfl
      | some d =>
        rw [Work.answer_accessor depth has]
        exact accessor_describes ih d v name w
    · exact evaluate_describes ih d v args
    · exact quiet ▸ quietly_describes (Work.answer (depth + 1) request)

end Noted

end ServiceDiagram

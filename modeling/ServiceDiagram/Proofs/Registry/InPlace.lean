import ServiceDiagram.Proofs.Registry.Log

namespace ServiceDiagram

/-- Work on a registry and the events so far; what was stored before a failure stays stored. -/
abbrev Storing := ExceptT RegistryError (StateM (Registry × List Event))

namespace Storing

variable {α β : Type}

/-- What comes of work on a registry, and the registry with the events afterwards. -/
def outcome (x : Storing α) (s : Registry × List Event) :
    Except RegistryError α × (Registry × List Event) := x.run.run s

/-- Gives what was found without storing anything. -/
def ofExcept (x : Except RegistryError α) : Storing α := fun s => (x, s)

/-- Refuses a capability with a name that views use themselves. -/
def refuseReserved (scope : Scope) (c : Capability) : Storing Unit :=
  if scope.kind.reservedNames.contains c.name then
    throw (.refused (.of (.reserved scope c.name)))
  else return

/-- Looks a scope up, which takes its hash, and opens it if it is not there. -/
def openScope (scope : Scope) : Storing Nat :=
  match scope.filter.unhashable? with
  | some typeName => throw (.unhashable typeName)
  | none => do
    let (r, es) ← get
    set (r.openScope scope, es)
    return r.placeOf scope

/-- Stores a capability at the place of its scope, or its conflict with the first one of its name;
then counts. -/
def add (scope : Scope) (place : Nat) (c : Capability) : Storing Unit := do
  let (r, _) ← get
  match r.findAt? place c.name with
  | none =>
    modify fun (r, es) =>
      ({ r with table := r.table.modify place fun (s, cs) => (s, cs ++ [c]) }, es)
    modify fun (r, es) => ({ r with revision := r.revision + 1 }, es)
    modify fun (r, es) =>
      (r, es ++ [.registered c.kind.word c.name scope.kind.label scope.filter.display])
  | some first =>
    if first = c then return
    else
      modify fun (r, es) => ({ r with conflicts := r.conflicts ++ [⟨scope, first, c⟩] }, es)
      modify fun (r, es) => ({ r with revision := r.revision + 1 }, es)

/-- A registration step by step. -/
def register (a : Registration) : Storing Unit := do
  let kind ← ofExcept (a.kind.mapError .notNodeKind)
  let filter ← ofExcept (a.filter.mapError .notFilter)
  let accessors ← a.accessors.mapM fun item =>
    ofExcept ((Capability.ofItem item .accessor).mapError .capability)
  let functions ← a.functions.mapM fun item =>
    ofExcept ((Capability.ofItem item .function).mapError .capability)
  let cs := accessors ++ functions
  cs.forM (refuseReserved ⟨kind, filter⟩)
  let place ← openScope ⟨kind, filter⟩
  cs.forM (add ⟨kind, filter⟩ place)

variable {x : Storing α} {f : α → Storing β} {s s' : Registry × List Event}

theorem outcome_bind (x : Storing α) (f : α → Storing β) (s : Registry × List Event) :
    (x >>= f).outcome s =
      match x.outcome s with
      | (.ok a, s') => (f a).outcome s'
      | (.error e, s') => (.error e, s') := by
  change (match x s with | (r, s) => ExceptT.bindCont f r s) = _
  rcases given : x s with ⟨a | e, s'⟩ <;> simp only [outcome, ExceptT.run, StateT.run, given] <;> rfl

/-- Work that stores nothing. -/
def Checks (x : Storing α) (r : Except RegistryError α) : Prop := ∀ s, x.outcome s = (r, s)

/-- Work that stores nothing if something fails, and goes on with what is given otherwise. -/
def Follows (x : Storing β) (r : Except RegistryError α)
    (stores : α → Registry × List Event → Except RegistryError β × (Registry × List Event)) : Prop :=
  ∀ s, x.outcome s =
    match r with
    | .ok a => stores a s
    | .error e => (.error e, s)

/-- Checks before a work that stores come before it as a whole. -/
theorem Follows.bind {γ : Type} {r : Except RegistryError α} {g : α → Except RegistryError γ}
    {stores : γ → Registry × List Event → Except RegistryError β × (Registry × List Event)}
    (first : x.Checks r) (rest : ∀ a, (f a).Follows (g a) stores) :
    (x >>= f).Follows (r >>= g) stores := by
  intro s
  rw [outcome_bind, first s]
  cases r with
  | error e => rfl
  | ok a => exact rest a s

theorem Checks.bind {r : Except RegistryError α} {g : α → Except RegistryError β}
    (first : x.Checks r) (rest : ∀ a, (f a).Checks (g a)) : (x >>= f).Checks (r >>= g) := by
  intro s
  rw [outcome_bind, first s]
  cases r with
  | error e => rfl
  | ok a => exact rest a s

/-- Going through a list with checks is a check. -/
theorem checks_mapM {f : α → Storing β} {g : α → Except RegistryError β}
    (each : ∀ a, (f a).Checks (g a)) (as : List α) : (as.mapM f).Checks (as.mapM g) := by
  induction as with
  | nil => exact fun _ => rfl
  | cons a as ih =>
    rw [List.mapM_cons, List.mapM_cons]
    exact (each a).bind fun b => ih.bind fun bs _ => rfl

theorem checks_refuseReserved (scope : Scope) (cs : List Capability) :
    (cs.forM (refuseReserved scope)).Checks
      (match cs.find? fun c => scope.kind.reservedNames.contains c.name with
        | some c => .error (.refused (.of (.reserved scope c.name)))
        | none => .ok ()) := by
  induction cs with
  | nil => exact fun _ => rfl
  | cons c cs ih =>
    intro s
    change (refuseReserved scope c >>= fun _ => cs.forM (refuseReserved scope)).outcome s = _
    rw [outcome_bind, refuseReserved, List.find?_cons]
    cases scope.kind.reservedNames.contains c.name with
    | true => rfl
    | false => exact ih s

/-- Storing one capability in place is adding it to the table, with its event. -/
theorem add_outcome (scope : Scope) (place : Nat) (c : Capability) (r : Registry)
    (es : List Event) :
    (add scope place c).outcome (r, es) =
      (.ok (), (r.addAt scope place c, es ++ Registry.eventsOf scope place r [c])) := by
  change (match r.findAt? place c.name with
    | none => _
    | some first => _ : Storing Unit).outcome (r, es) = _
  unfold Registry.addAt Registry.eventsOf
  cases r.findAt? place c.name with
  | none => rfl
  | some first =>
    by_cases same : first = c
    · simp only [same, if_true, Option.isSome_some, Registry.eventsOf, List.append_nil]
      rfl
    · simp only [same, if_false, Option.isSome_some, if_true, Registry.eventsOf, List.append_nil]
      rfl

theorem eventsOf_cons (scope : Scope) (place : Nat) (r : Registry) (c : Capability)
    (cs : List Capability) :
    Registry.eventsOf scope place r (c :: cs) =
      Registry.eventsOf scope place r [c] ++
        Registry.eventsOf scope place (r.addAt scope place c) cs := by
  simp only [Registry.eventsOf]
  split <;> rfl

/-- The induction is on what is added: stores one after the other come to what is added at once. -/
theorem forM_add_outcome (scope : Scope) (place : Nat) (cs : List Capability) (r : Registry)
    (es : List Event) :
    (cs.forM (add scope place)).outcome (r, es) =
      (.ok (), (cs.foldl (Registry.addAt scope place) r,
        es ++ Registry.eventsOf scope place r cs)) := by
  induction cs generalizing r es with
  | nil => rw [Registry.eventsOf, List.append_nil]; rfl
  | cons c cs ih =>
    change (add scope place c >>= fun _ => cs.forM (add scope place)).outcome (r, es) = _
    rw [outcome_bind, add_outcome]
    refine (ih _ _).trans ?_
    rw [eventsOf_cons scope place r c cs, List.append_assoc]
    rfl

/-- The scope is looked up and opened, and then what is added is stored there. -/
theorem follows_store (scope : Scope) (cs : List Capability) :
    Follows (openScope scope >>= fun place => cs.forM (add scope place))
      (match scope.filter.unhashable? with
        | some typeName => throw (.unhashable typeName)
        | none => return (scope, cs))
      fun (scope, cs) (r, es) =>
        (.ok (), ((r.insert scope cs).1, es ++ (r.insert scope cs).2)) := by
  intro (r, es)
  rw [outcome_bind, openScope]
  cases scope.filter.unhashable? with
  | some typeName => rfl
  | none => exact forM_add_outcome scope (r.placeOf scope) cs (r.openScope scope) es

/-- All that can fail comes before the first store: registering in place first reads the call, and
then stores without fail. -/
theorem follows_read (a : Registration) :
    (register a).Follows a.read fun (scope, cs) (r, es) =>
      (.ok (), ((r.insert scope cs).1, es ++ (r.insert scope cs).2)) := by
  refine .bind (fun _ => rfl) fun kind => .bind (fun _ => rfl) fun filter => ?_
  refine .bind (checks_mapM (fun _ _ => rfl) a.accessors) fun accessors => ?_
  refine .bind (checks_mapM (fun _ _ => rfl) a.functions) fun functions => ?_
  intro s
  have names := checks_refuseReserved ⟨kind, filter⟩ (accessors ++ functions) s
  rw [outcome_bind, names]
  dsimp only
  cases (accessors ++ functions).find? fun c => kind.reservedNames.contains c.name with
  | some c => rfl
  | none => exact follows_store ⟨kind, filter⟩ (accessors ++ functions) s

/-- A registration in place comes to what the registration comes to; one that fails has stored
nothing. -/
theorem register_outcome (a : Registration) (r : Registry) (es : List Event) :
    (register a).outcome (r, es) =
      match r.register a with
      | .ok (r', new) => (.ok (), (r', es ++ new))
      | .error e => (.error e, (r, es)) := by
  refine (follows_read a (r, es)).trans ?_
  unfold Registry.register
  cases a.read <;> rfl

end Storing

end ServiceDiagram

import Mathlib.Data.List.Infix
import ServiceDiagram.Proofs.Registry.Revision

namespace ServiceDiagram

/-- The conflict of a capability with the first one of its name in a scope, if there is one and it
differs. -/
def Conflict.between (scope : Scope) (first : Option Capability) (c : Capability) :
    Option Conflict :=
  first.bind fun d => if d = c then none else some ⟨scope, d, c⟩

namespace Registry

variable {r r' r'' : Registry} {scope : Scope} {place : Nat} {c : Capability}

theorem findAt?_of_getElem? {s : Scope} {cs : List Capability}
    (here : r.table[place]? = some (s, cs)) (name : String) :
    r.findAt? place name = cs.find? fun c => c.name == name := by
  rw [findAt?, here, Option.bind_some]

/-- What adding a capability at a place does there. -/
theorem findAt?_addAt (inside : place < r.table.length) (scope : Scope) (c : Capability)
    (name : String) :
    (r.addAt scope place c).findAt? place name =
      (r.findAt? place name).or (if c.name == name then some c else none) := by
  obtain ⟨⟨s, cs⟩, here⟩ : ∃ p, r.table[place]? = some p := ⟨_, List.getElem?_eq_getElem inside⟩
  cases known : r.findAt? place c.name with
  | none =>
    have added : (r.addAt scope place c).table[place]? = some (s, cs ++ [c]) := by
      simp [addAt, known, here]
    rw [findAt?_of_getElem? added, findAt?_of_getElem? here, List.find?_append,
      List.find?_singleton]
  | some first =>
    have same : (r.addAt scope place c).findAt? place name = r.findAt? place name := by
      simp only [addAt, known]
      split <;> rfl
    rw [same]
    by_cases own : (c.name == name) = true
    · rw [← beq_iff_eq.mp own, known, Option.some_or]
    · rw [if_neg own, Option.or_none]

/-- A capability adds a conflict exactly if another one is found under its name. -/
theorem conflicts_addAt (scope : Scope) (place : Nat) (r : Registry) (c : Capability) :
    (r.addAt scope place c).conflicts =
      r.conflicts ++ (Conflict.between scope (r.findAt? place c.name) c).toList := by
  unfold addAt Conflict.between
  cases r.findAt? place c.name with
  | none => simp
  | some first => by_cases same : first = c <;> simp [same]

/-- Other scopes keep what they hold. -/
theorem getElem?_addAt_of_ne (scope : Scope) (r : Registry) (c : Capability) {other : Nat}
    (elsewhere : other ≠ place) : (r.addAt scope place c).table[other]? = r.table[other]? := by
  unfold addAt
  split
  · simp [Ne.symm elsewhere]
  · split <;> rfl

theorem getElem?_foldl_addAt_of_ne (scope : Scope) (cs : List Capability) {other : Nat}
    (elsewhere : other ≠ place) :
    (cs.foldl (addAt scope place) r).table[other]? = r.table[other]? := by
  induction cs generalizing r with
  | nil => rfl
  | cons c cs ih => rw [List.foldl_cons, ih, getElem?_addAt_of_ne scope r c elsewhere]

/-- The scopes of a registry, in the order of their places. -/
def scopes (r : Registry) : List Scope := r.table.map Prod.fst

theorem placeOf_eq (r : Registry) (scope : Scope) :
    r.placeOf scope = r.scopes.findIdx fun s => s.eqv scope := by
  rw [scopes, List.findIdx_map]
  rfl

theorem eqv_at_placeOf (inside : r.placeOf scope < r.table.length) :
    (r.table[r.placeOf scope]).1.eqv scope = true :=
  List.findIdx_getElem (p := fun x : Scope × List Capability => x.1.eqv scope) (w := inside)

/-- A scope that is not in the table belongs at its end. -/
theorem placeOf_of_absent (absent : ¬ r.placeOf scope < r.table.length) :
    r.placeOf scope = r.table.length :=
  Nat.le_antisymm List.findIdx_le_length (Nat.le_of_not_lt absent)

theorem conflicts_openScope (r : Registry) (scope : Scope) :
    (r.openScope scope).conflicts = r.conflicts := by
  unfold openScope
  split <;> rfl

/-- Opening a scope adds it at the end if it is not there. -/
theorem scopes_openScope (r : Registry) (scope : Scope) :
    (r.openScope scope).scopes =
      if r.placeOf scope < r.table.length then r.scopes else r.scopes ++ [scope] := by
  unfold openScope
  split
  · rfl
  · simp [scopes]

/-- To add capabilities changes no scope. -/
theorem scopes_addAt (scope : Scope) (place : Nat) (r : Registry) (c : Capability) :
    (r.addAt scope place c).scopes = r.scopes := by
  have modified (f : Scope × List Capability → Scope × List Capability)
      (keeps : Prod.fst ∘ f = Prod.fst) :
      (r.table.modify place f).map Prod.fst = r.table.map Prod.fst := by
    refine List.ext_getElem? fun i => ?_
    rw [List.getElem?_map, List.getElem?_map, List.getElem?_modify, Option.map_eq_map,
      Option.map_map]
    split
    · rw [keeps]
    · rfl
  unfold addAt
  split
  · exact modified _ rfl
  · split <;> rfl

theorem scopes_foldl_addAt (scope : Scope) (place : Nat) (cs : List Capability) (r : Registry) :
    (cs.foldl (addAt scope place) r).scopes = r.scopes := by
  induction cs generalizing r with
  | nil => rfl
  | cons c cs ih => exact (ih _).trans (scopes_addAt scope place r c)

theorem length_scopes (r : Registry) : r.scopes.length = r.table.length := List.length_map _

/-- What has become of a registry: what a scope holds is only added to, and so are the conflicts. -/
structure Grows (r r' : Registry) : Prop where
  table : ∀ (place : Nat) (s : Scope) (cs : List Capability), r.table[place]? = some (s, cs) →
    ∃ more : List Capability, r'.table[place]? = some (s, cs ++ more)
  conflicts : r.conflicts <+: r'.conflicts

theorem Grows.refl (r : Registry) : r.Grows r :=
  ⟨fun _ _ _ here => ⟨[], by rw [here, List.append_nil]⟩, List.prefix_rfl⟩

theorem Grows.trans (first : r.Grows r') (later : r'.Grows r'') : r.Grows r'' := by
  refine ⟨fun place s cs here => ?_, first.conflicts.trans later.conflicts⟩
  obtain ⟨more, here'⟩ := first.table place s cs here
  obtain ⟨more', here''⟩ := later.table place s _ here'
  exact ⟨more ++ more', by rw [here'', List.append_assoc]⟩

/-- What was recorded in between would still be there. -/
theorem Grows.clean (first : r.Grows r') (later : r'.Grows r'')
    (clean : r''.conflicts = r.conflicts) : r'.conflicts = r.conflicts :=
  (first.conflicts.eq_of_length_le (clean ▸ later.conflicts.length_le)).symm

theorem openScope_grows (r : Registry) (scope : Scope) : r.Grows (r.openScope scope) := by
  unfold openScope
  split
  · exact .refl r
  · refine ⟨fun place s cs here => ⟨[], ?_⟩, List.prefix_rfl⟩
    rw [List.append_nil, List.getElem?_append_left (List.getElem?_eq_some_iff.mp here).1, here]

theorem addAt_grows (scope : Scope) (place : Nat) (r : Registry) (c : Capability) :
    r.Grows (r.addAt scope place c) := by
  refine ⟨fun other s cs here => ?_, conflicts_addAt scope place r c ▸ List.prefix_append _ _⟩
  by_cases elsewhere : other = place
  · subst elsewhere
    unfold addAt
    split
    · exact ⟨[c], by simp [here]⟩
    · refine ⟨[], ?_⟩
      split <;> rw [List.append_nil, ← here]
  · exact ⟨[], by rw [getElem?_addAt_of_ne scope r c elsewhere, here, List.append_nil]⟩

theorem foldl_addAt_grows (scope : Scope) (place : Nat) (cs : List Capability) (r : Registry) :
    r.Grows (cs.foldl (addAt scope place) r) := by
  induction cs generalizing r with
  | nil => exact .refl r
  | cons c cs ih => exact (addAt_grows scope place r c).trans (ih _)

/-- Registering makes a registry grow. -/
theorem insert_grows (r : Registry) (scope : Scope) (cs : List Capability) :
    r.Grows (r.insert scope cs).1 :=
  (r.openScope_grows scope).trans (foldl_addAt_grows scope (r.placeOf scope) cs _)

/-- What is found under a name stays there as the registry grows. -/
theorem Grows.findAt? (grows : r.Grows r') {name : String}
    (found : r.findAt? place name = some c) : r'.findAt? place name = some c := by
  cases here : r.table[place]? with
  | none => rw [Registry.findAt?, here] at found; cases found
  | some p =>
    obtain ⟨more, here'⟩ := grows.table place p.1 p.2 here
    rw [findAt?_of_getElem? here] at found
    rw [findAt?_of_getElem? here', List.find?_append, found, Option.some_or]

theorem Grows.scopes (grows : r.Grows r') : r.scopes <+: r'.scopes := by
  refine List.prefix_iff_getElem?.mpr fun i inside => ?_
  have inside' : i < r.table.length := length_scopes r ▸ inside
  obtain ⟨more, here⟩ := grows.table i r.table[i].1 r.table[i].2 (List.getElem?_eq_getElem inside')
  simp [Registry.scopes, here]

/-- A scope keeps its place. -/
theorem Grows.placeOf (grows : r.Grows r') (inside : r.placeOf scope < r.table.length) :
    r'.placeOf scope = r.placeOf scope ∧ r.placeOf scope < r'.table.length := by
  obtain ⟨more, scopes⟩ := grows.scopes
  have here : r.scopes.findIdx (fun s => s.eqv scope) < r.scopes.length := by
    rwa [← placeOf_eq, length_scopes]
  refine ⟨?_, ?_⟩
  · rw [placeOf_eq, placeOf_eq, ← scopes, List.findIdx_append, if_pos here]
  · rw [← length_scopes, ← scopes, List.length_append, length_scopes]
    exact Nat.lt_add_right _ inside

/-- A scope holds capabilities: each of them is the first of its name there. -/
structure Holds (r : Registry) (scope : Scope) (cs : List Capability) : Prop where
  inside : r.placeOf scope < r.table.length
  found : ∀ c ∈ cs, r.findAt? (r.placeOf scope) c.name = some c

/-- What a scope holds it goes on to hold. -/
theorem Holds.grows {cs : List Capability} (holds : r.Holds scope cs) (grows : r.Grows r') :
    r'.Holds scope cs := by
  obtain ⟨same, here⟩ := grows.placeOf holds.inside
  exact ⟨same ▸ here, fun c member => same ▸ grows.findAt? (holds.found c member)⟩

/-- A capability that is there already changes nothing. -/
theorem addAt_of_found (found : r.findAt? place c.name = some c) : r.addAt scope place c = r := by
  simp only [addAt, found, if_true]

/-- What a scope holds is not added to it again, and nothing is reported. -/
theorem Holds.insert {cs : List Capability} (holds : r.Holds scope cs) :
    r.insert scope cs = (r, []) := by
  have opened : r.openScope scope = r := if_pos holds.inside
  have added : ∀ ds, (∀ d ∈ ds, d ∈ cs) →
      ds.foldl (addAt scope (r.placeOf scope)) r = r ∧
        eventsOf scope (r.placeOf scope) r ds = [] := by
    intro ds part
    induction ds with
    | nil => exact ⟨rfl, rfl⟩
    | cons d ds ih =>
      obtain ⟨here, part⟩ := List.forall_mem_cons.mp part
      have found := holds.found d here
      obtain ⟨same, quiet⟩ := ih part
      rw [List.foldl_cons, eventsOf, addAt_of_found found, found]
      exact ⟨same, quiet⟩
  obtain ⟨same, quiet⟩ := added cs fun _ member => member
  rw [Registry.insert, opened, same, quiet]

/-- The induction is on what is added: as long as no conflict is recorded, each capability is then
the first of its name. -/
theorem found_of_clean {cs : List Capability} (inside : place < r.table.length)
    (clean : (cs.foldl (addAt scope place) r).conflicts = r.conflicts) :
    ∀ c ∈ cs, (cs.foldl (addAt scope place) r).findAt? place c.name = some c := by
  induction cs generalizing r with
  | nil => nofun
  | cons c cs ih =>
    rw [List.foldl_cons] at clean ⊢
    have first := addAt_grows scope place r c
    have later := foldl_addAt_grows scope place cs (r.addAt scope place c)
    have cleanFirst := first.clean later clean
    have none' : Conflict.between scope (r.findAt? place c.name) c = none := by
      simpa [conflicts_addAt] using cleanFirst
    have found : (r.addAt scope place c).findAt? place c.name = some c := by
      rw [findAt?_addAt inside, beq_self_eq_true, if_pos rfl]
      cases known : r.findAt? place c.name with
      | none => rfl
      | some d => simpa [Conflict.between, known] using none'
    have inside' : place < (r.addAt scope place c).table.length :=
      (length_table_addAt scope place r c).symm ▸ inside
    exact List.forall_mem_cons.mpr ⟨later.findAt? found, ih inside' (clean.trans cleanFirst.symm)⟩

/-- A scope that equals itself is found where it is opened. -/
theorem placeOf_openScope (self : scope.eqv scope = true) :
    (r.openScope scope).placeOf scope = r.placeOf scope := by
  by_cases inside : r.placeOf scope < r.table.length
  · rw [openScope, if_pos inside]
  · have absent : ¬ r.scopes.findIdx (fun s => s.eqv scope) < r.scopes.length := by
      rwa [← placeOf_eq, length_scopes]
    rw [placeOf_eq, scopes_openScope, if_neg inside, List.findIdx_append, if_neg absent, placeOf_of_absent inside, length_scopes]
    simp [List.findIdx_cons, self]

/-- A scope that equals itself has its place in the table once something is registered in it. -/
theorem placeOf_insert (r : Registry) (self : scope.eqv scope = true) (cs : List Capability) :
    (r.insert scope cs).1.placeOf scope = r.placeOf scope ∧
      r.placeOf scope < (r.insert scope cs).1.table.length := by
  have inside := r.placeOf_openScope_lt scope
  have scopes : (r.insert scope cs).1.scopes = (r.openScope scope).scopes :=
    scopes_foldl_addAt scope (r.placeOf scope) cs _
  refine ⟨?_, ?_⟩
  · rw [placeOf_eq, scopes, ← placeOf_eq, placeOf_openScope self]
  · rwa [← length_scopes, scopes, length_scopes]

/-- What is registered without a conflict is held. -/
theorem holds_of_clean {cs : List Capability} (self : scope.eqv scope = true)
    (clean : (r.insert scope cs).1.conflicts = r.conflicts) :
    (r.insert scope cs).1.Holds scope cs := by
  obtain ⟨place, inside⟩ := r.placeOf_insert self cs
  have found := found_of_clean (r.placeOf_openScope_lt scope)
    (clean.trans (conflicts_openScope r scope).symm)
  exact ⟨place.symm ▸ inside, place.symm ▸ found⟩

end Registry
end ServiceDiagram

import ServiceDiagram.Proofs.Registry.Growth
import ServiceDiagram.Proofs.Registry.Log

namespace ServiceDiagram

namespace Registry

/-- A call that registers: a scope and capabilities, in order. -/
abbrev Call := Scope × List Capability

/-- What calls registered in a scope, in order. -/
def under (calls : List Call) (scope : Scope) : List Capability :=
  (calls.filter fun call => call.1.eqv scope).flatMap Prod.snd

/-- The conflicts of capabilities that are registered in a scope one after the other, after earlier
ones: each differs from the first one of its name. -/
def clashes (scope : Scope) (earlier : List Capability) : List Capability → List Conflict
  | [] => []
  | c :: cs =>
    (Conflict.between scope (earlier.find? fun d => d.name == c.name) c).toList ++
      clashes scope (earlier ++ [c]) cs

/-- The conflicts of calls that come after earlier ones. -/
def conflictsOf (earlier : List Call) : List Call → List Conflict
  | [] => []
  | call :: calls =>
    clashes call.1 (under earlier call.1) call.2 ++ conflictsOf (earlier ++ [call]) calls

/-- The first conflict of calls. -/
def firstConflict? (calls : List Call) : Option Conflict := (conflictsOf [] calls).head?

/-- What is reported of a first conflict. -/
def reportOf : Option Conflict → Except Refusal Unit
  | none => .ok ()
  | some k => .error (.of (.conflict k.scope k.first k.second))

/-- A registry after calls. -/
def after (r : Registry) (calls : List Call) : Registry :=
  calls.foldl (fun r call => (r.insert call.1 call.2).1) r

/-- The first capability of a name in a scope. -/
def firstOf? (r : Registry) (scope : Scope) (name : String) : Option Capability :=
  r.findAt? (r.placeOf scope) name

theorem register_eq (r : Registry) (a : Registration) :
    r.register a = a.read.map fun (scope, cs) => r.insert scope cs := by
  unfold Registry.register
  cases a.read <;> rfl

/-- The conflicts of later calls come after those of earlier ones. -/
theorem conflictsOf_append (earlier calls later : List Call) :
    conflictsOf earlier (calls ++ later) =
      conflictsOf earlier calls ++ conflictsOf (earlier ++ calls) later := by
  induction calls generalizing earlier with
  | nil => simp [conflictsOf]
  | cons call calls ih =>
    rw [List.cons_append, conflictsOf, conflictsOf, ih, List.append_assoc, List.append_assoc,
      List.singleton_append]

/-- The first conflict stays the first. -/
theorem firstConflict?_append {calls : List Call} {k : Conflict}
    (first : firstConflict? calls = some k) (later : List Call) :
    firstConflict? (calls ++ later) = some k := by
  rw [firstConflict?, conflictsOf_append, List.head?_append, ← firstConflict?, first, Option.some_or]

theorem under_append (calls : List Call) (call : Call) (scope : Scope) :
    under (calls ++ [call]) scope =
      under calls scope ++ if call.1.eqv scope then call.2 else [] := by
  rw [under, under, List.filter_append, List.flatMap_append, List.filter_singleton]
  cases call.1.eqv scope <;> simp

section Entries

open Entry

/-- What calls register, entry by entry. -/
def entriesOf (calls : List Call) : List Entry :=
  calls.flatMap fun call => call.2.map (Entry.mk call.1)

theorem held?_map (s scope : Scope) (cs : List Capability) (name : String) :
    held? (cs.map (Entry.mk s)) scope name =
      if s.eqv scope then cs.find? fun c => c.name == name else none := by
  rw [held?, first?, List.find?_map, Option.map_map]
  cases matched : s.eqv scope with
  | true => simp [Function.comp_def, matched]
  | false => simp [Function.comp_def, matched]

/-- The first capability of a name among the calls under a scope is the one that the log holds. -/
theorem find?_under (calls : List Call) (scope : Scope) (name : String) :
    ((under calls scope).find? fun c => c.name == name) = held? (entriesOf calls) scope name := by
  induction calls with
  | nil => rfl
  | cons call calls ih =>
    have split : held? (entriesOf (call :: calls)) scope name =
        (held? (call.2.map (Entry.mk call.1)) scope name).or
          (held? (entriesOf calls) scope name) := by
      rw [held?, first?, entriesOf, List.flatMap_cons, List.find?_append, Option.map_or]
      rfl
    rw [split, held?_map, ← ih, under, under, List.filter_cons]
    cases call.1.eqv scope <;> simp [List.find?_append]

/-- The induction is on what is added: an entry conflicts exactly if it is the first to clash. -/
theorem clashes_eq_nil_iff {log : List Entry} (areKeys : AreKeys log) (clean : ¬ Clashes log)
    {scope : Scope} (isKey : scope.filter.IsKey) {earlier : List Capability}
    (tells : ∀ name, (earlier.find? fun c => c.name == name) = held? log scope name)
    (cs : List Capability) :
    clashes scope earlier cs = [] ↔ ¬ Clashes (log ++ cs.map (Entry.mk scope)) := by
  induction cs generalizing log earlier with
  | nil => simpa [clashes] using clean
  | cons c cs ih =>
    have here : Conflict.between scope (held? log scope c.name) c = none ↔
        ¬ Clashes (log ++ [⟨scope, c⟩]) := by
      rw [clashes_append_iff areKeys (e := ⟨scope, c⟩) isKey, or_iff_right clean]
      cases held? log scope c.name with
      | none => simp [Conflict.between]
      | some d => simp [Conflict.between]
    have tells' (name : String) : ((earlier ++ [c]).find? fun c => c.name == name) =
        held? (log ++ [⟨scope, c⟩]) scope name := by
      rw [List.find?_append, tells, held?_append, Scope.eqv_self isKey, Bool.true_and,
        List.find?_singleton]
    rw [clashes, tells, List.append_eq_nil_iff, Option.toList_eq_nil_iff, here, List.map_cons,
      List.append_cons log ⟨scope, c⟩ (cs.map (Entry.mk scope))]
    by_cases clash : Clashes (log ++ [⟨scope, c⟩])
    · have stays := clash.append (cs.map (Entry.mk scope))
      exact ⟨fun both => absurd clash both.1, fun none => absurd stays none⟩
    · have areKeys' : AreKeys (log ++ [⟨scope, c⟩]) :=
        List.forall_mem_append.mpr ⟨areKeys, List.forall_mem_singleton.mpr isKey⟩
      rw [and_iff_right clash, ih areKeys' clash tells']

theorem entriesOf_append (calls : List Call) (call : Call) :
    entriesOf (calls ++ [call]) = entriesOf calls ++ call.2.map (Entry.mk call.1) := by
  rw [entriesOf, List.flatMap_append, List.flatMap_singleton]
  rfl

/-- The induction is on the calls. -/
theorem conflictsOf_eq_nil_iff (earlier : List Call) {calls : List Call}
    (areKeys : ∀ call ∈ earlier ++ calls, call.1.filter.IsKey)
    (clean : ¬ Clashes (entriesOf earlier)) :
    conflictsOf earlier calls = [] ↔ ¬ Clashes (entriesOf (earlier ++ calls)) := by
  induction calls generalizing earlier with
  | nil => simpa [conflictsOf] using clean
  | cons call calls ih =>
    have areKeys' : AreKeys (entriesOf earlier) := by
      intro e member
      obtain ⟨call, inEarlier, inCall⟩ := List.mem_flatMap.mp member
      obtain ⟨c, -, rfl⟩ := List.mem_map.mp inCall
      exact areKeys call (List.mem_append_left _ inEarlier)
    have here := clashes_eq_nil_iff areKeys' clean
      (areKeys call (List.mem_append_right _ List.mem_cons_self))
      (find?_under earlier call.1) call.2
    rw [← entriesOf_append] at here
    rw [List.append_cons] at areKeys ⊢
    rw [conflictsOf, List.append_eq_nil_iff, here]
    by_cases clash : Clashes (entriesOf (earlier ++ [call]))
    · have stays : Clashes (entriesOf (earlier ++ [call] ++ calls)) := by
        rw [entriesOf, List.flatMap_append]
        exact clash.append _
      exact ⟨fun both => absurd clash both.1, fun none => absurd stays none⟩
    · rw [and_iff_right clash, ih _ areKeys clash]

/-- Calls have no conflict exactly if any two capabilities that they register under one name in
equal scopes are the same. -/
theorem firstConflict?_eq_none_iff {calls : List Call}
    (areKeys : ∀ call ∈ calls, call.1.filter.IsKey) :
    firstConflict? calls = none ↔ ¬ Clashes (entriesOf calls) := by
  have clean : ¬ Clashes (entriesOf []) := by
    rintro ⟨d, inD, -⟩
    cases inD
  rw [firstConflict?, List.head?_eq_none_iff]
  exact conflictsOf_eq_nil_iff [] areKeys clean

end Entries

variable {r : Registry} {scope t : Scope} {place : Nat} {cs : List Capability}

theorem findAt?_openScope (r : Registry) (scope : Scope) (place : Nat) (name : String) :
    (r.openScope scope).findAt? place name = r.findAt? place name := by
  unfold openScope
  split
  · rfl
  · unfold findAt?
    rcases Nat.lt_trichotomy place r.table.length with inside | last | outside
    · rw [List.getElem?_append_left inside]
    · simp [last]
    · rw [List.getElem?_eq_none (by simpa using Nat.succ_le_of_lt outside),
        List.getElem?_eq_none (Nat.le_of_lt outside)]

/-- What is found at a place after adding is what was found before, or else the first that was
added. -/
theorem findAt?_foldl_addAt (scope : Scope) (inside : place < r.table.length)
    (cs : List Capability) (name : String) :
    (cs.foldl (addAt scope place) r).findAt? place name =
      (r.findAt? place name).or (cs.find? fun c => c.name == name) := by
  induction cs generalizing r with
  | nil => rw [List.foldl_nil, List.find?_nil, Option.or_none]
  | cons c cs ih =>
    have inside' : place < (r.addAt scope place c).table.length :=
      (length_table_addAt scope place r c).symm ▸ inside
    rw [List.foldl_cons, ih inside', findAt?_addAt inside, Option.or_assoc, List.find?_cons]
    split <;> simp [*]

theorem findAt?_foldl_addAt_of_ne (scope : Scope) (cs : List Capability) {other : Nat}
    (elsewhere : other ≠ place) (name : String) :
    (cs.foldl (addAt scope place) r).findAt? other name = r.findAt? other name := by
  rw [findAt?, findAt?, getElem?_foldl_addAt_of_ne scope cs elsewhere]

/-- The induction is on what is added: what was added before counts as earlier. -/
theorem conflicts_foldl_addAt (scope : Scope) (inside : place < r.table.length)
    {earlier : List Capability}
    (tells : ∀ name, r.findAt? place name = earlier.find? fun c => c.name == name)
    (cs : List Capability) :
    (cs.foldl (addAt scope place) r).conflicts = r.conflicts ++ clashes scope earlier cs := by
  induction cs generalizing r earlier with
  | nil => exact (List.append_nil _).symm
  | cons c cs ih =>
    have inside' : place < (r.addAt scope place c).table.length :=
      (length_table_addAt scope place r c).symm ▸ inside
    have tells' (name : String) : (r.addAt scope place c).findAt? place name =
        (earlier ++ [c]).find? fun c => c.name == name := by
      rw [findAt?_addAt inside, tells, List.find?_append, List.find?_singleton]
    rw [List.foldl_cons, ih inside' tells', conflicts_addAt, tells, clashes, List.append_assoc]

/-- A call changes what is found at the place of its scope and nowhere else. -/
theorem findAt?_insert (r : Registry) (scope : Scope) (cs : List Capability) (place : Nat)
    (name : String) :
    (r.insert scope cs).1.findAt? place name =
      (r.findAt? place name).or
        (if place = r.placeOf scope then cs.find? fun c => c.name == name else none) := by
  rw [Registry.insert]
  split
  · rename_i here
    rw [here, findAt?_foldl_addAt scope (r.placeOf_openScope_lt scope), findAt?_openScope]
  · rename_i elsewhere
    rw [findAt?_foldl_addAt_of_ne scope cs elsewhere, findAt?_openScope, Option.or_none]

theorem scopes_insert (r : Registry) (scope : Scope) (cs : List Capability) :
    (r.insert scope cs).1.scopes =
      if r.placeOf scope < r.table.length then r.scopes else r.scopes ++ [scope] :=
  (scopes_foldl_addAt scope (r.placeOf scope) cs _).trans (r.scopes_openScope scope)

/-- Scopes that are equal have one place. -/
theorem placeOf_congr (hashable : ∀ s ∈ r.scopes, s.filter.IsHashable)
    (isHashable : scope.filter.IsHashable) (isHashable' : t.filter.IsHashable)
    (same : scope.eqv t = true) : r.placeOf t = r.placeOf scope := by
  have agree : ∀ s ∈ r.scopes, s.eqv t = s.eqv scope := by
    intro s member
    rw [Bool.eq_iff_iff]
    constructor
    · intro there
      exact Scope.eqv_trans (hashable s member) isHashable' there
        (Scope.eqv_symm isHashable isHashable' same)
    · intro there
      exact Scope.eqv_trans (hashable s member) isHashable there same
  rw [placeOf_eq, placeOf_eq]
  generalize r.scopes = scopes at agree
  induction scopes with
  | nil => rfl
  | cons s scopes ih =>
    obtain ⟨here, later⟩ := List.forall_mem_cons.mp agree
    rw [List.findIdx_cons, List.findIdx_cons, here, ih later]

theorem exists_of_placeOf (inside : r.placeOf scope < r.table.length) :
    ∃ s ∈ r.scopes, r.scopes[r.placeOf scope]? = some s ∧ s.eqv scope = true := by
  refine ⟨_, List.mem_map_of_mem (List.getElem_mem inside), ?_, eqv_at_placeOf inside⟩
  rw [scopes, List.getElem?_map, List.getElem?_eq_getElem inside, Option.map_some]

section Insert

variable (hashable : ∀ s ∈ r.scopes, s.filter.IsHashable) (isHashable : scope.filter.IsHashable)
  (isHashable' : t.filter.IsHashable)

include hashable isHashable isHashable'

/-- A place in the table is that of a scope exactly if the scopes are equal. -/
theorem placeOf_eq_iff (inside : r.placeOf scope < r.table.length) :
    r.placeOf t = r.placeOf scope ↔ scope.eqv t = true := by
  refine ⟨fun same => ?_, placeOf_congr hashable isHashable isHashable'⟩
  obtain ⟨s, member, atPlace, matched⟩ := exists_of_placeOf inside
  obtain ⟨s', -, atPlace', matched'⟩ := exists_of_placeOf (same.symm ▸ inside)
  rw [same, atPlace] at atPlace'
  cases atPlace'
  exact Scope.eqv_trans isHashable (hashable s member)
    (Scope.eqv_symm (hashable s member) isHashable matched) matched'

/-- A scope holds what it held, and after it what is added to an equal one. -/
theorem firstOf?_insert (cs : List Capability) (name : String) :
    (r.insert scope cs).1.firstOf? t name =
      (r.firstOf? t name).or (if scope.eqv t then cs.find? fun c => c.name == name else none) := by
  rw [firstOf?, findAt?_insert, placeOf_eq, scopes_insert]
  by_cases inside : r.placeOf scope < r.table.length
  · rw [if_pos inside, ← placeOf_eq, firstOf?]
    simp only [placeOf_eq_iff hashable isHashable isHashable' inside]
  · have last := placeOf_of_absent inside
    rw [if_neg inside, List.findIdx_append, ← placeOf_eq, length_scopes, List.findIdx_cons,
      List.findIdx_nil]
    by_cases known : r.placeOf t < r.table.length
    · -- the other scope has its place before the new one
      have differ : ¬ scope.eqv t = true := by
        intro same
        rw [placeOf_congr hashable isHashable isHashable' same] at known
        exact inside known
      rw [if_pos known, if_neg (by omega), if_neg differ, firstOf?]
    · -- nothing is held of the other scope, unless it is the new one
      have absent (place : Nat) (outside : r.table.length ≤ place) : r.findAt? place name = none := by
        rw [findAt?, List.getElem?_eq_none outside, Option.bind_none]
      rw [if_neg known, firstOf?, absent _ (Nat.le_of_not_lt known), absent _ (Nat.le_add_left _ _)]
      cases scope.eqv t <;> simp [last]

end Insert

/-- A registry holds what calls tell: in each scope the first capability of each name, and their
conflicts. -/
structure Tells (r : Registry) (calls : List Call) : Prop where
  hashable : ∀ s ∈ r.scopes, s.filter.IsHashable
  first : ∀ scope : Scope, scope.filter.IsHashable → ∀ name : String,
    r.firstOf? scope name = (under calls scope).find? fun c => c.name == name
  conflicts : r.conflicts = conflictsOf [] calls

theorem tells_empty : Tells .empty [] where
  hashable := nofun
  first := fun _ _ _ => rfl
  conflicts := rfl

/-- One call more: the registry goes on to be told from the calls. -/
theorem Tells.insert {calls : List Call} (tells : r.Tells calls)
    (isHashable : scope.filter.IsHashable) (cs : List Capability) :
    (r.insert scope cs).1.Tells (calls ++ [(scope, cs)]) where
  hashable := by
    rw [scopes_insert]
    split
    · exact tells.hashable
    · exact List.forall_mem_append.mpr ⟨tells.hashable, List.forall_mem_singleton.mpr isHashable⟩
  first := by
    intro t isHashable' name
    rw [firstOf?_insert tells.hashable isHashable isHashable', tells.first t isHashable', under_append,
      List.find?_append]
    split <;> rfl
  conflicts := by
    have before (name : String) : (r.openScope scope).findAt? (r.placeOf scope) name =
        (under calls scope).find? fun c => c.name == name :=
      (findAt?_openScope r scope _ name).trans (tells.first scope isHashable name)
    refine (conflicts_foldl_addAt scope (r.placeOf_openScope_lt scope) before cs).trans ?_
    rw [conflicts_openScope, tells.conflicts, conflictsOf_append, conflictsOf, conflictsOf, List.append_nil,
      List.nil_append]

/-- The induction is on the calls. -/
theorem Tells.after {calls : List Call} (tells : r.Tells calls) (later : List Call)
    (areHashable : ∀ call ∈ later, call.1.filter.IsHashable) :
    (r.after later).Tells (calls ++ later) := by
  induction later generalizing r calls with
  | nil => exact (List.append_nil calls).symm ▸ tells
  | cons call later ih =>
    obtain ⟨here, rest⟩ := List.forall_mem_cons.mp areHashable
    rw [List.append_cons]
    exact ih (tells.insert here call.2) rest

/-- Over any run of calls a registry grows. -/
theorem after_grows (r : Registry) (calls : List Call) : r.Grows (r.after calls) := by
  induction calls generalizing r with
  | nil => exact .refl r
  | cons call calls ih => exact (r.insert_grows call.1 call.2).trans (ih _)

theorem after_append (r : Registry) (calls later : List Call) :
    r.after (calls ++ later) = (r.after calls).after later := List.foldl_append

/-- The first conflict of calls is what is reported after them. -/
theorem checkConflicts_after {calls : List Call}
    (areHashable : ∀ call ∈ calls, call.1.filter.IsHashable) :
    (empty.after calls).checkConflicts = reportOf (firstConflict? calls) := by
  have tells := tells_empty.after calls areHashable
  rw [checkConflicts, tells.conflicts, firstConflict?, List.nil_append]
  cases conflictsOf [] calls <;> rfl

end Registry
end ServiceDiagram

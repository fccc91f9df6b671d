import ServiceDiagram.Proofs.FirstNames
import ServiceDiagram.Proofs.Registry.Fault
import ServiceDiagram.Proofs.Registry.Refinement
import ServiceDiagram.Proofs.Registry.Turns

namespace ServiceDiagram

namespace Registry

/-- The calls of registrations that do not fail. -/
def callsOf (as : List Registration) : List Call := as.filterMap fun a => a.read.toOption

/-- The calls with scopes that cover a node. -/
def covered (calls : List Call) (kind : NodeKind) (n : Node) : List Call :=
  calls.filter fun call => call.1.Covers kind n

variable {calls : List Call} {call : Call} {s t : Scope}

section Listing

variable {r : Registry} {scope : Scope} {place : Nat} {ds : List Capability} {names : List String}

theorem find?_none_iff (listed : ds.map Capability.name = names.eraseDups) (name : String) :
    ds.find? (fun d => d.name == name) = none ↔ name ∉ names := by
  rw [find?_name_none, listed, List.mem_eraseDups]

/-- What is added at a place comes after what is there, unless it is there already. -/
theorem names_addAt (scope : Scope) (here : r.table[place]? = some (s, ds))
    (listed : ds.map Capability.name = names.eraseDups) (c : Capability) :
    ∃ es, (r.addAt scope place c).table[place]? = some (s, es) ∧
      es.map Capability.name = (names ++ [c.name]).eraseDups := by
  have known := find?_none_iff listed c.name
  rw [← findAt?_of_getElem? here] at known
  cases first : r.findAt? place c.name with
  | none =>
    refine ⟨ds ++ [c], by simp [addAt, first, here], ?_⟩
    rw [List.map_append, List.map_singleton, listed, eraseDups_concat_of_not_mem (known.mp first)]
  | some d =>
    have inNames : c.name ∈ names := by simpa [first] using known
    have same : (r.addAt scope place c).table = r.table := by
      simp only [addAt, first]
      split <;> rfl
    exact ⟨ds, same ▸ here, by rw [listed, eraseDups_concat_of_mem inNames]⟩

/-- Capabilities that are added to a scope stand there in the order in which their names came first.
-/
theorem names_foldl_addAt (scope : Scope) (here : r.table[place]? = some (s, ds))
    (listed : ds.map Capability.name = names.eraseDups) (cs : List Capability) :
    ∃ es, (cs.foldl (addAt scope place) r).table[place]? = some (s, es) ∧
      es.map Capability.name = (names ++ cs.map Capability.name).eraseDups := by
  induction cs generalizing r ds names with
  | nil => exact ⟨ds, here, by rw [List.map_nil, List.append_nil, listed]⟩
  | cons c cs ih =>
    obtain ⟨es, here', listed'⟩ := names_addAt scope here listed c
    obtain ⟨es', here'', listed''⟩ := ih here' listed'
    exact ⟨es', here'', by rw [listed'', List.map_cons, List.append_assoc, List.singleton_append]⟩

/-- The scopes stay where they are. -/
theorem exists_before_foldl {cs es : List Capability} {i : Nat}
    (after : (cs.foldl (addAt scope place) r).table[i]? = some (s, es)) :
    ∃ ds, r.table[i]? = some (s, ds) := by
  have same : r.scopes[i]? = some s := by
    rw [← scopes_foldl_addAt scope place cs r, scopes, List.getElem?_map, after]
    rfl
  rw [scopes, List.getElem?_map] at same
  obtain ⟨⟨t, ds⟩, here, rfl⟩ := Option.map_eq_some_iff.mp same
  exact ⟨ds, here⟩

/-- A registry lists what calls register: the scopes in the order of the first calls with them, and
in each scope the names in the order of the calls. -/
structure Lists (r : Registry) (calls : List Call) : Prop where
  scopes : r.scopes = opened calls
  names : ∀ p ∈ r.table, p.1.filter.IsKey →
    p.2.map Capability.name = ((under calls p.1).map Capability.name).eraseDups

theorem lists_empty : Lists .empty [] where
  scopes := rfl
  names := nofun

theorem getElem?_openScope_of_ne {i : Nat} (elsewhere : i ≠ r.placeOf scope) :
    (r.openScope scope).table[i]? = r.table[i]? := by
  unfold openScope
  split
  · rfl
  · rename_i outside
    rw [placeOf_of_absent outside] at elsewhere
    rcases Nat.lt_or_gt_of_ne elsewhere with before | after
    · exact List.getElem?_append_left before
    · rw [List.getElem?_eq_none (by simpa using Nat.succ_le_of_lt after),
        List.getElem?_eq_none (Nat.le_of_lt after)]

variable (hashable : ∀ call ∈ calls, call.1.filter.IsHashable)

include hashable

/-- A scope is in the table exactly if a call was made with one that equals it. -/
theorem Lists.inside_iff (lists : r.Lists calls) :
    r.placeOf scope < r.table.length ↔ ∃ call ∈ calls, call.1.eqv scope = true := by
  rw [placeOf_eq, ← length_scopes, lists.scopes, List.findIdx_lt_length]
  exact exists_opened_iff hashable scope

variable (isHashable : scope.filter.IsHashable)

include isHashable

/-- Equal scopes are in one place. -/
theorem Lists.placeOf_of_eqv (lists : r.Lists calls) {i : Nat} (here : r.table[i]? = some (s, ds))
    (same : s.eqv scope = true) : i = r.placeOf scope := by
  have atI : r.scopes[i]? = some s := by rw [Registry.scopes, List.getElem?_map, here]; rfl
  obtain ⟨insideI, getI⟩ := List.getElem?_eq_some_iff.mp atI
  have inside : r.scopes.findIdx (fun t => t.eqv scope) < r.scopes.length :=
    List.findIdx_lt_length_of_exists ⟨s, List.mem_of_getElem? atI, same⟩
  have known {t : Scope} (member : t ∈ r.scopes) : t.filter.IsHashable :=
    hashable_of_opened hashable (lists.scopes ▸ member)
  have separate : r.scopes.Pairwise fun s t => ¬ s.eqv t = true :=
    lists.scopes ▸ opened_pairwise calls
  rw [placeOf_eq]
  rcases Nat.lt_trichotomy i (r.scopes.findIdx fun t => t.eqv scope) with before | equal | after
  · refine absurd same ?_
    simpa [getI] using List.not_of_lt_findIdx before
  · exact equal
  · refine absurd ?_ (List.pairwise_iff_getElem.mp separate _ i inside insideI after)
    have first := List.findIdx_getElem (w := inside)
    have back := Scope.eqv_symm (known (List.mem_of_getElem? atI)) isHashable same
    rw [getI]
    exact Scope.eqv_trans (known (List.getElem_mem inside)) isHashable first back

/-- Where a scope is opened, the names are listed that came in equal ones before. -/
theorem Lists.names_openScope (lists : r.Lists calls) (isKey : s.filter.IsKey)
    (here : (r.openScope scope).table[r.placeOf scope]? = some (s, ds)) :
    scope.eqv s = true ∧ ds.map Capability.name = ((under calls s).map Capability.name).eraseDups := by
  unfold openScope at here
  split at here
  · rename_i inside
    have member := List.mem_of_getElem? here
    obtain ⟨inTable, atPlace⟩ := List.getElem?_eq_some_iff.mp here
    have same : s.eqv scope = true := by
      have first := eqv_at_placeOf inside
      rwa [atPlace] at first
    exact ⟨Scope.eqv_symm isKey.isHashable isHashable same, lists.names _ member isKey⟩
  · rename_i outside
    rw [placeOf_of_absent outside, List.getElem?_concat_length] at here
    cases here
    have none' : under calls s = [] := by
      rw [lists.inside_iff hashable] at outside
      rw [under, List.filter_eq_nil_iff.mpr fun call member same => outside ⟨call, member, same⟩]
      rfl
    exact ⟨Scope.eqv_self isKey, by rw [none']; rfl⟩

/-- One call more keeps the table in the order of the calls. -/
theorem Lists.insert (lists : r.Lists calls) (cs : List Capability) :
    (r.insert scope cs).1.Lists (calls ++ [(scope, cs)]) where
  scopes := by
    rw [scopes_insert, opened_concat hashable, ← lists.scopes]
    simp only [lists.inside_iff hashable]
    split
    · rw [List.append_nil]
    · rfl
  names := by
    rintro ⟨s, es⟩ member isKey
    obtain ⟨i, after⟩ := List.getElem?_of_mem member
    rw [under_append]
    by_cases here : i = r.placeOf scope
    · subst here
      obtain ⟨ds, before⟩ := exists_before_foldl after
      obtain ⟨same, listed⟩ := lists.names_openScope hashable isHashable isKey before
      obtain ⟨es', after', added⟩ := names_foldl_addAt scope before listed cs
      cases after.symm.trans after'
      rw [if_pos same, List.map_append]
      exact added
    · have before : r.table[i]? = some (s, es) := by
        rw [← getElem?_openScope_of_ne here, ← after]
        exact (getElem?_foldl_addAt_of_ne scope cs here).symm
      have differ : ¬ scope.eqv s = true := by
        intro same
        exact here (lists.placeOf_of_eqv hashable isHashable before
          (Scope.eqv_symm isHashable isKey.isHashable same))
      rw [if_neg differ, List.append_nil]
      exact lists.names _ (List.mem_of_getElem? before) isKey

end Listing

/-- The induction is on the calls. -/
theorem Lists.after {r : Registry} (lists : r.Lists calls) (later : List Call)
    (hashable : ∀ call ∈ calls ++ later, call.1.filter.IsHashable) :
    (r.after later).Lists (calls ++ later) := by
  induction later generalizing r calls with
  | nil => exact (List.append_nil calls).symm ▸ lists
  | cons call later ih =>
    obtain ⟨before, rest⟩ := List.forall_mem_append.mp hashable
    obtain ⟨here, -⟩ := List.forall_mem_cons.mp rest
    rw [List.append_cons] at hashable ⊢
    exact ih (lists.insert before here call.2) hashable

/-- What is gathered for a node comes after what was found before, unless it is there already. -/
theorem names_merge {kind : NodeKind} {n : Node} {found all : List Capability} {names : List String}
    (listed : found.map Capability.name = names.eraseDups) {cs : List Capability}
    (gathered : merge kind n found cs = .ok all) :
    all.map Capability.name = (names ++ cs.map Capability.name).eraseDups := by
  induction cs generalizing found names with
  | nil =>
    cases gathered
    rw [List.map_nil, List.append_nil, listed]
  | cons c cs ih =>
    have known := find?_none_iff listed c.name
    rw [List.map_cons, List.append_cons]
    unfold merge at gathered
    split at gathered
    · rename_i absent
      refine ih ?_ gathered
      rw [List.map_append, List.map_singleton, listed,
        eraseDups_concat_of_not_mem (known.mp absent)]
    · rename_i f present
      split at gathered
      · have inNames : c.name ∈ names := by simpa [present] using known
        exact ih (by rw [listed, eraseDups_concat_of_mem inNames]) gathered
      · cases gathered

section Covering

variable (hashable : ∀ call ∈ calls, call.1.filter.IsHashable) (kind : NodeKind) (n : Node)

include hashable

/-- The calls that cover a node have filters that equal themselves. -/
theorem isKey_of_covered (member : call ∈ covered calls kind n) : call.1.filter.IsKey := by
  obtain ⟨inCalls, covers⟩ := List.mem_filter.mp member
  exact (of_decide_eq_true covers).isKey (hashable call inCalls)

/-- What covers a node in a registry has the names of the calls that cover it, scope by scope. -/
theorem Lists.eraseDups_covering {r : Registry} (lists : r.Lists calls) :
    ((r.covering kind n).map Capability.name).eraseDups =
      (grouped (covered calls kind n)).eraseDups := by
  let covers (s : Scope) : Bool := s.Covers kind n
  have filtered : (r.table.filter fun p => p.1.kind == kind && p.1.filter.passes n) =
      r.table.filter fun p => covers p.1 :=
    List.filter_congr fun p _ => by
      rw [Bool.eq_iff_iff, Bool.and_eq_true, beq_iff_eq]
      exact decide_eq_true_iff.symm
  have alike : ∀ x ∈ calls, ∀ y ∈ calls, x.1.eqv y.1 = true → covers x.1 = covers y.1 := by
    intro x inX y inY same
    exact decide_eq_decide.mpr (Scope.covers_iff_of_eqv (hashable x inX) (hashable y inY) same)
  calc ((r.covering kind n).map Capability.name).eraseDups
    _ = ((r.table.filter fun p => covers p.1).flatMap fun p =>
          ((under calls p.1).map Capability.name).eraseDups).eraseDups := by
        rw [covering, List.map_flatMap, filtered]
        refine congrArg List.eraseDups (List.flatMap_congr fun p member => ?_)
        obtain ⟨inTable, covers'⟩ := List.mem_filter.mp member
        have inScopes : p.1 ∈ opened calls := lists.scopes ▸ List.mem_map_of_mem inTable
        exact lists.names p inTable
          ((of_decide_eq_true covers').isKey (hashable_of_opened hashable inScopes))
    _ = ((r.scopes.filter covers).flatMap fun s =>
          (under calls s).map Capability.name).eraseDups := by
        rw [eraseDups_flatMap, Registry.scopes, List.filter_map, List.flatMap_map]
        rfl
    _ = (grouped (covered calls kind n)).eraseDups := by
        rw [lists.scopes, opened_filter alike, grouped]
        refine congrArg List.eraseDups (List.flatMap_congr fun s member => ?_)
        obtain ⟨call, inCovered, rfl⟩ := exists_call_of_opened member
        obtain ⟨inCalls, covers'⟩ := List.mem_filter.mp inCovered
        rw [covered, under_filter fun other inCalls' same => ?_]
        exact (alike other inCalls' call inCalls same).trans covers'

end Covering

end Registry

namespace Logged

open Registry

/-- The calls of a run with scopes that cover a node. -/
abbrev callsFor (as : List Registration) (kind : NodeKind) (n : Node) : List Call :=
  covered (callsOf as) kind n

/-- The registry of a run is what the calls of its registrations leave. -/
theorem registry_after (as : List Registration) :
    (after as).registry = Registry.empty.after (callsOf as) := by
  have from' (s : Logged) :
      (as.foldl register s).registry = s.registry.after (callsOf as) := by
    induction as generalizing s with
    | nil => rfl
    | cons a as ih =>
      have split : callsOf (a :: as) = a.read.toOption.toList ++ callsOf as := by
        rw [callsOf, List.filterMap_cons]
        cases a.read.toOption <;> rfl
      rw [List.foldl_cons, ih, register, register_eq, split]
      cases a.read <;> rfl
  exact from' start

theorem hashable_of_callsOf {as : List Registration} {call : Call} (member : call ∈ callsOf as) :
    call.1.filter.IsHashable := by
  obtain ⟨a, -, isCall⟩ := List.mem_filterMap.mp member
  cases read : a.read with
  | error e => rw [read] at isCall; cases isCall
  | ok call' =>
    rw [read] at isCall
    cases isCall
    exact (Registration.stands_of_read read).2

/-- Whatever is registered, a node in whose scopes no name is used in two ways has the names of the
calls that cover it scope by scope: the scopes in the order of the first calls with them, in each scope
the names in the order of the calls, and a name where it comes first. That is the order in which the
names came at all if no scope that covers the node is taken up again after another one; and only
then, if no call is empty and no name comes twice. -/
theorem capabilities_grouped_by_scope (as : List Registration) (kind : NodeKind) (n : Node)
    (agree : Agree ((after as).registry.covering kind n)) :
    ∃ all, (after as).registry.capabilitiesFor kind n = .ok all ∧
      all.map Capability.name = (grouped (callsFor as kind n)).eraseDups ∧
      (all.map Capability.name).Perm (named (callsFor as kind n)).eraseDups ∧
      (Uninterrupted (callsFor as kind n) →
        all.map Capability.name = (named (callsFor as kind n)).eraseDups) ∧
      ((∀ call ∈ callsFor as kind n, call.2 ≠ []) →
        (named (callsFor as kind n)).Nodup →
          all.map Capability.name = (named (callsFor as kind n)).eraseDups →
            Uninterrupted (callsFor as kind n)) := by
  have hashable : ∀ call ∈ callsOf as, call.1.filter.IsHashable := fun _ => hashable_of_callsOf
  have lists : (after as).registry.Lists (callsOf as) :=
    registry_after as ▸ lists_empty.after (callsOf as) hashable
  have isKey : ∀ call ∈ callsFor as kind n, call.1.filter.IsKey :=
    fun _ => isKey_of_covered hashable kind n
  have gathers := (after as).registry.capabilitiesFor_gathers kind n
  cases gathered : (after as).registry.capabilitiesFor kind n with
  | error e =>
    rw [gathered] at gathers
    exact absurd agree gathers
  | ok all =>
    have merged := gathered
    rw [capabilitiesFor, foldlM_merge] at merged
    have start : ([] : List Capability).map Capability.name = ([] : List String).eraseDups := rfl
    have names := (names_merge start merged).trans (lists.eraseDups_covering hashable kind n)
    have perm := grouped_perm_named _ isKey
    refine ⟨all, rfl, names, ?_, fun uninterrupted => ?_, fun filled differ same => ?_⟩
    · rw [names, List.perm_ext_iff_of_nodup (nodup_eraseDups _) (nodup_eraseDups _)]
      intro name
      rw [List.mem_eraseDups, List.mem_eraseDups, perm.mem_iff]
    · rw [names, grouped_of_uninterrupted _ isKey uninterrupted]
    · rw [names, eraseDups_of_nodup differ, eraseDups_of_nodup (perm.nodup_iff.mpr differ)] at same
      exact uninterrupted_of_grouped _ isKey filled differ same

/-- An accessor that the host program computes. -/
def sampleAccessor (name : String) (isName : Capability.IsName name) : Capability.Item :=
  .capability ⟨name, .host name, .accessor, isName⟩

/-- The scope of services is taken up again after that of all classes. -/
def sampleTurns : List Registration :=
  [⟨.ok .ofClass, .ok (.ofStereotype "Service"), [sampleAccessor "first" (by decide)], []⟩,
   ⟨.ok .ofClass, .ok .all, [sampleAccessor "second" (by decide)], []⟩,
   ⟨.ok .ofClass, .ok (.ofStereotype "Service"), [sampleAccessor "label" (by decide)], []⟩]

def sampleService : Node :=
  .ofClass
    { id := "A", name := "A", stereotype := some "Service", dependencies := [], operations := [],
      tags := [], valid := by decide }

/-- What was registered last comes before what was registered second. -/
theorem capabilities_grouped_by_scope_sample :
    Agree ((after sampleTurns).registry.covering .ofClass sampleService) ∧
      (after sampleTurns).registry.checkConflicts = .ok () ∧
      named (callsFor sampleTurns .ofClass sampleService) = ["first", "second", "label"] ∧
      ∃ all, (after sampleTurns).registry.capabilitiesFor .ofClass sampleService = .ok all ∧
        all.map Capability.name = ["first", "label", "second"] := by
  have agree : Agree ((after sampleTurns).registry.covering .ofClass sampleService) :=
    agree_of_nodup (by decide)
  obtain ⟨all, gathered, names, -⟩ :=
    capabilities_grouped_by_scope sampleTurns .ofClass sampleService agree
  exact ⟨agree, rfl, by decide, all, gathered, names.trans (by decide)⟩

end Logged
end ServiceDiagram

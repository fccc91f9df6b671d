import ServiceDiagram.Proofs.Registry.Fault
import ServiceDiagram.Proofs.Registry.Refinement

namespace ServiceDiagram

/-- A call that is read registers no reserved name. -/
theorem Registration.unreserved_of_read {a : Registration} {scope : Scope} {cs : List Capability}
    (read : a.read = .ok (scope, cs)) : ∀ c ∈ cs, c.name ∉ scope.kind.reservedNames := by
  obtain ⟨stands, -⟩ := stands_of_read read
  have came := stands.read.symm.trans read
  split at came
  · cases came
  · rename_i free
    intro c member taken
    exact List.find?_eq_none.mp free c member (List.contains_iff_mem.mpr taken)

namespace Registry

variable {r : Registry} {scope : Scope} {cs : List Capability}

/-- No scope has a capability with a name that is reserved for its kind. -/
def Unreserved (r : Registry) : Prop :=
  ∀ s cs, (s, cs) ∈ r.table → ∀ c ∈ cs, c.name ∉ s.kind.reservedNames

theorem unreserved_empty : empty.Unreserved := nofun

theorem Unreserved.openScope (free : r.Unreserved) (scope : Scope) :
    (r.openScope scope).Unreserved := by
  unfold Registry.openScope
  split
  · exact free
  · intro s cs member
    rcases List.mem_append.mp member with old | new
    · exact free s cs old
    · cases List.mem_singleton.mp new
      nofun

/-- A capability without a reserved name leaves the registry without any. -/
theorem Unreserved.addAt {place : Nat} {c : Capability} (free : r.Unreserved) (scope : Scope)
    (here : ∀ s, r.scopes[place]? = some s → c.name ∉ s.kind.reservedNames) :
    (r.addAt scope place c).Unreserved := by
  unfold Registry.addAt
  split
  · intro s cs member d isIn
    obtain ⟨i, s', cs', old, same⟩ := mem_modify_cases member
    have before := free s' cs' (List.mem_of_getElem? old)
    split at same
    · rename_i atPlace
      cases same
      rcases List.mem_append.mp isIn with inOld | isNew
      · exact before d inOld
      · cases List.mem_singleton.mp isNew
        exact here s (by rw [scopes, List.getElem?_map, ← atPlace, old]; rfl)
    · cases same
      exact before d isIn
  · split
    · exact free
    · exact free

/-- The scope that is opened for another one is of the same kind. -/
theorem kind_at_placeOf {s : Scope}
    (here : (r.openScope scope).scopes[r.placeOf scope]? = some s) : s.kind = scope.kind := by
  rw [scopes_openScope] at here
  split at here
  · rename_i inside
    rw [scopes, List.getElem?_map, List.getElem?_eq_getElem inside] at here
    cases here
    have same := eqv_at_placeOf inside
    rw [Scope.eqv, Bool.and_eq_true, beq_iff_eq] at same
    exact same.1
  · rename_i absent
    rw [placeOf_of_absent absent, ← length_scopes, List.getElem?_concat_length] at here
    cases here
    rfl

/-- The induction is on the capabilities: the scopes stay where they are. -/
theorem Unreserved.insert (free : r.Unreserved)
    (allowed : ∀ c ∈ cs, c.name ∉ scope.kind.reservedNames) :
    (r.insert scope cs).1.Unreserved := by
  have added (place : Nat) (r' : Registry) (free : r'.Unreserved)
      (kind : ∀ s, r'.scopes[place]? = some s → s.kind = scope.kind) (cs : List Capability)
      (allowed : ∀ c ∈ cs, c.name ∉ scope.kind.reservedNames) :
      (cs.foldl (Registry.addAt scope place) r').Unreserved := by
    induction cs generalizing r' with
    | nil => exact free
    | cons c cs ih =>
      obtain ⟨first, later⟩ := List.forall_mem_cons.mp allowed
      refine ih _ (free.addAt scope fun s here => ?_) (fun s here => ?_) later
      · rw [kind s here]
        exact first
      · rw [scopes_addAt] at here
        exact kind s here
  exact added (r.placeOf scope) _ (free.openScope scope) (fun _ => kind_at_placeOf) cs allowed

/-- What a node is granted has different names, none of which is reserved for its kind. -/
theorem Unreserved.granted {n : Node} {kind : NodeKind} (free : r.Unreserved)
    (gathered : r.capabilitiesFor kind n = .ok cs) :
    (cs.map Capability.name).Nodup ∧ ∀ c ∈ cs, c.name ∉ kind.reservedNames := by
  have gathers := capabilitiesFor_gathers r kind n
  rw [gathered] at gathers
  obtain ⟨-, differ, members⟩ := gathers
  refine ⟨differ, fun c member => ?_⟩
  obtain ⟨⟨s, held⟩, covers, inScope⟩ := List.mem_flatMap.mp ((members c).mp member)
  obtain ⟨inTable, covers⟩ := List.mem_filter.mp covers
  rw [Bool.and_eq_true, beq_iff_eq] at covers
  exact covers.1 ▸ free s held inTable c inScope

end Registry

end ServiceDiagram

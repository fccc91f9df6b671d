import Mathlib.Data.List.Nodup
import ServiceDiagram.Registry.Basic

namespace ServiceDiagram.Registry

/-- No two capabilities of one name differ. -/
def Agree (cs : List Capability) : Prop := ∀ c ∈ cs, ∀ d ∈ cs, c.name = d.name → c = d

theorem Agree.mono {cs ds : List Capability} (agree : Agree ds) (part : ∀ c ∈ cs, c ∈ ds) :
    Agree cs :=
  fun c inC d inD => agree c (part c inC) d (part d inD)

/-- Capabilities with different names agree. -/
theorem agree_of_nodup {cs : List Capability} (differ : (cs.map Capability.name).Nodup) :
    Agree cs :=
  fun _ inC _ inD same => List.inj_on_of_nodup_map differ inC inD same

theorem find?_name_iff {cs : List Capability} (differ : (cs.map Capability.name).Nodup)
    (name : String) (c : Capability) :
    cs.find? (fun d => d.name == name) = some c ↔ c ∈ cs ∧ c.name = name := by
  constructor
  · intro found
    exact ⟨List.mem_of_find?_eq_some found, by simpa using List.find?_some found⟩
  · rintro ⟨member, rfl⟩
    cases found : cs.find? (fun d => d.name == c.name) with
    | none => exact absurd (beq_self_eq_true c.name) (List.find?_eq_none.mp found c member)
    | some d =>
      have sameName : d.name = c.name := by simpa using List.find?_some found
      rw [agree_of_nodup differ d (List.mem_of_find?_eq_some found) c member sameName]

theorem find?_name_none (cs : List Capability) (name : String) :
    cs.find? (fun d => d.name == name) = none ↔ name ∉ cs.map Capability.name := by
  simp [List.find?_eq_none]

/-- What gathering capabilities may come to: a failure if two of them disagree, or else all of
them, each name once. -/
def Gathers (cs : List Capability) : Except Refusal (List Capability) → Prop
  | .error _ => ¬ Agree cs
  | .ok all => Agree cs ∧ (all.map Capability.name).Nodup ∧ ∀ c, c ∈ all ↔ c ∈ cs

/-- Whatever the order of the scopes, what is gathered is all that they hold. -/
theorem Gathers.congr {cs ds : List Capability} {result : Except Refusal (List Capability)}
    (gathers : Gathers cs result) (same : ∀ c, c ∈ cs ↔ c ∈ ds) : Gathers ds result := by
  cases result with
  | error e => exact fun agree => gathers (agree.mono fun c => (same c).mp)
  | ok all =>
    obtain ⟨agree, differ, members⟩ := gathers
    exact ⟨agree.mono fun c => (same c).mpr, differ, fun c => (members c).trans (same c)⟩

/-- What has been found, with the capabilities of one scope more, is gathered exactly if it agrees.
-/
theorem merge_gathers (kind : NodeKind) (n : Node) (cs : List Capability) {found : List Capability}
    (differ : (found.map Capability.name).Nodup) :
    Gathers (found ++ cs) (merge kind n found cs) := by
  induction cs generalizing found with
  | nil =>
    rw [merge, List.append_nil]
    exact ⟨agree_of_nodup differ, differ, fun _ => Iff.rfl⟩
  | cons c cs ih =>
    unfold merge
    split
    · rename_i absent
      have new := (find?_name_none found c.name).mp absent
      have differ' : ((found ++ [c]).map Capability.name).Nodup := by
        rw [List.map_append, List.map_singleton, List.nodup_append_comm]
        exact List.nodup_cons.mpr ⟨new, differ⟩
      simpa using ih differ'
    · rename_i f present
      obtain ⟨inFound, sameName⟩ := (find?_name_iff differ c.name f).mp present
      split
      · rename_i same
        subst same
        refine (ih differ).congr fun d => ?_
        simp only [List.mem_append, List.mem_cons]
        constructor
        · rintro (old | new)
          · exact .inl old
          · exact .inr (.inr new)
        · rintro (old | rfl | new)
          · exact .inl old
          · exact .inl inFound
          · exact .inr new
      · rename_i differs
        intro agree
        exact differs (agree f (List.mem_append_left _ inFound) c (by simp) sameName)

theorem merge_append (kind : NodeKind) (n : Node) (found cs ds : List Capability) :
    merge kind n found (cs ++ ds) = (merge kind n found cs).bind fun all => merge kind n all ds := by
  induction cs generalizing found with
  | nil => rfl
  | cons c cs ih =>
    rw [List.cons_append, merge, merge]
    split
    · exact ih _
    · split
      · exact ih _
      · rfl

/-- What is raised when capabilities of a node differ tells the node and a name. -/
theorem merge_error (kind : NodeKind) (n : Node) {found cs : List Capability} {r : Refusal}
    (failed : merge kind n found cs = .error r) : ∃ name, r = .of (.overlap kind n name) := by
  induction cs generalizing found with
  | nil => cases failed
  | cons c cs ih =>
    unfold merge at failed
    split at failed
    · exact ih failed
    · split at failed
      · exact ih failed
      · cases failed
        exact ⟨c.name, rfl⟩

/-- The capabilities in all scopes of a registry that cover a node. -/
def covering (r : Registry) (kind : NodeKind) (n : Node) : List Capability :=
  (r.table.filter fun (s, _) => s.kind == kind && s.filter.passes n).flatMap Prod.snd

/-- Merging scope by scope is merging all capabilities of the scopes in a row. -/
theorem foldlM_merge (kind : NodeKind) (n : Node) (table : List (Scope × List Capability))
    (found : List Capability) :
    table.foldlM (fun found (_, cs) => merge kind n found cs) found =
      merge kind n found (table.flatMap Prod.snd) := by
  induction table generalizing found with
  | nil => rfl
  | cons entry table ih =>
    rw [List.foldlM_cons, List.flatMap_cons, merge_append]
    exact congrArg (merge kind n found entry.2).bind (funext ih)

/-- The capabilities of a node are those of all scopes that cover it, and there is an error exactly
if two of these have one name and differ. -/
theorem capabilitiesFor_gathers (r : Registry) (kind : NodeKind) (n : Node) :
    Gathers (r.covering kind n) (r.capabilitiesFor kind n) := by
  rw [capabilitiesFor, foldlM_merge]
  exact merge_gathers kind n (r.covering kind n) List.nodup_nil

/-- The one reason for an error is a name that is given twice. -/
theorem capabilitiesFor_error {r : Registry} {kind : NodeKind} {n : Node} {refusal : Refusal}
    (failed : r.capabilitiesFor kind n = .error refusal) :
    ∃ name, refusal = .of (.overlap kind n name) := by
  rw [capabilitiesFor, foldlM_merge] at failed
  exact merge_error kind n failed

end ServiceDiagram.Registry

import ServiceDiagram.Proofs.Number.Digits
import ServiceDiagram.Proofs.Registry.Growth
import ServiceDiagram.Proofs.Registry.Log
import ServiceDiagram.Proofs.Registry.Merge
import ServiceDiagram.Registry.Builtin

namespace ServiceDiagram

namespace Registry

open Entry

/-- The scopes of a registry as keys. -/
def keys (r : Registry) : List (NodeKind × List (String × Option Value.Meaning)) :=
  r.table.map fun p => p.1.key

/-- A registry holds what a log tells: under each scope the first entries of that scope, and a
conflict exactly if the log clashes. -/
structure Refines (r : Registry) (log : List Entry) : Prop where
  areKeys : AreKeys log
  scopesAreKeys : ∀ p ∈ r.table, p.1.filter.IsKey
  separate : r.keys.Nodup
  opened : ∀ e ∈ log, e.scope.key ∈ r.keys
  differ : ∀ p ∈ r.table, (p.2.map Capability.name).Nodup
  first : ∀ p ∈ r.table, ∀ name, p.2.find? (fun c => c.name == name) = held? log p.1 name
  conflicts : r.conflicts ≠ [] ↔ Clashes log

theorem refines_empty : Refines .empty [] where
  areKeys := by simp [AreKeys]
  scopesAreKeys := by simp [Registry.empty]
  separate := List.nodup_nil
  opened := by simp
  differ := by simp [Registry.empty]
  first := by simp [Registry.empty]
  conflicts := by simp [Registry.empty, Clashes]

variable {r : Registry} {log : List Entry} {scope : Scope}

theorem eqv_of_key {s : Scope} (isKey : s.filter.IsKey) (same : s.key = scope.key) :
    s.eqv scope = true := (Scope.eqv_iff isKey scope).mpr same

theorem Refines.getElem?_placeOf (refines : r.Refines log) (known : scope.key ∈ r.keys) :
    ∃ s cs, r.table[r.placeOf scope]? = some (s, cs) ∧ s.key = scope.key := by
  obtain ⟨⟨s, cs⟩, member, same⟩ := List.mem_map.mp known
  have matched := eqv_of_key (refines.scopesAreKeys _ member) same
  have inside : r.placeOf scope < r.table.length :=
    List.findIdx_lt_length_of_exists ⟨(s, cs), member, matched⟩
  have here := refines.scopesAreKeys _ (List.getElem_mem inside)
  exact ⟨_, _, List.getElem?_eq_getElem inside, (Scope.eqv_iff here scope).mp (eqv_at_placeOf inside)⟩

/-- Opening a scope leaves the log as it is. -/
theorem Refines.openScope (refines : r.Refines log) (isKey : scope.filter.IsKey) :
    (r.openScope scope).Refines log := by
  unfold Registry.openScope
  split
  · exact refines
  · rename_i outside
    have unknown : scope.key ∉ r.keys := by
      intro known
      obtain ⟨s, cs, here, -⟩ := refines.getElem?_placeOf known
      exact outside (List.getElem?_eq_some_iff.mp here).1
    have none' (name : String) : held? log scope name = none := by
      cases found : held? log scope name with
      | none => rfl
      | some c =>
        obtain ⟨e, member, matched, -⟩ := exists_of_held? found
        have same := (Scope.eqv_iff (refines.areKeys e member) scope).mp matched
        exact absurd (same ▸ refines.opened e member) unknown
    have keys' : ({ r with table := r.table ++ [(scope, [])] } : Registry).keys =
        r.keys ++ [scope.key] := by simp [keys]
    refine ⟨refines.areKeys, ?_, ?_, ?_, ?_, ?_, refines.conflicts⟩
    · simpa [or_imp, forall_and] using ⟨fun s cs => refines.scopesAreKeys (s, cs), isKey⟩
    · rw [keys', List.nodup_append_comm]
      exact List.nodup_cons.mpr ⟨unknown, refines.separate⟩
    · intro e member
      rw [keys']
      exact List.mem_append_left _ (refines.opened e member)
    · simpa [or_imp, forall_and] using fun s cs => refines.differ (s, cs)
    · intro p member name
      rcases List.mem_append.mp member with old | new
      · exact refines.first p old name
      · cases List.mem_singleton.mp new
        exact (none' name).symm

/-- Once a scope is open, its place in the table is that of its key. -/
theorem Refines.keys_openScope (refines : r.Refines log) :
    (r.openScope scope).keys[r.placeOf scope]? = some scope.key := by
  unfold Registry.openScope
  split
  · rename_i inside
    have here := refines.scopesAreKeys _ (List.getElem_mem inside)
    rw [keys, List.getElem?_map, List.getElem?_eq_getElem inside]
    exact congrArg some ((Scope.eqv_iff here scope).mp (eqv_at_placeOf inside))
  · rename_i outside
    simp [keys, placeOf_of_absent outside]

/-- What is in a table after a capability is added at a place: the old entries elsewhere, and
there the old one with the capability after it. -/
theorem mem_modify_cases {table : List (Scope × List Capability)} {place : Nat} {c : Capability}
    {p : Scope × List Capability}
    (member : p ∈ table.modify place fun (s, cs) => (s, cs ++ [c])) :
    ∃ i s cs, table[i]? = some (s, cs) ∧ p = if i = place then (s, cs ++ [c]) else (s, cs) := by
  obtain ⟨i, here⟩ := List.getElem?_of_mem member
  rw [List.getElem?_modify] at here
  obtain ⟨⟨s, cs⟩, old, rfl⟩ := Option.map_eq_some_iff.mp here
  refine ⟨i, s, cs, old, ?_⟩
  by_cases same : place = i
  · simp [same]
  · simp [same, Ne.symm same]

theorem keys_eq (r : Registry) : r.keys = r.scopes.map Scope.key := by
  rw [scopes, List.map_map]
  rfl

theorem keys_addAt (scope : Scope) (place : Nat) (r : Registry) (c : Capability) :
    (r.addAt scope place c).keys = r.keys := by
  rw [keys_eq, scopes_addAt, ← keys_eq]

/-- At its own place a scope gets the new capability, and nothing is added to any other. -/
theorem Refines.first_modify (refines : r.Refines log) (isKey : scope.filter.IsKey) {place i : Nat}
    {s t : Scope} {cs ds : List Capability} (here : r.table[place]? = some (s, cs))
    (same : s.key = scope.key) (at' : r.table[i]? = some (t, ds)) (c : Capability) (name : String) :
    (if i = place then ds ++ [c] else ds).find? (fun d => d.name == name) =
      held? (log ++ [⟨scope, c⟩]) t name := by
  have before := refines.first _ (List.mem_of_getElem? at') name
  rw [held?_append, ← before]
  by_cases atPlace : i = place
  · subst atPlace
    cases at'.symm.trans here
    have matched : scope.eqv s = true := (Scope.eqv_iff isKey s).mpr same.symm
    rw [if_pos rfl, List.find?_append, matched, Bool.true_and, List.find?_singleton]
  · have elsewhere : ¬ scope.eqv t = true := by
      intro matched
      have keysHere : r.keys[place]? = some scope.key := by
        rw [keys, List.getElem?_map, here, ← same]
        rfl
      have keysThere : r.keys[i]? = some scope.key := by
        rw [keys, List.getElem?_map, at', (Scope.eqv_iff isKey t).mp matched]
        rfl
      obtain ⟨inside, -⟩ := List.getElem?_eq_some_iff.mp keysThere
      exact atPlace ((List.getElem?_inj inside refines.separate).mp (keysThere.trans keysHere.symm))
    simp only [if_neg atPlace, elsewhere, Bool.false_and, Bool.false_eq_true, if_false, Option.or_none]

/-- Adding a capability at the place of its scope is told by adding an entry to the log. -/
theorem Refines.addAt (refines : r.Refines log) (isKey : scope.filter.IsKey) {place : Nat} {s : Scope}
    {cs : List Capability} (here : r.table[place]? = some (s, cs)) (same : s.key = scope.key)
    (c : Capability) : (r.addAt scope place c).Refines (log ++ [⟨scope, c⟩]) := by
  have inTable := List.mem_of_getElem? here
  have areKeys : AreKeys (log ++ [⟨scope, c⟩]) := by
    intro e member
    rcases List.mem_append.mp member with old | new
    · exact refines.areKeys e old
    · cases List.mem_singleton.mp new
      exact isKey
  have opened : ∀ e ∈ log ++ [⟨scope, c⟩], e.scope.key ∈ r.keys := by
    intro e member
    rcases List.mem_append.mp member with old | new
    · exact refines.opened e old
    · cases List.mem_singleton.mp new
      exact List.mem_map.mpr ⟨_, inTable, same⟩
  have found : r.findAt? place c.name = held? log scope c.name := by
    rw [findAt?, here]
    exact (refines.first _ inTable c.name).trans (held?_congr refines.areKeys same c.name)
  have clashes := clashes_append_iff refines.areKeys (e := ⟨scope, c⟩) isKey
  have separate := keys_addAt scope place r c ▸ refines.separate
  have opened' := keys_addAt scope place r c ▸ opened
  rw [← found, ← refines.conflicts] at clashes
  cases registered : r.findAt? place c.name with
  | none =>
    simp only [Registry.addAt, registered] at separate opened' ⊢
    refine ⟨areKeys, ?_, separate, opened', ?_, ?_, ?_⟩
    · intro p member
      obtain ⟨i, t, ds, old, rfl⟩ := mem_modify_cases member
      have known := refines.scopesAreKeys _ (List.mem_of_getElem? old)
      split <;> exact known
    · intro p member
      obtain ⟨i, t, ds, old, rfl⟩ := mem_modify_cases member
      have known := refines.differ _ (List.mem_of_getElem? old)
      split
      · rename_i atPlace
        subst atPlace
        cases old.symm.trans here
        rw [findAt?, here] at registered
        rw [List.map_append, List.map_singleton, List.nodup_append_comm]
        exact List.nodup_cons.mpr ⟨(find?_name_none cs c.name).mp registered, known⟩
      · exact known
    · intro p member name
      obtain ⟨i, t, ds, old, rfl⟩ := mem_modify_cases member
      have added := refines.first_modify isKey here same old c name
      split <;> simpa [*] using added
    · rw [clashes, registered]
      simp
  | some earlier =>
    have first (p) (member : p ∈ r.table) (name : String) :
        p.2.find? (fun c => c.name == name) = held? (log ++ [⟨scope, c⟩]) p.1 name := by
      rw [held?_append_known refines.areKeys isKey (found.symm.trans registered)]
      exact refines.first p member name
    rw [registered] at clashes
    by_cases equal : earlier = c
    · simp only [Registry.addAt, registered, equal, if_true]
      refine ⟨areKeys, refines.scopesAreKeys, refines.separate, opened, refines.differ, first, ?_⟩
      simpa [equal] using clashes.symm
    · simp only [Registry.addAt, registered, equal, if_false]
      refine ⟨areKeys, refines.scopesAreKeys, refines.separate, opened, refines.differ, first, ?_⟩
      simpa [equal] using clashes

/-- The induction is on what is added: the place stays that of the scope. -/
theorem Refines.foldl_addAt (isKey : scope.filter.IsKey) (place : Nat) (cs : List Capability)
    (refines : r.Refines log) (here : r.keys[place]? = some scope.key) :
    (cs.foldl (Registry.addAt scope place) r).Refines (log ++ cs.map (Entry.mk scope)) := by
  induction cs generalizing r log with
  | nil => rwa [List.map_nil, List.append_nil]
  | cons c cs ih =>
    obtain ⟨⟨s, ds⟩, atPlace, same⟩ := Option.map_eq_some_iff.mp (List.getElem?_map ▸ here)
    have added := refines.addAt isKey atPlace same c
    have later := ih added (keys_addAt scope place r c ▸ here)
    rwa [List.append_assoc] at later

/-- What a call registers is what it adds to the log. -/
theorem Refines.insert (refines : r.Refines log) (isKey : scope.filter.IsKey) (cs : List Capability) :
    (r.insert scope cs).1.Refines (log ++ cs.map (Entry.mk scope)) :=
  (refines.openScope isKey).foldl_addAt isKey (r.placeOf scope) cs refines.keys_openScope

/-- A call that succeeds adds its entries to the log. -/
theorem Refines.register {a : Registration} (refines : r.Refines log) (hasKey : a.HasKey)
    {r' : Registry} {events : List Event} (registered : r.register a = .ok (r', events)) :
    r'.Refines (log ++ a.entries) := by
  obtain ⟨⟨scope, cs⟩, read, inserted⟩ := exists_of_bind_ok registered
  obtain ⟨filter, entries⟩ := Registration.exists_of_read read
  cases inserted
  rw [entries]
  exact refines.insert (hasKey _ filter) cs

end Registry

/-- A registry together with the log of what was registered in it. -/
structure Logged where
  registry : Registry
  log : List Entry

namespace Logged

open Entry

def start : Logged := ⟨.empty, []⟩

/-- What a call leaves: nothing new if it fails. -/
def register (s : Logged) (a : Registration) : Logged :=
  match s.registry.register a with
  | .ok (r, _) => ⟨r, s.log ++ a.entries⟩
  | .error _ => s

def after (calls : List Registration) : Logged := calls.foldl register start

/-- A call that fails adds no entries and changes nothing, so any call keeps the registry to its
log. -/
theorem refines_register {s : Logged} (refines : s.registry.Refines s.log) {a : Registration}
    (hasKey : a.HasKey) : (s.register a).registry.Refines (s.register a).log := by
  unfold register
  split
  · rename_i registered
    exact refines.register hasKey registered
  · exact refines

/-- Over any sequence of calls a registry holds in each scope the first entries of its log there. -/
theorem refines_foldl {s : Logged} (refines : s.registry.Refines s.log) {calls : List Registration}
    (haveKeys : ∀ a ∈ calls, a.HasKey) :
    (calls.foldl register s).registry.Refines (calls.foldl register s).log := by
  induction calls generalizing s with
  | nil => exact refines
  | cons a calls ih =>
    have first := refines_register refines (haveKeys a List.mem_cons_self)
    exact ih first fun b member => haveKeys b (List.mem_cons_of_mem a member)

end Logged

namespace Registry

open Entry

variable {r : Registry} {log : List Entry}

/-- What a scope of the table holds are the entries that count in it. -/
theorem Refines.counts_iff (refines : r.Refines log) {s : Scope} {cs : List Capability}
    (member : (s, cs) ∈ r.table) (c : Capability) :
    c ∈ cs ↔ ∃ e, Counts log e ∧ e.scope.key = s.key ∧ e.capability = c := by
  have alike {e : Entry} (same : e.scope.key = s.key) :
      first? log s e.capability.name = first? log e.scope e.capability.name :=
    first?_congr refines.areKeys same.symm e.capability.name
  have held := find?_name_iff (refines.differ _ member) c.name c
  rw [refines.first _ member c.name] at held
  constructor
  · intro inScope
    obtain ⟨e, atFirst, rfl⟩ := Option.map_eq_some_iff.mp (held.mpr ⟨inScope, rfl⟩)
    obtain ⟨inLog, matched, -⟩ := exists_of_first? atFirst
    have same := (Scope.eqv_iff (refines.areKeys e inLog) s).mp matched
    exact ⟨e, (alike same).symm.trans atFirst, same, rfl⟩
  · rintro ⟨e, counts, same, rfl⟩
    exact (held.mp (congrArg (Option.map Entry.capability) ((alike same).trans counts))).1

/-- The capabilities in the scopes that cover a node are those of the entries that count there. -/
theorem Refines.mem_covering (refines : r.Refines log) (kind : NodeKind) (n : Node) (c : Capability) :
    c ∈ r.covering kind n ↔ ∃ e, Counts log e ∧ e.scope.Covers kind n ∧ e.capability = c := by
  simp only [covering, List.mem_flatMap, List.mem_filter, Bool.and_eq_true, beq_iff_eq]
  constructor
  · rintro ⟨⟨s, cs⟩, ⟨member, covers⟩, inScope⟩
    obtain ⟨e, counts, same, rfl⟩ := (refines.counts_iff member c).mp inScope
    exact ⟨e, counts, (Scope.covers_congr same kind n).mpr covers, rfl⟩
  · rintro ⟨e, counts, covers, rfl⟩
    obtain ⟨⟨s, cs⟩, member, same⟩ := List.mem_map.mp (refines.opened e (exists_of_first? counts).1)
    have inScope := (refines.counts_iff member e.capability).mpr ⟨e, counts, same.symm, rfl⟩
    exact ⟨(s, cs), ⟨member, (Scope.covers_congr same kind n).mpr covers⟩, inScope⟩

/-- There is a conflict exactly if two entries of the log clash. -/
theorem Refines.checkConflicts_error_iff (refines : r.Refines log) :
    (∃ e, r.checkConflicts = .error e) ↔ Clashes log := by
  rw [← refines.conflicts]
  unfold checkConflicts
  cases r.conflicts <;> simp

end Registry

namespace Logged

open Entry

/-- Two entries that count for a node have one name and differ. -/
def Overlaps (log : List Entry) (kind : NodeKind) (n : Node) : Prop :=
  ∃ d e, (Counts log d ∧ d.scope.Covers kind n) ∧ (Counts log e ∧ e.scope.Covers kind n) ∧
    d.capability.name = e.capability.name ∧ d.capability ≠ e.capability

/-- The scopes that cover a node agree exactly if no two of the entries that count for it overlap.
-/
theorem agree_covering_iff {r : Registry} {log : List Entry} (refines : r.Refines log)
    (kind : NodeKind) (n : Node) : Registry.Agree (r.covering kind n) ↔ ¬ Overlaps log kind n := by
  constructor
  · rintro agree ⟨d, e, countsD, countsE, name, differ⟩
    have inD := (refines.mem_covering kind n d.capability).mpr ⟨d, countsD.1, countsD.2, rfl⟩
    have inE := (refines.mem_covering kind n e.capability).mpr ⟨e, countsE.1, countsE.2, rfl⟩
    exact differ (agree _ inD _ inE name)
  · intro none' c inC c' inC' name
    obtain ⟨d, countsD, coversD, rfl⟩ := (refines.mem_covering kind n c).mp inC
    obtain ⟨e, countsE, coversE, rfl⟩ := (refines.mem_covering kind n c').mp inC'
    by_contra differ
    exact none' ⟨d, e, ⟨countsD, coversD⟩, ⟨countsE, coversE⟩, name, differ⟩

/-- Over any sequence of calls the registry is what its log says: it has a conflict exactly if two
entries of one scope and name differ, and a node has the capabilities of the entries that count for
it, unless two of these have one name and differ. Then what is raised tells the node, if this can be
shown; if a bound of it is an integer that is too long for that, only this is raised. -/
theorem refines_log {calls : List Registration} (haveKeys : ∀ a ∈ calls, a.HasKey) :
    ((∃ e, (after calls).registry.checkConflicts = .error e) ↔
        ∃ d ∈ (after calls).log, ∃ e ∈ (after calls).log, d.Clash e) ∧
      ∀ kind n,
        ((∃ e, (after calls).registry.capabilitiesFor kind n = .error (.configuration e)) ↔
          Overlaps (after calls).log kind n ∧ n.isShowable = true) ∧
        ((after calls).registry.capabilitiesFor kind n = .error .longInteger ↔
          Overlaps (after calls).log kind n ∧ n.isShowable = false) ∧
        (¬ Overlaps (after calls).log kind n → ∃ all,
          (after calls).registry.capabilitiesFor kind n = .ok all) ∧
        ∀ all, (after calls).registry.capabilitiesFor kind n = .ok all →
          (all.map Capability.name).Nodup ∧
            ∀ c, c ∈ all ↔
              ∃ e, Counts (after calls).log e ∧ e.scope.Covers kind n ∧ e.capability = c := by
  have refines := refines_foldl (s := start) Registry.refines_empty haveKeys
  refine ⟨refines.checkConflicts_error_iff, fun kind n => ?_⟩
  have gathers := (after calls).registry.capabilitiesFor_gathers kind n
  have agree := agree_covering_iff refines kind n
  have members := refines.mem_covering kind n
  cases gathered : (after calls).registry.capabilitiesFor kind n with
  | error e =>
    rw [gathered] at gathers
    have overlaps : Overlaps (after calls).log kind n :=
      by_contra fun none' => gathers (agree.mpr none')
    obtain ⟨name, rfl⟩ := Registry.capabilitiesFor_error gathered
    have showable : (ConfigurationError.overlap kind n name).isShowable = n.isShowable := rfl
    simp [Refusal.of_eq_configuration_iff, Refusal.of_eq_longInteger_iff, showable, overlaps]
  | ok all =>
    rw [gathered] at gathers
    obtain ⟨agrees, differ, same⟩ := gathers
    have apart : ¬ Overlaps (after calls).log kind n := agree.mp agrees
    refine ⟨by simp [apart], by simp [apart], fun _ => ⟨all, rfl⟩, ?_⟩
    rintro all' ⟨⟩
    exact ⟨differ, fun c => (same c).trans (members c)⟩

/-- A way to compute the score of a parameter. -/
def sampleScore (way : String) : Capability := ⟨"score", .host way, .accessor, by decide⟩

/-- The score is registered for all parameters, and in another way for those with one name. -/
def sampleCalls : List Registration :=
  [⟨.ok .ofParameter, .ok .all, [.capability (sampleScore "early")], []⟩,
   ⟨.ok .ofParameter, .ok ⟨[("name", .text "p")], by simp [NodeFilter.Canonical]⟩,
    [.capability (sampleScore "late")], []⟩]

/-- A parameter that cannot be shown: its least value has too many digits. -/
def sampleLong : Parameter :=
  ⟨"p", ⟨"Number", .primitive, none, by decide⟩, true, true, some (.int (10 ^ digitLimit)), false,
    none, by decide⟩

/-- Two scopes are at odds over a parameter, and what is raised does not say so. -/
theorem refines_log_sample :
    (∀ a ∈ sampleCalls, a.HasKey) ∧
      (after sampleCalls).registry.capabilitiesFor .ofParameter (.ofParameter sampleLong) =
        .error .longInteger := by
  have haveKeys : ∀ a ∈ sampleCalls, a.HasKey := by
    intro a member f isFilter
    rcases List.mem_cons.mp member with rfl | member
    · cases isFilter
      exact nofun
    · cases List.mem_singleton.mp member
      cases isFilter
      intro c member
      cases List.mem_singleton.mp member
      exact ⟨rfl, rfl⟩
  let early : Entry := ⟨⟨.ofParameter, .all⟩, sampleScore "early"⟩
  let late : Entry := ⟨⟨.ofParameter, ⟨[("name", .text "p")], by simp [NodeFilter.Canonical]⟩⟩,
    sampleScore "late"⟩
  have log : (after sampleCalls).log = [early, late] := rfl
  have overlaps : Overlaps (after sampleCalls).log .ofParameter (.ofParameter sampleLong) := by
    rw [log]
    exact ⟨early, late, ⟨rfl, rfl, rfl⟩, ⟨rfl, rfl, rfl⟩, rfl, by decide⟩
  have tooLong : (Node.ofParameter sampleLong).isShowable = false := by
    simp [Node.isShowable, Parameter.isShowable, sampleLong, Number.isShowable, isShowableInt_limit]
  exact ⟨haveKeys, ((refines_log haveKeys).2 _ _).2.1.mpr ⟨overlaps, tooLong⟩⟩

end Logged
end ServiceDiagram

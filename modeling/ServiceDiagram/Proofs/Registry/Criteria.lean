import ServiceDiagram.Proofs.Registry.Order
import ServiceDiagram.Proofs.Table

namespace ServiceDiagram

namespace NodeFilter

/-- Criteria that can be handed in by name: the attributes are named and differ, and none of them has the
name of the argument for the class of filters. -/
structure IsRecord (m : List Criterion) : Prop where
  named : ∀ c ∈ m, c.1 ≠ ""
  differ : (m.map Prod.fst).Nodup
  noOwner : ∀ c ∈ m, c.1 ≠ "cls"

/-- Criteria in the order of their attributes. -/
def inOrder (m : List Criterion) : List Criterion := m.mergeSort fun a b => nameLe a.1 b.1

variable {m m₁ m₂ xs ys : List Criterion} {f g f₁ f₂ : NodeFilter}

theorem criteria_of_make (made : make m = .ok f) : f.criteria = m := by
  unfold make at made
  dsimp only at made
  split at made
  · split at made
    · split at made
      · cases made
        rfl
      · cases made
    · cases made
  · cases made

theorem Canonical.differ (canonical : Canonical m) : (m.map Prod.fst).Nodup :=
  canonical.2.imp String.ne_of_lt

/-- Criteria in canonical form are the filter that they make. -/
theorem make_of_canonical (canonical : Canonical m) : make m = .ok ⟨m, canonical⟩ := by
  have inOrder : m.map Prod.fst = (m.map Prod.fst).mergeSort nameLe := by
    refine (List.mergeSort_of_pairwise (canonical.2.imp fun lt => ?_)).symm
    exact decide_eq_true (String.not_lt.mp (String.lt_asymm lt))
  unfold make
  rw [dif_pos canonical.1, dif_pos canonical.differ, dif_pos inOrder]

/-- Criteria make a filter exactly if they are in canonical form. -/
theorem make_ok_iff : (∃ f, make m = .ok f) ↔ Canonical m := by
  constructor
  · rintro ⟨f, made⟩
    exact criteria_of_make made ▸ f.canonical
  · exact fun canonical => ⟨_, make_of_canonical canonical⟩

/-- Criteria in strict order are known by what they demand. -/
theorem Canonical.unique (canonicalX : Canonical xs) (canonicalY : Canonical ys)
    (same : ∀ c, c ∈ xs ↔ c ∈ ys) : xs = ys := by
  have perm : xs.Perm ys :=
    (List.perm_ext_iff_of_nodup (.of_map _ canonicalX.differ) (.of_map _ canonicalY.differ)).mpr same
  refine List.Perm.eq_of_pairwise (fun a b _ _ ab ba => ?_) (List.pairwise_map.mp canonicalX.2)
    (List.pairwise_map.mp canonicalY.2) perm
  exact absurd (String.lt_trans ab ba) (String.lt_irrefl _)

/-- To put criteria in order changes nothing but their order. -/
theorem inOrder_perm (m : List Criterion) : (inOrder m).Perm m := List.mergeSort_perm m _

theorem map_inOrder (m : List Criterion) :
    (inOrder m).map Prod.fst = (m.map Prod.fst).mergeSort nameLe :=
  List.map_mergeSort fun _ _ _ _ => rfl

/-- A record of criteria is in canonical form once it is in order. -/
theorem IsRecord.canonical (isRecord : IsRecord m) : Canonical (inOrder m) := by
  have perm := inOrder_perm m
  refine ⟨fun c member => isRecord.named c (perm.mem_iff.mp member), ?_⟩
  have differ : ((inOrder m).map Prod.fst).Nodup := (perm.map Prod.fst).nodup_iff.mpr isRecord.differ
  refine pairwise_lt differ ?_
  rw [map_inOrder, List.mergeSort_of_pairwise (pairwise_nameLe _)]

/-- The filter of a record is that of its criteria in order. -/
theorem IsRecord.where? (isRecord : IsRecord m) :
    where? m = .ok ⟨inOrder m, isRecord.canonical⟩ := by
  have noOwner : ¬ (m.any fun c => c.1 == "cls") = true := by
    rw [List.any_eq_true]
    rintro ⟨c, member, named⟩
    exact isRecord.noOwner c member (beq_iff_eq.mp named)
  rw [NodeFilter.where?, if_neg noOwner]
  exact make_of_canonical isRecord.canonical

/-- Where names differ, it is they that decide an order, whatever it does with values. -/
theorem mergeSort_eq_inOrder {le : Criterion → Criterion → Bool} (isRecord : IsRecord m)
    (byName : ∀ a b, a.1 ≠ b.1 → le a b = nameLe a.1 b.1) (refl : ∀ a, le a a = true) :
    m.mergeSort le = inOrder m := by
  have agrees : ∀ a ∈ m, ∀ b ∈ m, le a b = nameLe a.1 b.1 := by
    intro a inA b inB
    by_cases sameName : a.1 = b.1
    · have same : a = b := List.inj_on_of_nodup_map isRecord.differ inA inB sameName
      rw [same, refl, nameLe, decide_eq_true (String.le_refl _)]
    · exact byName a b sameName
  have sorted := List.map_mergeSort (f := id) (r := le) (s := fun a b => nameLe a.1 b.1) agrees
  rwa [List.map_id, List.map_id] at sorted

/-- Whatever is accepted with just the demands of a record is its filter. -/
theorem IsRecord.only (isRecord : IsRecord m) (made : make xs = .ok g)
    (same : ∀ c, c ∈ xs ↔ c ∈ m) : g = ⟨inOrder m, isRecord.canonical⟩ := by
  have canonical : Canonical xs := make_ok_iff.mp ⟨g, made⟩
  have sorted : xs = inOrder m :=
    canonical.unique isRecord.canonical fun c => (same c).trans (inOrder_perm m).mem_iff.symm
  subst sorted
  cases made.symm.trans (make_of_canonical canonical)
  rfl

/-- Records that differ in order only have one filter. -/
theorem IsRecord.where?_of_perm (first : IsRecord m₁) (second : IsRecord m₂) (perm : m₁.Perm m₂) :
    NodeFilter.where? m₁ = NodeFilter.where? m₂ := by
  have same : inOrder m₁ = inOrder m₂ := first.canonical.unique second.canonical fun c =>
    (inOrder_perm m₁).mem_iff.trans (perm.mem_iff.trans (inOrder_perm m₂).mem_iff.symm)
  rw [first.where?, second.where?]
  simp only [same]

/-- Every demand is found again, with an equal value. -/
def Meets (xs ys : List Criterion) : Prop := ∀ c ∈ xs, ∃ d ∈ ys, d.1 = c.1 ∧ c.2.eqv d.2 = true

theorem Meets.congr (meets : Meets m₁ m₂) (sameX : ∀ c, c ∈ xs ↔ c ∈ m₁)
    (sameY : ∀ c, c ∈ ys ↔ c ∈ m₂) : Meets xs ys := by
  intro c member
  obtain ⟨d, found, alike⟩ := meets c ((sameX c).mp member)
  exact ⟨d, (sameY d).mpr found, alike⟩

/-- Comparing property by property finds out whether each is met by one of the same name. -/
theorem eqvEntries_iff (differ : (ys.map Prod.fst).Nodup) :
    Value.eqvEntries xs ys = true ↔ Meets xs ys := by
  induction xs with
  | nil => exact iff_of_true rfl nofun
  | cons c xs ih =>
    obtain ⟨name, v⟩ := c
    rw [Value.eqvEntries, Bool.and_eq_true, Meets, List.forall_mem_cons]
    refine and_congr ⟨fun equal => ?_, ?_⟩ ih
    · cases found : ys.lookup name with
      | none => simp [found] at equal
      | some w =>
        obtain ⟨before, after, rfl, -⟩ := List.lookup_eq_some_iff.mp found
        exact ⟨(name, w), by simp, rfl, by simpa [found] using equal⟩
    · rintro ⟨⟨_, w⟩, member, rfl, equal⟩
      rw [Table.lookup_of_mem differ member]
      exact equal

/-- Records are equal exactly if they have the same count of criteria and meet each other's. -/
theorem eqv_record_iff (differ : (m₂.map Prod.fst).Nodup) :
    (Value.record m₁).eqv (.record m₂) = true ↔ m₁.length = m₂.length ∧ Meets m₁ m₂ := by
  rw [Value.eqv, Bool.and_eq_true, beq_iff_eq, eqvEntries_iff differ]

theorem names_of_sameCriteria (same : sameCriteria xs ys = true) :
    xs.map Prod.fst = ys.map Prod.fst := by
  induction xs generalizing ys with
  | nil => cases ys with
    | nil => rfl
    | cons d ys => cases same
  | cons c xs ih => cases ys with
    | nil => cases same
    | cons d ys =>
      simp only [sameCriteria, Bool.and_eq_true, beq_iff_eq] at same
      rw [List.map_cons, List.map_cons, ih same.2, same.1.1]

/-- The induction is on the criteria: as their names agree place by place and differ otherwise, each is
met by the one at its own place. -/
theorem sameCriteria_iff_meets (differ : (ys.map Prod.fst).Nodup)
    (names : xs.map Prod.fst = ys.map Prod.fst) : sameCriteria xs ys = true ↔ Meets xs ys := by
  induction xs generalizing ys with
  | nil => cases ys with
    | nil => exact iff_of_true rfl nofun
    | cons d ys => cases names
  | cons c xs ih => cases ys with
    | nil => cases names
    | cons d ys =>
      obtain ⟨sameName, names⟩ := List.cons.inj names
      rw [List.map_cons, List.nodup_cons] at differ
      have later := ih differ.2 names
      have here : (∃ e ∈ d :: ys, e.1 = c.1 ∧ c.2.eqv e.2 = true) ↔ c.2.eqv d.2 = true := by
        constructor
        · rintro ⟨e, member, name, equal⟩
          rcases List.mem_cons.mp member with rfl | member
          · exact equal
          · have again : e.1 ∈ ys.map Prod.fst := List.mem_map_of_mem member
            exact absurd (name.trans sameName ▸ again) differ.1
        · exact fun equal => ⟨d, List.mem_cons_self, sameName.symm, equal⟩
      have rest : (∀ x ∈ xs, ∃ e ∈ d :: ys, e.1 = x.1 ∧ x.2.eqv e.2 = true) ↔ Meets xs ys := by
        refine forall₂_congr fun x inX => ?_
        have other : d.1 ≠ x.1 := by
          intro same
          have again : x.1 ∈ ys.map Prod.fst := names ▸ List.mem_map_of_mem inX
          exact differ.1 (same ▸ again)
        simp [other]
      rw [Meets, List.forall_mem_cons, here, rest, ← later]
      obtain ⟨name, v⟩ := c
      obtain ⟨name', w⟩ := d
      cases sameName
      simp [sameCriteria]

/-- Records of one length that meet have the same names. -/
theorem perm_of_meets (differ : (xs.map Prod.fst).Nodup) (length : xs.length = ys.length)
    (meets : Meets xs ys) : (xs.map Prod.fst).Perm (ys.map Prod.fst) := by
  have part : xs.map Prod.fst ⊆ ys.map Prod.fst := by
    intro name member
    obtain ⟨c, inX, rfl⟩ := List.mem_map.mp member
    obtain ⟨d, inY, same, -⟩ := meets c inX
    exact same ▸ List.mem_map_of_mem inY
  refine (List.subperm_of_subset differ part).perm_of_length_le ?_
  rw [List.length_map, List.length_map, length]

/-- In canonical form equal criteria stand at equal places, so comparing place by place is comparing
as records. -/
theorem sameCriteria_iff_of_canonical (canonicalX : Canonical xs) (canonicalY : Canonical ys) :
    sameCriteria xs ys = true ↔ xs.length = ys.length ∧ Meets xs ys := by
  constructor
  · intro same
    have names := names_of_sameCriteria same
    have length : xs.length = ys.length := by simpa using congrArg List.length names
    exact ⟨length, (sameCriteria_iff_meets canonicalY.differ names).mp same⟩
  · rintro ⟨length, meets⟩
    have perm := perm_of_meets canonicalX.differ length meets
    have names : xs.map Prod.fst = ys.map Prod.fst :=
      perm.eq_of_pairwise (fun a b _ _ ab ba => absurd (String.lt_trans ab ba) (String.lt_irrefl _))
        canonicalX.2 canonicalY.2
    exact (sameCriteria_iff_meets canonicalY.differ names).mpr meets

/-- Filters of records are equal exactly if the records are. -/
theorem eqv_where? (first : IsRecord m₁) (second : IsRecord m₂) (made₁ : where? m₁ = .ok f₁)
    (made₂ : where? m₂ = .ok f₂) : f₁.eqv f₂ = (Value.record m₁).eqv (.record m₂) := by
  cases first.where?.symm.trans made₁
  cases second.where?.symm.trans made₂
  have perm₁ := inOrder_perm m₁
  have perm₂ := inOrder_perm m₂
  rw [Bool.eq_iff_iff, eqv_record_iff second.differ, eqv,
    sameCriteria_iff_of_canonical first.canonical second.canonical, perm₁.length_eq, perm₂.length_eq]
  refine and_congr_right fun _ => ⟨fun meets => ?_, fun meets => ?_⟩
  · exact meets.congr (fun c => perm₁.mem_iff.symm) fun c => perm₂.mem_iff.symm
  · exact meets.congr (fun c => perm₁.mem_iff) fun c => perm₂.mem_iff

end NodeFilter

namespace Registry

/-- Once something has been registered in a scope that equals itself, another scope has the place of this
one exactly if the two are equal; and then it opens no place of its own. -/
theorem placeOf_insert_eq_iff {r : Registry} {s t : Scope} (hashable : ∀ u ∈ r.scopes, u.filter.IsHashable)
    (keyS : s.filter.IsKey) (hashableT : t.filter.IsHashable) (cs : List Capability) :
    ((r.insert s cs).1.placeOf t = (r.insert s cs).1.placeOf s ↔ s.eqv t = true) ∧
      (s.eqv t = true → ∀ ds : List Capability,
        ((r.insert s cs).1.insert t ds).1.scopes = (r.insert s cs).1.scopes) := by
  obtain ⟨place, inside⟩ := r.placeOf_insert (Scope.eqv_self keyS) cs
  have inside' : (r.insert s cs).1.placeOf s < (r.insert s cs).1.table.length := place ▸ inside
  have hashable' : ∀ u ∈ (r.insert s cs).1.scopes, u.filter.IsHashable := by
    rw [scopes_insert]
    split
    · exact hashable
    · exact List.forall_mem_append.mpr ⟨hashable, List.forall_mem_singleton.mpr keyS.isHashable⟩
  have meet := placeOf_eq_iff hashable' keyS.isHashable hashableT inside'
  refine ⟨meet, fun same ds => ?_⟩
  rw [scopes_insert, meet.mpr same, if_pos inside']

end Registry

namespace Logged

/-- The filters of all scopes of a registry can be hashed. -/
theorem hashable_scopes (as : List Registration) :
    ∀ s ∈ (after as).registry.scopes, s.filter.IsHashable := by
  rw [registry_after]
  exact (Registry.tells_empty.after _ fun _ => hashable_of_callsOf).hashable

theorem registry_after_concat {a : Registration} {call : Registry.Call} (read : a.read = .ok call)
    (as : List Registration) :
    (after (as ++ [a])).registry = ((after as).registry.insert call.1 call.2).1 := by
  rw [after, List.foldl_append, List.foldl_cons, List.foldl_nil, ← after, register,
    Registry.register_eq, read]
  rfl

end Logged

namespace NodeFilter

/-- After a registration under a record whose values equal themselves, one under another record has the same
place exactly if the records are equal. -/
theorem IsRecord.meet {m₁ m₂ : List Criterion} {f₁ f₂ : NodeFilter} (first : IsRecord m₁)
    (second : IsRecord m₂) (made₁ : NodeFilter.where? m₁ = .ok f₁)
    (made₂ : NodeFilter.where? m₂ = .ok f₂) (before : List Registration) {a b : Registration}
    {kind : NodeKind} {cs ds : List Capability} (reflexive : ∀ c ∈ m₁, c.2.eqv c.2 = true)
    (readA : a.read = .ok (⟨kind, f₁⟩, cs)) (readB : b.read = .ok (⟨kind, f₂⟩, ds)) :
    let r := (Logged.after (before ++ [a])).registry
    (r.placeOf ⟨kind, f₂⟩ = r.placeOf ⟨kind, f₁⟩ ↔ (Value.record m₁).eqv (.record m₂) = true) ∧
      ((Value.record m₁).eqv (.record m₂) = true →
        (Logged.after (before ++ [a, b])).registry.scopes = r.scopes) := by
  have hashableA : f₁.IsHashable := (Registration.stands_of_read readA).2
  have hashableB : f₂.IsHashable := (Registration.stands_of_read readB).2
  have isKey : f₁.IsKey := by
    cases first.where?.symm.trans made₁
    exact fun c member => ⟨hashableA c member, reflexive c ((inOrder_perm m₁).mem_iff.mp member)⟩
  have scopes : Scope.eqv ⟨kind, f₁⟩ ⟨kind, f₂⟩ = (Value.record m₁).eqv (.record m₂) := by
    rw [Scope.eqv, beq_self_eq_true, Bool.true_and, eqv_where? first second made₁ made₂]
  obtain ⟨meet, again⟩ := Registry.placeOf_insert_eq_iff (s := ⟨kind, f₁⟩) (t := ⟨kind, f₂⟩)
    (Logged.hashable_scopes before) isKey hashableB cs
  rw [scopes] at meet again
  have afterA := Logged.registry_after_concat readA before
  have afterB := Logged.registry_after_concat readB (before ++ [a])
  rw [List.append_assoc] at afterB
  intro r
  change r = _ at afterA
  refine ⟨afterA ▸ meet, fun same => ?_⟩
  refine (congrArg Registry.scopes afterB).trans ?_
  change (r.insert _ _).1.scopes = r.scopes
  rw [afterA]
  exact again same ds

/-- Criteria are accepted exactly if the attributes are named and strictly increasing by code points. A
record of named attributes makes a filter, the only one with just these demands, whatever the sorting does
with values. Filters of two records are equal exactly if the records are, and one and the same if the records
differ in order only. And in any run, after a registration under one record whose values equal themselves, a
registration under another has the same place exactly if the records are equal; it then opens no scope. -/
theorem criteria_canonical :
    (∀ criteria : List Criterion, (∃ f, make criteria = .ok f ∧ f.criteria = criteria) ↔
      (∀ c ∈ criteria, c.1 ≠ "") ∧ (criteria.map Prod.fst).Pairwise (· < ·)) ∧
    (∀ m, IsRecord m → ∃ f, where? m = .ok f ∧ (∀ c, c ∈ f.criteria ↔ c ∈ m) ∧
      (∀ criteria g, make criteria = .ok g → (∀ c, c ∈ criteria ↔ c ∈ m) → g = f) ∧
      ∀ le : Criterion → Criterion → Bool, (∀ a b, a.1 ≠ b.1 → le a b = nameLe a.1 b.1) →
        (∀ a, le a a = true) → make (m.mergeSort le) = .ok f) ∧
    ∀ m₁ m₂ f₁ f₂, IsRecord m₁ → IsRecord m₂ → where? m₁ = .ok f₁ → where? m₂ = .ok f₂ →
      f₁.eqv f₂ = (Value.record m₁).eqv (.record m₂) ∧
      (m₁.Perm m₂ → f₁ = f₂) ∧
      ∀ before a b kind cs ds, (∀ c ∈ m₁, c.2.eqv c.2 = true) →
        a.read = .ok (⟨kind, f₁⟩, cs) → b.read = .ok (⟨kind, f₂⟩, ds) →
          let r := (Logged.after (before ++ [a])).registry
          (r.placeOf ⟨kind, f₂⟩ = r.placeOf ⟨kind, f₁⟩ ↔
            (Value.record m₁).eqv (.record m₂) = true) ∧
          ((Value.record m₁).eqv (.record m₂) = true →
            (Logged.after (before ++ [a, b])).registry.scopes = r.scopes) := by
  refine ⟨fun criteria => ?_, fun m isRecord => ?_, fun m₁ m₂ f₁ f₂ first second made₁ made₂ => ?_⟩
  · refine ⟨?_, fun canonical => ⟨_, make_of_canonical canonical, rfl⟩⟩
    rintro ⟨f, made, -⟩
    exact make_ok_iff.mp ⟨f, made⟩
  · refine ⟨_, isRecord.where?, fun c => (inOrder_perm m).mem_iff,
      fun criteria g made same => isRecord.only made same, fun le byName refl => ?_⟩
    rw [mergeSort_eq_inOrder isRecord byName refl]
    exact make_of_canonical isRecord.canonical
  · refine ⟨eqv_where? first second made₁ made₂, fun perm => ?_,
      fun before a b kind cs ds reflexive readA readB =>
        first.meet second made₁ made₂ before reflexive readA readB⟩
    have same := first.where?_of_perm second perm
    rw [made₁, made₂] at same
    exact Except.ok.inj same

/-- A level in an integer, and a name. -/
def sampleRecord : List Criterion := [("name", .text "Cart"), ("level", .int 1)]

/-- The same level in a truth value, before the name. -/
def sampleReordered : List Criterion := [("level", .bool true), ("name", .text "Cart")]

/-- A demand on the level and on the name. -/
def sampleDemand (level : Value) : NodeFilter :=
  ⟨[("level", level), ("name", .text "Cart")], by simp,
    (by decide : ["level", "name"].Pairwise (· < ·))⟩

/-- A registration under such a demand. -/
def sampleUnder (level : Value) : Registration :=
  ⟨.ok .ofClass, .ok (sampleDemand level), [.capability .dependentDaos], []⟩

/-- Registrations under records that are equal by meaning, in different orders, meet in one scope. -/
theorem criteria_canonical_sample :
    IsRecord sampleRecord ∧ IsRecord sampleReordered ∧
      where? sampleRecord = .ok (sampleDemand (.int 1)) ∧
      where? sampleReordered = .ok (sampleDemand (.bool true)) ∧
      (sampleDemand (.int 1)).eqv (sampleDemand (.bool true)) = true ∧
      (Logged.after [sampleUnder (.int 1), sampleUnder (.bool true)]).registry.scopes =
        (Logged.after [sampleUnder (.int 1)]).registry.scopes := by
  obtain ⟨-, unique, equal⟩ := criteria_canonical
  have first : IsRecord sampleRecord := ⟨by simp [sampleRecord], by decide, by simp [sampleRecord]⟩
  have second : IsRecord sampleReordered :=
    ⟨by simp [sampleReordered], by decide, by simp [sampleReordered]⟩
  have made {m : List Criterion} {f : NodeFilter} (isRecord : IsRecord m)
      (same : ∀ c, c ∈ f.criteria ↔ c ∈ m) : where? m = .ok f := by
    obtain ⟨g, made, -, only, -⟩ := unique m isRecord
    rw [made, only f.criteria f (make_of_canonical f.canonical) same]
  have made₁ : where? sampleRecord = .ok (sampleDemand (.int 1)) :=
    made first fun c => by simp [sampleRecord, sampleDemand, or_comm]
  have made₂ : where? sampleReordered = .ok (sampleDemand (.bool true)) := made second fun c => Iff.rfl
  obtain ⟨alike, -, meet⟩ := equal _ _ _ _ first second made₁ made₂
  have same : (Value.record sampleRecord).eqv (.record sampleReordered) = true := by decide
  refine ⟨first, second, made₁, made₂, alike.trans same, ?_⟩
  exact (meet [] (sampleUnder (.int 1)) (sampleUnder (.bool true)) .ofClass [.dependentDaos]
    [.dependentDaos] (by simp [sampleRecord]; decide) rfl rfl).2 same

end NodeFilter
end ServiceDiagram

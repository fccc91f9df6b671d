import Mathlib.Data.List.Triplewise
import ServiceDiagram.Proofs.Registry.Conflicts

namespace ServiceDiagram.Registry

/-- The scopes of calls, each where it comes first. -/
def opened : List Call → List Scope
  | [] => []
  | call :: calls => call.1 :: (opened calls).filter fun s => !call.1.eqv s

/-- The names that calls register, in the order of the calls. -/
def named (calls : List Call) : List String :=
  calls.flatMap fun call => call.2.map Capability.name

/-- The names that calls register, scope by scope. -/
def grouped (calls : List Call) : List String :=
  (opened calls).flatMap fun s => (under calls s).map Capability.name

/-- No scope is called with again once there was a call with another one. -/
def Uninterrupted (calls : List Call) : Prop :=
  calls.Triplewise fun x y z => x.1.eqv z.1 = true → x.1.eqv y.1 = true

variable {calls : List Call} {call : Call} {s t : Scope}

theorem exists_call_of_opened (member : s ∈ opened calls) : ∃ call ∈ calls, call.1 = s := by
  induction calls with
  | nil => cases member
  | cons first calls ih =>
    rcases List.mem_cons.mp member with rfl | later
    · exact ⟨first, List.mem_cons_self, rfl⟩
    · obtain ⟨call, inCalls, same⟩ := ih (List.mem_of_mem_filter later)
      exact ⟨call, List.mem_cons_of_mem first inCalls, same⟩

/-- No two scopes are equal. -/
theorem opened_pairwise (calls : List Call) :
    (opened calls).Pairwise fun s t => ¬ s.eqv t = true := by
  induction calls with
  | nil => exact .nil
  | cons call calls ih =>
    refine .cons (fun t member => ?_) (ih.filter _)
    simpa using List.of_mem_filter member

/-- Which scopes are first does not change if those of a kind are left out altogether. -/
theorem opened_filter {q : Scope → Bool}
    (alike : ∀ x ∈ calls, ∀ y ∈ calls, x.1.eqv y.1 = true → q x.1 = q y.1) :
    (opened calls).filter q = opened (calls.filter fun call => q call.1) := by
  induction calls with
  | nil => rfl
  | cons call calls ih =>
    have later := ih fun x inX y inY =>
      alike x (List.mem_cons_of_mem call inX) y (List.mem_cons_of_mem call inY)
    cases kept : q call.1 with
    | true =>
      rw [opened, List.filter_cons_of_pos kept, List.filter_cons, if_pos kept, opened, ← later,
        List.filter_filter, List.filter_filter]
      simp only [Bool.and_comm]
    | false =>
      rw [opened, List.filter_cons_of_neg (by simp [kept]), List.filter_cons_of_neg (by simp [kept]),
        List.filter_filter, ← later]
      refine List.filter_congr fun s member => ?_
      obtain ⟨other, inCalls, rfl⟩ := exists_call_of_opened member
      cases same : call.1.eqv other.1 with
      | false => rw [Bool.not_false, Bool.and_true]
      | true =>
        have equal := alike call List.mem_cons_self other (List.mem_cons_of_mem call inCalls) same
        rw [← equal, kept, Bool.false_and]

/-- Leaving out calls with other scopes leaves what stands under a scope. -/
theorem under_filter {q : Call → Bool}
    (kept : ∀ call ∈ calls, call.1.eqv s = true → q call = true) :
    under (calls.filter q) s = under calls s := by
  rw [under, under, List.filter_filter]
  congr 1
  refine List.filter_congr fun call member => ?_
  cases same : call.1.eqv s with
  | false => rw [Bool.false_and]
  | true => rw [kept call member same, Bool.true_and]

section Hashable

variable (hashable : ∀ call ∈ calls, call.1.filter.IsHashable)

include hashable

theorem hashable_of_opened (member : s ∈ opened calls) : s.filter.IsHashable := by
  obtain ⟨call, inCalls, rfl⟩ := exists_call_of_opened member
  exact hashable call inCalls

/-- The scopes of calls are those that they open. -/
theorem exists_opened_iff (t : Scope) :
    (∃ s ∈ opened calls, s.eqv t = true) ↔ ∃ call ∈ calls, call.1.eqv t = true := by
  induction calls with
  | nil => simp [opened]
  | cons first calls ih =>
    obtain ⟨here, rest⟩ := List.forall_mem_cons.mp hashable
    rw [List.exists_mem_cons_iff, ← ih rest, opened, List.exists_mem_cons_iff]
    constructor
    · rintro (same | ⟨s, member, same⟩)
      · exact .inl same
      · exact .inr ⟨s, List.mem_of_mem_filter member, same⟩
    · rintro (same | ⟨s, member, same⟩)
      · exact .inl same
      · cases known : first.1.eqv s with
        | true => exact .inl (Scope.eqv_trans here (hashable_of_opened rest member) known same)
        | false => exact .inr ⟨s, List.mem_filter.mpr ⟨member, by simp [known]⟩, same⟩

/-- A call opens its scope if there was no call with an equal one. -/
theorem opened_concat (call : Call) :
    opened (calls ++ [call]) =
      opened calls ++ if ∃ c ∈ calls, c.1.eqv call.1 = true then [] else [call.1] := by
  induction calls with
  | nil => simp [opened]
  | cons first calls ih =>
    obtain ⟨here, rest⟩ := List.forall_mem_cons.mp hashable
    rw [List.cons_append, opened, opened, ih rest, List.filter_append, List.cons_append]
    simp only [List.exists_mem_cons_iff]
    cases same : first.1.eqv call.1 with
    | true => split <;> simp [same]
    | false => split <;> simp [*]

end Hashable

section Groups

variable {first : Call}

/-- The calls with a property come first if none with it comes after one without it. -/
theorem pairwise_iff_eq_append {q : Call → Bool} :
    calls.Pairwise (fun y z => q z = true → q y = true) ↔
      calls = calls.filter q ++ calls.filter fun call => !q call := by
  constructor
  · intro ordered
    induction ordered with
    | nil => rfl
    | @cons y calls head _ ih =>
      cases here : q y with
      | true => simpa [here] using ih
      | false =>
        have none' : ∀ z ∈ calls, q z = false := fun z member =>
          Bool.eq_false_iff.mpr fun holds => Bool.false_ne_true (here.symm.trans (head z member holds))
        have left : calls.filter q = [] :=
          List.filter_eq_nil_iff.mpr fun z member => by simp [none' z member]
        have right : (calls.filter fun call => !q call) = calls :=
          List.filter_eq_self.mpr fun z member => by simp [none' z member]
        simp [here, left, right]
  · intro split
    rw [split, List.pairwise_append]
    refine ⟨List.pairwise_of_forall_mem_list ?_, List.pairwise_of_forall_mem_list ?_, ?_⟩
    · exact fun y inY z _ _ => List.of_mem_filter inY
    · intro y _ z inZ holds
      have not := List.of_mem_filter inZ
      simp [holds] at not
    · exact fun y inY z _ _ => List.of_mem_filter inY

theorem named_append (calls later : List Call) : named (calls ++ later) = named calls ++ named later :=
  List.flatMap_append

/-- The calls with the scope of the first come first, and the others are grouped as they would be
without them. -/
theorem grouped_cons (isKey : ∀ call ∈ first :: calls, call.1.filter.IsKey) :
    grouped (first :: calls) =
      named (first :: calls.filter fun call => first.1.eqv call.1) ++
        grouped (calls.filter fun call => !first.1.eqv call.1) := by
  obtain ⟨here, rest⟩ := List.forall_mem_cons.mp isKey
  have others : opened (first :: calls) =
      first.1 :: opened (calls.filter fun call => !first.1.eqv call.1) := by
    rw [opened, opened_filter fun x inX y inY same => ?_]
    have keys := (Scope.eqv_iff (rest x inX) y.1).mp same
    congr 1
    rw [Bool.eq_iff_iff, Scope.eqv_iff here, Scope.eqv_iff here, keys]
  have own : under (first :: calls) first.1 =
      first.2 ++ (calls.filter fun call => first.1.eqv call.1).flatMap Prod.snd := by
    rw [under, List.filter_cons, if_pos (Scope.eqv_self here), List.flatMap_cons]
    congr 2
    refine List.filter_congr fun call member => ?_
    rw [Bool.eq_iff_iff, Scope.eqv_iff here, Scope.eqv_iff (rest call member), eq_comm]
  have other {s : Scope} (member : s ∈ opened (calls.filter fun call => !first.1.eqv call.1)) :
      under (first :: calls) s = under (calls.filter fun call => !first.1.eqv call.1) s := by
    obtain ⟨call, inOther, rfl⟩ := exists_call_of_opened member
    obtain ⟨inCalls, differs⟩ := List.mem_filter.mp inOther
    have apart : first.1.eqv call.1 = false := by simpa using differs
    rw [under_filter fun c inCalls' same => ?_, under, List.filter_cons, if_neg (by simp [apart]),
      under]
    rw [Bool.not_eq_true', ← apart, Bool.eq_iff_iff, Scope.eqv_iff here, Scope.eqv_iff here,
      (Scope.eqv_iff (rest c inCalls') call.1).mp same]
  have groups : ((opened (calls.filter fun call => !first.1.eqv call.1)).flatMap fun s =>
      (under (first :: calls) s).map Capability.name) =
        grouped (calls.filter fun call => !first.1.eqv call.1) :=
    List.flatMap_congr fun s member => by rw [other member]
  rw [grouped, others, List.flatMap_cons, own, groups, List.map_append, List.map_flatMap]
  rfl

/-- The induction is on how many calls there are: those with the scope of the first one go first. -/
theorem grouped_perm_named : ∀ calls : List Call, (∀ call ∈ calls, call.1.filter.IsKey) →
    (grouped calls).Perm (named calls)
  | [], _ => .nil
  | first :: calls, isKey => by
    have rest : ∀ call ∈ calls.filter fun call => !first.1.eqv call.1, call.1.filter.IsKey :=
      fun call member => isKey call (List.mem_cons_of_mem first (List.mem_of_mem_filter member))
    have later := grouped_perm_named _ rest
    rw [grouped_cons isKey]
    refine (later.append_left _).trans ?_
    rw [← named_append, List.cons_append]
    exact ((List.filter_append_perm _ calls).cons first).flatMap_right _
termination_by calls => calls.length
decreasing_by exact Nat.lt_succ_of_le (List.length_filter_le _ _)

/-- In the order of the calls the groups follow each other if no scope is taken up again. -/
theorem grouped_of_uninterrupted : ∀ calls : List Call, (∀ call ∈ calls, call.1.filter.IsKey) →
    Uninterrupted calls → grouped calls = named calls
  | [], _, _ => rfl
  | first :: calls, isKey, uninterrupted => by
    have rest : ∀ call ∈ calls.filter fun call => !first.1.eqv call.1, call.1.filter.IsKey :=
      fun call member => isKey call (List.mem_cons_of_mem first (List.mem_of_mem_filter member))
    obtain ⟨head, tail⟩ := List.triplewise_cons.mp uninterrupted
    have split := pairwise_iff_eq_append (q := fun call => first.1.eqv call.1).mp head
    rw [split] at tail
    have later := grouped_of_uninterrupted _ rest (List.triplewise_append.mp tail).2.1
    rw [grouped_cons isKey, later, ← named_append, List.cons_append, ← split]
termination_by calls => calls.length
decreasing_by exact Nat.lt_succ_of_le (List.length_filter_le _ _)

/-- A call that comes later cannot have its names first. -/
theorem pairwise_of_prefix {q : Call → Bool} (filled : ∀ call ∈ calls, call.2 ≠ [])
    (differ : (named calls).Nodup) (first : named (calls.filter q) <+: named calls) :
    calls.Pairwise fun y z => q z = true → q y = true := by
  induction calls with
  | nil => exact .nil
  | cons y calls ih =>
    have split : named (y :: calls) = y.2.map Capability.name ++ named calls := List.flatMap_cons
    rw [split] at differ first
    obtain ⟨-, later, apart⟩ := List.nodup_append.mp differ
    cases here : q y with
    | true =>
      rw [List.filter_cons_of_pos here, named, List.flatMap_cons,
        List.prefix_append_right_inj] at first
      exact .cons (fun z _ _ => here) (ih (List.forall_mem_cons.mp filled).2 later first)
    | false =>
      have none' : (y :: calls).filter q = [] := by
        rw [List.filter_cons_of_neg (by simp [here])] at first ⊢
        refine List.eq_nil_iff_forall_not_mem.mpr fun z inFilter => ?_
        obtain ⟨f, more, kept⟩ := List.exists_cons_of_ne_nil (List.ne_nil_of_mem inFilter)
        have inCalls : f ∈ calls := List.mem_of_mem_filter (kept ▸ List.mem_cons_self)
        obtain ⟨c, cs, fillF⟩ := List.exists_cons_of_ne_nil (filled f (List.mem_cons_of_mem y inCalls))
        obtain ⟨d, ds, fillY⟩ := List.exists_cons_of_ne_nil (filled y List.mem_cons_self)
        rw [kept, named, List.flatMap_cons, fillF, fillY, List.map_cons, List.map_cons,
          List.cons_append, List.cons_append, List.cons_prefix_cons] at first
        have inLater : c.name ∈ named calls :=
          List.mem_flatMap.mpr ⟨f, inCalls, by simp [fillF]⟩
        exact apart d.name (by simp [fillY]) c.name inLater first.1.symm
      exact List.pairwise_of_forall_mem_list fun _ _ z inZ holds =>
        absurd holds (List.filter_eq_nil_iff.mp none' z inZ)

/-- Calls with one scope may come before calls with other ones. -/
theorem uninterrupted_append {own others : List Call} (here : s.filter.IsHashable)
    (hashable : ∀ x ∈ own, x.1.filter.IsHashable) (same : ∀ x ∈ own, s.eqv x.1 = true)
    (differ : ∀ z ∈ others, s.eqv z.1 = false) (later : Uninterrupted others) :
    Uninterrupted (own ++ others) := by
  have apart {x z : Call} (inX : x ∈ own) (inZ : z ∈ others) : ¬ x.1.eqv z.1 = true := by
    intro equal
    have toZ := Scope.eqv_trans here (hashable x inX) (same x inX) equal
    exact Bool.false_ne_true ((differ z inZ).symm.trans toZ)
  refine List.triplewise_append.mpr ⟨?_, later, fun x inX => ?_, fun z inZ => ?_⟩
  · refine List.triplewise_iff_getElem.mpr fun i j k _ _ _ _ => ?_
    have inX : own[i] ∈ own := List.getElem_mem (by omega)
    have inY : own[j] ∈ own := List.getElem_mem (by omega)
    have back := Scope.eqv_symm here (hashable _ inX) (same _ inX)
    exact Scope.eqv_trans (hashable _ inX) here back (same _ inY)
  · exact List.pairwise_of_forall_mem_list fun y _ z inZ equal => absurd equal (apart inX inZ)
  · exact List.pairwise_of_forall_mem_list fun x inX y _ equal => absurd equal (apart inX inZ)

/-- If every call has names and no name comes twice, only then. -/
theorem uninterrupted_of_grouped : ∀ calls : List Call, (∀ call ∈ calls, call.1.filter.IsKey) →
    (∀ call ∈ calls, call.2 ≠ []) → (named calls).Nodup → grouped calls = named calls →
      Uninterrupted calls
  | [], _, _, _, _ => .nil
  | first :: calls, isKey, filled, differ, same => by
    let own := calls.filter fun call => first.1.eqv call.1
    let others := calls.filter fun call => !first.1.eqv call.1
    have key {call : Call} (member : call ∈ calls) : call.1.filter.IsHashable :=
      (isKey call (List.mem_cons_of_mem first member)).isHashable
    have inOwn : ∀ call ∈ own, call ∈ calls ∧ first.1.eqv call.1 = true :=
      fun call member => List.mem_filter.mp member
    have inOthers : ∀ call ∈ others, call ∈ calls ∧ first.1.eqv call.1 = false := by
      intro call member
      simpa [others] using member
    rw [grouped_cons isKey] at same
    replace same : named own ++ grouped others = named calls := by
      rw [named, List.flatMap_cons, named, List.flatMap_cons, List.append_assoc] at same
      exact List.append_cancel_left same
    have differ' : (named calls).Nodup := by
      rw [named, List.flatMap_cons] at differ
      exact (List.nodup_append.mp differ).2.1
    have head := pairwise_of_prefix (List.forall_mem_cons.mp filled).2 differ' ⟨_, same⟩
    have split : calls = own ++ others := pairwise_iff_eq_append.mp head
    have later : Uninterrupted others := by
      refine uninterrupted_of_grouped others (fun call member => ?_) (fun call member => ?_) ?_ ?_
      · exact isKey call (List.mem_cons_of_mem first (inOthers call member).1)
      · exact filled call (List.mem_cons_of_mem first (inOthers call member).1)
      · rw [split, named_append] at differ'
        exact (List.nodup_append.mp differ').2.1
      · rw [split, named_append] at same
        exact List.append_cancel_left same
    refine List.triplewise_cons.mpr ⟨head, ?_⟩
    rw [split]
    exact uninterrupted_append (isKey first List.mem_cons_self).isHashable
      (fun call member => key (inOwn call member).1) (fun call member => (inOwn call member).2)
      (fun call member => (inOthers call member).2) later
termination_by calls => calls.length
decreasing_by exact Nat.lt_succ_of_le (List.length_filter_le _ _)

end Groups

end ServiceDiagram.Registry

import ServiceDiagram.Proofs.Number.Order
import ServiceDiagram.Registry.Error

namespace ServiceDiagram

/-- Numbers are equal exactly if they have one place on the line. -/
theorem Number.eqv_iff (a b : Number) : a.eqv b = true ↔ a.place? = b.place? ∧ a.place?.isSome := by
  rw [Number.eqv, Bool.and_eq_true, Number.le_iff, Number.le_iff, Option.isSome_iff_exists]
  constructor
  · rintro ⟨⟨x, atX, y, atY, le⟩, ⟨y', atY', x', atX', ge⟩⟩
    have sameX := Option.mem_unique atX' atX
    have sameY := Option.mem_unique atY' atY
    subst sameX sameY
    have same := le_antisymm le ge
    exact ⟨(Option.mem_def.mp atX).trans (same ▸ (Option.mem_def.mp atY).symm), x', atX⟩
  · rintro ⟨same, x, atX⟩
    have atY : x ∈ b.place? := same ▸ atX
    exact ⟨⟨x, atX, x, atY, le_rfl⟩, ⟨x, atY, x, atX, le_rfl⟩⟩

namespace Value

/-- What a value means as part of a key. Points in time are told by their clocks, or by the
instant if their distance from universal time is known. -/
inductive Meaning where
  | null
  | place (x : Number.Line)
  | text (s : String)
  | date (d : Date)
  | time (isInstant : Bool) (micros : Int)

def timeMeaning (t : DateTime) : Meaning :=
  .time t.offset?.isSome (t.localMicros - (t.offset?.map Offset.micros).getD 0)

/-- The meaning of a value; none if it cannot be part of a key or does not equal itself. -/
def meaning? : Value → Option Meaning
  | null => some .null
  | bool b => (Number.int (if b then 1 else 0)).place?.map .place
  | number n => n.place?.map .place
  | text s => some (.text s)
  | date d => some (.date d)
  | dateTime t => some (timeMeaning t)
  | list _ => none
  | record _ => none
  | foreign => none

theorem place_injective : Function.Injective (Option.map Meaning.place) :=
  Option.map_injective fun _ _ same => Meaning.place.inj same

/-- Points in time are the same exactly if they mean the same. -/
theorem sameTime_iff (a b : DateTime) : a.sameTime b = true ↔ timeMeaning a = timeMeaning b := by
  unfold DateTime.sameTime timeMeaning
  cases a.offset? <;> cases b.offset? <;> simp

theorem eqv_number (n : Number) (w : Value) :
    (number n).eqv w = true ↔ (number n).meaning? = w.meaning? ∧ (number n).meaning?.isSome := by
  have known (k : Number) : n.eqv k = true ↔
      n.place?.map Meaning.place = k.place?.map Meaning.place ∧
        (n.place?.map Meaning.place).isSome := by
    rw [Number.eqv_iff, place_injective.eq_iff, Option.isSome_map]
  cases w with
  | bool b => exact known _
  | number k => exact known k
  | null | text _ | date _ | dateTime _ =>
    cases place : n.place? <;> simp [eqv, number?, meaning?, timeMeaning, place]
  | list _ | record _ | foreign => simp [eqv, number?, meaning?]

/-- Values that can be part of a key are equal exactly if their meanings are. -/
theorem eqv_iff {v : Value} (key : v.isKey = true) (w : Value) :
    v.eqv w = true ↔ v.meaning? = w.meaning? ∧ v.meaning?.isSome := by
  cases v with
  | number n => exact eqv_number n w
  | bool b =>
    have same : (bool b).eqv w = (number (.int (if b then 1 else 0))).eqv w := by
      cases w <;> rfl
    rw [same]
    exact eqv_number _ w
  | null => cases w <;> simp [eqv, meaning?, timeMeaning]
  | text s => cases w <;> simp [eqv, meaning?, timeMeaning]
  | date d => cases w <;> simp [eqv, meaning?, timeMeaning]
  | dateTime t => cases w <;> simp [eqv, meaning?, timeMeaning, sameTime_iff]
  | foreign => cases w <;> simp [eqv, meaning?]
  | list _ => cases key
  | record _ => cases key

end Value

namespace Value

variable {v w x : Value}

/-- What can be part of a key need not equal itself, but equality goes both ways and on. -/
theorem eqv_symm (keyV : v.isKey = true) (keyW : w.isKey = true) (same : v.eqv w = true) :
    w.eqv v = true := by
  obtain ⟨means, meant⟩ := (eqv_iff keyV w).mp same
  exact (eqv_iff keyW v).mpr ⟨means.symm, means ▸ meant⟩

theorem eqv_trans (keyV : v.isKey = true) (keyW : w.isKey = true) (same : v.eqv w = true)
    (same' : w.eqv x = true) : v.eqv x = true := by
  obtain ⟨means, meant⟩ := (eqv_iff keyV w).mp same
  obtain ⟨means', -⟩ := (eqv_iff keyW x).mp same'
  exact (eqv_iff keyV x).mpr ⟨means.trans means', meant⟩

end Value

theorem Node.isKey_value? {n : Node} {name : String} {v : Value} (has : n.value? name = some v) :
    v.isKey = true := by
  have optional (s : Option String) : (Node.optionalValue s).isKey = true := by cases s <;> rfl
  have bound (k : Option Number) : (Node.boundValue k).isKey = true := by cases k <;> rfl
  unfold Node.value? at has
  split at has <;> cases has <;> first | rfl | exact optional _ | exact bound _

namespace NodeFilter

/-- The values that a filter expects can be part of a key and equal themselves. -/
def IsKey (f : NodeFilter) : Prop :=
  ∀ c ∈ f.criteria, c.2.isKey = true ∧ c.2.eqv c.2 = true

/-- What a filter asks of nodes: attributes and the meanings of their values. -/
def demands (f : NodeFilter) : List (String × Option Value.Meaning) :=
  f.criteria.map fun c => (c.1, c.2.meaning?)

/-- Demands are the same exactly if they have the same names and values of one meaning. -/
theorem sameCriteria_iff {xs : List Criterion}
    (areKeys : ∀ c ∈ xs, c.2.isKey = true ∧ c.2.eqv c.2 = true) (ys : List Criterion) :
    sameCriteria xs ys = true ↔
      xs.map (fun c => (c.1, c.2.meaning?)) = ys.map fun c => (c.1, c.2.meaning?) := by
  induction xs generalizing ys with
  | nil => cases ys <;> simp [sameCriteria]
  | cons x xs ih =>
    cases ys with
    | nil => simp [sameCriteria]
    | cons y ys =>
      obtain ⟨isKey, reflexive⟩ := areKeys x List.mem_cons_self
      have means := ((Value.eqv_iff isKey x.2).mp reflexive).2
      have later := ih (fun c member => areKeys c (List.mem_cons_of_mem x member)) ys
      simp only [sameCriteria, Bool.and_eq_true, beq_iff_eq, Value.eqv_iff isKey, means, and_true,
        later, List.map_cons, List.cons.injEq, Prod.mk.injEq]

theorem eqv_iff {f : NodeFilter} (isKey : f.IsKey) (g : NodeFilter) :
    f.eqv g = true ↔ f.demands = g.demands := sameCriteria_iff isKey g.criteria

/-- The values that a filter expects can be part of a key. -/
def IsHashable (f : NodeFilter) : Prop := ∀ c ∈ f.criteria, c.2.isKey = true

theorem IsKey.isHashable {f : NodeFilter} (isKey : f.IsKey) : f.IsHashable :=
  fun c member => (isKey c member).1

/-- A filter is refused for a value without a hash exactly if it has one. -/
theorem isHashable_iff (f : NodeFilter) : f.unhashable? = none ↔ f.IsHashable := by
  simp [unhashable?, IsHashable]

theorem sameCriteria_symm {xs ys : List Criterion} (keysX : ∀ c ∈ xs, c.2.isKey = true)
    (keysY : ∀ c ∈ ys, c.2.isKey = true) (same : sameCriteria xs ys = true) :
    sameCriteria ys xs = true := by
  induction xs generalizing ys with
  | nil => cases ys with
    | nil => rfl
    | cons y ys => cases same
  | cons x xs ih => cases ys with
    | nil => cases same
    | cons y ys =>
      obtain ⟨keyX, keysX⟩ := List.forall_mem_cons.mp keysX
      obtain ⟨keyY, keysY⟩ := List.forall_mem_cons.mp keysY
      simp only [sameCriteria, Bool.and_eq_true, beq_iff_eq] at same ⊢
      obtain ⟨⟨name, value⟩, rest⟩ := same
      exact ⟨⟨name.symm, Value.eqv_symm keyX keyY value⟩, ih keysX keysY rest⟩

theorem sameCriteria_trans {xs ys zs : List Criterion} (keysX : ∀ c ∈ xs, c.2.isKey = true)
    (keysY : ∀ c ∈ ys, c.2.isKey = true) (same : sameCriteria xs ys = true)
    (same' : sameCriteria ys zs = true) : sameCriteria xs zs = true := by
  induction xs generalizing ys zs with
  | nil => cases ys with
    | nil => exact same'
    | cons y ys => cases same
  | cons x xs ih => cases ys with
    | nil => cases same
    | cons y ys => cases zs with
      | nil => cases same'
      | cons z zs =>
        obtain ⟨keyX, keysX⟩ := List.forall_mem_cons.mp keysX
        obtain ⟨keyY, keysY⟩ := List.forall_mem_cons.mp keysY
        simp only [sameCriteria, Bool.and_eq_true, beq_iff_eq] at same same' ⊢
        obtain ⟨⟨name, value⟩, rest⟩ := same
        obtain ⟨⟨name', value'⟩, rest'⟩ := same'
        exact ⟨⟨name.trans name', Value.eqv_trans keyX keyY value value'⟩,
          ih keysX keysY rest rest'⟩

/-- A node passes exactly if it has a value of the meaning that is demanded, for every demand. -/
theorem passes_iff (f : NodeFilter) (n : Node) :
    f.passes n = true ↔
      ∀ d ∈ f.demands, ∃ v ∈ n.value? d.1, v.meaning? = d.2 ∧ v.meaning?.isSome := by
  simp only [passes, List.all_eq_true, demands, List.forall_mem_map]
  refine forall₂_congr fun c _ => ?_
  cases has : n.value? c.1 with
  | none => simp
  | some v => simpa using Value.eqv_iff (Node.isKey_value? has) c.2

end NodeFilter

namespace Scope

/-- A scope as a key in the strict sense. -/
def key (s : Scope) : NodeKind × List (String × Option Value.Meaning) := (s.kind, s.filter.demands)

theorem eqv_iff {s : Scope} (isKey : s.filter.IsKey) (t : Scope) :
    s.eqv t = true ↔ s.key = t.key := by
  rw [eqv, Bool.and_eq_true, beq_iff_eq, NodeFilter.eqv_iff isKey, key, key, Prod.mk.injEq]

variable {s t u : Scope}

theorem eqv_symm (keysS : s.filter.IsHashable) (keysT : t.filter.IsHashable)
    (same : s.eqv t = true) : t.eqv s = true := by
  simp only [eqv, Bool.and_eq_true, beq_iff_eq] at same ⊢
  exact ⟨same.1.symm, NodeFilter.sameCriteria_symm keysS keysT same.2⟩

theorem eqv_trans (keysS : s.filter.IsHashable) (keysT : t.filter.IsHashable)
    (same : s.eqv t = true) (same' : t.eqv u = true) : s.eqv u = true := by
  simp only [eqv, Bool.and_eq_true, beq_iff_eq] at same same' ⊢
  exact ⟨same.1.trans same'.1, NodeFilter.sameCriteria_trans keysS keysT same.2 same'.2⟩

/-- A scope whose values equal themselves equals itself. -/
theorem eqv_self (isKey : s.filter.IsKey) : s.eqv s = true := (eqv_iff isKey s).mpr rfl

/-- A scope takes in a node of a kind. -/
def Covers (s : Scope) (kind : NodeKind) (n : Node) : Prop :=
  s.kind = kind ∧ s.filter.passes n = true

/-- Scopes with one key cover the same nodes. -/
theorem covers_congr {s t : Scope} (same : s.key = t.key) (kind : NodeKind) (n : Node) :
    s.Covers kind n ↔ t.Covers kind n := by
  obtain ⟨kinds, demands⟩ := Prod.mk.inj same
  rw [Covers, Covers, NodeFilter.passes_iff, NodeFilter.passes_iff, kinds, demands]

variable {kind : NodeKind} {n : Node}

instance decidableCovers (s : Scope) (kind : NodeKind) (n : Node) : Decidable (s.Covers kind n) := by
  unfold Covers; infer_instance

/-- What a node has to equal equals itself. -/
theorem Covers.isKey (covers : s.Covers kind n) (hashable : s.filter.IsHashable) :
    s.filter.IsKey := by
  intro c member
  have equal := List.all_eq_true.mp covers.2 c member
  cases has : n.value? c.1 with
  | none => simp [has] at equal
  | some v =>
    have same : v.eqv c.2 = true := by simpa [has] using equal
    have keyV := Node.isKey_value? has
    have keyC := hashable c member
    exact ⟨keyC, Value.eqv_trans keyC keyV (Value.eqv_symm keyV keyC same) same⟩

theorem covers_iff_of_eqv (hashable : s.filter.IsHashable) (hashable' : t.filter.IsHashable)
    (same : s.eqv t = true) : s.Covers kind n ↔ t.Covers kind n := by
  have alike {s t : Scope} (hashable : s.filter.IsHashable) (same : s.eqv t = true)
      (covers : s.Covers kind n) : t.Covers kind n :=
    (covers_congr ((eqv_iff (covers.isKey hashable) t).mp same) kind n).mp covers
  exact ⟨alike hashable same, alike hashable' (eqv_symm hashable hashable' same)⟩

end Scope
end ServiceDiagram

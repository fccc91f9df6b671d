import ServiceDiagram.Proofs.Rule.Unsupported
import ServiceDiagram.Proofs.Types.Passing

namespace ServiceDiagram

/-- Values that are of a kind but have nothing in them that is compared with a bound. -/
inductive Unmeasured : String → Value → Prop
  | record (entries : List (String × Value)) : Unmeasured "object" (.record entries)
  | date (d : Date) : Unmeasured "date" (.date d)
  | dateTime (t : DateTime) : Unmeasured "date" (.dateTime t)

/-- Why the rule of a parameter of a type gives no verdict on a value: the lower bound is compared
with what cannot be, or the upper one is because there is no lower one, or the authority of an
address is none. -/
inductive Stops (d : TypeDescriptor) (p : Parameter) : Value → CheckError → Prop
  | lower {v : Value} {low : Number} (unmeasured : Unmeasured d.kind v) (declared : p.hasMin = true)
      (bound : p.min? = some low) :
      Stops d p v (.incomparable ">=" v.qualifiedTypeName (Value.number low).typeName)
  | upper {v : Value} {high : Number} (unmeasured : Unmeasured d.kind v)
      (noLower : p.hasMin = false) (declared : p.hasMax = true) (bound : p.max? = some high) :
      Stops d p v (.incomparable "<=" v.qualifiedTypeName (Value.number high).typeName)
  | address {s : String} {e : Uri.AuthorityError} (isAddress : d.addOn = some ".uri()")
      (none : Uri.accepts s = .error e) : Stops d p (.text s) (.authority e)

namespace Rule

variable {r : Rule} {v : Value} {p : Parameter}

/-- The kinds of the types that are known from the start. -/
def typeKinds : List String := ["string", "number", "boolean", "date", "object"]

/-- The values of a kind that have no size. -/
theorem unmeasured_iff {kind : String} (isKind : kind ∈ typeKinds) (sameKind : r.kind = kind) :
    Unmeasured kind v ↔ r.matchesKind v = .ok true ∧ measure? v = none := by
  constructor
  · intro unmeasured
    cases unmeasured <;> exact ⟨by simp only [matchesKind, sameKind, isDateLike], rfl⟩
  · rintro ⟨ofKind, noSize⟩
    simp only [typeKinds, List.mem_cons, List.not_mem_nil, or_false] at isKind
    rcases isKind with rfl | rfl | rfl | rfl | rfl <;>
      simp only [matchesKind, sameKind] at ofKind
    · cases v with
      | text s => cases noSize
      | _ => cases ofKind
    · cases v with
      | number n => cases noSize
      | _ => cases ofKind
    · cases v with
      | bool b => cases noSize
      | _ => cases ofKind
    · cases v with
      | date d => exact .date d
      | dateTime t => exact .dateTime t
      | text s => cases noSize
      | _ => cases ofKind
    · cases v with
      | record entries => exact .record entries
      | _ => cases ofKind

/-- The clauses after those of the type: the bounds, and whether a value is required. -/
def boundsPart (p : Parameter) : List RuleClause :=
  boundClauses "min" p.hasMin p.min? ++
    (boundClauses "max" p.hasMax p.max? ++ requiredClauses p.isRequired)

/-- With a size, bounds come to a verdict. -/
theorem boundsPart_of_measured {n : Number} (measured : measure? v = some n) :
    ∃ verdict, r.checkClauses v (boundsPart p) = .ok verdict := by
  obtain ⟨verdict, judged, -⟩ := (judges_lower (r := r) measured p.hasMin p.min?).append
    ((judges_upper measured p.hasMax p.max?).append (judges_required p.isRequired))
  exact ⟨verdict, judged⟩

/-- Without one, the first declared bound is the error. -/
theorem boundsPart_error_iff (noSize : measure? v = none) {e : CheckError} :
    r.checkClauses v (boundsPart p) = .error e ↔
      (p.hasMin = true ∧ ∃ low, p.min? = some low ∧
        e = .incomparable ">=" v.qualifiedTypeName (Value.number low).typeName) ∨
      (p.hasMin = false ∧ p.hasMax = true ∧ ∃ high, p.max? = some high ∧
        e = .incomparable "<=" v.qualifiedTypeName (Value.number high).typeName) := by
  obtain ⟨-, hasLower, hasUpper, -⟩ := p.valid
  have required : ∃ verdict, r.checkClauses v (requiredClauses p.isRequired) = .ok verdict :=
    let ⟨verdict, judged, _⟩ := judges_required (r := r) (v := v) p.isRequired
    ⟨verdict, judged⟩
  cases declared : p.hasMin with
  | true =>
    obtain ⟨low, bound⟩ := Option.isSome_iff_exists.mp (hasLower declared)
    have failed : r.checkClauses v (boundsPart p) =
        .error (.incomparable ">=" v.qualifiedTypeName (Value.number low).typeName) := by
      simp [boundsPart, declared, bound, boundClauses, checkClauses, checkClause, checkBound,
        singleNumber, noSize, bind, Except.bind]
    rw [failed, bound, Except.error.injEq]
    simp [@eq_comm _ e]
  | false =>
    cases declaredUpper : p.hasMax with
    | true =>
      obtain ⟨high, bound⟩ := Option.isSome_iff_exists.mp (hasUpper declaredUpper)
      have failed : r.checkClauses v (boundsPart p) =
          .error (.incomparable "<=" v.qualifiedTypeName (Value.number high).typeName) := by
        simp [boundsPart, declared, declaredUpper, bound, boundClauses, checkClauses, checkClause,
          checkBound, singleNumber, noSize, bind, Except.bind]
      rw [failed, bound, Except.error.injEq]
      simp [@eq_comm _ e]
    | false =>
      obtain ⟨verdict, judged⟩ := required
      simp [boundsPart, declared, declaredUpper, boundClauses, judged]

end Rule

open Rule

/-- What the clauses of a type beyond its kind come to for a value of the kind: a verdict, which is
that they accept if there is nothing in the value to measure, or the authority of an address that
is none. -/
inductive TypeDescriptor.Settles (d : TypeDescriptor) (further : List RuleClause) (r : Rule) :
    Value → Prop
  | verdict {v : Value} (verdict : Bool) (judged : r.checkClauses v further = .ok verdict)
      (accepts : measure? v = none → verdict = true)
      (noFault : ∀ s e, d.addOn = some ".uri()" → v = .text s → Uri.accepts s ≠ .error e) :
      Settles d further r v
  | address {s : String} {e : Uri.AuthorityError} (isAddress : d.addOn = some ".uri()")
      (none : Uri.accepts s = .error e)
      (judged : r.checkClauses (.text s) further = .error (.authority e)) :
      Settles d further r (.text s)

/-- A type whose rules are understood: its kind is known, its further clauses read, and they come to
an end on every value of the kind. -/
structure TypeDescriptor.IsUnderstood (d : TypeDescriptor) (further : List RuleClause) : Prop where
  kind : d.kind ∈ typeKinds
  isName : IsName d.kind
  reads : AddOnReads d.addOn further
  isText : d.addOn = some ".uri()" → d.kind = "string"
  settles : ∀ {r : Rule} {v : Value}, r.kind = d.kind → r.matchesKind v = .ok true →
    d.Settles further r v

theorem TypeDescriptor.isUnderstood_object : TypeDescriptor.object.IsUnderstood [] where
  kind := by decide
  isName := isName_of_all rfl rfl rfl
  reads := rfl
  isText := nofun
  settles := fun _ _ => .verdict true rfl (fun _ => rfl) nofun

theorem CatalogEntry.isAddress_iff {e : String × CatalogEntry} (member : e ∈ builtin) :
    e.2.addOn = some ".uri()" ↔ e.2.sampler = .url := by
  have all : builtin.all (fun e => decide (e.2.addOn = some ".uri()" ↔ e.2.sampler = .url)) =
      true := by
    decide
  exact of_decide_eq_true (List.all_eq_true.mp all e member)

theorem Rule.checkClauses_singleton {r : Rule} {v : Value} {c : RuleClause}
    {outcome : Except CheckError Bool} (judged : r.checkClause c v = outcome) :
    r.checkClauses v [c] = outcome := by
  rw [checkClauses, judged]
  cases outcome with
  | error e => rfl
  | ok verdict => cases verdict <;> rfl

namespace TypeDescriptor

variable {d : TypeDescriptor} {further : List RuleClause} {r : Rule} {v : Value} {p : Parameter}

theorem settles_of_sampler {s : Sampler} (isAddress : d.addOn = some ".uri()" ↔ s = .url)
    (sameKind : r.kind = s.kind) (ofKind : r.matchesKind v = .ok true) :
    d.Settles s.clauses r v := by
  have noFault (other : s ≠ .url) :
      ∀ t e, d.addOn = some ".uri()" → v = .text t → Uri.accepts t ≠ .error e :=
    fun _ _ address => absurd (isAddress.mp address) other
  have isText (text : s.kind = "string") : ∃ t, v = .text t := by
    simp only [matchesKind, sameKind, text] at ofKind
    cases v with
    | text t => exact ⟨t, rfl⟩
    | _ => cases ofKind
  -- A clause that gives a verdict on every value, on values that have something to measure.
  have judged {c : RuleClause} {b : Bool} (clauses : s.clauses = [c]) (other : s ≠ .url)
      (verdict : r.checkClause c v = .ok b) (accepts : measure? v = none → b = true) :
      d.Settles s.clauses r v :=
    .verdict b (clauses ▸ checkClauses_singleton verdict) accepts (noFault other)
  have measured (text : s.kind = "string") (b : Bool) : measure? v = none → b = true := by
    obtain ⟨t, rfl⟩ := isText text
    intro noSize
    cases noSize
  cases s with
  | word | sentence | password | number | boolean | date =>
    exact .verdict true rfl (fun _ => rfl) (noFault (by decide))
  | integer =>
    refine judged rfl (by decide) rfl fun noSize => ?_
    simp only [matchesKind, sameKind, Sampler.kind] at ofKind
    cases v with
    | number n => cases noSize
    | _ => cases ofKind
  | dateTime =>
    refine judged rfl (by decide) rfl fun _ => ?_
    simp only [matchesKind, sameKind, Sampler.kind] at ofKind
    exact Except.ok.inj ofKind
  | email => exact judged rfl (by decide) rfl (measured rfl _)
  | uuid => exact judged rfl (by decide) rfl (measured rfl _)
  | phone => exact judged rfl (by decide) rfl (measured rfl _)
  | url =>
    obtain ⟨t, rfl⟩ := isText rfl
    have clause : r.checkClauses (.text t) Sampler.url.clauses =
        (Uri.accepts t).mapError .authority := checkClauses_singleton rfl
    cases accepted : Uri.accepts t with
    | error e =>
      rw [accepted] at clause
      exact .address (isAddress.mpr rfl) accepted clause
    | ok verdict =>
      rw [accepted] at clause
      refine .verdict verdict clause (fun noSize => by cases noSize) fun t' e _ same failed => ?_
      cases same
      cases accepted.symm.trans failed

theorem isUnderstood_of_entry {seed : Nat} {name : String} {entry : CatalogEntry}
    (isEntry : Catalog.IsEntry seed name entry d) : d.IsUnderstood entry.sampler.clauses := by
  obtain ⟨isName, reads⟩ := CatalogEntry.reads isEntry.listed
  have kind : d.kind = entry.sampler.kind :=
    isEntry.kind.trans (CatalogEntry.kind_eq isEntry.listed)
  have isAddress : d.addOn = some ".uri()" ↔ entry.sampler = .url :=
    isEntry.addOn ▸ CatalogEntry.isAddress_iff isEntry.listed
  refine ⟨?_, isEntry.kind ▸ isName, isEntry.addOn ▸ reads, fun address => ?_, fun same ofKind =>
    settles_of_sampler isAddress (same.trans kind) ofKind⟩
  · rw [kind]
    cases entry.sampler <;> decide
  · rw [kind, isAddress.mp address]
    rfl

/-- Every type that resolves is one whose rule is understood. -/
theorem exists_isUnderstood {seed : Nat} {t : TypeRef}
    (resolved : (Catalog.builtin seed).resolve? t = some d) : ∃ further, d.IsUnderstood further := by
  rcases Catalog.resolve?_builtin resolved with rfl | ⟨entry, isEntry⟩
  · exact ⟨_, isUnderstood_object⟩
  · exact ⟨_, isUnderstood_of_entry isEntry⟩

end TypeDescriptor

/-- What leaves a value without a verdict is of the kind of the rule. -/
theorem Stops.ofKind {d : TypeDescriptor} {further : List RuleClause} {p : Parameter} {r : Rule}
    {v : Value} {e : CheckError} (stops : Stops d p v e) (understood : d.IsUnderstood further)
    (sameKind : r.kind = d.kind) : r.matchesKind v = .ok true := by
  cases stops with
  | lower unmeasured => exact ((unmeasured_iff understood.kind sameKind).mp unmeasured).1
  | upper unmeasured => exact ((unmeasured_iff understood.kind sameKind).mp unmeasured).1
  | address isAddress => simp only [matchesKind, sameKind, understood.isText isAddress]

namespace Rule

variable {d : TypeDescriptor} {further : List RuleClause} {r : Rule} {v : Value} {p : Parameter}

/-- Judging a value fails exactly if something stops it, and with that. -/
theorem check_error_iff (understood : d.IsUnderstood further)
    (clauses : r.clauses = ruleClauses p d.kind further) (v : Value) (e : CheckError) :
    r.check v = .error e ↔ Stops d p v e := by
  have sameKind : r.kind = d.kind := kind_of_clauses clauses
  have known : r.kind ∈ knownKinds := by
    have listed : ∀ kind ∈ typeKinds, kind ∈ knownKinds := by decide
    exact sameKind ▸ listed _ understood.kind
  obtain ⟨ofKind, matched, judged⟩ := check_of_ofKind (v := v) known
  rw [judged, clauses]
  cases ofKind with
  | false =>
    refine ⟨nofun, fun stops => ?_⟩
    rw [stops.ofKind understood sameKind] at matched
    cases matched
  | true =>
    have noSize (unmeasured : Unmeasured d.kind v) : measure? v = none :=
      ((unmeasured_iff understood.kind sameKind).mp unmeasured).2
    rw [if_pos rfl, ruleClauses, List.tail_cons, checkClauses_append]
    cases understood.settles sameKind matched with
    | address isAddress none part =>
      rw [part]
      constructor
      · intro failed
        cases failed
        exact .address isAddress none
      · intro stops
        cases stops with
        | lower unmeasured => cases noSize unmeasured
        | upper unmeasured => cases noSize unmeasured
        | address _ none' =>
          cases none.symm.trans none'
          rfl
    | verdict verdict part accepts noFault =>
      rw [part]
      cases size : measure? v with
      | some n =>
        obtain ⟨later, bounds⟩ := boundsPart_of_measured (r := r) (p := p) size
        change (if verdict = true then r.checkClauses v (boundsPart p) else _) = _ ↔ _
        rw [bounds]
        constructor
        · intro failed
          cases verdict <;> cases failed
        · intro stops
          cases stops with
          | lower unmeasured => cases size.symm.trans (noSize unmeasured)
          | upper unmeasured => cases size.symm.trans (noSize unmeasured)
          | address isAddress none => exact absurd none (noFault _ _ isAddress rfl)
      | none =>
        obtain rfl := accepts size
        have unmeasured : Unmeasured d.kind v := 
          (unmeasured_iff understood.kind sameKind).mpr ⟨matched, size⟩
        refine (boundsPart_error_iff (r := r) (p := p) size).trans ⟨?_, fun stops => ?_⟩
        · rintro (⟨declared, low, bound, rfl⟩ | ⟨noLower, declared, high, bound, rfl⟩)
          · exact .lower unmeasured declared bound
          · exact .upper unmeasured noLower declared bound
        · cases stops with
          | lower _ declared bound => exact .inl ⟨declared, _, bound, rfl⟩
          | upper _ noLower declared bound => exact .inr ⟨noLower, declared, _, bound, rfl⟩
          | address => cases size

end Rule
/-- The rule of a parameter whose type is known from the start is read, and what it gives no verdict
on is what stops it. -/
theorem Catalog.exists_rule {seed : Nat} {p : Parameter} {d : TypeDescriptor} {root : String}
    (resolved : (builtin seed).resolve? p.type = some d) (isRoot : IsName root)
    (writable : WritableBounds p) :
    ∃ r, Rule.read (ruleText p d.kind d.addOn root) = .ok r ∧
      ∀ v e, r.check v = .error e ↔ Stops d p v e := by
  obtain ⟨further, understood⟩ := TypeDescriptor.exists_isUnderstood resolved
  obtain ⟨s, text, spells⟩ := spells_ruleText understood.isName understood.reads writable
  obtain ⟨r, read, -, clauses⟩ := spells.read isRoot (List.cons_ne_nil _ _)
  exact ⟨r, text root ▸ read, check_error_iff understood clauses⟩

end ServiceDiagram

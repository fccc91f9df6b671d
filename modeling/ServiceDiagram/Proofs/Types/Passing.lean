import ServiceDiagram.Proofs.Rule.Meaning
import ServiceDiagram.Proofs.Types.Samples

namespace ServiceDiagram

/-- Every entry has the kind that its sampler draws. -/
theorem CatalogEntry.kind_eq {e : String × CatalogEntry} (member : e ∈ builtin) :
    e.2.kind = e.2.sampler.kind := by
  have all : builtin.all (fun e => e.2.kind == e.2.sampler.kind) = true := by decide
  exact beq_iff_eq.mp (List.all_eq_true.mp all e member)

namespace Rule

theorem checkClauses_of_all {r : Rule} {v : Value} {clauses : List RuleClause}
    (all : ∀ c ∈ clauses, r.checkClause c v = .ok true) : r.checkClauses v clauses = .ok true := by
  induction clauses with
  | nil => rfl
  | cons c clauses ih =>
    simp only [checkClauses, all c (.head _), bind, Except.bind, if_true]
    exact ih fun d member => all d (.tail _ member)

/-- What fits a sampler passes every rule of its kind and its clauses without bounds. -/
theorem check_of_fits {r : Rule} {p : Parameter} {s : Sampler} {v : Value} (fits : s.Fits v)
    (noLower : p.hasMin = false) (noUpper : p.hasMax = false)
    (clauses : r.clauses = ruleClauses p s.kind s.clauses) : r.check v = .ok true := by
  have all : ∀ c ∈ r.clauses.tail, r.checkClause c v = .ok true := by
    intro c member
    rw [clauses, ruleClauses, List.tail_cons, noLower, noUpper] at member
    rcases List.mem_append.mp member with further | required
    · exact fits.clauses r c further
    · cases isRequired : p.isRequired with
      | false => simp [boundClauses, requiredClauses, isRequired] at required
      | true =>
        obtain rfl : c = ⟨"required", []⟩ := by
          simpa [boundClauses, requiredClauses, isRequired] using required
        rfl
  simp only [check, fits.kind r (kind_of_clauses clauses), checkClauses_of_all all, bind, Except.bind,
    if_true]

end Rule

/-- A value of a type is written, read back, and accepted by the rule of a parameter, which begins
with a name. -/
def TypeDescriptor.Passes (d : TypeDescriptor) (p : Parameter) (root : String) (v : Value) : Prop :=
  ∃ r text w, Rule.read (ruleText p d.kind d.addOn root) = .ok r ∧ Json.printSorted? v = some text ∧
    Json.read text.toList = .ok w ∧ r.check w = .ok true

namespace Catalog

variable {seed : Nat} {name : String} {entry : CatalogEntry}

/-- A listed name is found. -/
theorem find?_of_listed (listed : (Text.lowercase name, entry) ∈ CatalogEntry.builtin) :
    ∃ d, (builtin seed).find? name = some d ∧ IsEntry seed (Text.lowercase name) entry d := by
  have differ : (CatalogEntry.builtin.map Prod.fst).Nodup := by decide +kernel
  rw [find?_builtin, Table.lookup_of_mem differ listed, Option.bind_some,
    describe_of_isIdentifier (isIdentifier_kind listed)]
  exact ⟨_, rfl, listed, rfl, rfl, rfl⟩

/-- What the sampler of an entry gives is written, read back, and accepted by the rule of any
parameter of the type that declares no bounds. -/
theorem IsEntry.passes {d : TypeDescriptor} (isEntry : IsEntry seed name entry d) {p : Parameter}
    (noLower : p.hasMin = false) (noUpper : p.hasMax = false) {root : String}
    (isRoot : Rule.IsName root) {v : Value} (gives : entry.sampler.Gives v) : d.Passes p root v := by
  obtain ⟨isKind, reads⟩ := CatalogEntry.reads isEntry.listed
  have writable : Rule.WritableBounds p := by
    constructor
    · intro declared
      rw [noLower] at declared
      cases declared
    · intro declared
      rw [noUpper] at declared
      cases declared
  obtain ⟨s, text, spells⟩ := Rule.spells_ruleText isKind reads writable
  obtain ⟨r, read, -, clauses⟩ := spells.read isRoot (List.cons_ne_nil _ _)
  rw [CatalogEntry.kind_eq isEntry.listed] at clauses
  obtain ⟨written, printed, readsAs⟩ := gives.fits.atom.readsAs
  refine ⟨r, written, v, ?_, printed, readsAs.read, ?_⟩
  · rw [isEntry.kind, isEntry.addOn, text, read]
  · exact Rule.check_of_fits gives.fits noLower noUpper clauses

/-- With every seed the catalog of the types that are known from the start is made, and in it every
name of such a type, in whatever case its letters are, finds a type. If the seed can be written, each
of its samples passes the rule of any parameter of the type without declared bounds; if it has too
many digits for that, every call of the generator fails. Whatever else the sampler can give passes
too. -/
theorem samples_pass_iff {number : Int} (natural : 0 ≤ number) {p : Parameter}
    (primitive : p.type.kind = .primitive)
    (listed : (Text.lowercase p.type.name, entry) ∈ CatalogEntry.builtin)
    (noLower : p.hasMin = false) (noUpper : p.hasMax = false) {root : String}
    (isRoot : Rule.IsName root) :
    ∃ c d, make number CatalogEntry.builtin = .ok c ∧ c.resolve? p.type = some d ∧
      (∀ call, (∃ v, d.generator call = .ok v ∧ d.Passes p root v) ↔ number < 10 ^ digitLimit) ∧
      (∀ call, d.generator call = .error seedError ↔ 10 ^ digitLimit ≤ number) ∧
      ∀ v, entry.sampler.Gives v → d.Passes p root v := by
  obtain ⟨seed, rfl⟩ := Int.eq_ofNat_of_zero_le natural
  obtain ⟨d, found, isEntry⟩ :
      ∃ d, (builtin seed).find? p.type.name = some d ∧
        IsEntry seed (Text.lowercase p.type.name) entry d :=
    find?_of_listed listed
  have resolved : (builtin seed).resolve? p.type = some d := by
    simpa only [resolve?, primitive] using found
  have passes (v : Value) (gives : entry.sampler.Gives v) : d.Passes p root v :=
    isEntry.passes noLower noUpper isRoot gives
  have drawn (call : Nat) (short : seed < 10 ^ digitLimit) :
      ∃ v, d.generator call = .ok v ∧ d.Passes p root v := by
    rw [isEntry.generator]
    exact ⟨_, sample_of_short short _ _,
      passes _ (Sampler.gives_run Twister.source_inRange entry.sampler _)⟩
  have failed (call : Nat) (long : 10 ^ digitLimit ≤ seed) : d.generator call = .error seedError := by
    rw [isEntry.generator]
    exact sample_of_long long _ _
  refine ⟨builtin seed, d, make_builtin seed, resolved, fun call => ?_, fun call => ?_, passes⟩
  · norm_cast
    refine ⟨fun ⟨v, given, _⟩ => Nat.lt_of_not_le fun long => ?_, drawn call⟩
    cases given.symm.trans (failed call long)
  · norm_cast
    refine ⟨fun given => Nat.le_of_not_lt fun short => ?_, failed call⟩
    obtain ⟨v, came, -⟩ := drawn call short
    cases came.symm.trans given

/-- A telephone number that must be given, its type in mixed case. -/
def sampleContact : Parameter where
  name := "contact"
  type := ⟨"Phone", .primitive, none, by decide⟩
  isRequired := true
  hasMin := false
  min? := none
  hasMax := false
  max? := none
  valid := by decide

/-- The first seed that is too long. -/
theorem samples_pass_iff_sample :
    (0 : Int) ≤ 10 ^ digitLimit ∧ sampleContact.type.kind = .primitive ∧
      (Text.lowercase sampleContact.type.name,
        CatalogEntry.mk "string" .phone (some CatalogEntry.phoneClause)) ∈ CatalogEntry.builtin ∧
      sampleContact.hasMin = false ∧ sampleContact.hasMax = false ∧ Rule.IsName "Joi" ∧
      ∃ c d, make (10 ^ digitLimit) CatalogEntry.builtin = .ok c ∧
        c.resolve? sampleContact.type = some d ∧ d.generator 0 = .error seedError ∧
        ∀ v, Sampler.phone.Gives v → d.Passes sampleContact "Joi" v := by
  have key : Text.lowercase sampleContact.type.name = "phone" := by decide +kernel
  have listed : (Text.lowercase sampleContact.type.name,
      CatalogEntry.mk "string" .phone (some CatalogEntry.phoneClause)) ∈ CatalogEntry.builtin := by
    rw [key]
    simp [CatalogEntry.builtin]
  have natural : (0 : Int) ≤ 10 ^ digitLimit := Int.pow_nonneg (by decide)
  obtain ⟨c, d, made, resolved, -, fails, passes⟩ :=
    samples_pass_iff natural rfl listed rfl rfl Rule.isName_sample
  exact ⟨natural, rfl, listed, rfl, rfl, Rule.isName_sample, c, d, made, resolved,
    (fails 0).mpr (le_refl _), passes⟩

end Catalog

end ServiceDiagram

import ServiceDiagram.Proofs.Rule.Synthesis
import ServiceDiagram.Proofs.Table
import ServiceDiagram.Types.TypeSystem

namespace ServiceDiagram

/-- The pattern that telephone numbers match. -/
def phonePattern : Pattern where
  text := "^\\+?[0-9 ()-]\x7b7,20\x7d$"
  flags := []
  groups := [none]
  nodes :=
    [.anchor .lineStart, .loop .greedy 0 (some 1) [.char 43],
     .loop .greedy 7 (some 20)
       [.oneOf false [.range 48 57, .single 32, .single 40, .single 41, .single 45]],
     .anchor .lineEnd]

/-- The clauses that a type has for its values beyond those of their kind, by what draws them. -/
def Sampler.clauses : Sampler → List RuleClause
  | integer => [⟨"integer", []⟩]
  | dateTime => [⟨"iso", []⟩]
  | email => [⟨"email", []⟩]
  | url => [⟨"uri", []⟩]
  | uuid => [⟨"guid", []⟩]
  | phone => [⟨"pattern", [.pattern phonePattern]⟩]
  | _ => []

namespace CatalogEntry

open Rule

/-- Whether a rule asks for the pattern of telephone numbers. Nodes have no decidable equality, so
that what a text reads as is evaluated by this test. -/
def asksForPhone (r : Rule) : Bool :=
  match r.clauses with
  | [⟨name, [.pattern
      ⟨text, [], [none],
        [.anchor .lineStart, .loop .greedy 0 (some 1) [.char 43],
          .loop .greedy 7 (some 20) [.oneOf false items], .anchor .lineEnd]⟩]⟩] =>
    name == "pattern" && text == phonePattern.text &&
      items == [.range 48 57, .single 32, .single 40, .single 41, .single 45]
  | _ => false

theorem clauses_of_asksForPhone {r : Rule} (asks : asksForPhone r = true) :
    r.clauses = Sampler.phone.clauses := by
  unfold asksForPhone at asks
  split at asks
  · rename_i clauses
    simp only [Bool.and_eq_true, beq_iff_eq] at asks
    obtain ⟨⟨rfl, rfl⟩, rfl⟩ := asks
    exact clauses
  · cases asks

/-- The clause for telephone numbers reads as the pattern that it says. -/
theorem reads_phoneClause : AddOnReads (some phoneClause) Sampler.phone.clauses := by
  have asks : (Rule.read ("x" ++ normalizeAddOn phoneClause)).toOption.any asksForPhone = true := by
    decide +kernel
  cases read : Rule.read ("x" ++ normalizeAddOn phoneClause) with
  | error e =>
    rw [read] at asks
    cases asks
  | ok r =>
    rw [read] at asks
    exact ⟨r, read, clauses_of_asksForPhone asks⟩

/-- The kind of an entry is a name, and its further clauses are those of its sampler. -/
theorem reads {name : String} {entry : CatalogEntry} (member : (name, entry) ∈ builtin) :
    IsName entry.kind ∧ AddOnReads entry.addOn entry.sampler.clauses := by
  have isString : IsName "string" := isName_of_all rfl rfl rfl
  have isBoolean : IsName "boolean" := isName_of_all rfl rfl rfl
  have isDate : IsName "date" := isName_of_all rfl rfl rfl
  simp only [builtin, List.mem_cons, Prod.mk.injEq, List.not_mem_nil, or_false] at member
  rcases member with ⟨-, rfl⟩ | ⟨-, rfl⟩ | ⟨-, rfl⟩ | ⟨-, rfl⟩ | ⟨-, rfl⟩ | ⟨-, rfl⟩ | ⟨-, rfl⟩ |
    ⟨-, rfl⟩ | ⟨-, rfl⟩ | ⟨-, rfl⟩ | ⟨-, rfl⟩ | ⟨-, rfl⟩ | ⟨-, rfl⟩
  · exact ⟨isString, rfl⟩
  · exact ⟨isString, rfl⟩
  · exact ⟨isString, rfl⟩
  · exact ⟨isName_number, _, rfl, rfl⟩
  · exact ⟨isName_number, rfl⟩
  · exact ⟨isName_number, rfl⟩
  · exact ⟨isBoolean, rfl⟩
  · exact ⟨isDate, rfl⟩
  · exact ⟨isDate, _, rfl, rfl⟩
  · exact ⟨isString, _, rfl, rfl⟩
  · exact ⟨isString, _, rfl, rfl⟩
  · exact ⟨isString, _, rfl, rfl⟩
  · exact ⟨isString, reads_phoneClause⟩

end CatalogEntry

theorem lookup_filterMap {α β : Type} {f : String → α → Option β} {entries : List (String × α)}
    (total : ∀ e ∈ entries, (f e.1 e.2).isSome) (key : String) :
    (entries.filterMap fun (name, a) => (f name a).map fun b => (name, b)).lookup key =
      (entries.lookup key).bind (f key) := by
  induction entries with
  | nil => rfl
  | cons e entries ih =>
    obtain ⟨name, a⟩ := e
    obtain ⟨b, described⟩ : ∃ b, f name a = some b :=
      Option.isSome_iff_exists.mp (total (name, a) List.mem_cons_self)
    have later := ih fun e member => total e (.tail _ member)
    simp only [List.filterMap_cons, described, Option.map_some]
    by_cases same : key = name
    · subst same
      simp [described]
    · simp only [List.lookup_cons, beq_false_of_ne same]
      exact later

namespace Catalog

/-- An entry whose kind is a name gives a type. -/
theorem describe_of_isIdentifier {entry : CatalogEntry}
    (isKind : Text.isIdentifier entry.kind = true) (seed : Nat) (name : String) :
    describe seed name entry =
      .ok ⟨entry.kind, entry.addOn, fun _ => sample seed name entry.sampler, isKind⟩ := by
  have notEmpty : entry.kind ≠ "" := by
    intro empty
    rw [empty] at isKind
    cases isKind
  simp only [describe, TypeDescriptor.make, notEmpty, if_false, isKind, dite_true]

theorem isIdentifier_kind {e : String × CatalogEntry} (member : e ∈ CatalogEntry.builtin) :
    Text.isIdentifier e.2.kind = true := by
  have all : CatalogEntry.builtin.all (fun e => Text.isIdentifier e.2.kind) = true := by
    decide +kernel
  exact List.all_eq_true.mp all e member

/-- A name is looked up in lower case. -/
theorem find?_builtin (seed : Nat) (name : String) :
    (builtin seed).find? name = (CatalogEntry.builtin.lookup (Text.lowercase name)).bind
      fun entry => (describe seed (Text.lowercase name) entry).toOption := by
  refine lookup_filterMap (f := fun name entry => (describe seed name entry).toOption)
    (fun e member => ?_) (Text.lowercase name)
  rw [describe_of_isIdentifier (isIdentifier_kind member)]
  rfl

/-- Entries with different names in lower case are added one after the other. -/
theorem foldlM_putEntry (seed : Nat) {entries : List (String × CatalogEntry)}
    (areKinds : ∀ e ∈ entries, Text.isIdentifier e.2.kind = true)
    (lower : ∀ e ∈ entries, Text.lowercase e.1 = e.1) (differ : (entries.map Prod.fst).Nodup)
    (table : List (String × TypeDescriptor)) (fresh : ∀ e ∈ entries, e.1 ∉ table.map Prod.fst) :
    entries.foldlM (fun c (name, entry) => c.putEntry name entry) (⟨seed, table⟩ : Catalog) =
      .ok ⟨seed, table ++ entries.filterMap fun (name, entry) =>
        ((describe seed name entry).toOption).map fun d => (name, d)⟩ := by
  induction entries generalizing table with
  | nil => simp [pure, Except.pure]
  | cons e entries ih =>
    obtain ⟨name, entry⟩ := e
    obtain ⟨notLater, differ⟩ := List.nodup_cons.mp differ
    obtain ⟨d, described⟩ : ∃ d, describe seed name entry = .ok d :=
      ⟨_, describe_of_isIdentifier (areKinds _ (.head _)) seed name⟩
    have added : putEntry ⟨seed, table⟩ name entry = .ok ⟨seed, table ++ [(name, d)]⟩ := by
      have key : Text.lowercase name = name := lower _ (.head _)
      have absent : name ∉ table.map Prod.fst := fresh _ (.head _)
      simp only [putEntry, key, described, Except.mapError, bind, Except.bind, pure, Except.pure,
        Table.put_of_absent absent]
    have later : ∀ e ∈ entries, e.1 ∉ (table ++ [(name, d)]).map Prod.fst := by
      intro e member
      rw [List.map_append, List.mem_append]
      rintro (old | new)
      · exact fresh e (.tail _ member) old
      · exact notLater (List.mem_map.mpr ⟨e, member, by simpa using new⟩)
    rw [List.foldlM_cons]
    dsimp only
    rw [added]
    refine (ih (fun e member => areKinds e (.tail _ member)) (fun e member => lower e (.tail _ member))
      differ _ later).trans ?_
    simp [described, Except.toOption]

/-- The catalog of the types that are known from the start is made from their table. -/
theorem make_builtin (seed : Nat) : make seed CatalogEntry.builtin = .ok (builtin seed) := by
  have lower : ∀ e ∈ CatalogEntry.builtin, Text.lowercase e.1 = e.1 := by decide +kernel
  have differ : (CatalogEntry.builtin.map Prod.fst).Nodup := by decide +kernel
  rw [make, if_neg (by omega), Int.toNat_natCast]
  exact foldlM_putEntry seed (fun e => isIdentifier_kind) lower differ [] (by simp)

/-- The type of an entry of the table, as the catalog of a seed describes it. -/
structure IsEntry (seed : Nat) (name : String) (entry : CatalogEntry) (d : TypeDescriptor) :
    Prop where
  listed : (name, entry) ∈ CatalogEntry.builtin
  kind : d.kind = entry.kind
  addOn : d.addOn = entry.addOn
  generator : d.generator = fun _ => sample seed name entry.sampler

/-- Nothing but the length of the seed stops a sample. -/
theorem sample_of_short {seed : Nat} (short : seed < 10 ^ digitLimit) (name : String)
    (s : Sampler) :
    sample seed name s = .ok (Twister.runSeeded (intText seed ++ ":" ++ name) s.draw) := by
  have showable : isShowableInt seed = true := isShowableInt_iff.mpr short
  rw [sample, if_pos showable]

theorem sample_of_long {seed : Nat} (long : 10 ^ digitLimit ≤ seed) (name : String)
    (s : Sampler) : sample seed name s = .error seedError := by
  have unshowable : ¬ isShowableInt seed = true := isShowableInt_iff.not.mpr (Nat.not_lt.mpr long)
  rw [sample, if_neg unshowable]

/-- What is found is the type of an entry. -/
theorem isEntry_of_find? {seed : Nat} {name : String} {d : TypeDescriptor}
    (found : (builtin seed).find? name = some d) :
    ∃ entry, IsEntry seed (Text.lowercase name) entry d := by
  rw [find?_builtin] at found
  obtain ⟨entry, listed, described⟩ := Option.bind_eq_some_iff.mp found
  have member : (Text.lowercase name, entry) ∈ CatalogEntry.builtin := by
    obtain ⟨before, after, split, -⟩ := List.lookup_eq_some_iff.mp listed
    simp [split]
  rw [describe_of_isIdentifier (isIdentifier_kind member)] at described
  cases described
  exact ⟨entry, member, rfl, rfl, rfl⟩

/-- What a reference resolves to is the type of all classes, or that of an entry. -/
theorem resolve?_builtin {seed : Nat} {t : TypeRef} {d : TypeDescriptor}
    (resolved : (builtin seed).resolve? t = some d) :
    d = .object ∨ ∃ entry, IsEntry seed (Text.lowercase t.name) entry d := by
  unfold resolve? at resolved
  split at resolved
  · exact .inl (Option.some.inj resolved).symm
  · cases resolved
  · exact .inr (isEntry_of_find? resolved)

/-- The rule of every type that resolves is made of clauses that read. -/
theorem reads_of_resolve? {seed : Nat} {t : TypeRef} {d : TypeDescriptor}
    (resolved : (builtin seed).resolve? t = some d) :
    Rule.IsName d.kind ∧ ∃ further, Rule.AddOnReads d.addOn further := by
  rcases resolve?_builtin resolved with rfl | ⟨entry, isEntry⟩
  · exact ⟨Rule.isName_of_all rfl rfl rfl, [], rfl⟩
  · obtain ⟨isKind, reads⟩ := CatalogEntry.reads isEntry.listed
    exact ⟨isEntry.kind ▸ isKind, _, isEntry.addOn ▸ reads⟩

end Catalog
end ServiceDiagram

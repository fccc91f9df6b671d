import ServiceDiagram.Proofs.Except
import ServiceDiagram.Proofs.Table
import ServiceDiagram.Proofs.Types.Builtin

namespace ServiceDiagram.Catalog

/-- Names that do not differ but in the case of their letters. -/
def SameName (a b : String) : Prop := Text.lowercase a = Text.lowercase b

instance decidableSameName (a b : String) : Decidable (SameName a b) := by
  unfold SameName; infer_instance

/-- A type that is to be registered under a name. -/
abbrev Addition := String × TypeDescriptor

/-- A registration that would not be refused for its own sake. -/
def Addition.Adds (a : Addition) (name : String) : Prop := a.1 ≠ "" ∧ SameName a.1 name

instance Addition.decidableAdds (a : Addition) (name : String) : Decidable (a.Adds name) := by
  unfold Addition.Adds; infer_instance

/-- What a registration leaves: the same catalog if it is refused. -/
def add (c : Catalog) (a : Addition) : Catalog := (c.register a.1 a.2).toOption.getD c

def after (c : Catalog) (additions : List Addition) : Catalog := additions.foldl add c

variable {c : Catalog} {name other : String} {d : TypeDescriptor}

/-- A name finds the same type whatever the case of its letters. -/
theorem find?_congr (same : SameName name other) : c.find? name = c.find? other :=
  congrArg (fun key => c.table.lookup key) same

/-- The names of a catalog are those that it contains, in lower case. -/
theorem mem_names_iff : Text.lowercase name ∈ c.names ↔ c.contains name = true := by
  rw [names, List.mem_mergeSort, contains, find?, Table.lookup_isSome_iff]

theorem add_of_ok {a : Addition} {added : Catalog} (registered : c.register a.1 a.2 = .ok added) :
    c.add a = added := by
  rw [add, registered]
  rfl

theorem add_of_error {a : Addition} {e : CatalogError} (refused : c.register a.1 a.2 = .error e) :
    c.add a = c := by
  rw [add, refused]
  rfl

/-- A name that is taken is refused. -/
theorem register_of_contains (named : name ≠ "") (known : c.contains name = true) :
    c.register name d = .error (.nameTaken name) := by
  rw [register, if_neg named, if_pos known]

/-- A new one is added at the end. -/
theorem register_of_absent (named : name ≠ "") (absent : c.contains name = false) :
    c.register name d = .ok { c with table := c.table ++ [(Text.lowercase name, d)] } := by
  rw [register, if_neg named, if_neg (ne_true_of_eq_false absent)]

/-- A registration adds its type under its name if there is none, and changes nothing else. -/
theorem find?_add (c : Catalog) (a : Addition) (name : String) :
    (c.add a).find? name = (c.find? name).or (if a.Adds name then some a.2 else none) := by
  by_cases empty : a.1 = ""
  · have adds : ¬ a.Adds name := fun adds => adds.1 empty
    rw [add_of_error (if_pos empty), if_neg adds, Option.or_none]
  cases known : c.contains a.1 with
  | true =>
    rw [add_of_error (register_of_contains empty known)]
    split
    · rename_i adds
      obtain ⟨d, found⟩ := Option.isSome_iff_exists.mp known
      rw [← find?_congr adds.2, found, Option.some_or]
    · rw [Option.or_none]
  | false =>
    rw [add_of_ok (register_of_absent empty known), find?, List.lookup_append, ← find?]
    congr 1
    by_cases same : SameName a.1 name
    · rw [if_pos ⟨empty, same⟩, show Text.lowercase a.1 = Text.lowercase name from same,
        List.lookup_cons, beq_self_eq_true]
    · have differs : (Text.lowercase name == Text.lowercase a.1) = false :=
        beq_false_of_ne (Ne.symm same)
      rw [if_neg fun adds => same adds.2, List.lookup_cons, differs, List.lookup_nil]

/-- After registrations a name has the type that it had, or else the first that was registered under
it. The induction is on the registrations. -/
theorem find?_after (c : Catalog) (additions : List Addition) (name : String) :
    (c.after additions).find? name =
      (c.find? name).or ((additions.find? fun a => a.Adds name).map Prod.snd) := by
  induction additions generalizing c with
  | nil => rw [after, List.foldl_nil, List.find?_nil, Option.map_none, Option.or_none]
  | cons a additions ih =>
    have first := find?_add c a name
    have later := ih (c.add a)
    rw [first, Option.or_assoc] at later
    rw [List.find?_cons]
    refine later.trans (congrArg (c.find? name).or ?_)
    by_cases adds : a.Adds name
    · simp [adds]
    · simp [adds]

/-- What was found once is found for ever. -/
theorem find?_after_of_found (found : c.find? name = some d) (additions : List Addition) :
    (c.after additions).find? name = some d := by
  rw [find?_after, found, Option.some_or]

/-- What a catalog contains after additions it contained before, or one of them added it. -/
theorem contains_after_iff (c : Catalog) (additions : List Addition) (name : String) :
    (c.after additions).contains name = true ↔
      c.contains name = true ∨ ∃ a ∈ additions, a.Adds name := by
  rw [contains, find?_after, Option.isSome_or, Bool.or_eq_true, Option.isSome_map,
    List.find?_isSome, contains]
  simp only [decide_eq_true_eq]

theorem find?_putEntry {entry : CatalogEntry} {c' : Catalog}
    (put : c.putEntry other entry = .ok c') :
    (c'.find? name).isSome ↔ SameName other name ∨ (c.find? name).isSome := by
  obtain ⟨d, -, put⟩ := exists_of_bind_ok put
  cases put
  rw [find?, Table.lookup_put]
  by_cases same : Text.lowercase name = Text.lowercase other
  · rw [if_pos same]
    exact iff_of_true rfl (.inl same.symm)
  · have differs : ¬ SameName other name := fun equal => same equal.symm
    rw [if_neg same, or_iff_right differs, find?]

/-- A catalog that is made from entries has their names, in any case of the letters. -/
theorem contains_of_make {seed : Int} {entries : List (String × CatalogEntry)}
    (made : make seed entries = .ok c) (name : String) :
    c.contains name = true ↔ ∃ e ∈ entries, SameName e.1 name := by
  have putAll (entries : List (String × CatalogEntry)) (start : Catalog)
      (put : entries.foldlM (fun c e => c.putEntry e.1 e.2) start = .ok c) :
      (c.find? name).isSome ↔ (∃ e ∈ entries, SameName e.1 name) ∨ (start.find? name).isSome := by
    induction entries generalizing start with
    | nil =>
      cases put
      simp
    | cons e entries ih =>
      rw [List.foldlM_cons] at put
      obtain ⟨next, first, rest⟩ := exists_of_bind_ok put
      rw [ih next rest, find?_putEntry first, List.exists_mem_cons_iff]
      exact or_left_comm.trans or_assoc.symm
  unfold make at made
  split at made
  · cases made
  · refine (putAll entries _ made).trans (or_iff_left ?_)
    exact Bool.false_ne_true

theorem resolve?_primitive {t : TypeRef} (primitive : t.kind = .primitive) :
    c.resolve? t = c.find? t.name := by
  rw [resolve?, primitive]

theorem exists_primitive (named : name ≠ "") :
    ∃ t, TypeRef.makePrimitive name = .ok t ∧ t.kind = .primitive ∧ t.name = name := by
  have valid : TypeRef.Valid name .primitive none := ⟨fun _ => rfl, fun _ => named⟩
  exact ⟨⟨name, .primitive, none, valid⟩, dif_pos valid, rfl, rfl⟩

/-- A new name has its type for ever in every spelling, and no other reference is affected. -/
theorem register_settles (named : name ≠ "") (absent : c.contains name = false)
    (d : TypeDescriptor) :
    ∃ c', c.register name d = .ok c' ∧
      (∀ later t, t.kind = .primitive → SameName t.name name →
        (c'.after later).resolve? t = some d) ∧
      ∀ t, t.kind ≠ .primitive ∨ ¬ SameName t.name name → c'.resolve? t = c.resolve? t := by
  obtain ⟨c', registered⟩ : ∃ c', c.register name d = .ok c' :=
    ⟨_, register_of_absent named absent⟩
  have added (other : String) := find?_add c (name, d) other
  rw [add_of_ok registered] at added
  refine ⟨c', registered, fun later t primitive same => ?_, fun t differs => ?_⟩
  · have unknown : c.find? t.name = none := by
      rw [find?_congr same]
      exact Option.not_isSome_iff_eq_none.mp (ne_true_of_eq_false absent)
    have found := added t.name
    rw [unknown, Option.none_or, if_pos ⟨named, same.symm⟩] at found
    rw [resolve?_primitive primitive]
    exact find?_after_of_found found later
  · cases kind : t.kind with
    | object => simp only [resolve?, kind]
    | unknown => simp only [resolve?, kind]
    | primitive =>
      have other : ¬ SameName t.name name := differs.resolve_left fun apart => apart kind
      have found := added t.name
      rw [if_neg fun adds => other adds.2.symm, Option.or_none] at found
      rw [resolve?_primitive kind, resolve?_primitive kind, found]

/-- Whatever entries a catalog is made from and whatever is registered then, a name is contained
exactly if it resolves, and exactly if its lower case is among the names. To register a contained
name fails and changes nothing; to register another one settles the type of every spelling of it for
ever, and no other answer changes. What classes resolve to, and that unknown types do not resolve, is
beyond the reach of registrations. -/
theorem registration_append_only {seed : Int} {entries : List (String × CatalogEntry)}
    {made : Catalog} (isMade : make seed entries = .ok made) (additions : List Addition)
    {name : String} (named : name ≠ "") :
    let c := made.after additions
    (∃ t, TypeRef.makePrimitive name = .ok t ∧
      (c.contains name = true ↔ (c.resolve? t).isSome)) ∧
    (c.contains name = true ↔ Text.lowercase name ∈ c.names) ∧
    (c.contains name = true ↔
      (∃ e ∈ entries, SameName e.1 name) ∨ ∃ a ∈ additions, a.Adds name) ∧
    (∀ d, c.contains name = true →
      c.register name d = .error (.nameTaken name) ∧ c.add (name, d) = c) ∧
    (∀ d, c.contains name = false → ∃ c', c.register name d = .ok c' ∧
      (∀ later t, t.kind = .primitive → SameName t.name name →
        (c'.after later).resolve? t = some d) ∧
      ∀ t, t.kind ≠ .primitive ∨ ¬ SameName t.name name → c'.resolve? t = c.resolve? t) ∧
    ∀ t, (t.kind = .object → c.resolve? t = some .object) ∧
      (t.kind = .unknown → c.resolve? t = none) := by
  intro c
  refine ⟨?_, mem_names_iff.symm, ?_, fun d known => ?_, fun d absent => ?_, fun t => ?_⟩
  · obtain ⟨t, isReference, primitive, isName⟩ := exists_primitive named
    refine ⟨t, isReference, ?_⟩
    rw [resolve?_primitive primitive, isName, contains]
  · rw [contains_after_iff, contains_of_make isMade]
  · have refused : c.register name d = .error (.nameTaken name) := register_of_contains named known
    exact ⟨refused, add_of_error refused⟩
  · exact register_settles named absent d
  · constructor
    · intro kind
      rw [resolve?, kind]
    · intro kind
      rw [resolve?, kind]

/-- A type whose sample is always the same text. -/
def sampleType : TypeDescriptor := ⟨"string", none, fun _ => .ok (.text "X1"), by decide⟩

/-- A new type, registered in capitals with a letter beyond the basic ones, is known by its name in
small letters. -/
theorem registration_append_only_sample :
    make 0 CatalogEntry.builtin = .ok (builtin 0) ∧ "ÉTAT" ≠ "" ∧
      ((builtin 0).after [("état", sampleType)]).contains "ÉTAT" = true := by
  have named : "ÉTAT" ≠ "" := by decide
  have made : make 0 CatalogEntry.builtin = .ok (builtin 0) := make_builtin 0
  have laws := registration_append_only made [("état", sampleType)] named
  refine ⟨made, named, laws.2.2.1.mpr (.inr ⟨_, List.mem_cons_self, by decide, ?_⟩)⟩
  decide +kernel

end ServiceDiagram.Catalog

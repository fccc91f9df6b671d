import Mathlib.Data.List.Find
import ServiceDiagram.Proofs.CommandLine.Outcome

namespace ServiceDiagram.Report

/-- A parameter with the class and the operation that it belongs to. -/
abbrev Placed := Class × Operation × Parameter

/-- A type that is unknown, or a primitive one that the catalog has no entry for. -/
def IsUnresolvable (t : TypeRef) : Prop :=
  t.kind = .unknown ∨
    t.kind = .primitive ∧ Text.lowercase t.name ∉ CatalogEntry.builtin.map Prod.fst

instance decidableIsUnresolvable (t : TypeRef) : Decidable (IsUnresolvable t) := by
  unfold IsUnresolvable; infer_instance

/-- A parameter has no row if it has no type, or if no sample of its type can be drawn. -/
def IsRowless (config : Config) (t : TypeRef) : Prop :=
  IsUnresolvable t ∨ t.kind = .primitive ∧ 10 ^ digitLimit ≤ config.seed

instance decidableIsRowless (config : Config) (t : TypeRef) : Decidable (IsRowless config t) := by
  unfold IsRowless; infer_instance

/-- A parameter stops a report on services if it is one of a service and has no row. -/
def Stops (config : Config) (x : Placed) : Prop :=
  x.1.stereotype = some config.serviceStereotype ∧ IsRowless config x.2.2.type

instance decidableStops (config : Config) (x : Placed) : Decidable (Stops config x) := by
  unfold Stops; infer_instance

/-- What is raised at a parameter that has no row: where it is, or that the seed is too long. -/
def faultOf (x : Placed) : Failure :=
  if IsUnresolvable x.2.2.type then .unresolvedType x.1.name x.2.1.name x.2.2.name x.2.2.type.name
  else .generator Catalog.seedError

variable {m : Model} {config : Config} {console : ReportConfig} {e : Failure}

/-- A type does not resolve exactly if it is unknown, or primitive with a name that the catalog
lacks; the seed does not matter. -/
theorem isUnresolvable_iff (seed : Nat) (t : TypeRef) :
    IsUnresolvable t ↔ (Catalog.builtin seed).resolve? t = none := by
  rw [← Option.not_isSome_iff_eq_none, Catalog.resolve?_isSome, IsUnresolvable]
  cases t.kind <;> simp

theorem exists_of_not_isUnresolvable (seed : Nat) {t : TypeRef} (isResolvable : ¬ IsUnresolvable t) :
    ∃ d, (Catalog.builtin seed).resolve? t = some d :=
  Option.ne_none_iff_exists'.mp (mt (isUnresolvable_iff seed t).mpr isResolvable)

/-- A parameter without a row fails with its own fault. -/
theorem rowOf_of_isRowless {x : Placed} (rowless : IsRowless config x.2.2.type) :
    rowOf config x.1 x.2.1 x.2.2 = .error (faultOf x) := by
  unfold rowOf faultOf
  by_cases unresolvable : IsUnresolvable x.2.2.type
  · rw [(isUnresolvable_iff config.seed _).mp unresolvable, if_pos unresolvable]
  · obtain ⟨primitive, long⟩ := rowless.resolve_left unresolvable
    obtain ⟨d, resolved⟩ := exists_of_not_isUnresolvable config.seed unresolvable
    rw [resolved, if_neg unresolvable]
    rcases sampleText_cases resolved with ⟨-, short⟩ | ⟨failed, -⟩
    · exact absurd long (Nat.not_le.mpr (short primitive))
    · exact congrArg (Except.map _) failed

/-- The parameters of a class, each in its place. -/
def placed (c : Class) : List Placed := c.parameters.map fun (o, p) => (c, o, p)

theorem class_of_mem_placed {c : Class} {x : Placed} (member : x ∈ placed c) : x.1 = c := by
  obtain ⟨part, -, rfl⟩ := List.mem_map.mp member
  rfl

/-- The parameters of services are those of all classes without the ones of other classes. -/
theorem flatMap_placed (m : Model) (config : Config) :
    (servicesOf m config).flatMap placed =
      m.parameters.filter fun x => x.1.stereotype = some config.serviceStereotype := by
  rw [servicesOf, Model.parameters]
  induction m.classes with
  | nil => rfl
  | cons c classes ih =>
    have own : (placed c).filter (fun x => x.1.stereotype = some config.serviceStereotype) =
        if c.stereotype = some config.serviceStereotype then placed c else [] := by
      split
      · rename_i service
        exact List.filter_eq_self.mpr fun x member => by simp [class_of_mem_placed member, service]
      · rename_i other
        exact List.filter_eq_nil_iff.mpr fun x member => by simp [class_of_mem_placed member, other]
    rw [List.flatMap_cons, List.filter_append, ← ih, List.filter_cons]
    refine Eq.trans ?_ (congrArg (· ++ _) own.symm)
    by_cases service : c.stereotype = some config.serviceStereotype
    · simp [service]
    · simp [service]

/-- A report that shows parameters breaks off at the first one that stops it. -/
theorem contentOf_error_iff :
    contentOf m config true = .error e ↔
      ∃ x, m.parameters.find? (fun x => decide (Stops config x)) = some x ∧ e = faultOf x := by
  let row (x : Placed) : Except Failure ParameterRow := rowOf config x.1 x.2.1 x.2.2
  let group (c : Class) (rows : List ParameterRow) : ServiceSection :=
    ⟨c.title, c.isOpen config.accessTag, dependentNames m c config.serviceStereotype,
      dependentNames m c config.daoStereotype, rows⟩
  have section' : sectionOf m config true =
      fun c => (placed c).mapM row >>= fun rows => pure (group c rows) := by
    funext c
    rw [placed, List.mapM_map]
    rfl
  have rows : contentOf m config true = .error e ↔
      ((servicesOf m config).flatMap placed).mapM row = .error e := by
    rw [← mapM_groups_error_iff group, ← section']
    exact bind_pure_error_iff
  have bad : m.parameters.find? (fun x => decide (Stops config x)) =
      ((servicesOf m config).flatMap placed).find? fun x => decide (IsRowless config x.2.2.type) := by
    rw [flatMap_placed, List.find?_filter]
    refine List.find?_congr fun x _ => ?_
    rw [Bool.eq_iff_iff]
    simp only [decide_eq_true_iff]
    exact Iff.rfl
  rw [rows, bad]
  refine mapM_error_iff_find? (fun x isBad => rowOf_of_isRowless (of_decide_eq_true isBad)) fun x isGood => ?_
  obtain ⟨isResolvable, isShort⟩ := not_or.mp (of_decide_eq_false isGood)
  obtain ⟨d, resolved⟩ := exists_of_not_isUnresolvable config.seed isResolvable
  rcases sampleText_cases resolved with ⟨⟨text, drawn⟩, -⟩ | ⟨-, primitive, long⟩
  · simp only [rowOf, resolved, drawn, Except.map, Except.ok.injEq, exists_eq']
  · exact absurd ⟨primitive, long⟩ isShort

/-- Without the parameters, nothing stops a report. -/
theorem exists_contentOf (m : Model) (config : Config) :
    ∃ content, contentOf m config false = .ok content := by
  have sections : (servicesOf m config).mapM (sectionOf m config false) = .ok _ :=
    mapM_of_ok fun c _ => rfl
  exact ⟨_, by rw [contentOf, sections]; rfl⟩

/-- The report fails exactly if it shows parameters and one of them stops it, and with the fault of
the first that does. -/
theorem reportOn_error_iff (render : Renderer) :
    (CommandLine.reportOn render m config console).1 = .error e ↔ console.showParameters = true ∧
      ∃ x, m.parameters.find? (fun x => decide (Stops config x)) = some x ∧ e = faultOf x := by
  have mapped (r : Except Failure Content) (f : Content → String) :
      r.map f = .error e ↔ r = .error e := by
    cases r <;> simp [Except.map]
  rw [CommandLine.reportOn_result, mapped]
  cases console.showParameters with
  | true => rw [contentOf_error_iff, and_iff_right rfl]
  | false =>
    obtain ⟨content, given⟩ := exists_contentOf m config
    simp [given]

/-- The report on a model fails exactly if it is to show parameters and some class with the service
stereotype has a parameter whose type is unknown or has no entry in the catalog, or, if the seed is
too long, one with a primitive type at all. What is raised comes of the first such parameter, in the
order of classes, operations and parameters: if it has no type, its class, operation, name and type;
otherwise only that the seed is too long. What other classes have does not matter. -/
theorem report_fails_at_first (render : Renderer) (m : Model) (config : Config)
    (console : ReportConfig) :
    ((∃ e, (CommandLine.reportOn render m config console).1 = .error e) ↔
      console.showParameters = true ∧ ∃ c ∈ m.classes,
        c.stereotype = some config.serviceStereotype ∧
          ∃ part ∈ c.parameters, IsUnresolvable part.2.type ∨
            part.2.type.kind = .primitive ∧ 10 ^ digitLimit ≤ config.seed) ∧
    ∀ e, (CommandLine.reportOn render m config console).1 = .error e ↔
      console.showParameters = true ∧ ∃ before c o p after,
        m.parameters = before ++ (c, o, p) :: after ∧ (∀ x ∈ before, ¬ Stops config x) ∧
          Stops config (c, o, p) ∧
          (IsUnresolvable p.type → e = .unresolvedType c.name o.name p.name p.type.name) ∧
          (¬ IsUnresolvable p.type → e = .generator Catalog.seedError) := by
  constructor
  · simp only [reportOn_error_iff, exists_and_left]
    refine and_congr_right fun _ => ?_
    have anywhere : (∃ x ∈ m.parameters, Stops config x) ↔ ∃ c ∈ m.classes,
        c.stereotype = some config.serviceStereotype ∧
          ∃ part ∈ c.parameters, IsRowless config part.2.type := by
      constructor
      · rintro ⟨x, member, service, rowless⟩
        obtain ⟨c, inModel, inClass⟩ := List.mem_flatMap.mp member
        obtain ⟨part, inParameters, rfl⟩ := List.mem_map.mp inClass
        exact ⟨c, inModel, service, part, inParameters, rowless⟩
      · rintro ⟨c, inModel, service, part, inParameters, rowless⟩
        have inClass : (c, part) ∈ placed c := List.mem_map_of_mem inParameters
        exact ⟨(c, part), List.mem_flatMap.mpr ⟨c, inModel, inClass⟩, service, rowless⟩
    refine Iff.trans ?_ anywhere
    rw [exists_comm]
    simp only [exists_and_left, exists_eq, and_true]
    rw [← Option.isSome_iff_exists, List.find?_isSome]
    simp only [decide_eq_true_eq]
  · intro e
    rw [reportOn_error_iff]
    refine and_congr_right fun _ => ?_
    have told (x : Placed) : e = faultOf x ↔
        (IsUnresolvable x.2.2.type →
          e = .unresolvedType x.1.name x.2.1.name x.2.2.name x.2.2.type.name) ∧
        (¬ IsUnresolvable x.2.2.type → e = .generator Catalog.seedError) := by
      unfold faultOf
      by_cases unresolvable : IsUnresolvable x.2.2.type <;> simp [unresolvable]
    constructor
    · rintro ⟨⟨c, o, p⟩, found, fault⟩
      obtain ⟨stops, before, after, split, isFirst⟩ := List.find?_eq_some_iff_append.mp found
      exact ⟨before, c, o, p, after, split, by simpa using isFirst, of_decide_eq_true stops,
        (told _).mp fault⟩
    · rintro ⟨before, c, o, p, after, split, isFirst, stops, fault⟩
      refine ⟨(c, o, p), List.find?_eq_some_iff_append.mpr ⟨decide_eq_true stops, ?_⟩,
        (told _).mpr fault⟩
      exact ⟨before, after, split, by simpa using isFirst⟩

/-- A service whose second parameter has no type, after a class that is none and has one as well. -/
def sampleDepot : Model where
  name := "depot"
  classes :=
    [{ id := "1", name := "Crate", stereotype := some "Entity", dependencies := [], tags := []
       operations :=
        [⟨"pack", [⟨"label", ⟨"Label", .unknown, none, by decide⟩, false, false, none, false, none,
          by decide⟩], by decide⟩]
       valid := by decide },
     { id := "2", name := "Depot", stereotype := some "Service", dependencies := [], tags := []
       operations :=
        [⟨"store",
          [⟨"count", ⟨"Float", .primitive, none, by decide⟩, true, true, some (.int 1), false, none,
            by decide⟩,
           ⟨"code", ⟨"Barcode", .primitive, none, by decide⟩, true, false, none, false, none,
            by decide⟩], by decide⟩]
       valid := by decide }]
  revision := 2
  unique := by decide

/-- With a seed that is too long the service stops the report at its first parameter already, which
has a type. -/
theorem report_fails_at_first_sample :
    (CommandLine.reportOn (fun _ content => content.model) sampleDepot
      { Config.default with seed := 10 ^ digitLimit } .default).1 =
        .error (.generator Catalog.seedError) := by
  refine ((report_fails_at_first _ sampleDepot _ .default).2 _).mpr ⟨rfl, ?_⟩
  refine ⟨sampleDepot.parameters.take 1, _, _, _, _, rfl, ?_, ⟨rfl, .inr ⟨rfl, le_refl _⟩⟩, ?_,
    fun _ => rfl⟩
  · rintro x member ⟨service, -⟩
    cases List.mem_singleton.mp member
    exact absurd service (by decide)
  · exact fun unresolvable => absurd unresolvable (by decide +kernel)

end ServiceDiagram.Report

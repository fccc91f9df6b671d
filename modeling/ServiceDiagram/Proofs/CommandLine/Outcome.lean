import ServiceDiagram.CommandLine.Command
import ServiceDiagram.Proofs.CommandLine.Arguments
import ServiceDiagram.Proofs.Ingest.Files
import ServiceDiagram.Proofs.Report.Content

namespace ServiceDiagram

/-- What types resolve depends on the names of the catalog alone. -/
theorem Catalog.resolve?_isSome {seed : Nat} {t : TypeRef} :
    ((builtin seed).resolve? t).isSome ↔ t.kind = .object ∨
      t.kind = .primitive ∧ Text.lowercase t.name ∈ CatalogEntry.builtin.map Prod.fst := by
  cases kind : t.kind with
  | object => simp [resolve?, kind]
  | unknown => simp [resolve?, kind]
  | primitive =>
    simp only [resolve?, kind, reduceCtorEq, true_and, false_or]
    constructor
    · intro found
      obtain ⟨d, found⟩ := Option.isSome_iff_exists.mp found
      obtain ⟨entry, isEntry⟩ := isEntry_of_find? found
      exact List.mem_map_of_mem isEntry.listed
    · intro listed
      obtain ⟨⟨name, entry⟩, member, rfl⟩ := List.mem_map.mp listed
      obtain ⟨d, found, -⟩ : ∃ d, (builtin seed).find? t.name = some d ∧
          IsEntry seed (Text.lowercase t.name) entry d := find?_of_listed member
      rw [found]
      rfl

namespace CommandLine

variable (render : Report.Renderer)

def configFor (seed : Int) : Config := { Config.default with seed := seed.toNat }

theorem configOf_eq (seed : Int) :
    configOf seed = if seed < 0 then .error (.negativeSeed seed) else .ok (configFor seed) := by
  rfl

/-- The report on a model is what a run of its own reads. -/
theorem reportOn_result (m : Model) (config : Config) (console : ReportConfig) :
    (reportOn render m config console).1 =
      (Report.contentOf m config console.showParameters).map (render console) := by
  obtain ⟨events, run⟩ := Context.augmentModel_outcome m config
  obtain ⟨w, -, reported⟩ := Work.settles_reportText render m config console _ (.ofRun m config events)
  have outcome := (Work.outcome_bind_of_ok run).trans reported
  simp only [Context.augmentModel, bind_assoc, pure_bind] at outcome
  rw [Work.outcome] at outcome
  unfold reportOn
  dsimp only
  rw [outcome]

/-- A file holds a model. -/
def Holds (files : FileTree) (path : String) (m : Model) : Prop :=
  ∃ bytes cs data, files.read (FilePath.plain path) = .ok bytes ∧ Text.Utf8.decode bytes = .ok cs ∧
    Json.read (Ingest.unifyBreaks cs) = .ok data ∧ Model.load data (FilePath.stem path) = .ok m

/-- A model is loaded from a file exactly if the file holds it. -/
theorem loadFile_ok_iff {files : FileTree} {path : String} {m : Model} :
    Model.loadFile files path = .ok m ↔ Holds files path m := by
  rw [Model.loadFile_eq]
  constructor
  · intro loaded
    cases read : Ingest.readFile files (FilePath.plain path) with
    | error e =>
      rw [read] at loaded
      cases loaded
    | ok data =>
      rw [read] at loaded
      dsimp only at loaded
      obtain ⟨bytes, cs, isFile, decoded, parsed⟩ := Ingest.readFile_ok_iff.mp read
      refine ⟨bytes, cs, data, isFile, decoded, parsed, ?_⟩
      cases given : Model.load data (FilePath.stem path) with
      | error e =>
        rw [given] at loaded
        cases loaded
      | ok m' =>
        rw [given] at loaded
        cases loaded
        rfl
  · rintro ⟨bytes, cs, data, isFile, decoded, parsed, given⟩
    rw [Ingest.readFile_ok_iff.mpr ⟨bytes, cs, isFile, decoded, parsed⟩]
    dsimp only
    rw [given]
    rfl

/-- All that a report needs: the file holds a model, the options are in range, and the type of every
parameter of a service is a class or a type of the catalog. -/
structure Reportable (files : FileTree) (a : Arguments) (m : Model) : Prop where
  holds : Holds files a.model m
  seed : 0 ≤ a.seed
  width : 40 ≤ a.width
  types : ∀ c ∈ m.classes, c.stereotype = some "Service" → ∀ o p, (o, p) ∈ c.parameters →
    p.type.kind = .object ∨
      p.type.kind = .primitive ∧ Text.lowercase p.type.name ∈ CatalogEntry.builtin.map Prod.fst

/-- Why the command writes no report. -/
inductive Obstacle where
  | load (e : FileLoadError)
  | config (e : ConfigError)
  | type (c : Class) (o : Operation) (p : Parameter)

namespace Obstacle

def message : Obstacle → String
  | load e => e.message
  | config e => e.message
  | type c o p => unresolvedTypeMessage c.name o.name p.name p.type.name

def Stops (files : FileTree) (a : Arguments) : Obstacle → Prop
  | load e => Model.loadFile files a.model = .error e
  | config e => a.seed < 0 ∧ e = .negativeSeed a.seed ∨ a.width < 40 ∧ e = .narrowWidth a.width
  | type c o p => ∃ m, Holds files a.model m ∧ c ∈ m.classes ∧ c.stereotype = some "Service" ∧
      (o, p) ∈ c.parameters ∧ p.type.kind ≠ .object ∧
      (p.type.kind = .primitive → Text.lowercase p.type.name ∉ CatalogEntry.builtin.map Prod.fst)

end Obstacle

/-- All types of service parameters resolve exactly if they are objects or have names of the
catalog. -/
theorem resolves_iff {m : Model} {seed : Int} :
    Report.Resolves m (configFor seed) ↔
      ∀ c ∈ m.classes, c.stereotype = some "Service" → ∀ o p, (o, p) ∈ c.parameters →
        p.type.kind = .object ∨
          p.type.kind = .primitive ∧
            Text.lowercase p.type.name ∈ CatalogEntry.builtin.map Prod.fst := by
  unfold Report.Resolves Report.servicesOf
  simp only [List.mem_filter, decide_eq_true_eq, and_imp, Catalog.resolve?_isSome, Prod.forall]
  rfl

theorem report_result {files : FileTree} {a : Arguments} :
    (report render a files).1 =
      match Model.loadFile files a.model with
      | .error e => .error e.message
      | .ok m =>
        match configOf a.seed with
        | .error e => .error e.message
        | .ok config =>
          match ReportConfig.make a.width a.color true with
          | .error e => .error e.message
          | .ok console => (reportOn render m config console).1.mapError Failure.message := by
  unfold report Model.loadFile
  rcases (Ingest.loadFile files a.model).run.run [] with ⟨e | m, events⟩
  · rfl
  · dsimp only
    cases configOf a.seed with
    | error e => rfl
    | ok config =>
      dsimp only
      cases ReportConfig.make a.width a.color true with
      | error e => rfl
      | ok console =>
        dsimp only

/-- A width of less than forty cells is the one thing that stops the settings of a report. -/
theorem make_console (width : Int) (color : Bool) :
    (∃ console : ReportConfig, ReportConfig.make width color true = .ok console ∧
      console.showParameters = true ∧ 40 ≤ width) ∨
    width < 40 ∧ ReportConfig.make width color true = .error (.narrowWidth width) := by
  unfold ReportConfig.make
  by_cases wide : 40 ≤ width
  · rw [dif_pos wide]
    exact .inl ⟨_, rfl, rfl, wide⟩
  · rw [dif_neg wide]
    exact .inr ⟨by omega, rfl⟩

/-- The command comes to the report, or to an obstacle. -/
theorem report_cases (files : FileTree) {a : Arguments} (short : a.seed.natAbs < 10 ^ digitLimit) :
    (∃ m console content, Reportable files a m ∧
      ReportConfig.make a.width a.color true = .ok console ∧
      Report.contentOf m (configFor a.seed) true = .ok content ∧
      (report render a files).1 = .ok (render console content)) ∨
    ∃ o : Obstacle, o.Stops files a ∧ (report render a files).1 = .error o.message := by
  -- the obstacles in the order in which the command meets them
  rw [report_result, configOf_eq]
  cases loaded : Model.loadFile files a.model with
  | error e => exact .inr ⟨.load e, loaded, rfl⟩
  | ok m =>
    have holds := loadFile_ok_iff.mp loaded
    dsimp only
    by_cases negative : a.seed < 0
    · rw [if_pos negative]
      exact .inr ⟨.config _, .inl ⟨negative, rfl⟩, rfl⟩
    · rw [if_neg negative]
      dsimp only
      rcases make_console a.width a.color with ⟨console, made, showing, wide⟩ | ⟨narrow, made⟩
      · rw [made]
        dsimp only
        rw [reportOn_result, showing]
        rcases Report.contentOf_cases m (configFor a.seed) with
          ⟨⟨content, given⟩, resolves⟩ | ⟨c, o, p, unresolved, failed⟩ | ⟨long, -⟩
        · have reportable : Reportable files a m :=
            ⟨holds, Int.not_lt.mp negative, wide, resolves_iff.mp resolves⟩
          exact .inl ⟨m, console, content, reportable, rfl, given, by rw [given]; rfl⟩
        · refine .inr ⟨.type c o p, ⟨m, holds, ?_⟩, by rw [failed]; rfl⟩
          obtain ⟨member, service⟩ := List.mem_filter.mp unresolved.service
          have noType : ¬ ((Catalog.builtin (configFor a.seed).seed).resolve? p.type).isSome := by
            simp [unresolved.unresolved]
          rw [Catalog.resolve?_isSome, not_or, not_and] at noType
          exact ⟨member, of_decide_eq_true service, unresolved.parameter, noType⟩
        · have small : a.seed.toNat < 10 ^ digitLimit := by omega
          exact absurd long (Nat.not_le.mpr small)
      · rw [made]
        exact .inr ⟨.config _, .inr ⟨narrow, rfl⟩, rfl⟩

/-- A file holds at most one model. -/
theorem Holds.unique {files : FileTree} {path : String} {m m' : Model} (holds : Holds files path m)
    (holds' : Holds files path m') : m = m' := by
  have loaded := loadFile_ok_iff.mpr holds
  rw [loadFile_ok_iff.mpr holds'] at loaded
  cases loaded
  rfl

/-- Where an obstacle stands there is no report. -/
theorem Obstacle.Stops.not_reportable {files : FileTree} {a : Arguments} {o : Obstacle}
    (stops : o.Stops files a) (m : Model) : ¬ Reportable files a m := by
  intro reportable
  cases o with
  | load e =>
    have loaded := loadFile_ok_iff.mpr reportable.holds
    rw [show Model.loadFile files a.model = .error e from stops] at loaded
    cases loaded
  | config e =>
    have natural := reportable.seed
    have wide := reportable.width
    rcases stops with ⟨negative, -⟩ | ⟨narrow, -⟩
    · omega
    · omega
  | type c o p =>
    obtain ⟨m', holds, member, service, parameter, noClass, noEntry⟩ := stops
    cases reportable.holds.unique holds
    rcases reportable.types c member service o p parameter with isClass | ⟨primitive, listed⟩
    · exact noClass isClass
    · exact noEntry primitive listed

/-- What the command gives when it is asked for a report, by what the report comes to. -/
theorem run_report {argv : List String} (files : FileTree) {a : Arguments}
    (asked : read argv = .ok (.report a)) :
    run render argv files =
      let shown := if a.verbose then eventLines (report render a files).2 else ""
      match (report render a files).1 with
      | .ok text => ⟨0, text, shown⟩
      | .error message => ⟨1, "", shown ++ ("archmeta: " ++ message ++ "\n")⟩ := by
  have named : program ++ ": " = "archmeta: " := rfl
  unfold run
  rw [asked]
  dsimp only
  rcases report render a files with ⟨result, events⟩
  cases result with
  | ok text => rfl
  | error message =>
    dsimp only
    rw [← named]
    simp only [String.append_assoc]

/-- Asked for a report, the command ends well exactly if the file holds a model, the options are in
range and the types of all parameters of services are known; then it writes the report, as it is laid
out, and nothing else but the lines of events that were asked for. In any other case it writes nothing
as its output and says what stopped it. Whatever the model and the configuration, a report fails for
nothing but a type that does not resolve or a seed that is too long, and no argument is such a seed. -/
theorem run_all_or_nothing {argv : List String} {files : FileTree} {a : Arguments}
    (asked : read argv = .ok (.report a)) :
    let shown := if a.verbose then eventLines (report render a files).2 else ""
    ((run render argv files).exitCode = 0 ↔ ∃ m, Reportable files a m) ∧
    (∀ m, Reportable files a m → ∃ console content,
      ReportConfig.make a.width a.color true = .ok console ∧
      Report.contentOf m (configFor a.seed) true = .ok content ∧
      run render argv files = ⟨0, render console content, shown⟩) ∧
    ((¬ ∃ m, Reportable files a m) → ∃ o : Obstacle, o.Stops files a ∧
      run render argv files = ⟨1, "", shown ++ ("archmeta: " ++ o.message ++ "\n")⟩) ∧
    (configFor a.seed).seed < 10 ^ digitLimit ∧
    (∀ m config console failure, ReportConfig.make a.width a.color true = .ok console →
      (reportOn render m config console).1 = .error failure →
      (∃ c o p, Report.Unresolved m config c o p ∧
        failure = .unresolvedType c.name o.name p.name p.type.name) ∨
      10 ^ digitLimit ≤ config.seed ∧ failure = .generator Catalog.seedError) := by
  extract_lets shown
  have runs := run_report render files asked
  have short := seed_short asked
  refine ⟨?_, fun m reportable => ?_, fun none => ?_, ?_, fun m config console failure made failed => ?_⟩
  · rcases report_cases render files short with
      ⟨m, console, content, reportable, -, -, given⟩ | ⟨o, stops, given⟩
    · rw [given] at runs
      exact iff_of_true (congrArg Outcome.exitCode runs) ⟨m, reportable⟩
    · rw [given] at runs
      refine iff_of_false ?_ fun ⟨m, reportable⟩ => stops.not_reportable m reportable
      rw [congrArg Outcome.exitCode runs]
      exact Nat.one_ne_zero
  · rcases report_cases render files short with
      ⟨m', console, content, reportable', made, isContent, given⟩ | ⟨o, stops, -⟩
    · cases reportable.holds.unique reportable'.holds
      rw [given] at runs
      exact ⟨console, content, made, isContent, runs⟩
    · exact absurd reportable (stops.not_reportable m)
  · rcases report_cases render files short with ⟨m, -, -, reportable, -⟩ | ⟨o, stops, given⟩
    · exact absurd ⟨m, reportable⟩ none
    · rw [given] at runs
      exact ⟨o, stops, runs⟩
  · have small : a.seed.toNat < 10 ^ digitLimit := by omega
    exact small
  · rcases make_console a.width a.color with ⟨console', made', showing, -⟩ | ⟨-, refused⟩
    · cases made.symm.trans made'
      rw [reportOn_result, showing] at failed
      rcases Report.contentOf_cases m config with
        ⟨⟨content, given⟩, -⟩ | ⟨c, o, p, unresolved, given⟩ | ⟨long, given⟩
      · rw [given] at failed
        cases failed
      · rw [given] at failed
        cases failed
        exact .inl ⟨c, o, p, unresolved, rfl⟩
      · rw [given] at failed
        cases failed
        exact .inr ⟨long, rfl⟩
    · cases made.symm.trans refused

def sampleArguments (model : String) : Arguments := ⟨model, 0, 120, true, false⟩

/-- The text of a model with one service, which has one parameter. -/
def sampleText (type : String) : String :=
  "\x7b\"classes\": [\x7b\"name\": \"Shop\", \"stereotypeName\": \"Service\", \"operations\": " ++
    "[\x7b\"name\": \"order\", \"parameters\": [\x7b\"name\": \"count\", \"type\": \"" ++ type ++
    "\"\x7d]\x7d]\x7d]\x7d"

/-- In one file the type of the parameter is known, in the other it is not. -/
def sampleFiles : FileTree :=
  [("shop.json", Text.Utf8.encode (sampleText "Integer").toList),
   ("depot.json", Text.Utf8.encode (sampleText "Barcode").toList)]

/-- The one service of a model has one parameter with a type of a name. -/
def isSample (type : String) (m : Model) : Bool :=
  match m.classes with
  | [c] => c.stereotype == some "Service" && (c.parameters.map fun (_, p) =>
      (p.type.kind, Text.lowercase p.type.name)) == [(TargetKind.primitive, type)]
  | _ => false

theorem exists_of_isSample {type : String} {m : Model} (sample : isSample type m = true) :
    ∃ c o p, m.classes = [c] ∧ c.stereotype = some "Service" ∧ c.parameters = [(o, p)] ∧
      p.type.kind = .primitive ∧ Text.lowercase p.type.name = type := by
  unfold isSample at sample
  split at sample
  · rename_i c single
    simp only [Bool.and_eq_true, beq_iff_eq] at sample
    obtain ⟨service, types⟩ := sample
    obtain ⟨⟨o, p⟩, alone, isType⟩ := List.map_eq_singleton_iff.mp types
    obtain ⟨primitive, named⟩ := Prod.mk.inj isType
    exact ⟨c, o, p, single, service, alone, primitive, named⟩
  · cases sample

theorem exists_of_loadFile {files : FileTree} {path : String} {p : Model → Bool}
    (loaded : (Model.loadFile files path).toOption.any p = true) :
    ∃ m, Holds files path m ∧ p m = true := by
  cases given : Model.loadFile files path with
  | error e =>
    rw [given] at loaded
    cases loaded
  | ok m =>
    rw [given] at loaded
    exact ⟨m, loadFile_ok_iff.mp given, loaded⟩

/-- A report on a service with a parameter of a known type is written; with a type that is not known
nothing is, and the parameter is told. -/
theorem run_all_or_nothing_sample :
    read ["shop.json"] = .ok (.report (sampleArguments "shop.json")) ∧
      read ["depot.json"] = .ok (.report (sampleArguments "depot.json")) ∧
      (∃ m, Reportable sampleFiles (sampleArguments "shop.json") m ∧ isSample "integer" m = true) ∧
      (run (fun _ content => content.model) ["shop.json"] sampleFiles).exitCode = 0 ∧
      ∃ c o p, (Obstacle.type c o p).Stops sampleFiles (sampleArguments "depot.json") ∧
        run (fun _ content => content.model) ["depot.json"] sampleFiles =
          ⟨1, "", "archmeta: " ++ (Obstacle.type c o p).message ++ "\n"⟩ := by
  have asked : read ["shop.json"] = .ok (.report (sampleArguments "shop.json")) := rfl
  have asked' : read ["depot.json"] = .ok (.report (sampleArguments "depot.json")) := rfl
  have known : (Model.loadFile sampleFiles "shop.json").toOption.any (isSample "integer") = true := by
    decide +kernel
  have unknown : (Model.loadFile sampleFiles "depot.json").toOption.any (isSample "barcode") = true := by
    decide +kernel
  obtain ⟨m, holds, sample⟩ := exists_of_loadFile known
  obtain ⟨c, o, p, single, -, alone, primitive, named⟩ := exists_of_isSample sample
  have reportable : Reportable sampleFiles (sampleArguments "shop.json") m := by
    refine ⟨holds, by decide, by decide, fun c' member _ o' p' parameter => ?_⟩
    rw [single, List.mem_singleton] at member
    rw [member, alone, List.mem_singleton] at parameter
    cases parameter
    exact .inr ⟨primitive, by simp [named, CatalogEntry.builtin]⟩
  obtain ⟨m', holds', sample'⟩ := exists_of_loadFile unknown
  obtain ⟨c', o', p', single', service', alone', primitive', named'⟩ := exists_of_isSample sample'
  have stops : (Obstacle.type c' o' p').Stops sampleFiles (sampleArguments "depot.json") := by
    refine ⟨m', holds', by simp [single'], service', by simp [alone'], by simp [primitive'], fun _ => ?_⟩
    simp [named', CatalogEntry.builtin]
  have nothing : ¬ ∃ m, Reportable sampleFiles (sampleArguments "depot.json") m :=
    not_exists.mpr stops.not_reportable
  obtain ⟨obstacle, stops', ended⟩ :=
    (run_all_or_nothing (fun _ content => content.model) asked').2.2.1 nothing
  refine ⟨asked, asked', ⟨m, reportable, sample⟩, ?_, ?_⟩
  · exact (run_all_or_nothing (fun _ content => content.model) asked).1.mpr ⟨m, reportable⟩
  · cases obstacle with
    | load e =>
      have failed : Model.loadFile sampleFiles "depot.json" = .error e := stops'
      cases failed.symm.trans (loadFile_ok_iff.mpr holds')
    | config e =>
      rcases stops' with ⟨negative, -⟩ | ⟨narrow, -⟩
      · exact absurd negative (by decide)
      · exact absurd narrow (by decide)
    | type c o p => exact ⟨c, o, p, stops', ended.trans (by simp [sampleArguments])⟩

end CommandLine

end ServiceDiagram

import ServiceDiagram.CommandLine.Arguments
import ServiceDiagram.Ingest.File
import ServiceDiagram.Report.Content
import ServiceDiagram.Views.Context

namespace ServiceDiagram.CommandLine

def program : String := "archmeta"

def usage : String :=
  "usage: " ++ program ++ " [-h] [--seed SEED] [--width WIDTH] [--no-color] [-v] model\n"

def help : String :=
  usage ++ "\n" ++
  "Compute service-layer metadata for a class-diagram model\n\n" ++
  "positional arguments:\n" ++
  "  model          Model file (JSON ingestion format)\n\n" ++
  "options:\n" ++
  "  -h, --help     show this help message and exit\n" ++
  "  --seed SEED    Seed for mock values\n" ++
  "  --width WIDTH  Console width\n" ++
  "  --no-color     Plain text output\n" ++
  "  -v, --verbose  Debug logging\n"

/-- How the command ends: its exit code, and what it writes as its output and as errors. -/
structure Outcome where
  exitCode : Nat
  output : String
  errors : String
  deriving DecidableEq, Repr

/-- The configuration for a seed. -/
def configOf (seed : Int) : Except ConfigError Config :=
  let d := Config.default
  Config.make d.serviceStereotype d.daoStereotype d.accessTag d.ruleNamespace seed

/-- The report on a model, or why there is none, with the events up to then. -/
def reportOn (render : Report.Renderer) (m : Model) (config : Config) (console : ReportConfig) :
    Except Failure String × List Event :=
  let work : Work String := do
    let model ← Work.addModel m
    let (_, number) ← (← Context.make (some model) config none none).augment
    Work.reportText render console number
  let (result, w) := work.run.run Workspace.empty
  (result, w.events)

/-- The report that arguments ask for, or the message why there is none, with the events up to
then. -/
def report (render : Report.Renderer) (a : Arguments) (files : FileTree) :
    Except String String × List Event :=
  match (Ingest.loadFile files a.model).run.run [] with
  | (.error e, events) => (.error e.message, events)
  | (.ok m, events) =>
    match configOf a.seed with
    | .error e => (.error e.message, events)
    | .ok config =>
      match ReportConfig.make a.width a.color true with
      | .error e => (.error e.message, events)
      | .ok console =>
        let (result, later) := reportOn render m config console
        (result.mapError Failure.message, events ++ later)

/-- The lines that report events. -/
def eventLines (events : List Event) : String :=
  String.join (events.map fun e => e.line ++ "\n")

/-- Runs the command with arguments and the files that it can see; the report is laid out by a
renderer. Nothing is written to the output unless the whole report is there. -/
def run (render : Report.Renderer) (argv : List String) (files : FileTree) : Outcome :=
  match read argv with
  | .error e => ⟨2, "", usage ++ program ++ ": error: " ++ e.message ++ "\n"⟩
  | .ok .help => ⟨0, help, ""⟩
  | .ok (.report a) =>
    let (result, events) := report render a files
    let shown := if a.verbose then eventLines events else ""
    match result with
    | .ok text => ⟨0, text, shown⟩
    | .error message => ⟨1, "", shown ++ program ++ ": " ++ message ++ "\n"⟩

/-- The path of the file that arguments name. -/
def modelPath? (argv : List String) : Option String :=
  match read argv with
  | .ok (.report a) => some a.model
  | _ => none

end ServiceDiagram.CommandLine

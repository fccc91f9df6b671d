import ServiceDiagram.CommandLine.Command
import ServiceDiagram.Report.Render

open ServiceDiagram

/-- The file at a path as far as it can be read: a path that leads to a directory has files below
it. -/
def readFiles (path : String) : IO FileTree := do
  let plain := FilePath.plain path
  try
    let bytes ← IO.FS.readBinFile plain
    return [(plain, bytes.toList)]
  catch e =>
    match e with
    | .noFileOrDirectory .. => return []
    | _ => return [(plain ++ "/.", [])]

/-- The program: it sees the one file that its arguments name. -/
def main (argv : List String) : IO UInt32 := do
  let files ←
    match CommandLine.modelPath? argv with
    | some path => readFiles path
    | none => pure []
  let outcome := CommandLine.run Report.render argv files
  IO.print outcome.output
  IO.eprint outcome.errors
  return outcome.exitCode.toUInt32

import ServiceDiagram.Ingest.Reader
import ServiceDiagram.Json.Reader
import ServiceDiagram.Text.Replace
import ServiceDiagram.Text.Utf8

namespace ServiceDiagram

/-- Files by their plain paths. They lie in one directory and those below it; a path is brought into
its plain form before it is looked up. -/
abbrev FileTree := List (String × List UInt8)

/-- Why a file cannot be read. -/
inductive FileError where
  | notFound (path : String)
  | isDirectory (path : String)
  | notDirectory (path : String)
  | nullInPath
  deriving DecidableEq, Repr

def FileError.message : FileError → String
  | notFound path => "[Errno 2] No such file or directory: " ++ Text.quoted path
  | isDirectory path => "[Errno 21] Is a directory: " ++ Text.quoted path
  | notDirectory path => "[Errno 20] Not a directory: " ++ Text.quoted path
  | nullInPath => "embedded null byte"

namespace FilePath

/-- The components of a path, those that name the same place left out. -/
def components (path : String) : List (List Char) :=
  (Text.splitOn '/' path.toList).filter fun part => !part.isEmpty && part != ['.']

/-- The slashes at the front of a path's plain form: two stay two, more become one. -/
def rootOf (path : String) : List Char :=
  let slashes := path.toList.takeWhile (· == '/')
  if slashes.length = 0 then [] else if slashes.length = 2 then ['/', '/'] else ['/']

def joined : List (List Char) → List Char
  | [] => []
  | [part] => part
  | part :: rest => part ++ '/' :: joined rest

/-- The plain form of a path. -/
def plain (path : String) : String :=
  let cs := rootOf path ++ joined (components path)
  String.ofList (if cs.isEmpty then ['.'] else cs)

/-- The name of a path's last component without its ending; a dot at either end of the name
begins no ending. -/
def stem (path : String) : String :=
  let name := ((components path).getLast?).getD []
  let ending := (name.reverse.takeWhile (· != '.')).length
  let keep := name.length - ending - 1
  String.ofList (if ending = 0 ∨ ending = name.length ∨ keep = 0 then name else name.take keep)

end FilePath

namespace FileTree

/-- Whether a path names a directory: the one in which the files lie, one that leads to a file,
or one above. -/
def isDirectory (files : FileTree) (path : String) : Bool :=
  path == "." || path == "/" || (FilePath.components path).all (· == ['.', '.']) ||
    files.any fun (name, _) => (path ++ "/").toList.isPrefixOf name.toList

/-- Whether a path leads through a file. -/
def passesFile (files : FileTree) (path : String) : Bool :=
  files.any fun (name, _) => (name ++ "/").toList.isPrefixOf path.toList

/-- The bytes of a file, its path in plain form. -/
def read (files : FileTree) (path : String) : Except FileError (List UInt8) :=
  if path.toList.contains (Char.ofNat 0) then .error .nullInPath
  else
    match files.lookup path with
    | some bytes => .ok bytes
    | none =>
      if files.isDirectory path then .error (.isDirectory path)
      else if files.passesFile path then .error (.notDirectory path)
      else .error (.notFound path)

end FileTree

/-- Why a file gives no model. -/
inductive FileLoadError where
  | file (e : FileError)
  | encoding (e : Text.Utf8.DecodeError)
  | tooManyDigits (digits : Nat)
  | load (e : LoadError)
  deriving DecidableEq

def FileLoadError.message : FileLoadError → String
  | file e => e.message
  | encoding e => e.message
  | tooManyDigits digits => digitLimitMessage digits
  | load e => e.message

namespace Ingest

/-- The text with every line break written as a line feed. -/
def unifyBreaks : List Char → List Char
  | [] => []
  | '\r' :: '\n' :: rest => '\n' :: unifyBreaks rest
  | '\r' :: rest => '\n' :: unifyBreaks rest
  | c :: rest => c :: unifyBreaks rest

/-- The data in the bytes of a file. -/
def readData (path : String) (bytes : List UInt8) : Except FileLoadError Value :=
  match Text.Utf8.decode bytes with
  | .error e => .error (.encoding e)
  | .ok cs =>
    let text := unifyBreaks cs
    match Json.read text with
    | .ok v => .ok v
    | .error (.malformed cause left) =>
      .error (.load ⟨path, .json cause (Json.lineOf text left)⟩)
    | .error (.tooManyDigits digits) => .error (.tooManyDigits digits)

/-- The data in a file. -/
def readFile (files : FileTree) (path : String) : Except FileLoadError Value :=
  match files.read path with
  | .error e => .error (.file e)
  | .ok bytes => readData path bytes

/-- Reads the model in a file; a model without a name is named after the file. -/
def loadFile (files : FileTree) (path : String) :
    ExceptT FileLoadError (StateM (List Event)) Model := do
  let plain := FilePath.plain path
  let data ← readFile files plain
  ExceptT.adapt .load (loadModel data (FilePath.stem path))

end Ingest

/-- The model in a file. -/
def Model.loadFile (files : FileTree) (path : String) : Except FileLoadError Model :=
  ((Ingest.loadFile files path).run.run []).1

end ServiceDiagram

import ServiceDiagram.Number.IntText
import ServiceDiagram.Text.Quoted
import ServiceDiagram.Text.Replace

namespace ServiceDiagram.CommandLine

inductive Flag where
  | help
  | seed
  | width
  | noColor
  | verbose
  deriving DecidableEq, Repr

namespace Flag

def all : List Flag := [help, seed, width, noColor, verbose]

def names : Flag → List String
  | help => ["-h", "--help"]
  | seed => ["--seed"]
  | width => ["--width"]
  | noColor => ["--no-color"]
  | verbose => ["-v", "--verbose"]

def takesValue : Flag → Bool
  | seed | width => true
  | _ => false

/-- The names in messages. -/
def title (f : Flag) : String := String.intercalate "/" f.names

end Flag

/-- All names of options, each with its option. -/
def optionNames : List (String × Flag) :=
  Flag.all.flatMap fun f => f.names.map fun name => (name, f)

inductive ArgumentError where
  | ambiguous (argument : String) (candidates : List String)
  | valueMissing (f : Flag)
  | valueUnwanted (f : Flag) (value : String)
  | notInteger (f : Flag) (value : String)
  | modelMissing
  | unrecognized (arguments : List String)
  deriving DecidableEq, Repr

namespace ArgumentError

def ofFlag (f : Flag) (reason : String) : String := "argument " ++ f.title ++ ": " ++ reason

def message : ArgumentError → String
  | ambiguous argument candidates =>
    "ambiguous option: " ++ argument ++ " could match " ++ String.intercalate ", " candidates
  | valueMissing f => ofFlag f "expected one argument"
  | valueUnwanted f value => ofFlag f ("ignored explicit argument " ++ Text.quoted value)
  | notInteger f value => ofFlag f ("invalid int value: " ++ Text.quoted value)
  | modelMissing => "the following arguments are required: model"
  | unrecognized arguments => "unrecognized arguments: " ++ String.intercalate " " arguments

end ArgumentError

/-- An option as it is written: its name in full, and the value written with it, if there is
one. -/
structure GivenOption where
  flag : Flag
  name : String
  value : Option String

/-- What an argument is taken for. -/
inductive Token where
  | word (s : String)
  | option (o : GivenOption)
  | unknown (s : String)
  | separator

/-- Splits an argument at the first equals sign. -/
def splitValue (s : String) : String × Option String :=
  let (name, value) := Text.partition '=' s.toList
  (String.ofList name, value.map String.ofList)

/-- The options that a long argument may be short for. -/
def longCandidates (s : String) : List GivenOption :=
  let (name, value) := splitValue s
  optionNames.filterMap fun (full, f) =>
    if name.toList.isPrefixOf full.toList then some ⟨f, full, value⟩ else none

/-- The options that a short argument may stand for: one with what follows it as its value, or
one that the argument is short for. -/
def shortCandidates (s : String) : List GivenOption :=
  let cs := s.toList
  optionNames.filterMap fun (full, f) =>
    if full.toList = cs.take 2 then some ⟨f, full, some (String.ofList (cs.drop 2))⟩
    else if cs.isPrefixOf full.toList then some ⟨f, full, none⟩
    else none

/-- Whether an argument looks like a negative number. -/
def isNegativeNumber (cs : List Char) : Bool :=
  match cs with
  | '-' :: rest =>
    let body := if rest.getLast? = some '\n' then rest.dropLast else rest
    let (whole, after) := body.span Text.isDigit
    match after with
    | [] => !whole.isEmpty
    | '.' :: places => !places.isEmpty && places.all Text.isDigit
    | _ => false
  | _ => false

/-- The options that an argument with a hyphen in front may stand for. -/
def candidates (s : String) : List GivenOption :=
  let (name, value) := splitValue s
  match optionNames.lookup s, value, optionNames.lookup name with
  | some f, _, _ => [⟨f, s, none⟩]
  | none, some v, some f => [⟨f, name, some v⟩]
  | none, _, _ => if "--".toList.isPrefixOf s.toList then longCandidates s else shortCandidates s

/-- What an argument before the separator is taken for. -/
def classify (s : String) : Except ArgumentError Token :=
  match s.toList with
  | '-' :: _ :: _ =>
    match candidates s with
    | [o] => .ok (.option o)
    | [] =>
      if isNegativeNumber s.toList || s.toList.contains ' ' then .ok (.word s)
      else .ok (.unknown s)
    | many => .error (.ambiguous s (many.map GivenOption.name))
  | _ => .ok (.word s)

/-- What the arguments are taken for. -/
def tokens : List String → Except ArgumentError (List Token)
  | [] => .ok []
  | s :: rest =>
    if s = "--" then .ok (.separator :: rest.map .word)
    else do
      let t ← classify s
      return t :: (← tokens rest)

/-- The arguments of the command. Options may stand anywhere; a long one may be shortened as far as
it stays apart from the others, a value may follow after an equals sign or as the next argument, and
short options may be written together. What follows two hyphens is no option. -/
structure Arguments where
  model : String
  seed : Int
  width : Int
  color : Bool
  verbose : Bool
  deriving DecidableEq, Repr

/-- What has been read of the arguments. -/
structure Progress where
  model : Option String
  seed : Int
  width : Int
  color : Bool
  verbose : Bool
  unrecognized : List String

/-- What the arguments ask for. -/
inductive Order where
  | help
  | report (a : Arguments)
  deriving DecidableEq, Repr

namespace Progress

def initial : Progress := ⟨none, 0, 120, true, false, []⟩

/-- Takes a word for the model, or as one too many. -/
def addWord (p : Progress) (s : String) : Progress :=
  if p.model.isNone then { p with model := some s }
  else { p with unrecognized := p.unrecognized ++ [s] }

def addUnrecognized (p : Progress) (s : String) : Progress :=
  { p with unrecognized := p.unrecognized ++ [s] }

/-- Sets what an option without a value stands for. -/
def setFlag (p : Progress) : Flag → Progress
  | .noColor => { p with color := false }
  | .verbose => { p with verbose := true }
  | _ => p

/-- Sets an option with a value. -/
def setValue (p : Progress) (f : Flag) (value : String) : Except ArgumentError Progress :=
  match readInt? value with
  | none => .error (.notInteger f value)
  | some n => .ok (if f = .seed then { p with seed := n } else { p with width := n })

/-- What the arguments ask for in the end. -/
def finish (p : Progress) : Except ArgumentError Order :=
  match p.model with
  | none => .error .modelMissing
  | some model =>
    if p.unrecognized.isEmpty then
      .ok (.report ⟨model, p.seed, p.width, p.color, p.verbose⟩)
    else .error (.unrecognized p.unrecognized)

end Progress

/-- The options without a value that are written together, the first one given; what stands after
it is a value that it does not want, unless it is one more such option. -/
def together (f : Flag) (name : String) : List Char → Except ArgumentError (List Flag)
  | [] => .error (.valueUnwanted f "")
  | c :: rest =>
    let next := String.ofList ['-', c]
    match optionNames.lookup next with
    | some g =>
      if name.length ≠ 2 then .error (.valueUnwanted f (String.ofList (c :: rest)))
      else if rest.isEmpty then .ok [f, g]
      else (together g next rest).map (f :: ·)
    | none => .error (.valueUnwanted f (String.ofList (c :: rest)))

/-- The options without a value that an option stands for. -/
def flagsOf (o : GivenOption) : Except ArgumentError (List Flag) :=
  match o.value with
  | none => .ok [o.flag]
  | some v => together o.flag o.name v.toList

/-- What comes of an option: the help is asked for, or reading goes on, with the word after the
option or behind it. -/
inductive Step where
  | help
  | further (p : Progress) (withNext : Bool)

/-- Reads an option; `next` is the word that follows it, if one does. -/
def readOption (p : Progress) (o : GivenOption) (next : Option String) :
    Except ArgumentError Step :=
  if o.flag.takesValue then
    match o.value, next with
    | some v, _ => (p.setValue o.flag v).map (.further · true)
    | none, some v => (p.setValue o.flag v).map (.further · false)
    | none, none => .error (.valueMissing o.flag)
  else
    (flagsOf o).map fun flags =>
      if flags.contains .help then .help else .further (flags.foldl Progress.setFlag p) true

/-- Reads tokens one after the other. -/
def readTokens (p : Progress) : List Token → Except ArgumentError Order
  | [] => p.finish
  | .word s :: .separator :: rest =>
    if p.model.isNone then readTokens (p.addWord s) rest
    else readTokens (p.addWord s) (.separator :: rest)
  | .word s :: rest => readTokens (p.addWord s) rest
  | .separator :: rest =>
    if p.model.isNone && !rest.isEmpty then readTokens p rest
    else readTokens (p.addUnrecognized "--") rest
  | .unknown s :: rest => readTokens (p.addUnrecognized s) rest
  | .option o :: .word v :: rest =>
    match readOption p o (some v) with
    | .error e => .error e
    | .ok .help => .ok .help
    | .ok (.further p withNext) =>
      if withNext then readTokens p (.word v :: rest) else readTokens p rest
  | .option o :: rest =>
    match readOption p o none with
    | .error e => .error e
    | .ok .help => .ok .help
    | .ok (.further p _) => readTokens p rest

/-- What arguments ask for. -/
def read (argv : List String) : Except ArgumentError Order := do
  readTokens .initial (← tokens argv)

end ServiceDiagram.CommandLine

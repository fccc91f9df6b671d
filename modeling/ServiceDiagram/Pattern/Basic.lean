namespace ServiceDiagram

namespace Pattern

inductive Flag where
  | ignoreCase
  | multiLine
  | dotAll
  | verbose
  | ascii
  | unicode
  | locale
  | template
  deriving DecidableEq, Repr

/-- The flag that a letter stands for. -/
def Flag.ofLetter? (c : Char) : Option Flag :=
  if c = 'i' then some .ignoreCase
  else if c = 'm' then some .multiLine
  else if c = 's' then some .dotAll
  else if c = 'x' then some .verbose
  else if c = 'a' then some .ascii
  else if c = 'u' then some .unicode
  else if c = 'L' then some .locale
  else if c = 't' then some .template
  else none

/-- Whether a flag chooses the character set; a part of a pattern has one of these. -/
def Flag.isCharset : Flag → Bool
  | .ascii | .unicode | .locale => true
  | _ => false

/-- A set of flags. -/
abbrev Flags := List Flag

namespace Flags

def add (fs : Flags) (f : Flag) : Flags := if fs.contains f then fs else fs ++ [f]

def union (fs gs : Flags) : Flags := gs.foldl add fs

/-- The flags inside a part that adds some flags and removes others. -/
def within (fs added removed : Flags) : Flags :=
  let kept := if added.any Flag.isCharset then fs.filter (fun f => !f.isCharset) else fs
  (union kept added).filter fun f => !removed.contains f

end Flags

inductive Anchor where
  | lineStart
  | lineEnd
  | textStart
  | textEnd
  | boundary
  | notBoundary
  deriving DecidableEq, Repr

inductive Category where
  | digit
  | blank
  | word
  deriving DecidableEq, Repr

/-- A member of a character set; code points may be surrogates, which no text holds. -/
inductive SetItem where
  | single (code : Nat)
  | range (low high : Nat)
  | category (which : Category) (negated : Bool)
  deriving DecidableEq, Repr

inductive Greed where
  | greedy
  | lazy
  | possessive
  deriving DecidableEq, Repr

/-- What patterns are made of: captures, back references, look-around, lazy and possessive
repetition, and flags for a part of the pattern. -/
inductive Node where
  | char (code : Nat)
  | notChar (code : Nat)
  | anyChar
  | oneOf (negated : Bool) (items : List SetItem)
  | anchor (which : Anchor)
  | backReference (group : Nat)
  | group (index? : Option Nat) (added removed : Flags) (body : List Node)
  | atomicGroup (body : List Node)
  | look (ahead negated : Bool) (body : List Node)
  | conditional (group : Nat) (yes : List Node) (no : Option (List Node))
  | loop (greed : Greed) (least : Nat) (most : Option Nat) (body : List Node)
  | branch (choices : List (List Node))

/-- Whether two nodes without parts are the same; nodes with parts never count as the same. -/
def Node.sameLeaf : Node → Node → Bool
  | .char a, .char b => a == b
  | .notChar a, .notChar b => a == b
  | .anyChar, .anyChar => true
  | .oneOf n xs, .oneOf m ys => n == m && xs == ys
  | .anchor a, .anchor b => a == b
  | .backReference a, .backReference b => a == b
  | _, _ => false

end Pattern

/-- A pattern: its text, its flags, the least and greatest width of each of its groups, and its
structure. -/
structure Pattern where
  text : String
  flags : Pattern.Flags
  groups : List (Option (Nat × Nat))
  nodes : List Pattern.Node

/-- The letters of the flags for case, lines and dots that a pattern has. -/
def Pattern.flagLetters (p : Pattern) : String :=
  (if p.flags.contains .ignoreCase then "i" else "") ++
    (if p.flags.contains .multiLine then "m" else "") ++
    (if p.flags.contains .dotAll then "s" else "")

end ServiceDiagram

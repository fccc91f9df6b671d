import ServiceDiagram.Pattern.CaseFold
import ServiceDiagram.Pattern.Width
import ServiceDiagram.Text.Blank
import ServiceDiagram.Text.Digit
import ServiceDiagram.Text.Word

namespace ServiceDiagram.Pattern

/-- A place in a text, with what the groups have captured. The part before is kept backwards. -/
structure MatchState where
  before : List Char
  after : List Char
  captures : List (Nat × List Char)

namespace MatchState

def start (cs : List Char) : MatchState := ⟨[], cs, []⟩

/-- Moves over the next character if it passes a test. -/
def take? (ok : Char → Bool) (s : MatchState) : Option MatchState :=
  match s.after with
  | [] => none
  | c :: rest => if ok c then some { s with before := c :: s.before, after := rest } else none

/-- Moves back over `n` characters. -/
def back? : Nat → MatchState → Option MatchState
  | 0, s => some s
  | n + 1, s =>
    match s.before with
    | [] => none
    | c :: rest => back? n { s with before := rest, after := c :: s.after }

/-- The text between an earlier state and this one. -/
def since (s earlier : MatchState) : List Char :=
  earlier.after.take (earlier.after.length - s.after.length)

/-- Notes what a group captured. -/
def capture (s : MatchState) (group : Nat) (text : List Char) : MatchState :=
  { s with captures := (group, text) :: s.captures }

def captured? (s : MatchState) (group : Nat) : Option (List Char) := s.captures.lookup group

end MatchState

/-- Matches something and then what is to follow: gives the first state in which both succeed.
Choices are tried in order, so the rest of the pattern decides how far a repetition goes, and a
repetition that matched nothing is not repeated. -/
abbrev Matcher := MatchState → (MatchState → Option MatchState) → Option MatchState

/-- Whether a character belongs to a category, in ASCII or in every script. -/
def Category.contains (ascii : Bool) (c : Char) : Category → Bool
  | .digit => if ascii then Text.isAsciiDigit c else Text.isDigit c
  | .blank =>
    if ascii then c == ' ' || (decide (9 ≤ c.toNat) && decide (c.toNat ≤ 13))
    else Text.isBlank c
  | .word =>
    if ascii then Text.isAsciiLetter c || Text.isAsciiDigit c || c == '_' else Text.isWord c

/-- Whether a set member holds a character. -/
def SetItem.contains (ascii : Bool) (c : Char) : SetItem → Bool
  | .single n => c.toNat == n
  | .range low high => decide (low ≤ c.toNat) && decide (c.toNat ≤ high)
  | .category which negated => which.contains ascii c != negated

/-- Whether a set member holds a character when case is ignored; the character is given in lower
case. Code points beyond the basic plane are compared as they are, in ranges also in upper
case. -/
def SetItem.containsFolded (ascii : Bool) (c : Char) : SetItem → Bool
  | .single n =>
    if lowerCode ascii n < 0x10000 then sameLetter ascii c.toNat n else c.toNat == n
  | .range low high =>
    let basic := (List.range (min high 0xFFFF + 1 - low)).any fun i =>
      sameLetter ascii c.toNat (low + i)
    let inside (n : Nat) : Bool := decide (low ≤ n) && decide (n ≤ high)
    basic || (decide (0xFFFF < high) && (inside c.toNat || inside (Text.upperChar c).toNat))
  | .category which negated => which.contains ascii c != negated

/-- How characters are compared. -/
structure Style where
  ignoreCase : Bool
  multiLine : Bool
  dotAll : Bool
  ascii : Bool

def Style.ofFlags (fs : Flags) : Style :=
  ⟨fs.contains .ignoreCase, fs.contains .multiLine, fs.contains .dotAll, fs.contains .ascii⟩

namespace Style

/-- The lower case of a character. -/
def lower (y : Style) (c : Char) : Char := Char.ofNat (lowerCode y.ascii c.toNat)

/-- Whether a character matches a code point of the pattern. -/
def sameChar (y : Style) (code : Nat) (c : Char) : Bool :=
  if y.ignoreCase then sameLetter y.ascii (lowerCode y.ascii c.toNat) code else c.toNat == code

/-- Whether a character is in a set of the pattern. -/
def inSet (y : Style) (negated : Bool) (items : List SetItem) (c : Char) : Bool :=
  let inside :=
    if y.ignoreCase then items.any (SetItem.containsFolded y.ascii (y.lower c))
    else items.any (SetItem.contains y.ascii c)
  inside != negated

/-- Whether a word character stands next to this place on the given side. -/
def wordAt (y : Style) : List Char → Bool
  | [] => false
  | c :: _ => Category.contains y.ascii c .word

/-- Whether a place is the one that an anchor asks for. A text without characters has no
boundary and no place without one. -/
def holdsAt (y : Style) (s : MatchState) : Anchor → Bool
  | .lineStart => s.before.isEmpty || (y.multiLine && s.before.head? == some '\n')
  | .lineEnd =>
    s.after.isEmpty || s.after == ['\n'] || (y.multiLine && s.after.head? == some '\n')
  | .textStart => s.before.isEmpty
  | .textEnd => s.after.isEmpty
  | .boundary => y.wordAt s.before != y.wordAt s.after
  | .notBoundary =>
    !(s.before.isEmpty && s.after.isEmpty) && y.wordAt s.before == y.wordAt s.after

/-- Moves over a text that stands next. -/
def takeText? (y : Style) : List Char → MatchState → Option MatchState
  | [], s => some s
  | c :: rest, s => do
    let same (d : Char) : Bool := if y.ignoreCase then y.lower d == y.lower c else d == c
    takeText? y rest (← s.take? same)

end Style

/-- Repeats as often as it can. -/
def repeatGreedy (m : Matcher) (least : Nat) (most : Option Nat) :
    Nat → Nat → Option Nat → Matcher
  | 0, _, _ => fun _ _ => none
  | fuel + 1, count, last => fun s k =>
    if count < least then
      m s fun t => repeatGreedy m least most fuel (count + 1) last t k
    else
      let more := (most.map fun n => decide (count < n)).getD true
      let here := s.after.length
      let longer :=
        if more && last != some here then
          m s fun t => repeatGreedy m least most fuel (count + 1) (some here) t k
        else none
      match longer with
      | some t => some t
      | none => k s

/-- Repeats as seldom as it can. -/
def repeatLazy (m : Matcher) (least : Nat) (most : Option Nat) :
    Nat → Nat → Option Nat → Matcher
  | 0, _, _ => fun _ _ => none
  | fuel + 1, count, last => fun s k =>
    if count < least then
      m s fun t => repeatLazy m least most fuel (count + 1) last t k
    else
      match k s with
      | some t => some t
      | none =>
        let more := (most.map fun n => decide (count < n)).getD true
        let here := s.after.length
        if more && last != some here then
          m s fun t => repeatLazy m least most fuel (count + 1) (some here) t k
        else none

/-- Repeats as often as it can, each time in the first way that succeeds, and never takes a
repetition back. -/
def repeatPossessive (m : Matcher) (least : Nat) (most : Option Nat) :
    Nat → Nat → Option Nat → MatchState → Option MatchState
  | 0, _, _, _ => none
  | fuel + 1, count, last, s =>
    if count < least then
      (m s some).bind fun t => repeatPossessive m least most fuel (count + 1) last t
    else
      let more := (most.map fun n => decide (count < n)).getD true
      let here := s.after.length
      if more && last != some here then
        match m s some with
        | some t => repeatPossessive m least most fuel (count + 1) (some here) t
        | none => some s
      else some s

/-- Repeats something. The fuel allows for the least count and, after it, for each repetition to
take a character and for one to take none. -/
def repeated (greed : Greed) (m : Matcher) (least : Nat) (most : Option Nat) : Matcher :=
  fun s k =>
    let fuel := least + s.after.length + 2
    match greed with
    | .greedy => repeatGreedy m least most fuel 0 none s k
    | .lazy => repeatLazy m least most fuel 0 none s k
    | .possessive => (repeatPossessive m least most fuel 0 none s).bind k

mutual

/-- The matcher of a node under the flags that hold for it. -/
def Node.matcher (groups : List (Option Width)) (flags : Flags) : Node → Matcher
  | .char n => fun s k => (s.take? ((Style.ofFlags flags).sameChar n)).bind k
  | .notChar n => fun s k => (s.take? fun c => !(Style.ofFlags flags).sameChar n c).bind k
  | .anyChar => fun s k =>
    (s.take? fun c => (Style.ofFlags flags).dotAll || c != '\n').bind k
  | .oneOf negated items => fun s k =>
    (s.take? ((Style.ofFlags flags).inSet negated items)).bind k
  | .anchor a => fun s k => if (Style.ofFlags flags).holdsAt s a then k s else none
  | .backReference g => fun s k =>
    match s.captured? g with
    | none => none
    | some text => ((Style.ofFlags flags).takeText? text s).bind k
  | .group index added removed body => fun s k =>
    let m := matchNodes groups (flags.within added removed) body
    match index with
    | none => m s k
    | some g => m s fun t => k (t.capture g (t.since s))
  | .atomicGroup body => fun s k => (matchNodes groups flags body s some).bind k
  | .look ahead negated body => fun s k =>
    let found :=
      if ahead then matchNodes groups flags body s some
      else (s.back? (sequenceWidth groups body).1).bind fun b => matchNodes groups flags body b some
    match found, negated with
    | some t, false => k { s with captures := t.captures }
    | none, true => k s
    | _, _ => none
  | .conditional g yes no => fun s k =>
    if (s.captured? g).isSome then matchNodes groups flags yes s k
    else
      match no with
      | some body => matchNodes groups flags body s k
      | none => k s
  | .loop greed least most body =>
    repeated greed (matchNodes groups flags body) least most
  | .branch choices => matchChoices groups flags choices

/-- The matcher of nodes one after the other. -/
def matchNodes (groups : List (Option Width)) (flags : Flags) : List Node → Matcher
  | [] => fun s k => k s
  | n :: rest => fun s k =>
    n.matcher groups flags s fun t => matchNodes groups flags rest t k

/-- The matcher that tries choices in order. -/
def matchChoices (groups : List (Option Width)) (flags : Flags) : List (List Node) → Matcher
  | [] => fun _ _ => none
  | c :: rest => fun s k =>
    match matchNodes groups flags c s k with
    | some t => some t
    | none => matchChoices groups flags rest s k

end

/-- Whether a matcher succeeds at a place of the text or at a later one. -/
def searchFrom (m : Matcher) (before : List Char) : List Char → Bool
  | [] => (m ⟨before, [], []⟩ some).isSome
  | c :: rest =>
    (m ⟨before, c :: rest, []⟩ some).isSome || searchFrom m (c :: before) rest

/-- Whether a pattern matches somewhere in a text. -/
def search (p : Pattern) (s : String) : Bool :=
  searchFrom (matchNodes p.groups p.flags p.nodes) [] s.toList

end ServiceDiagram.Pattern

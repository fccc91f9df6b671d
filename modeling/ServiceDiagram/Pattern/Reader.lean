import ServiceDiagram.Pattern.Fault
import ServiceDiagram.Pattern.Width
import ServiceDiagram.Text.CharacterName
import ServiceDiagram.Text.Digit
import ServiceDiagram.Text.Identifier

namespace ServiceDiagram.Pattern

/-- Counts of repetitions lie below this number. -/
def countLimit : Nat := 4294967295

/-- Numbers of groups lie below this number. -/
def groupLimit : Nat := 1073741823

/-- The state of reading: what is left of the text, the flags so far, the widths of the groups
with none for one still open, their names, the count of groups when the outermost look-behind
began, and where groups were first named by number in a condition. -/
structure Scan where
  total : Nat
  rest : List Char
  flags : Flags
  groups : List (Option Width)
  names : List (String × Nat)
  lookbehind : Option Nat
  references : List (Nat × Nat)

abbrev Read := StateT Scan (Except Fault)

/-- The first token of a text. A backslash and the character after it are one token. -/
def token? : List Char → Option (List Char)
  | [] => none
  | '\\' :: c :: _ => some ['\\', c]
  | c :: _ => some [c]

/-- Whether a token is the character `c`. -/
def isToken (t : Option (List Char)) (c : Char) : Bool := t == some [c]

namespace Read

def peek : Read (Option (List Char)) := do return token? (← get).rest

/-- The place of the next token. -/
def place : Read Nat := do
  let s ← get
  return s.total - s.rest.length

def failAt {α : Type} (cause : Cause) (place : Nat) : Read α :=
  throw (.malformed cause (some place))

/-- Fails at a place so many characters before the next token. -/
def fail {α : Type} (cause : Cause) (back : Nat) : Read α := do failAt cause ((← place) - back)

/-- Takes the next token. A backslash that ends the text is no token. -/
def next : Read (Option (List Char)) := do
  let s ← get
  let t := token? s.rest
  let rest := s.rest.drop ((t.map List.length).getD 0)
  if rest = ['\\'] then failAt .endInEscape (s.total - 1)
  else
    set { s with rest := rest }
    return t

/-- Takes the next token if it is the character `c`. -/
def accept (c : Char) : Read Bool := do
  if isToken (← peek) c then
    let _ ← next
    return true
  else return false

/-- Takes up to `n` single characters of a class. -/
def takeUpTo (ok : Char → Bool) : Nat → Read (List Char)
  | 0 => return []
  | n + 1 => do
    match ← peek with
    | some [c] =>
      if ok c then
        let _ ← next
        return c :: (← takeUpTo ok n)
      else return []
    | _ => return []

/-- Takes the text up to a terminator, which is taken too. -/
def takeName (terminator : Char) (what : String) : Nat → List Char → Read (List Char)
  | 0, _ => fail (.missingName what) 0
  | fuel + 1, name => do
    match ← next with
    | none =>
      if name.isEmpty then fail (.missingName what) 0
      else fail (.openName terminator) name.length
    | some t =>
      if t = [terminator] then
        if name.isEmpty then fail (.missingName what) 1 else return name
      else takeName terminator what fuel (name ++ t)

/-- Skips a comment up to the end of its line. -/
def skipLine : Nat → Read Unit
  | 0 => return ()
  | fuel + 1 => do
    match ← next with
    | none => return ()
    | some t => if t = ['\n'] then return () else skipLine fuel

/-- Skips a comment up to its closing parenthesis; the comment began at `start`. -/
def skipComment (start : Nat) : Nat → Read Unit
  | 0 => return ()
  | fuel + 1 => do
    match ← next with
    | none => failAt .openComment start
    | some t => if t = [')'] then return () else skipComment start fuel

/-- The fuel that suffices to walk over what is left of the text. -/
def fuel : Read Nat := do return (← get).rest.length + 1

end Read

open Read

def isHex (c : Char) : Bool := (Text.hexValue? c).isSome

def isOctal (c : Char) : Bool := decide ('0' ≤ c) && decide (c ≤ '7')

/-- The number that digits denote in a base. -/
def numberOf (base : Nat) (ds : List Char) : Nat :=
  ofDigitValues base (ds.map fun c => (Text.hexValue? c).getD 0)

/-- The character that a letter after a backslash stands for. -/
def controlEscape? (c : Char) : Option Nat :=
  if c = 'a' then some 7
  else if c = 'b' then some 8
  else if c = 'f' then some 12
  else if c = 'n' then some 10
  else if c = 'r' then some 13
  else if c = 't' then some 9
  else if c = 'v' then some 11
  else if c = '\\' then some 92
  else none

/-- The class of characters that a letter after a backslash stands for. -/
def categoryEscape? (c : Char) : Option SetItem :=
  if c = 'd' then some (.category .digit false)
  else if c = 'D' then some (.category .digit true)
  else if c = 's' then some (.category .blank false)
  else if c = 'S' then some (.category .blank true)
  else if c = 'w' then some (.category .word false)
  else if c = 'W' then some (.category .word true)
  else none

/-- The place that a letter after a backslash stands for. -/
def anchorEscape? (c : Char) : Option Anchor :=
  if c = 'A' then some .textStart
  else if c = 'b' then some .boundary
  else if c = 'B' then some .notBoundary
  else if c = 'Z' then some .textEnd
  else none

/-- Fails on an escape, at the place where it begins. -/
def badEscape {α : Type} (escape : List Char) : Read α :=
  fail (.badEscape (String.ofList escape)) escape.length

/-- Reads a code of exactly `digits` hexadecimal digits after the letter `c`. -/
def readHexEscape (c : Char) (digits : Nat) : Read Nat := do
  let ds ← takeUpTo isHex digits
  let escape := '\\' :: c :: ds
  if ds.length ≠ digits then fail (.incompleteEscape (String.ofList escape)) escape.length
  else
    let n := numberOf 16 ds
    if 0x10FFFF < n then badEscape escape else return n

/-- Reads the name of a character. -/
def readNamedEscape : Read Nat := do
  if ← accept '\x7b' then
    let name ← takeName '\x7d' "character name" (← fuel) []
    match Text.characterNamed? name with
    | some n => return n
    | none => fail (.undefinedCharacterName (String.ofList name)) (name.length + 4)
  else fail .missingBrace 0

/-- Reads the escapes that mean the same inside and outside a character set. -/
def readCodeEscape? (c : Char) : Read (Option Nat) := do
  if c = 'x' then return some (← readHexEscape c 2)
  else if c = 'u' then return some (← readHexEscape c 4)
  else if c = 'U' then return some (← readHexEscape c 8)
  else if c = 'N' then return some (← readNamedEscape)
  else return none

/-- The escape of a character that needs none; letters and digits have a meaning or are bad. -/
def readPlainEscape (c : Char) : Read Nat :=
  if Text.isAsciiLetter c || Text.isAsciiDigit c then badEscape ['\\', c] else return c.toNat

/-- Reads an octal code up to 0o377. -/
def checkOctal (ds : List Char) : Read Nat :=
  let n := numberOf 8 ds
  if 0o377 < n then
    fail (.octalTooLarge (String.ofList ('\\' :: ds))) (ds.length + 1)
  else return n

/-- Reads the escape of `c` inside a character set. -/
def readSetEscape (c : Char) : Read SetItem := do
  match controlEscape? c, categoryEscape? c with
  | some n, _ => return .single n
  | none, some item => return item
  | none, none =>
    match ← readCodeEscape? c with
    | some n => return .single n
    | none =>
      if isOctal c then
        let ds ← takeUpTo isOctal 2
        return .single (← checkOctal (c :: ds))
      else return .single (← readPlainEscape c)

def isGroup (s : Scan) (g : Nat) : Bool := decide (g < s.groups.length)

def isClosedGroup (s : Scan) (g : Nat) : Bool := (s.groups[g]?).join.isSome

/-- Inside a look-behind only groups that were closed before it may be referred to. -/
def checkLookbehind (g : Nat) : Read Unit := do
  let s ← get
  match s.lookbehind with
  | none => return ()
  | some opened =>
    if !isClosedGroup s g then fail .openGroupReference 0
    else if opened ≤ g then fail .lookbehindReference 0
    else return ()

/-- Reads a reference to a group by number; `escape` is what was read of it. -/
def readReference (digits : List Char) : Read Node := do
  let g := numberOf 10 digits
  let s ← get
  if !isGroup s g then fail (.unknownGroup g) digits.length
  else if !isClosedGroup s g then fail .openGroupReference (digits.length + 1)
  else
    checkLookbehind g
    return .backReference g

/-- Reads an escape that begins with a digit: an octal code if it is nought or has three octal
digits, else a reference. -/
def readDigitEscape (c : Char) : Read Node := do
  if c = '0' then
    let ds ← takeUpTo isOctal 2
    return .char (numberOf 8 (c :: ds))
  else
    match ← takeUpTo Text.isAsciiDigit 1 with
    | [d] =>
      if isOctal c && isOctal d then
        match ← takeUpTo isOctal 1 with
        | [e] => return .char (← checkOctal [c, d, e])
        | _ => readReference [c, d]
      else readReference [c, d]
    | _ => readReference [c]

/-- Reads the escape of `c` outside character sets. -/
def readEscape (c : Char) : Read Node := do
  match anchorEscape? c, categoryEscape? c, controlEscape? c with
  | some a, _, _ => return .anchor a
  | none, some item, _ => return .oneOf false [item]
  | none, none, some n => return .char n
  | none, none, none =>
    match ← readCodeEscape? c with
    | some n => return .char n
    | none =>
      if Text.isAsciiDigit c then readDigitEscape c else return .char (← readPlainEscape c)

/-- Reads the set member that a token begins. -/
def readSetMember : List Char → Read SetItem
  | ['\\', c] => readSetEscape c
  | c :: _ => return .single c.toNat
  | [] => return .single 0

/-- The members without repetitions. -/
def distinctItems (items : List SetItem) : List SetItem :=
  items.foldl (fun acc i => if acc.contains i then acc else acc ++ [i]) []

/-- The range between two members that were written as the given tokens. -/
def rangeOf (low high : SetItem) (lowToken highToken : List Char) : Read SetItem := do
  let bad := fail (α := SetItem) (.badRange (String.ofList lowToken) (String.ofList highToken))
    (lowToken.length + 1 + highToken.length)
  match low, high with
  | .single a, .single b => if b < a then bad else return .range a b
  | _, _ => bad

/-- Reads the members of a character set that began at `start`, up to its closing bracket. -/
def readSetItems (start : Nat) : Nat → List SetItem → Read (List SetItem)
  | 0, _ => failAt .unterminatedSet start
  | fuel + 1, items => do
    match ← next with
    | none => failAt .unterminatedSet start
    | some this =>
      if this = [']'] && !items.isEmpty then return items
      else
        let low ← readSetMember this
        if ← accept '-' then
          match ← next with
          | none => failAt .unterminatedSet start
          | some that =>
            if that = [']'] then return items ++ [low, .single '-'.toNat]
            else
              let high ← readSetMember that
              readSetItems start fuel (items ++ [← rangeOf low high this that])
        else readSetItems start fuel (items ++ [low])

/-- Reads a character set after its opening bracket. -/
def readSet : Read Node := do
  let start := (← place) - 1
  let negated ← accept '^'
  let items := distinctItems (← readSetItems start (← fuel) [])
  match items with
  | [.single n] => return if negated then .notChar n else .char n
  | _ => return .oneOf negated items

/-- Reads the bounds in braces after the opening one; none if it is no repetition, and then
nothing is taken. -/
def readBounds? : Read (Option (Nat × Option Nat)) := do
  let before ← get
  let start ← place
  let low ← takeUpTo Text.isAsciiDigit (← fuel)
  let comma ← accept ','
  let high ← if comma then takeUpTo Text.isAsciiDigit (← fuel) else pure low
  if ← accept '\x7d' then
    let least := numberOf 10 low
    let most := numberOf 10 high
    if countLimit ≤ least || countLimit ≤ most then throw .countTooLarge
    else if high.isEmpty then return some (least, none)
    else if most < least then failAt .reversedRepeat start
    else return some (least, some most)
  else
    set before
    return none

/-- Reads the bounds of the repetition that `c` begins; none if it is an ordinary brace. -/
def readRepeat? (c : Char) : Read (Option (Nat × Option Nat)) := do
  if c = '?' then return some (0, some 1)
  else if c = '*' then return some (0, none)
  else if c = '+' then return some (1, none)
  else if isToken (← peek) '\x7d' then return none
  else readBounds?

/-- Repeats the last of the nodes read so far, given last first; the mark of the repetition was
read at `start`. -/
def repeatLast (start : Nat) (bounds : Nat × Option Nat) (nodes : List Node) :
    Read (List Node) := do
  match nodes with
  | [] => failAt .nothingToRepeat start
  | item :: earlier =>
    match item with
    | .anchor _ => failAt .nothingToRepeat start
    | .loop .. => failAt .multipleRepeat start
    | _ =>
      let body :=
        match item with
        | .group none [] [] body => body
        | _ => [item]
      let greed ← do
        if ← accept '?' then pure Greed.lazy
        else if ← accept '+' then pure Greed.possessive
        else pure Greed.greedy
      return .loop greed bounds.1 bounds.2 body :: earlier

/-- Whether a token is a letter of some script. -/
def isLetterToken : List Char → Bool
  | [c] => Text.isIdentifierStart c && c != '_'
  | _ => false

/-- The flag that a token names. -/
def flagOfToken? : List Char → Option Flag
  | [c] => Flag.ofLetter? c
  | _ => none

/-- Takes the next token inside a group of flags: a flag, or one of the ends. `missing` is what
is lacking if it is neither. -/
def nextFlag (missing : Cause) (ends : List Char) : Read (Flag ⊕ Char) := do
  match ← next with
  | none => fail missing 0
  | some t =>
    match t, flagOfToken? t with
    | _, some f => return .inl f
    | [c], none =>
      if ends.contains c then return .inr c
      else fail (if isLetterToken t then .unknownFlag else missing) 1
    | _, none => fail missing t.length

/-- Reads flags to be turned on, the first of which is given, up to an end. -/
def readFlagsOn : Nat → Flag → Flags → Read (Flags × Char)
  | 0, _, _ => fail .missingFlagEnd 0
  | fuel + 1, f, flags => do
    if f = .locale then fail .localeFlag 0
    else
      let flags := flags.add f
      if f.isCharset && flags.any fun g => g.isCharset && g != f then fail .charsetFlags 0
      else
        match ← nextFlag .missingFlagEnd [')', '-', ':'] with
        | .inl g => readFlagsOn fuel g flags
        | .inr c => return (flags, c)

/-- Reads flags to be turned off, the first of which is given, up to the colon. -/
def readFlagsOff : Nat → Flag → Flags → Read Flags
  | 0, _, _ => fail .missingColon 0
  | fuel + 1, f, flags => do
    if f.isCharset then fail .charsetFlagOff 0
    else
      let flags := flags.add f
      match ← nextFlag .missingColon [':'] with
      | .inl g => readFlagsOff fuel g flags
      | .inr _ => return flags

/-- Reads the flags that a token begins. Gives those turned on and off for a group; none if they
are for the whole pattern. -/
def readFlags (first : Option Flag) : Read (Option (Flags × Flags)) := do
  let (added, stop) ←
    match first with
    | some f => readFlagsOn (← fuel) f []
    | none => pure ([], '-')
  if stop = ')' then
    modify fun s => { s with flags := s.flags.union added }
    return none
  else if added.contains .template then fail .globalFlagOn 1
  else
    let removed ← do
      if stop = '-' then
        match ← nextFlag .missingFlag [] with
        | .inl f => readFlagsOff (← fuel) f []
        | .inr _ => fail .missingFlag 1
      else pure []
    if removed.contains .template then fail .globalFlagOff 1
    else if added.any removed.contains then fail .flagOnAndOff 1
    else return some (added, removed)

/-- Checks that a name is an identifier; it was read up to its terminator. -/
def checkName (name : List Char) : Read Unit :=
  if Text.isIdentifier (String.ofList name) then return ()
  else fail (.badGroupName (String.ofList name)) (name.length + 1)

/-- Opens the next group, with its name if it has one. -/
def openGroup (name : Option (List Char)) : Read Nat := do
  let s ← get
  let g := s.groups.length
  match name with
  | none => set { s with groups := s.groups ++ [none] }
  | some cs =>
    let key := String.ofList cs
    match s.names.lookup key with
    | some earlier => fail (.redefinedGroup key g earlier) (cs.length + 1)
    | none => set { s with groups := s.groups ++ [none], names := s.names ++ [(key, g)] }
  return g

/-- Closes a group, whose width is known from then on. -/
def closeGroup (g : Nat) (body : List Node) : Read Unit :=
  modify fun s => { s with groups := s.groups.set g (some (sequenceWidth s.groups body)) }

/-- Reads a reference by name after the equals sign. -/
def readNamedReference : Read Node := do
  let name ← takeName ')' "group name" (← fuel) []
  checkName name
  let s ← get
  match s.names.lookup (String.ofList name) with
  | none => fail (.unknownGroupName (String.ofList name)) (name.length + 1)
  | some g =>
    if !isClosedGroup s g then fail .openGroupReference (name.length + 1)
    else
      checkLookbehind g
      return .backReference g

/-- Reads the group that a condition asks for, by name or by number. -/
def readCondition : Read Nat := do
  let name ← takeName ')' "group name" (← fuel) []
  let key := String.ofList name
  let s ← get
  let back := name.length + 1
  let g ← do
    if Text.isIdentifier key then
      match s.names.lookup key with
      | none => fail (.unknownGroupName key) back
      | some g => pure g
    else
      match readInt? key with
      | none => fail (.badGroupName key) back
      | some n =>
        if n < 0 then fail (.badGroupName key) back
        else
          let g := n.toNat
          if g = 0 then fail .badGroupNumber back
          else if groupLimit ≤ g then fail (.unknownGroup g) back
          else
            let named := (← place) - back
            if (s.references.lookup g).isNone then
              set { s with references := s.references ++ [(g, named)] }
            pure g
  checkLookbehind g
  return g

/-- Takes the parenthesis that closes what began at `start`. -/
def expectClose (start : Nat) : Read Unit := do
  if ← accept ')' then return () else failAt .openGroup start

/-- Groups that only hold their parts together are replaced by them. -/
def unpackGroups : List Node → List Node
  | [] => []
  | .group none [] [] body :: rest => body ++ unpackGroups rest
  | n :: rest => n :: unpackGroups rest

/-- Takes the nodes with which all choices begin to the front. -/
def factorChoices : Nat → List (List Node) → List Node × List (List Node)
  | 0, choices => ([], choices)
  | fuel + 1, choices =>
    match choices with
    | (n :: _) :: _ =>
      let agrees (c : List Node) : Bool :=
        match c with
        | m :: _ => Node.sameLeaf n m
        | [] => false
      if choices.all agrees then
        let (front, rest) := factorChoices fuel (choices.map List.tail)
        (n :: front, rest)
      else ([], choices)
    | _ => ([], choices)

/-- The set members that a choice amounts to, if it is one character. -/
def choiceItems? : List Node → Option (List SetItem)
  | [.char n] => some [.single n]
  | [.oneOf false items] => some items
  | _ => none

/-- The node for several choices: a character set if each is one character. -/
def branchOf (choices : List (List Node)) : List Node :=
  let longest := (choices.map List.length).foldl max 0
  let (front, rest) := factorChoices longest choices
  match rest.mapM choiceItems? with
  | some items => front ++ [.oneOf false (distinctItems items.flatten)]
  | none => front ++ [.branch rest]

/-- Blanks that a verbose pattern may hold between its parts. -/
def isPatternBlank (c : Char) : Bool :=
  c == ' ' || (decide (9 ≤ c.toNat) && decide (c.toNat ≤ 13))

/-- What a parenthesis opens: nothing that matches, a finished node, or a group. -/
inductive Opening where
  | nothing
  | node (n : Node)
  | look (ahead negated : Bool)
  | conditional (group : Nat)
  | globalFlags
  | group (capture atomic : Bool) (name : Option (List Char)) (added removed : Flags)

/-- Reads what follows an opening parenthesis and a question mark; the parenthesis stood at
`start`. -/
def readExtension (start : Nat) : Read Opening := do
  let plain (capture atomic : Bool) : Opening := .group capture atomic none [] []
  match ← next with
  | none => fail .endOfPattern 0
  | some ['P'] =>
    if ← accept '<' then
      let name ← takeName '>' "group name" (← fuel) []
      checkName name
      return .group true false (some name) [] []
    else if ← accept '=' then return .node (← readNamedReference)
    else
      match ← next with
      | none => fail .endOfPattern 0
      | some t => fail (.unknownExtension (String.ofList ('?' :: 'P' :: t))) (t.length + 2)
  | some [':'] => return plain false false
  | some ['#'] => do
    skipComment start (← fuel)
    return .nothing
  | some ['='] => return .look true false
  | some ['!'] => return .look true true
  | some ['<'] =>
    match ← next with
    | none => fail .endOfPattern 0
    | some ['='] => return .look false false
    | some ['!'] => return .look false true
    | some t => fail (.unknownExtension (String.ofList ('?' :: '<' :: t))) (t.length + 2)
  | some ['('] => return .conditional (← readCondition)
  | some ['>'] => return plain false true
  | some t =>
    match flagOfToken? t, t with
    | none, ['-'] =>
      match ← readFlags none with
      | some (added, removed) => return .group false false none added removed
      | none => return .globalFlags
    | some f, _ =>
      match ← readFlags (some f) with
      | some (added, removed) => return .group false false none added removed
      | none => return .globalFlags
    | none, _ => fail (.unknownExtension (String.ofList ('?' :: t))) (t.length + 1)

mutual

/-- Reads choices with bars between them. `outermost` tells whether they are the whole pattern;
then flags may be set for all of it. -/
def readChoices : Nat → Bool → Bool → Read (List Node)
  | 0, _, _ => throw (.malformed .endOfPattern none)
  | fuel + 1, verbose, outermost => do
    let first ← readNodes fuel verbose outermost []
    let rest ← readMoreChoices fuel verbose outermost
    match rest with
    | [] => return first
    | _ => return branchOf (first :: rest)

/-- Reads the choices after the first. -/
def readMoreChoices : Nat → Bool → Bool → Read (List (List Node))
  | 0, _, _ => throw (.malformed .endOfPattern none)
  | fuel + 1, verbose, outermost => do
    if ← accept '|' then
      let flags := (← get).flags
      let verbose := if outermost then flags.contains .verbose else verbose
      let choice ← readNodes fuel verbose false []
      return choice :: (← readMoreChoices fuel verbose outermost)
    else return []

/-- Reads nodes up to a bar, a closing parenthesis or the end; those read before are given last
first. `leading` tells whether flags may be set for the whole pattern at the very front. -/
def readNodes : Nat → Bool → Bool → List Node → Read (List Node)
  | 0, _, _, _ => throw (.malformed .endOfPattern none)
  | fuel + 1, verbose, leading, nodes => do
    let this ← peek
    if this.isNone || isToken this '|' || isToken this ')' then
      return unpackGroups nodes.reverse
    else
      let start ← place
      match ← next with
      -- a token of two characters is an escape
      | some [_, c] => readNodes fuel verbose leading ((← readEscape c) :: nodes)
      | some [c] =>
        if verbose && isPatternBlank c then readNodes fuel verbose leading nodes
        else if verbose && c == '#' then
          skipLine (← Read.fuel)
          readNodes fuel verbose leading nodes
        else if c = '[' then readNodes fuel verbose leading ((← readSet) :: nodes)
        else if c = '*' || c = '+' || c = '?' || c = '\x7b' then
          match ← readRepeat? c with
          | some bounds => readNodes fuel verbose leading (← repeatLast start bounds nodes)
          | none => readNodes fuel verbose leading (.char c.toNat :: nodes)
        else if c = '.' then readNodes fuel verbose leading (.anyChar :: nodes)
        else if c = '^' then readNodes fuel verbose leading (.anchor .lineStart :: nodes)
        else if c = '$' then readNodes fuel verbose leading (.anchor .lineEnd :: nodes)
        else if c = '(' then
          match ← readGroup fuel verbose start with
          | some (some n) => readNodes fuel verbose leading (n :: nodes)
          | some none => readNodes fuel verbose leading nodes
          | none =>
            if leading && nodes.isEmpty then
              readNodes fuel ((← get).flags.contains .verbose) leading nodes
            else failAt .lateGlobalFlags start
        else readNodes fuel verbose leading (.char c.toNat :: nodes)
      | _ => return unpackGroups nodes.reverse

/-- Reads what an opening parenthesis at `start` begins: a node or nothing, or none if it sets
flags for the whole pattern. -/
def readGroup : Nat → Bool → Nat → Read (Option (Option Node))
  | 0, _, _ => throw (.malformed .endOfPattern none)
  | fuel + 1, verbose, start => do
    let opening ← do
      if ← accept '?' then readExtension start
      else pure (.group true false none [] [])
    match opening with
    | .nothing => return some none
    | .node n => return some (some n)
    | .globalFlags => return none
    | .look ahead negated => do
      let outer := (← get).lookbehind
      if !ahead && outer.isNone then
        modify fun s => { s with lookbehind := some s.groups.length }
      let body ← readChoices fuel verbose false
      if !ahead && outer.isNone then modify fun s => { s with lookbehind := none }
      expectClose start
      return some (some (.look ahead negated body))
    | .conditional g => do
      let yes ← readNodes fuel verbose false []
      let no ← do
        if ← accept '|' then
          let body ← readNodes fuel verbose false []
          if isToken (← peek) '|' then fail .thirdBranch 0 else pure (some body)
        else pure none
      expectClose start
      return some (some (.conditional g yes no))
    | .group capture atomic name added removed => do
      let index ← if capture then some <$> openGroup name else pure none
      let inner := (verbose || added.contains .verbose) && !removed.contains .verbose
      let body ← readChoices fuel inner false
      expectClose start
      match index with
      | some g => closeGroup g body
      | none => pure ()
      return some (some (if atomic then .atomicGroup body else .group index added removed body))

end

mutual

/-- Checks that look-behinds have a fixed width, and that no repetition stands in a template. -/
def checkNode (groups : List (Option Width)) (flags : Flags) : Node → Except Fault Unit
  | .group _ added removed body => checkNodes groups (flags.within added removed) body
  | .atomicGroup body => checkNodes groups flags body
  | .look ahead _ body => do
    let (low, high) := sequenceWidth groups body
    if ahead then checkNodes groups flags body
    else if countLimit < low then throw (.malformed .lookbehindTooWide none)
    else if low ≠ high then throw (.malformed .lookbehindWidth none)
    else checkNodes groups flags body
  | .conditional _ yes no => do
    checkNodes groups flags yes
    match no with
    | some body => checkNodes groups flags body
    | none => pure ()
  | .loop greed _ _ body => do
    if flags.contains .template then
      let name :=
        match greed with
        | .greedy => "MAX_REPEAT"
        | .lazy => "MIN_REPEAT"
        | .possessive => "POSSESSIVE_REPEAT"
      throw (.malformed (.templateLoop name) none)
    else checkNodes groups flags body
  | .branch choices => checkChoices groups flags choices
  | _ => pure ()

def checkNodes (groups : List (Option Width)) (flags : Flags) : List Node → Except Fault Unit
  | [] => pure ()
  | n :: rest => do
    checkNode groups flags n
    checkNodes groups flags rest

def checkChoices (groups : List (Option Width)) (flags : Flags) :
    List (List Node) → Except Fault Unit
  | [] => pure ()
  | c :: rest => do
    checkNodes groups flags c
    checkChoices groups flags rest

end

/-- Reads a whole pattern and what it says about groups and flags. -/
def readWhole : Read (List Node) := do
  let s ← get
  let nodes ← readChoices (2 * s.total + 4) (s.flags.contains .verbose) true
  let s ← get
  if s.flags.contains .ascii && s.flags.contains .unicode then throw .contradictoryFlags
  else if s.rest.isEmpty then
    match s.references.find? fun (g, _) => decide (s.groups.length ≤ g) with
    | some (g, place) => failAt (.unknownGroup g) place
    | none => return nodes
  else fail .unbalancedParenthesis 0

/-- The pattern that a text and flags given apart from it denote. Faults are reported in the order
in which the text is read, after that the references to groups that the whole pattern lacks, and
last the look-behinds without a fixed width. -/
def compile (text : List Char) (flags : Flags) : Except Fault Pattern := do
  if text = ['\\'] then throw (.malformed .endInEscape (some 0))
  let start : Scan :=
    ⟨text.length, text, flags, [none], [], none, []⟩
  let (nodes, s) ← readWhole.run start
  checkNodes s.groups s.flags nodes
  return ⟨String.ofList text, s.flags, s.groups, nodes⟩

end ServiceDiagram.Pattern

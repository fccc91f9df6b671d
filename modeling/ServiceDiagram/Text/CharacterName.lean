import ServiceDiagram.Text.CharacterTable
import ServiceDiagram.Text.Digit
import ServiceDiagram.Text.Ranges
import ServiceDiagram.Text.Replace

namespace ServiceDiagram.Text

/-- The number that hexadecimal digits denote. -/
def hexNumber (ds : List Char) : Nat := ds.foldl (fun n d => n * 16 + (hexValue? d).getD 0) 0

/-- The words of a name, from its entry and the words of the name before it. -/
def entryWords (before : List (List Char)) : List Char → List (List Char)
  | [] => []
  | shared :: own =>
    before.take (hexNumber [shared]) ++ if own.isEmpty then [] else splitOn ' ' own

/-- A word of the name of a code point, which a sign at its end stands for. -/
def spellWord (point : Nat) (word : List Char) : List Char :=
  if word.getLast? = some '#' then word.dropLast ++ (Nat.toDigits 16 point).map Char.toUpper
  else word

/-- Looks for a name, given by its words, among entries. The first of them is that of `point`,
unless it tells another one; `before` are the words of the name before. -/
def findEntry? (wanted : List (List Char)) :
    Nat → List (List Char) → List (List Char) → Option Nat
  | _, _, [] => none
  | point, before, entry :: rest =>
    if entry.head? = some '@' then findEntry? wanted (hexNumber entry.tail) before rest
    else
      let words := entryWords before entry
      if words.map (spellWord point) = wanted then some point
      else findEntry? wanted (point + 1) words rest

/-- The entries of the table of names. -/
def nameEntries : List (List Char) :=
  (characterNames.splitOn ";").map fun entry => entry.toList.dropWhile (· == '\n')

/-- What follows a beginning of a text. -/
def after? (front : String) (cs : List Char) : Option (List Char) :=
  if front.toList.isPrefixOf cs then some (cs.drop front.length) else none

/-- The ideograph that a name tells by its code point. -/
def ideograph? (name : List Char) : Option Nat := do
  let ds ← after? "CJK UNIFIED IDEOGRAPH-" name
  let isDigit (d : Char) : Bool := (hexValue? d).isSome && d == d.toUpper
  if (ds.length = 4 ∨ ds.length = 5) ∧ ds.all isDigit ∧ inRanges (hexNumber ds) ideographRanges then
    some (hexNumber ds)
  else none

/-- The syllable of Hangul that a name tells by its sounds. -/
def hangul? (name : List Char) : Option Nat := do
  let sounds ← after? "HANGUL SYLLABLE " name
  hangulLeads.zipIdx.findSome? fun (lead, l) => do
    let sounds ← after? lead sounds
    hangulVowels.zipIdx.findSome? fun (vowel, v) => do
      let sounds ← after? vowel sounds
      let t := hangulTrails.findIdx fun trail => trail.toList == sounds
      if t < hangulTrails.length then some (0xAC00 + (l * 21 + v) * 28 + t) else none

/-- The character with a name. The case of letters matters only in names that are made by
rules. -/
def characterNamed? (name : List Char) : Option Nat :=
  let upper := name.map Char.toUpper
  hangul? name <|> ideograph? name <|> characterAliases.lookup (String.ofList upper) <|>
    findEntry? (splitOn ' ' upper) 0 [] nameEntries

end ServiceDiagram.Text

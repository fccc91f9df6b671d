import ServiceDiagram.Calendar.DateTime
import ServiceDiagram.Format.Uuid
import ServiceDiagram.Number.IntText
import ServiceDiagram.Random.Draw
import ServiceDiagram.Value.Basic

namespace ServiceDiagram

/-- Plans that draw a sample value of a semantic type. -/
inductive Sampler where
  | word
  | sentence
  | password
  | integer
  | number
  | boolean
  | date
  | dateTime
  | email
  | url
  | uuid
  | phone
  deriving DecidableEq, Repr

namespace Sampler

def words : List String :=
  ["alpha", "bravo", "delta", "ember", "falcon", "granite", "harbor", "indigo",
   "juniper", "kestrel", "lumen", "meadow", "nova", "orchid", "pebble", "quartz"]

/-- The characters of passwords. -/
def passwordChars : List Char :=
  "abcdefghijklmnopqrstuvwxyzABCDEFGHIJKLMNOPQRSTUVWXYZ0123456789".toList

def drawWord : Draw String := Draw.choose "" words

/-- The text of a number between two bounds. -/
def drawNatText (low high : Nat) : Draw String :=
  (Draw.between low high).bind fun n => .done (intText n)

/-- A sentence of words: it begins with a capital and ends with a full stop. -/
def sentenceOf (ws : List String) : String :=
  (String.intercalate " " ws).capitalize ++ "."

/-- The nearest number with two places, of two the one with the even last digit. -/
def hundredths (r : Rat) : Binary64 :=
  .ofRatio (decide (r < 0)) (Binary64.roundDiv (100 * r.num.natAbs) r.den) 100

/-- The number at a share of the way from 1 to 1000, with two places. The share counts in
`2 ^ 53`; the way and the number are rounded each. -/
def numberAt (share : Nat) : Binary64 :=
  let fraction := Binary64.ofRatio false (999 * share) (Nat.pow 2 53)
  let sum := Binary64.ofRat (1 + fraction.toRat?.getD 0)
  hundredths (sum.toRat?.getD 0)

/-- The first day that is drawn. -/
def epoch : Date := ⟨2020, 1, 1, by decide⟩

/-- The days after the first from which days are drawn. -/
def daySpan : Nat := 3650

def dayAt (days : Nat) : String := String.ofList (epoch.plusDays days).isoText

def timeAt (seconds : Nat) : String := String.ofList (DateTime.after epoch seconds).isoText

/-- The plan of a sampler. -/
def draw : Sampler → Draw Value
  | word => do return .text (← drawWord)
  | sentence => do return .text (sentenceOf (← drawWord.times (← Draw.between 4 8)))
  | password => do return .text (String.ofList (← (Draw.choose ' ' passwordChars).times 12))
  | integer => do return .int (← Draw.between 1 1000)
  | number => .fraction fun share => .done (.float (numberAt share))
  | boolean => .fraction fun share => .done (.bool (decide (2 * share < Nat.pow 2 53)))
  | date => do return .text (dayAt (← Draw.between 0 daySpan))
  | dateTime => do return .text (timeAt (← Draw.between 0 (daySpan * 86400)))
  | email => do return .text ((← drawWord) ++ "." ++ (← drawNatText 1 99) ++ "@example.com")
  | url => do
    return .text ("https://www.example.com/" ++ (← drawWord) ++ "/" ++ (← drawNatText 1 999))
  | uuid => .bits 128 fun bits => .done (.text (Uuid.text (Uuid.ofRandomBits bits)))
  | phone => do
    return .text ("+1 555 " ++ (← drawNatText 100 999) ++ " " ++ (← drawNatText 1000 9999))

end Sampler

end ServiceDiagram

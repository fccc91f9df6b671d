import ServiceDiagram.Text.Case

namespace ServiceDiagram.Pattern

/-- Lower-case letters with other lower-case letters that have the same upper case. -/
def caseKin : List (Nat × List Nat) :=
  [(105, [305]), (115, [383]), (181, [956]), (305, [105]), (383, [115]), (837, [953, 8126]),
   (912, [8147]), (944, [8163]), (946, [976]), (949, [1013]), (952, [977]), (953, [837, 8126]),
   (954, [1008]), (956, [181]), (960, [982]), (961, [1009]), (962, [963]), (963, [962]),
   (966, [981]), (976, [946]), (977, [952]), (981, [966]), (982, [960]), (1008, [954]),
   (1009, [961]), (1013, [949]), (1074, [7296]), (1076, [7297]), (1086, [7298]),
   (1089, [7299]), (1090, [7300, 7301]), (1098, [7302]), (1123, [7303]), (7296, [1074]),
   (7297, [1076]), (7298, [1086]), (7299, [1089]), (7300, [1090, 7301]), (7301, [1090, 7300]),
   (7302, [1098]), (7303, [1123]), (7304, [42571]), (7777, [7835]), (7835, [7777]),
   (8126, [837, 953]), (8147, [912]), (8163, [944]), (42571, [7304]), (64261, [64262]),
   (64262, [64261])]

/-- The lower-case letter of an ASCII letter; any other code point is itself. -/
def asciiLower (n : Nat) : Nat := if 65 ≤ n ∧ n ≤ 90 then n + 32 else n

/-- The lower-case letter of a code point, of ASCII letters only if `ascii` holds. Surrogates
have none. -/
def lowerCode (ascii : Bool) (n : Nat) : Nat :=
  if ascii then asciiLower n
  else if n.isValidChar then (Text.lowerChar (Char.ofNat n)).toNat
  else n

/-- The lower-case letters that count as the lower-case letter `n`. -/
def kinOf (ascii : Bool) (n : Nat) : List Nat :=
  if ascii then [n] else n :: (caseKin.lookup n).getD []

/-- Whether a lower-case letter counts as the code point `code` when a pattern ignores case: as its
own lower-case letter, or as another that has the same upper case. -/
def sameLetter (ascii : Bool) (lowered code : Nat) : Bool :=
  (kinOf ascii (lowerCode ascii code)).contains lowered

end ServiceDiagram.Pattern

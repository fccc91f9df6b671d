import ServiceDiagram.Number.Sum
import ServiceDiagram.Text.CellWidth

namespace ServiceDiagram.Text

/-- The zero width joiner. -/
def joiner : Char := '\u200d'

/-- The variation selector that asks for an emoji. -/
def emojiSelector : Char := '\ufe0f'

/-- The narrow code points that the selector makes wide. -/
def widenedRanges : List (Nat × Nat) :=
  [(35, 35), (42, 42), (48, 57), (169, 169), (174, 174), (8252, 8252), (8265, 8265),
   (8482, 8482), (8505, 8505), (8596, 8601), (8617, 8618), (9000, 9000), (9167, 9167),
   (9197, 9199), (9201, 9202), (9208, 9210), (9410, 9410), (9642, 9643), (9654, 9654),
   (9664, 9664), (9723, 9724), (9728, 9732), (9742, 9742), (9745, 9745), (9752, 9752),
   (9757, 9757), (9760, 9760), (9762, 9763), (9766, 9766), (9770, 9770), (9774, 9775),
   (9784, 9786), (9792, 9792), (9794, 9794), (9823, 9824), (9827, 9827), (9829, 9830),
   (9832, 9832), (9851, 9851), (9854, 9854), (9874, 9874), (9876, 9879), (9881, 9881),
   (9883, 9884), (9888, 9888), (9895, 9895), (9904, 9905), (9928, 9928), (9935, 9935),
   (9937, 9937), (9939, 9939), (9961, 9961), (9968, 9969), (9972, 9972), (9975, 9977),
   (9986, 9986), (9992, 9993), (9996, 9997), (9999, 9999), (10002, 10002), (10004, 10004),
   (10006, 10006), (10013, 10013), (10017, 10017), (10035, 10036), (10052, 10052),
   (10055, 10055), (10083, 10084), (10145, 10145), (10548, 10549), (11013, 11015),
   (127344, 127345), (127358, 127359), (127777, 127777), (127780, 127788), (127798, 127798),
   (127869, 127869), (127894, 127895), (127897, 127899), (127902, 127903), (127947, 127950),
   (127956, 127967), (127987, 127987), (127989, 127989), (127991, 127991), (128063, 128063),
   (128065, 128065), (128253, 128253), (128329, 128330), (128367, 128368), (128371, 128377),
   (128391, 128391), (128394, 128397), (128400, 128400), (128421, 128421), (128424, 128424),
   (128433, 128434), (128444, 128444), (128450, 128452), (128465, 128467), (128476, 128478),
   (128481, 128481), (128483, 128483), (128488, 128488), (128495, 128495), (128499, 128499),
   (128506, 128506), (128715, 128715), (128717, 128719), (128736, 128741), (128745, 128745),
   (128752, 128752), (128755, 128755)]

def isWidened (c : Char) : Bool := inRanges c.toNat widenedRanges

/-- Characters that stand together on a terminal. Marks belong to the character before them, what
follows a zero width joiner belongs to what is before it, and the selector for emoji makes certain
narrow characters wide. -/
structure Cluster where
  text : List Char
  width : Nat

namespace Cluster

def push (k : Cluster) (c : Char) (width : Nat) : Cluster := ⟨k.text ++ [c], k.width + width⟩

/-- The clusters of a text of which the first one has begun. `widens` tells whether a selector
would make it wider, `joins` whether the next character belongs to it whatever it is. -/
def gather (current : Cluster) (widens joins : Bool) : List Char → List Cluster
  | [] => [current]
  | c :: rest =>
    if joins then gather (current.push c 0) widens false rest
    else if c = joiner then gather (current.push c 0) widens true rest
    else if c = emojiSelector then
      gather (current.push c (if widens then 1 else 0)) false false rest
    else if charWidth c = 0 then gather (current.push c 0) widens false rest
    else current :: gather ⟨[c], charWidth c⟩ (isWidened c) false rest

end Cluster

/-- The clusters of a text. A mark or a joiner at its front has nothing before it and begins one
by itself. -/
def clusters : List Char → List Cluster
  | [] => []
  | c :: rest => Cluster.gather ⟨[c], charWidth c⟩ (isWidened c) false rest

/-- The cells that a text takes. What follows a joiner takes none, even where the joiner is at the
front. -/
def cellWidth : List Char → Nat
  | [] => 0
  | [c] => charWidth c
  | c :: d :: rest =>
    if c = joiner then cellWidth rest else sumOf ((clusters (c :: d :: rest)).map Cluster.width)

end ServiceDiagram.Text

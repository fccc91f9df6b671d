import ServiceDiagram.Random.Draw
import ServiceDiagram.Random.Sha512

namespace ServiceDiagram.Twister

/-- The count of words in the state. -/
def size : Nat := 624

/-- The state: words, and how many of them have been given out. -/
structure State where
  words : Array UInt32
  used : Nat

def word (ws : Array UInt32) (i : Nat) : UInt32 := ws[i]?.getD 0

/-- The words that one word alone fills. -/
def fillFromWord (seed : UInt32) : Array UInt32 :=
  (List.range (size - 1)).foldl
    (fun ws i =>
      let x := word ws i
      ws.push ((x ^^^ (x >>> 30)) * 1812433253 + UInt32.ofNat (i + 1)))
    (Array.mk [seed])

/-- One step of filling: changes the word at `i` by the word before it; then the place moves on,
past the end to the second word. -/
def stir (mix : UInt32 → UInt32 → UInt32) (ws : Array UInt32) (i : Nat) : Array UInt32 × Nat :=
  let ws := ws.setIfInBounds i (mix (word ws i) (word ws (i - 1)))
  if i + 1 < size then (ws, i + 1) else (ws.setIfInBounds 0 (word ws (size - 1)), 1)

/-- The state that the words of a key fill. -/
def ofKey (key : List UInt32) : State :=
  let keys := Array.mk key
  let rounds := max size key.length
  let (ws, i) := (List.range rounds).foldl
    (fun (ws, i) step =>
      let j := step % key.length
      stir (fun x p => (x ^^^ ((p ^^^ (p >>> 30)) * 1664525)) + word keys j + UInt32.ofNat j) ws i)
    (fillFromWord 19650218, 1)
  let (ws, _) := (List.range (size - 1)).foldl
    (fun (ws, i) _ =>
      stir (fun x p => (x ^^^ ((p ^^^ (p >>> 30)) * 1566083941)) - UInt32.ofNat i) ws i)
    (ws, i)
  ⟨ws.setIfInBounds 0 0x80000000, size⟩

/-- The words of a number, the least significant first, as many as `fuel` allows. -/
def wordsOf : Nat → Nat → List UInt32
  | 0, _ => []
  | fuel + 1, n => if n = 0 then [] else UInt32.ofNat n :: wordsOf fuel (n / Nat.pow 2 32)

/-- The state for a seed, which is a text: its bytes, followed by their hash, are one large number
that fills the state. -/
def ofText (seed : String) : State :=
  let bytes := seed.toUTF8.toList
  let all := bytes ++ Sha512.digest bytes
  let key := wordsOf (all.length / 4 + 1) (Sha512.numberOf all)
  ofKey (if key.isEmpty then [0] else key)

/-- The words of the next round. -/
def twist (ws : Array UInt32) : Array UInt32 :=
  (List.range size).foldl
    (fun ws i =>
      let y := (word ws i &&& 0x80000000) ||| (word ws ((i + 1) % size) &&& 0x7fffffff)
      let x := word ws ((i + 397) % size) ^^^ (y >>> 1)
      ws.setIfInBounds i (if y &&& 1 = 0 then x else x ^^^ 0x9908b0df))
    ws

/-- The bits of a word spread over all of it. -/
def temper (y : UInt32) : UInt32 :=
  let y := y ^^^ (y >>> 11)
  let y := y ^^^ ((y <<< 7) &&& 0x9d2c5680)
  let y := y ^^^ ((y <<< 15) &&& 0xefc60000)
  y ^^^ (y >>> 18)

/-- The next word. -/
def next (s : State) : UInt32 × State :=
  let s := if s.used < size then s else ⟨twist s.words, 0⟩
  (temper (word s.words s.used), { s with used := s.used + 1 })

/-- A number of so many bits: whole words, the least significant first, and the high bits of one
more. -/
def bits : Nat → Nat → State → Nat × State
  | 0, _, s => (0, s)
  | fuel + 1, count, s =>
    if count = 0 then (0, s)
    else
      let (w, s) := next s
      if count < 32 then (w.toNat / Nat.pow 2 (32 - count), s)
      else
        let (high, s) := bits fuel (count - 32) s
        (w.toNat + Nat.pow 2 32 * high, s)

/-- The count of binary digits of a number. -/
def bitLength (n : Nat) : Nat := if n = 0 then 0 else n.log2 + 1

/-- A number below a bound. It is taken from as many bits as the bound has, and drawn again as often
as `fuel` allows while it is not below. -/
def below (bound : Nat) : Nat → State → Nat × State
  | 0, s => (0, s)
  | fuel + 1, s =>
    let count := bitLength bound
    let (n, s) := bits (count / 32 + 1) count s
    if n < bound then (n, s) else below bound fuel s

/-- A fraction of one, by its numerator over `2 ^ 53`. -/
def fraction (s : State) : Nat × State :=
  let (a, s) := next s
  let (b, s) := next s
  ((a.toNat / Nat.pow 2 5) * Nat.pow 2 26 + b.toNat / Nat.pow 2 6, s)

/-- The twister as a source. A thousand draws for one number are never needed in practice. -/
def source : Draw.Source State where
  index := fun bound s => below bound 1000 s
  fraction := fraction
  bits := fun count s => bits (count / 32 + 1) count s

/-- Runs a plan with the twister for a seed. -/
def runSeeded {α : Type} (seed : String) (d : Draw α) : α := (d.run source (ofText seed)).1

end ServiceDiagram.Twister

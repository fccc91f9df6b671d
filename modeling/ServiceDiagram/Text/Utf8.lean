import ServiceDiagram.Text.Digit

namespace ServiceDiagram.Text.Utf8

/-- Why bytes are not UTF-8. -/
inductive Flaw where
  | startByte
  | continuationByte
  | endOfData
  deriving DecidableEq, Repr

/-- Bytes that are not UTF-8: the flaw, the first byte of the bad group, and where the group
starts and stops. -/
structure DecodeError where
  flaw : Flaw
  byte : UInt8
  start : Nat
  stop : Nat
  deriving DecidableEq, Repr

def Flaw.message : Flaw → String
  | .startByte => "invalid start byte"
  | .continuationByte => "invalid continuation byte"
  | .endOfData => "unexpected end of data"

def DecodeError.message (e : DecodeError) : String :=
  if e.stop = e.start + 1 then
    "'utf-8' codec can't decode byte 0x" ++ String.ofList (hexText 2 e.byte.toNat) ++
      s!" in position {e.start}: " ++ e.flaw.message
  else
    s!"'utf-8' codec can't decode bytes in position {e.start}-{e.stop - 1}: " ++ e.flaw.message

/-- A character of which the first byte has been read. The next byte lies between `low` and
`high`, all later ones between 0x80 and 0xBF. -/
structure Pending where
  start : Nat
  first : UInt8
  owed : Nat
  low : Nat
  high : Nat
  value : Nat

/-- What the first byte of a character of several bytes promises. -/
def Pending.ofFirst? (pos : Nat) (byte : UInt8) : Option Pending :=
  let b := byte.toNat
  if 0xC2 ≤ b ∧ b ≤ 0xDF then some ⟨pos, byte, 1, 0x80, 0xBF, b - 0xC0⟩
  else if b = 0xE0 then some ⟨pos, byte, 2, 0xA0, 0xBF, 0⟩
  else if b = 0xED then some ⟨pos, byte, 2, 0x80, 0x9F, 0xD⟩
  else if 0xE1 ≤ b ∧ b ≤ 0xEF then some ⟨pos, byte, 2, 0x80, 0xBF, b - 0xE0⟩
  else if b = 0xF0 then some ⟨pos, byte, 3, 0x90, 0xBF, 0⟩
  else if 0xF1 ≤ b ∧ b ≤ 0xF3 then some ⟨pos, byte, 3, 0x80, 0xBF, b - 0xF0⟩
  else if b = 0xF4 then some ⟨pos, byte, 3, 0x80, 0x8F, 4⟩
  else none

/-- Reads bytes from position `pos` on, with a character begun or not. -/
def decodeFrom (pos : Nat) : Option Pending → List UInt8 → Except DecodeError (List Char)
  | none, [] => .ok []
  | some p, [] => .error ⟨.endOfData, p.first, p.start, pos⟩
  | none, byte :: rest =>
    if byte.toNat < 0x80 then
      (decodeFrom (pos + 1) none rest).map (Char.ofNat byte.toNat :: ·)
    else
      match Pending.ofFirst? pos byte with
      | none => .error ⟨.startByte, byte, pos, pos + 1⟩
      | some p => decodeFrom (pos + 1) (some p) rest
  | some p, byte :: rest =>
    if p.low ≤ byte.toNat ∧ byte.toNat ≤ p.high then
      let value := p.value * 64 + (byte.toNat - 0x80)
      if p.owed ≤ 1 then
        (decodeFrom (pos + 1) none rest).map (Char.ofNat value :: ·)
      else
        decodeFrom (pos + 1)
          (some { p with owed := p.owed - 1, low := 0x80, high := 0xBF, value := value }) rest
    else .error ⟨.continuationByte, p.first, p.start, pos⟩

/-- The text that bytes hold. The reader walks over the bytes once; between characters nothing is
pending, inside one it knows how many bytes are owed and which the next may be. The first byte that
cannot be is reported with its place and the reason. -/
def decode (bytes : List UInt8) : Except DecodeError (List Char) := decodeFrom 0 none bytes

end ServiceDiagram.Text.Utf8

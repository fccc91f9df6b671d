import ServiceDiagram.Text.Digit
import ServiceDiagram.Text.Replace

namespace ServiceDiagram.IpAddress

def isOctet (cs : List Char) : Bool :=
  !cs.isEmpty && cs.all Text.isAsciiDigit && decide (cs.length ≤ 3) &&
    (cs == ['0'] || cs.head? != some '0') &&
    decide (cs.foldl (fun n c => 10 * n + (c.toNat - '0'.toNat)) 0 ≤ 255)

/-- Whether a text is an address of the fourth version: four octets in decimal without leading
noughts. -/
def isV4 (cs : List Char) : Bool :=
  let octets := Text.splitOn '.' cs
  octets.length == 4 && octets.all isOctet

def isGroup (cs : List Char) : Bool :=
  !cs.isEmpty && decide (cs.length ≤ 4) && cs.all fun c => (Text.hexValue? c).isSome

/-- Replaces a last part in octets by two groups; none if it is no address. -/
def expandOctets? (parts : List (List Char)) : Option (List (List Char)) :=
  match parts.getLast? with
  | none => some parts
  | some final =>
    if final.contains '.' then
      if isV4 final then some (parts.dropLast ++ [['0'], ['0']]) else none
    else some parts

/-- The places of the empty parts between the first and the last. -/
def innerGaps (parts : List (List Char)) : List Nat :=
  (List.range parts.length).filter fun i =>
    decide (0 < i) && decide (i + 1 < parts.length) && (parts[i]?.getD []).isEmpty

/-- Whether parts that were written between colons are an address. -/
def areGroups (parts : List (List Char)) : Bool :=
  if 9 < parts.length then false
  else
    match innerGaps parts with
    | [] => parts.length == 8 && parts.all isGroup
    | [gap] =>
      let front := parts.take gap
      let back := parts.drop (gap + 1)
      let before := if front == [[]] then [] else front
      let after := if back == [[]] then [] else back
      before.all isGroup && after.all isGroup && decide (before.length + after.length ≤ 7)
    | _ => false

/-- Whether a text is an address of the sixth version: eight groups of up to four hexadecimal
digits, of which a run of at least one may be left out once, the last two perhaps written as four
octets; a zone may follow. -/
def isV6 (cs : List Char) : Bool :=
  if cs.contains '/' then false
  else
    match Text.partition '%' cs with
    | (address, zone) =>
      let zoneOk :=
        match zone with
        | none => true
        | some z => !z.isEmpty && !z.contains '%'
      let parts := Text.splitOn ':' address
      zoneOk && decide (3 ≤ parts.length) &&
        match expandOctets? parts with
        | none => false
        | some parts => areGroups parts

end ServiceDiagram.IpAddress

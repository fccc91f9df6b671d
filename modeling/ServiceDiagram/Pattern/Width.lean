import ServiceDiagram.Pattern.Basic

namespace ServiceDiagram.Pattern

/-- Least and greatest count of characters that a pattern can match. A reference matches as many as
its group does; numbers beyond `widthLimit` are cut. -/
abbrev Width := Nat × Nat

def widthLimit : Nat := Nat.pow 2 64

def Width.add (a b : Width) : Width := (a.1 + b.1, a.2 + b.2)

def Width.cut (a : Width) : Width := (min a.1 widthLimit, min a.2 widthLimit)

mutual

/-- The width of a node, where `groups` gives the widths of the groups by number. -/
def Node.width (groups : List (Option Width)) : Node → Width
  | .char _ | .notChar _ | .anyChar | .oneOf .. => (1, 1)
  | .anchor _ | .look .. => (0, 0)
  | .backReference g => ((groups[g]?).join).getD (0, 0)
  | .group _ _ _ body => sequenceWidth groups body
  | .atomicGroup body => sequenceWidth groups body
  | .conditional _ yes no =>
    let a := sequenceWidth groups yes
    match no with
    | some body =>
      let b := sequenceWidth groups body
      (min a.1 b.1, max a.2 b.2)
    | none => (0, a.2)
  | .loop _ least most body =>
    let a := sequenceWidth groups body
    match most with
    | some n => (a.1 * least, a.2 * n)
    | none => (a.1 * least, if a.2 = 0 then 0 else widthLimit)
  | .branch choices => choicesWidth groups choices

/-- The width of nodes one after the other. -/
def sequenceWidth (groups : List (Option Width)) : List Node → Width
  | [] => (0, 0)
  | n :: rest => ((n.width groups).add (sequenceWidth groups rest)).cut

/-- The width of a choice. -/
def choicesWidth (groups : List (Option Width)) : List (List Node) → Width
  | [] => (widthLimit, 0)
  | c :: rest =>
    let a := sequenceWidth groups c
    let b := choicesWidth groups rest
    (min a.1 b.1, max a.2 b.2)

end

end ServiceDiagram.Pattern

namespace ServiceDiagram

/-- Random choices as a plan that asks for them one after the other: numbers below a bound,
fractions of one, and rows of bits. A plan is run with any source of such answers, so what holds of
every answer in range holds of every source. -/
inductive Draw (α : Type) where
  | done (a : α)
  /-- Asks for a number below a bound. -/
  | index (bound : Nat) (next : Nat → Draw α)
  /-- Asks for a fraction of one, given by its numerator over `2 ^ 53`. -/
  | fraction (next : Nat → Draw α)
  /-- Asks for a number of so many bits. -/
  | bits (count : Nat) (next : Nat → Draw α)

namespace Draw

def bind {α β : Type} : Draw α → (α → Draw β) → Draw β
  | done a, f => f a
  | index n next, f => index n fun v => (next v).bind f
  | fraction next, f => fraction fun v => (next v).bind f
  | bits n next, f => bits n fun v => (next v).bind f

instance monad : Monad Draw where
  pure := done
  bind := Draw.bind

/-- A number between two bounds, both included. -/
def between (low high : Nat) : Draw Nat := index (high - low + 1) fun v => done (low + v)

/-- An item of a list. -/
def choose {α : Type} (default : α) (items : List α) : Draw α :=
  index items.length fun i => done (items[i]?.getD default)

/-- So many answers of one plan. -/
def times {α : Type} (d : Draw α) : Nat → Draw (List α)
  | 0 => done []
  | n + 1 => d.bind fun a => (times d n).bind fun as => done (a :: as)

/-- A source of random answers with a state of its own. -/
structure Source (σ : Type) where
  index : Nat → σ → Nat × σ
  fraction : σ → Nat × σ
  bits : Nat → σ → Nat × σ

/-- Runs a plan with a source. -/
def run {σ α : Type} (source : Source σ) : Draw α → σ → α × σ
  | done a, s => (a, s)
  | index n next, s =>
    let (v, s) := source.index n s
    (next v).run source s
  | fraction next, s =>
    let (v, s) := source.fraction s
    (next v).run source s
  | bits n next, s =>
    let (v, s) := source.bits n s
    (next v).run source s

/-- The outcomes that a plan can have when every answer is in range. -/
inductive Possible {α : Type} : Draw α → α → Prop where
  | done (a : α) : Possible (.done a) a
  | index {n : Nat} {next : Nat → Draw α} {a : α} (v : Nat) (inRange : v < n) :
      Possible (next v) a → Possible (.index n next) a
  | fraction {next : Nat → Draw α} {a : α} (v : Nat) (inRange : v < Nat.pow 2 53) :
      Possible (next v) a → Possible (.fraction next) a
  | bits {n : Nat} {next : Nat → Draw α} {a : α} (v : Nat) (inRange : v < Nat.pow 2 n) :
      Possible (next v) a → Possible (.bits n next) a

end Draw

end ServiceDiagram

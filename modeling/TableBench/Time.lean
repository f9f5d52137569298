import TableBench.Number.Layout

namespace TableBench

/-- Points and lengths of time in seconds. -/
class TimeScale (T : Type) extends Add T, Sub T, LT T, LE T where
  ofSeconds : Nat → T
  decideLT : (a b : T) → Decidable (a < b)
  decideLE : (a b : T) → Decidable (a ≤ b)
  text : T → String

namespace TimeScale

variable {T : Type} [TimeScale T]

instance : DecidableLT T := fun a b => decideLT a b

instance : DecidableLE T := fun a b => decideLE a b

def none : T := ofSeconds 0

end TimeScale

instance : TimeScale Float where
  ofSeconds n := Float.ofNat n
  decideLT a b := Float.decLt a b
  decideLE a b := Float.decLe a b
  text := Number.floatText

/-- The waits that are cut short, counted from one: all from one on, and a single one. No wait may
be longer than so many seconds, if there is a bound. -/
structure Interruption where
  since : Option Nat := none
  once : Option Nat := none
  longest : Option Nat := none
  deriving DecidableEq, Repr

namespace Interruption

/-- Waits for an event that nobody sets: a wait has to fit into 64 bits of nanoseconds. -/
def ofEvent : Interruption := { longest := some 9223372036 }

def cuts (i : Interruption) (n : Nat) : Bool := i.since.any (· ≤ n) || i.once == some n

def refuses {T : Type} [TimeScale T] (i : Interruption) (t : T) : Bool :=
  i.longest.any fun n => TimeScale.ofSeconds n < t

end Interruption

end TableBench

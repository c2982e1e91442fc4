/-!
Sets of characters given by runs of code points. The modules beside this one list those of Unicode: the
properties Alphabetic, Cased, Case_Ignorable, Lowercase, Uppercase and White_Space, and the general
categories of numbers, Nd, Nl and No.
-/

namespace Parsing.Character

/-- The code points `first`, `first + step`, up to `last`. -/
structure Run where
  first : Nat
  last : Nat
  step : Nat

def Run.contains (r : Run) (n : Nat) : Bool :=
  r.first ≤ n && n ≤ r.last && (n - r.first) % r.step == 0

def member : List Run → Nat → Bool
  | [], _ => false
  | r :: rest, n => if n < r.first then false else r.contains n || member rest n

end Parsing.Character

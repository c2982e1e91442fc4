import Parsing.Position

/-!
What stops a run before it has a result: misuse of a cursor, a loop that makes no progress, or a bound
that is exceeded. Syntax errors are results and are no faults.
-/

namespace Parsing

inductive Fault where
  | noSpan
  | noTokens
  | outOfSource (first stop size : Nat)
  | otherSource
  | outOfSpan (target first stop : Nat)
  | notBoundary (bytes size : Nat)
  | badSlice
  | zeroWidth (place : Position)
  | zeroWidthLink (place : Position)
  | emptyToken (kind : String) (place : Position)
  | capacity
  | brokenStack
  | undefined (name : String)
  | endless
deriving DecidableEq, Repr

def Fault.message : Fault → Option String
  | .noSpan => some "the span has no value, it was not constructed over a source"
  | .noTokens => some "the token list has no value, it was not constructed over tokens"
  | .outOfSource first stop size => some ("span " ++ toString first ++ ".." ++ toString stop ++
      " is not within the " ++ toString size ++ " bytes of its source")
  | .otherSource => some "`until` requires both spans to view the same source"
  | .outOfSpan target first stop => some ("`until` target " ++ toString target ++
      " is outside of span " ++ toString first ++ ".." ++ toString stop)
  | .notBoundary bytes size => some ("byte length " ++ toString bytes ++
      " is not a character boundary of a " ++ toString size ++ " byte span")
  | .zeroWidth place => some ("repeated parser succeeded without consuming input at " ++ place.render ++
      ", it would never terminate")
  | .zeroWidthLink place =>
      some ("chained operator and operand succeeded without consuming input at " ++ place.render)
  | .emptyToken kind place =>
      some ("tokenizer recognised an empty " ++ kind ++ " token at " ++ place.render)
  | .badSlice | .capacity | .brokenStack | .undefined _ | .endless => none

end Parsing

import Parsing.Character.Alphabetic
import Parsing.Character.Blank
import Parsing.Character.Lowercase
import Parsing.Character.Numeric
import Parsing.Character.Uppercase
import Parsing.Parser.Basic

namespace Parsing.Parser

variable {K V : Type} {i : Medium} {α β γ ω : Type}

section Characters

def matching (accepts : Char → Bool) (name : String) : Parser K V .text Char :=
  one accepts [name]

def char (c : Char) : Parser K V .text Char :=
  matching (· == c) (Wording.character c)

def anyChar : Parser K V .text Char :=
  matching (fun _ => true) "any character"

def charIn (cs : List Char) : Parser K V .text Char :=
  one cs.contains (cs.map Wording.character)

def charExcept (c : Char) : Parser K V .text Char :=
  matching (· != c) ("any character except " ++ Wording.character c)

def charNotIn (cs : List Char) : Parser K V .text Char :=
  matching (!cs.contains ·) <| match Wording.alternatives (cs.map Wording.character) with
    | some excluded => "any character except " ++ excluded
    | none => "any character"

def digit : Parser K V .text Char :=
  matching Char.isDigit "digit"

def letter : Parser K V .text Char :=
  matching Character.isAlphabetic "letter"

def letterOrDigit : Parser K V .text Char :=
  matching (fun c => Character.isAlphabetic c || Character.isNumeric c) "letter or digit"

def lower : Parser K V .text Char :=
  matching Character.isLowercase "lowercase letter"

def upper : Parser K V .text Char :=
  matching Character.isUppercase "uppercase letter"

def blank : Parser K V .text Char :=
  matching Character.isBlank "whitespace"

def blanks : Parser K V .text View :=
  takeWhile Character.isBlank none

end Characters

section Tokens

variable [DecidableEq K] [TokenKind K]

def kind (k : K) : Parser K V .tokens (Token K) :=
  token (·.kind = k) (TokenKind.whenExpected k)

def kindText (k : K) (text : String) : Parser K V .tokens (Token K) :=
  token (fun t => t.kind = k ∧ t.text = text) (Wording.quote text)

def anyToken : Parser K V .tokens (Token K) :=
  token (fun _ => true) "any token"

end Tokens

def value (p : Parser K V i α) (b : β) : Parser K V i β :=
  map (fun _ => b) p

def optionalOr (p : Parser K V i α) (default : α) : Parser K V i α :=
  map (·.getD default) (optional p)

def seqRight (p : Parser K V i α) (q : Parser K V i β) : Parser K V i β :=
  map Prod.snd (seq p q)

def seqLeft (p : Parser K V i α) (q : Parser K V i β) : Parser K V i α :=
  map Prod.fst (seq p q)

def between (before : Parser K V i α) (p : Parser K V i β) (after : Parser K V i γ) : Parser K V i β :=
  seqLeft (seqRight before p) after

def sepByEnding (item : Parser K V i α) (delimiter : Parser K V i β) (ending : Parser K V i γ) :
    Parser K V i (List α) :=
  or (seqLeft (sepBy true item delimiter) ending) (value ending [])

def choices (p : Parser K V i α) : List (Parser K V i α) → Parser K V i α
  | [] => p
  | q :: qs => or p (choices q qs)

def sequence : List (Parser K V i α) → Parser K V i (List α)
  | [] => succeed []
  | p :: ps => map (fun (a, as) => a :: as) (seq p (sequence ps))

def satisfying (p : Parser K V i α) (accepts : α → Bool) : Parser K V i α :=
  guard p accepts "unsatisfied condition"

structure Tier (K V : Type) (i : Medium) (ω α : Type) where
  associativity : Associativity
  operator : Parser K V i ω
  apply : ω → α → α → α

def tiers (operand : Parser K V i α) (levels : List (Tier K V i ω α)) : Parser K V i α :=
  levels.foldl (fun level tier => chain tier.associativity tier.operator level tier.apply) operand

def inspect : Parser K V i α → String
  | one _ expectations => "Matching(" ++ " | ".intercalate expectations ++ ")"
  | takeWhile _ none => "TakeWhile"
  | takeWhile _ (some name) => "TakeWhile1(" ++ name ++ ")"
  | token _ expectation => "Matching(" ++ expectation ++ ")"
  | _ => "BoxedParser"

end Parsing.Parser

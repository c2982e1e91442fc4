import Parsing.Value

namespace Parsing

namespace Word

def power (base : Int64) (exponent : Nat) : Int64 :=
  if exponent = 0 then 1
  else
    let root := power (base * base) (exponent / 2)
    if exponent % 2 = 1 then base * root else root

-- Exponents have 32 bits; any other is taken for zero.
def exponent (n : Int64) : Nat :=
  if 0 ≤ n.toInt ∧ n.toInt < 0x100000000 then n.toInt.toNat else 0

def calculate (label : String) (left right : Int64) : Int64 :=
  match label with
  | "+" => left + right
  | "-" => left - right
  | "*" => left * right
  | "^" => power left (exponent right)
  | _ => 0

end Word

inductive Builder where
  | bracketed
  | evaluated
deriving DecidableEq, Repr

namespace Builder

variable {K : Type}

def infixed (b : Builder) (label : String) (left right : Value K) : Value K :=
  match b with
  | bracketed => .str ("(" ++ left.text ++ " " ++ label ++ " " ++ right.text ++ ")")
  | evaluated => .int (Word.calculate label left.number right.number)

def prefixed (b : Builder) (label : String) (operand : Value K) : Value K :=
  match b with
  | bracketed => .str (label ++ operand.text)
  | evaluated => .int (if label = "-" then -operand.number else operand.number)

def joinItems : List (Value K) → List (Token K) → String
  | [], _ => ""
  | [last], _ => last.text
  | item :: items, [] => item.text ++ "?" ++ joinItems items []
  | item :: items, separator :: separators => item.text ++ separator.text ++ joinItems items separators

def grouped (b : Builder) (name : String) (items : List (Value K)) (separators : List (Token K)) :
    Value K :=
  match b with
  | bracketed => .str (name ++ "<" ++ joinItems items separators ++ ">" ++ toString items.length ++
      "/" ++ toString separators.length)
  | evaluated => .int (match items.getLast? with
    | some last => last.number
    | none => 0)

def ifThenElse (b : Builder) (condition yes no : Value K) : Value K :=
  match b with
  | bracketed => .str ("(if " ++ condition.text ++ " then " ++ yes.text ++ " else " ++ no.text ++ ")")
  | evaluated => .int (if condition.number ≠ 0 then yes.number else no.number)

def ifThen (b : Builder) (condition yes : Value K) : Value K :=
  match b with
  | bracketed => .str ("(if " ++ condition.text ++ " then " ++ yes.text ++ ")")
  | evaluated => .int (if condition.number ≠ 0 then yes.number else 0)

end Builder

structure Limits where
  least : Option Nat
  most : Option Nat
  uniform : Bool

def Limits.check {K : Type} (limits : Limits) (items : List (Value K)) (separators : List (Token K)) :
    Option String :=
  if limits.least.any (items.length < ·) then some ("too few items: " ++ toString items.length)
  else if limits.most.any (· < items.length) then some ("too many items: " ++ toString items.length)
  else if limits.uniform && !separators.all (fun t => separators.head?.any (·.text == t.text)) then
    some "mixed separators"
  else none

end Parsing

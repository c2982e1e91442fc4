import Parsing.Token

namespace Parsing

inductive Value (K : Type) where
  | char (c : Char)
  | str (text : String)
  | int (n : Int64)
  | span (view : View)
  | token (t : Token K)
  | list (items : List (Value K))
  | none
  | some (v : Value K)
  | unit

namespace Value

variable {K : Type}

mutual

def text : Value K → String
  | char c => String.singleton c
  | str text => text
  | int n => toString n.toInt
  | span view => view.text
  | token t => t.text
  | list items => textAll items
  | none => ""
  | some v => v.text
  | unit => ""

def textAll : List (Value K) → String
  | [] => ""
  | v :: vs => v.text ++ textAll vs

end

def readNumber (text : String) : Int64 :=
  let n := (text.toList.filter Char.isDigit).foldl (fun n c => 10 * n + (c.toNat - '0'.toNat)) 0
  if n < 0x8000000000000000 then Int64.ofNat n else Int64.maxValue

def number : Value K → Int64
  | int n => n
  | v => readNumber v.text

def length : Value K → Int64
  | list items => Int64.ofNat items.length
  | _ => -1

def count (v : Value K) : Nat :=
  v.number.toUInt64.toNat

end Value

inductive TextTest where
  | isIn (texts : List String)
  | isNotIn (texts : List String)
  | hasLength (least : Nat)
deriving DecidableEq, Repr

def TextTest.holds (text : String) : TextTest → Bool
  | isIn texts => texts.contains text
  | isNotIn texts => !texts.contains text
  | hasLength least => least ≤ text.length

end Parsing

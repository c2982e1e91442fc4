import Parsing.Parser.Basic

/-!
Parsing expressions by the usual rules: ordered choice, greedy repetition, negative lookahead. A failure
has no place and no cause, and a repetition of an expression that goes on to succeed without end has no
outcome.
-/

namespace Parsing

abbrev Recogniser (C α : Type) :=
  C → Option (α × C) → Prop

namespace Peg

section Rules

variable {C α β : Type}

def succeed (a : α) : Recogniser C α := fun input outcome =>
  outcome = some (a, input)

inductive Map (f : α → β) (P : Recogniser C α) : C → Option (β × C) → Prop where
  | fails {input : C} (hp : P input none) : Map f P input none
  | succeeds {input rest : C} {a : α} (hp : P input (some (a, rest))) : Map f P input (some (f a, rest))

inductive Seq (P : Recogniser C α) (Q : Recogniser C β) : C → Option ((α × β) × C) → Prop where
  | failsFirst {input : C} (hp : P input none) : Seq P Q input none
  | failsSecond {input middle : C} {a : α} (hp : P input (some (a, middle))) (hq : Q middle none) :
      Seq P Q input none
  | succeeds {input middle rest : C} {a : α} {b : β} (hp : P input (some (a, middle)))
      (hq : Q middle (some (b, rest))) : Seq P Q input (some ((a, b), rest))

inductive Choice (P Q : Recogniser C α) : C → Option (α × C) → Prop where
  | first {input rest : C} {a : α} (hp : P input (some (a, rest))) : Choice P Q input (some (a, rest))
  | second {input : C} {outcome : Option (α × C)} (hp : P input none) (hq : Q input outcome) :
      Choice P Q input outcome

inductive Star (P : Recogniser C α) : C → List α → C → Prop where
  | stop {input : C} (hp : P input none) : Star P input [] input
  | more {input middle rest : C} {a : α} {as : List α} (hp : P input (some (a, middle)))
      (hs : Star P middle as rest) : Star P input (a :: as) rest

def many (P : Recogniser C α) : Recogniser C (List α) := fun input outcome =>
  ∃ as rest, Star P input as rest ∧ outcome = some (as, rest)

def many1 (P : Recogniser C α) : Recogniser C (List α) :=
  Map (fun x => x.1 :: x.2) (Seq P (many P))

def optional (P : Recogniser C α) : Recogniser C (Option α) :=
  Choice (Map some P) (succeed none)

inductive Absent (P : Recogniser C α) : C → Option (Unit × C) → Prop where
  | fails {input rest : C} {a : α} (hp : P input (some (a, rest))) : Absent P input none
  | succeeds {input : C} (hp : P input none) : Absent P input (some ((), input))

def sepBy (item : Recogniser C α) (delimiter : Recogniser C β) : Recogniser C (List α) :=
  Map (fun x => x.1 :: x.2) (Seq item (many (Map Prod.snd (Seq delimiter item))))

end Rules

section Terminals

def item {C α : Type} (next : C → Except Fault (Option (α × C))) (accepts : α → Bool) :
    Recogniser C α := fun input outcome =>
  ∃ found, next input = .ok found ∧ outcome = found.filter fun x => accepts x.1

def one (accepts : Char → Bool) : Recogniser Span Char :=
  item Span.next? accepts

def startsWith (ignoreCase : Bool) : List Char → List Char → Bool
  | _, [] => true
  | [], _ :: _ => false
  | found :: cs, expected :: more =>
    Primitive.agrees ignoreCase found expected && startsWith ignoreCase cs more

def literal (text : List Char) (ignoreCase : Bool) : Recogniser Span View
  | none, _ => False
  | some v, outcome =>
    outcome = if startsWith ignoreCase v.chars text
      then some (v.first text.length, some (v.skip text.length))
      else none

def takeWhile (accepts : Char → Bool) (name : Option String) : Recogniser Span View
  | none, _ => False
  | some v, outcome =>
    let count := (v.chars.takeWhile accepts).length
    outcome = if name.isSome ∧ count = 0 then none else some (v.first count, some (v.skip count))

variable {K : Type}

def token (accepts : Token K → Bool) : Recogniser (TokenList K) (Token K) :=
  item TokenList.next? accepts

def kinds [DecidableEq K] : List K → Recogniser (TokenList K) (List (Token K))
  | [] => succeed []
  | kind :: more => Map (fun x => x.1 :: x.2) (Seq (token fun t => t.kind = kind) (kinds more))

end Terminals

end Peg

namespace Parser

variable {K V : Type}

/-- The outcomes of a parser that is read as a parsing expression. Parsers that have no such reading have no
outcome. -/
def peg [DecidableEq K] : {i : Medium} → {α : Type} → Parser K V i α → Recogniser (Input K i) α
  | _, _, .one accepts _ => Peg.one accepts
  | _, _, .literal text ignoreCase => Peg.literal text.toList ignoreCase
  | _, _, .takeWhile accepts name => Peg.takeWhile accepts name
  | _, _, .token accepts _ => Peg.token accepts
  | _, _, .kinds expected => Peg.kinds expected
  | _, _, .succeed a => Peg.succeed a
  | _, _, .map f p => Peg.Map f p.peg
  | _, _, .seq p q => Peg.Seq p.peg q.peg
  | _, _, .or p q => Peg.Choice p.peg q.peg
  | _, _, .attempt p => p.peg
  | _, _, .many p => Peg.many p.peg
  | _, _, .many1 p => Peg.many1 p.peg
  | _, _, .optional p => Peg.optional p.peg
  | _, _, .notFollowedBy p => Peg.Absent p.peg
  | _, _, .sepBy true item delimiter => Peg.sepBy item.peg delimiter.peg
  | _, _, _ => fun _ _ => False

/-- Every first alternative, everything that is repeated or optional, and all items and delimiters of lists
are attempts. -/
inductive Backtracked : {i : Medium} → {α : Type} → Parser K V i α → Prop where
  | one (accepts : Char → Bool) (expectations : List String) : Backtracked (.one accepts expectations)
  | literal (text : String) (ignoreCase : Bool) : Backtracked (.literal text ignoreCase)
  | takeWhile (accepts : Char → Bool) (name : Option String) : Backtracked (.takeWhile accepts name)
  | token (accepts : Token K → Bool) (expectation : String) : Backtracked (.token accepts expectation)
  | kinds (expected : List K) : Backtracked (.kinds expected)
  | succeed {i : Medium} {α : Type} (a : α) : Backtracked (.succeed a : Parser K V i α)
  | map {i : Medium} {α β : Type} {p : Parser K V i α} (f : α → β) (hp : Backtracked p) :
      Backtracked (.map f p)
  | seq {i : Medium} {α β : Type} {p : Parser K V i α} {q : Parser K V i β} (hp : Backtracked p)
      (hq : Backtracked q) : Backtracked (.seq p q)
  | attempt {i : Medium} {α : Type} {p : Parser K V i α} (hp : Backtracked p) :
      Backtracked (.attempt p)
  | or {i : Medium} {α : Type} {p q : Parser K V i α} (hp : Backtracked p) (hq : Backtracked q) :
      Backtracked (.or (.attempt p) q)
  | many {i : Medium} {α : Type} {p : Parser K V i α} (hp : Backtracked p) :
      Backtracked (.many (.attempt p))
  | many1 {i : Medium} {α : Type} {p : Parser K V i α} (hp : Backtracked p) :
      Backtracked (.many1 (.attempt p))
  | optional {i : Medium} {α : Type} {p : Parser K V i α} (hp : Backtracked p) :
      Backtracked (.optional (.attempt p))
  | notFollowedBy {i : Medium} {α : Type} {p : Parser K V i α} (hp : Backtracked p) :
      Backtracked (.notFollowedBy p)
  | sepBy {i : Medium} {α β : Type} {item : Parser K V i α} {delimiter : Parser K V i β}
      (hi : Backtracked item) (hd : Backtracked delimiter) :
      Backtracked (.sepBy true (.attempt item) (.attempt delimiter))

end Parser

end Parsing

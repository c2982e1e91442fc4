import Parsing.Expression.Grammar

/-!
The stacks of an expression that is being read: operators with marks of open groupings and conditionals
on one, values on the other. The top of a stack is the head of its list.
-/

namespace Parsing.Expression

variable {K α : Type}

inductive Entry (g : Grammar K α) where
  | infixed (op : InfixOperator α)
  | prefixed (op : PrefixOperator α)
  | opened (set : Grouping K α) (depth : Nat)
  | separator (token : Token K)
  | ifMark (choice : Fin g.conditionals.length)
  | thenMark (choice : Fin g.conditionals.length)
  | elseMark (choice : Fin g.conditionals.length)

namespace Entry

variable {g : Grammar K α}

def isOpened : Entry g → Bool
  | opened .. => true
  | _ => false

def isThen : Entry g → Bool
  | thenMark _ => true
  | _ => false

end Entry

structure Stacks (g : Grammar K α) where
  operators : List (Entry g)
  operands : List α

namespace Stacks

variable {g : Grammar K α}

def reduce : Stacks g → Except Fault (Stacks g)
  | ⟨.infixed op :: ops, right :: left :: values⟩ => .ok ⟨ops, op.build left right :: values⟩
  | ⟨.prefixed op :: ops, operand :: values⟩ => .ok ⟨ops, op.build operand :: values⟩
  | ⟨.thenMark i :: .ifMark j :: ops, yes :: condition :: values⟩ =>
    if i = j then .ok ⟨ops, (g.conditionals.get i).ifThen condition yes :: values⟩
    else .error .brokenStack
  | ⟨.elseMark i :: .thenMark j :: .ifMark k :: ops, no :: yes :: condition :: values⟩ =>
    if i = j ∧ i = k then .ok ⟨ops, (g.conditionals.get i).ifThenElse condition yes no :: values⟩
    else .error .brokenStack
  | _ => .error .brokenStack

def reduceRounds (continues : List (Entry g) → Bool) : Nat → Stacks g → Except Fault (Stacks g)
  | 0, s => if continues s.operators then .error .brokenStack else .ok s
  | rounds + 1, s =>
    if continues s.operators then do
      let s ← s.reduce
      reduceRounds continues rounds s
    else .ok s

def reduceWhile (continues : List (Entry g) → Bool) (s : Stacks g) : Except Fault (Stacks g) :=
  reduceRounds continues s.operators.length s

def bindsTighter (precedence : Int) : List (Entry g) → Bool
  | .infixed op :: _ => precedence < op.precedence ||
      (op.precedence == precedence && op.associativity == .left)
  | .prefixed op :: _ => precedence < op.precedence
  | _ => false

def aboveBarrier : List (Entry g) → Bool
  | [] | .opened .. :: _ | .separator _ :: _ => false
  | _ => true

def aboveIf (choice : Fin g.conditionals.length) : List (Entry g) → Bool
  | .ifMark i :: _ => i ≠ choice
  | _ => true

def aboveThen (choice : Fin g.conditionals.length) : List (Entry g) → Bool
  | .thenMark i :: _ => i ≠ choice
  | _ => true

def aboveBottom (ops : List (Entry g)) : Bool :=
  !ops.isEmpty

end Stacks

section Lookahead

variable {g : Grammar K α}

def innermost : List (Entry g) → Option (Grouping K α)
  | [] => none
  | .opened set _ :: _ => some set
  | _ :: ops => innermost ops

def aboveInnermost (ops : List (Entry g)) : List (Entry g) :=
  ops.takeWhile fun p => !p.isOpened

def danglingFrom (found : Option (Fin g.conditionals.length)) (thenAbove : Bool) :
    List (Entry g) → Option (Fin g.conditionals.length)
  | [] => found
  | p :: ops =>
    danglingFrom (match p, thenAbove with
      | .ifMark i, false => some i
      | _, _ => found) p.isThen ops

def dangling (ops : List (Entry g)) : Option (Fin g.conditionals.length) :=
  danglingFrom none false ops

inductive Branch where
  | consequent
  | alternative
deriving DecidableEq, Repr

/-- Whether a branch belongs to the nearest conditional that waits for one. Conditionals that are complete
are passed over with their marks: `thens` and `ifs` count the marks that are still to come. -/
def belongsFrom (branch : Branch) (choice : Fin g.conditionals.length) :
    Nat → Nat → List (Entry g) → Bool
  | _, _, [] => false
  | thens, ifs, .infixed _ :: ops => belongsFrom branch choice thens ifs ops
  | thens, ifs, .prefixed _ :: ops => belongsFrom branch choice thens ifs ops
  | thens, ifs, .elseMark _ :: ops => belongsFrom branch choice (thens + 1) ifs ops
  | thens + 1, ifs, .thenMark _ :: ops => belongsFrom branch choice thens (ifs + 1) ops
  | 0, ifs, .thenMark i :: ops =>
    match branch with
    | .alternative => i = choice
    | .consequent => belongsFrom branch choice 0 (ifs + 1) ops
  | thens, ifs + 1, .ifMark _ :: ops => belongsFrom branch choice thens ifs ops
  | _, 0, .ifMark i :: _ => branch = .consequent ∧ i = choice
  | _, _, .opened .. :: _ => false
  | _, _, .separator _ :: _ => false

def belongs (branch : Branch) (choice : Fin g.conditionals.length) (ops : List (Entry g)) : Bool :=
  belongsFrom branch choice 0 0 ops

end Lookahead

end Parsing.Expression

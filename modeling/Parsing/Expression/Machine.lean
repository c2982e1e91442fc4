import Parsing.Expression.Stack

namespace Parsing.Expression

universe v

variable {K α : Type}

inductive Expect where
  | operand
  | operator
deriving DecidableEq, Repr

structure Machine (g : Grammar K α) where
  input : TokenList K
  remainder : TokenList K
  expect : Expect
  stack : Stacks g

inductive Step (g : Grammar K α) where
  | going (machine : Machine g)
  | done (reply : Reply (TokenList K) α)

namespace Machine

variable {g : Grammar K α}

def start (input : TokenList K) : Machine g :=
  ⟨input, input, .operand, ⟨[], []⟩⟩

def shift (s : Machine g) (stack : Stacks g) (entry : Entry g) (remainder : TokenList K) : Step g :=
  .going ⟨s.input, remainder, .operand, ⟨entry :: stack.operators, stack.operands⟩⟩

def push (s : Machine g) (stack : Stacks g) (value : α) (remainder : TokenList K) : Step g :=
  .going ⟨s.input, remainder, .operator, ⟨stack.operators, value :: stack.operands⟩⟩

def refuse [TokenKind K] (s : Machine g) (kind : K) : Step g :=
  .done (.failure (.expected s.remainder [TokenKind.whenExpected kind]))

variable [DecidableEq K]

def afterEmpty (set : Grouping K α) (rest : TokenList K) : Except Fault (Option (TokenList K)) :=
  if set.allowEmpty then do
    match ← TokenList.next? rest with
    | some (next, after) => return if next.kind = set.stop then some after else none
    | none => return none
  else return none

def opening? (s : Machine g) : Except Fault (Option (Step g)) := do
  match ← TokenList.next? s.remainder with
  | none => return none
  | some (token, rest) =>
    match g.prefixOf token.kind with
    | some op => return some (s.shift s.stack (.prefixed op) rest)
    | none =>
      match g.groupingOf token.kind with
      | some set =>
        match ← afterEmpty set rest with
        | some after => return some (s.push s.stack (set.build [] []) after)
        | none => return some (s.shift s.stack (.opened set s.stack.operands.length) rest)
      | none =>
        match g.ifOf token.kind with
        | some choice => return some (s.shift s.stack (.ifMark choice) rest)
        | none => return none

def popGrouping : List (Entry g) → List (Token K) → Except Fault (List (Token K) × Nat × List (Entry g))
  | .separator token :: ops, separators => popGrouping ops (token :: separators)
  | .opened _ depth :: ops, separators => .ok (separators, depth, ops)
  | _, _ => .error .brokenStack

variable [TokenKind K]

def requireBranches (s : Machine g) (ops : List (Entry g)) (next : Except Fault (Step g)) :
    Except Fault (Step g) :=
  match dangling ops with
  | some choice => .ok (s.refuse (g.conditionals.get choice).thenKind)
  | none => next

def close (s : Machine g) (set : Grouping K α) (rest : TokenList K) : Except Fault (Step g) :=
  s.requireBranches (aboveInnermost s.stack.operators) do
    let reduced ← s.stack.reduceWhile Stacks.aboveBarrier
    let (separators, depth, ops) ← popGrouping reduced.operators []
    if reduced.operands.length < depth then throw .brokenStack
    let count := reduced.operands.length - depth
    let items := (reduced.operands.take count).reverse
    match set.check items separators with
    | some message => return .done (.failure (.withMessage s.remainder message))
    | none => return s.push ⟨ops, reduced.operands.drop count⟩ (set.build items separators) rest

def separate (s : Machine g) (token : Token K) (rest : TokenList K) : Except Fault (Step g) :=
  s.requireBranches (aboveInnermost s.stack.operators) do
    let reduced ← s.stack.reduceWhile Stacks.aboveBarrier
    return s.shift reduced (.separator token) rest

def finish (s : Machine g) : Except Fault (Step g) :=
  match innermost s.stack.operators with
  | some set => .ok (s.refuse set.stop)
  | none => s.requireBranches s.stack.operators do
    let reduced ← s.stack.reduceWhile Stacks.aboveBottom
    match reduced.operands with
    | [value] => return .done (.success value s.input s.remainder)
    | _ => throw .brokenStack

def branch (s : Machine g) (token : Token K) (rest : TokenList K) : Except Fault (Step g) :=
  match (g.thenOf token.kind).filter (belongs .consequent · s.stack.operators) with
  | some choice => do
    let reduced ← s.stack.reduceWhile (Stacks.aboveIf choice)
    return s.shift reduced (.thenMark choice) rest
  | none =>
    match (g.elseOf token.kind).filter (belongs .alternative · s.stack.operators) with
    | some choice => do
      let reduced ← s.stack.reduceWhile (Stacks.aboveThen choice)
      return s.shift reduced (.elseMark choice) rest
    | none => s.finish

def readOperator (s : Machine g) : Except Fault (Step g) := do
  match ← TokenList.next? s.remainder with
  | none => s.finish
  | some (token, rest) =>
    match g.infixOf token.kind with
    | some op =>
      let reduced ← s.stack.reduceWhile (Stacks.bindsTighter op.precedence)
      return s.shift reduced (.infixed op) rest
    | none =>
      match innermost s.stack.operators with
      | none => s.branch token rest
      | some set =>
        if token.kind = set.stop then s.close set rest
        else if token.kind ∈ set.separators then s.separate token rest
        else s.branch token rest

variable {m : Type → Type v} [Monad m] [MonadExcept Fault m]

def readOperand (operand : Reader m (TokenList K) α) (s : Machine g) : m (Step g) := do
  match ← MonadExcept.ofExcept s.opening? with
  | some step => return step
  | none =>
    match ← operand s.remainder with
    | .success value _ rest => return s.push s.stack value rest
    | .failure e => return .done (.failure e)

def step (operand : Reader m (TokenList K) α) (s : Machine g) : m (Step g) :=
  match s.expect with
  | .operand => s.readOperand operand
  | .operator => MonadExcept.ofExcept s.readOperator

def runSteps (operand : Reader m (TokenList K) α) : Nat → Machine g → m (Reply (TokenList K) α)
  | 0, _ => throw .endless
  | steps + 1, s => do
    match ← s.step operand with
    | .done reply => return reply
    | .going s => runSteps operand steps s

end Machine

def expression {m : Type → Type v} [Monad m] [MonadExcept Fault m] [DecidableEq K] [TokenKind K]
    (operand : Reader m (TokenList K) α) (g : Grammar K α) : Reader m (TokenList K) α := fun input =>
  -- An operand may take no token, but an operator takes one.
  Machine.runSteps operand (2 * Cursor.left input + 2) (Machine.start input : Machine g)

end Parsing.Expression

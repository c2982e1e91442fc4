import Parsing.Combinator.Repetition

namespace Parsing

universe v

inductive Associativity where
  | left
  | right
deriving DecidableEq, Repr

namespace Combinator

variable {m : Type → Type v} [Monad m] [MonadExcept Fault m] {C α ω : Type} [Cursor C]

inductive Link (C ω α : Type) where
  | linked (operator : ω) (operand : α) (remainder : C)
  | broken (reason : Failure C)
  | ended

def link (operator : Reader m C ω) (operand : Reader m C α) (remainder : C) : m (Link C ω α) := do
  match ← operator remainder with
  | .failure e => if e.isCommitted remainder then return .broken e else return .ended
  | .success op _ rest =>
    match ← operand rest with
    | .failure e => return .broken e
    | .success a _ rest =>
      if Cursor.same rest remainder then
        throw (.zeroWidthLink (← MonadExcept.ofExcept (Cursor.position remainder)))
      else return .linked op a rest

def chainLeft (next : C → m (Link C ω α)) (apply : ω → α → α → α) (location : C) :
    Nat → C → α → m (Reply C α)
  | 0, _, _ => throw .endless
  | rounds + 1, remainder, acc => do
    match ← next remainder with
    | .linked op a rest => chainLeft next apply location rounds rest (apply op acc a)
    | .broken e => return .failure e
    | .ended => return .success acc location remainder

def chainRight (next : C → m (Link C ω α)) (apply : ω → α → α → α) (location : C) :
    Nat → C → List (α × ω) → α → m (Reply C α)
  | 0, _, _, _ => throw .endless
  | rounds + 1, remainder, pending, last => do
    match ← next remainder with
    | .linked op a rest => chainRight next apply location rounds rest ((last, op) :: pending) a
    | .broken e => return .failure e
    | .ended =>
      return .success (pending.foldl (fun acc (a, op) => apply op a acc) last) location remainder

def chain (associativity : Associativity) (operator : Reader m C ω) (operand : Reader m C α)
    (apply : ω → α → α → α) : Reader m C α := fun input => do
  match ← operand input with
  | .failure e => return .failure e
  | .success a _ rest =>
    match associativity with
    | .left => chainLeft (link operator operand) apply input (rounds rest) rest a
    | .right => chainRight (link operator operand) apply input (rounds rest) rest [] a

end Combinator

end Parsing

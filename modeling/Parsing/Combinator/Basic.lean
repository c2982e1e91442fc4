import Parsing.Reply

namespace Parsing.Combinator

universe v

variable {m : Type → Type v} [Monad m] {C α β : Type}

def map (f : α → β) (p : Reader m C α) : Reader m C β := fun input => do
  return (← p input).map f

def bind (p : Reader m C α) (q : α → Reader m C β) : Reader m C β := fun input => do
  match ← p input with
  | .failure e => return .failure e
  | .success a _ rest =>
    match ← q a rest with
    | .failure e => return .failure e
    | .success b _ rest => return .success b input rest

def seq (p : Reader m C α) (q : Reader m C β) : Reader m C (α × β) := fun input => do
  match ← p input with
  | .failure e => return .failure e
  | .success a _ rest =>
    match ← q rest with
    | .failure e => return .failure e
    | .success b _ rest => return .success (a, b) input rest

def succeed (a : α) : Reader m C α := fun input =>
  return .success a input input

def reporting (p : Reader m C α) (text : String) : Reader m C α := fun input => do
  match ← p input with
  | .failure e => return .failure { e with message := some text }
  | reply => return reply

variable [Cursor C]

def or (p q : Reader m C α) : Reader m C α := fun input => do
  match ← p input with
  | .success a location rest => return .success a location rest
  | .failure e =>
    if e.isCommitted input then return .failure e
    else match ← q input with
      | .success a location rest => return .success a location rest
      | .failure f => return .failure (e.merge f)

def attempt (p : Reader m C α) : Reader m C α := fun input => do
  match ← p input with
  | .success a location rest => return .success a location rest
  | .failure e =>
    -- Expectations of a place further on are dropped.
    if e.isPartial input then return .failure ⟨input, none, e.message, none, true⟩
    else return .failure { e with backtrack := true }

def labelled (p : Reader m C α) (name : String) : Reader m C α := fun input => do
  match ← p input with
  | .success a location rest => return .success a location rest
  | .failure e =>
    if e.isPartial input then return .failure e
    else return .failure (.expected e.remainder [name])

def guard (p : Reader m C α) (accepts : α → Bool) (expectation : String) : Reader m C α := fun input => do
  match ← p input with
  | .success a location rest =>
    if accepts a then return .success a location rest
    else return .failure (.expected input [expectation])
  | .failure e => return .failure e

def optional (p : Reader m C α) : Reader m C (Option α) := fun input => do
  match ← p input with
  | .success a location rest => return .success (some a) location rest
  | .failure e =>
    if e.isCommitted input then return .failure e else return .success none input input

variable [MonadExcept Fault m]

def notFollowedBy (p : Reader m C α) : Reader m C Unit := fun input => do
  match ← p input with
  | .success _ _ rest =>
    let matched ← MonadExcept.ofExcept (Cursor.textTo input rest)
    return .failure (.withMessage input
      ("unexpected successful parsing of " ++ Wording.quote (Wording.shorten matched 12)))
  | .failure _ => return .success () input input

def whole (p : Reader m C α) : Reader m C α := fun input => do
  match ← p input with
  | .success a location rest =>
    if ← MonadExcept.ofExcept (Cursor.isAtEnd rest) then return .success a location rest
    else return .failure (.empty rest)
  | .failure e => return .failure e

def drop : Nat → C → m C
  | 0, input => return input
  | count + 1, input => do
    match ← MonadExcept.ofExcept (Cursor.tail? input) with
    | none => return input
    | some rest => drop count rest

def fail (skip : Nat) (report : Failure Unit) : Reader m C α := fun input => do
  return .failure { report with remainder := ← drop skip input }

end Parsing.Combinator

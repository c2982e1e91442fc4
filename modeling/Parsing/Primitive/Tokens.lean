import Parsing.Reply
import Parsing.TokenList

namespace Parsing.Primitive

universe v

variable {m : Type → Type v} [Monad m] [MonadExcept Fault m] {K α : Type}

def token (accepts : Token K → Bool) (expectation : String) : Reader m (TokenList K) (Token K) :=
  fun input => do
    match ← MonadExcept.ofExcept (TokenList.next? input) with
    | none => return .failure (.expected input [expectation])
    | some (t, rest) =>
      if accepts t then return .success t input rest
      else return .failure (.expected input [expectation])

variable [TokenKind K]

def matchKinds [DecidableEq K] (location : TokenList K) :
    List K → TokenList K → List (Token K) → Except Fault (Reply (TokenList K) (List (Token K)))
  | [], remainder, tokens => .ok (.success tokens.reverse location remainder)
  | kind :: kinds, remainder, tokens => do
    match ← TokenList.next? remainder with
    | none => .ok (.failure (.expected remainder [TokenKind.whenExpected kind]))
    | some (t, rest) =>
      if t.kind = kind then matchKinds location kinds rest (t :: tokens)
      else .ok (.failure (.expected remainder [TokenKind.whenExpected kind]))

def kinds [DecidableEq K] (expected : List K) : Reader m (TokenList K) (List (Token K)) := fun input =>
  MonadExcept.ofExcept (matchKinds input expected input [])

def refusal (input : TokenList K) (kind : K) (inner : Failure Span) :
    Except Fault (Failure (TokenList K)) := do
  let problem := if ← Cursor.isAtEnd inner.remainder then "incomplete" else "invalid"
  let fragment ← inner.fragment
  return ⟨input, some (← inner.position),
    some (problem ++ " " ++ TokenKind.whenExpected kind ++ ", " ++ fragment), none, inner.backtrack⟩

def inToken (tokenReader : Reader m (TokenList K) (Token K)) (textReader : Reader m Span α) :
    Reader m (TokenList K) α := fun input => do
  match ← tokenReader input with
  | .failure e => return .failure e
  | .success t location remainder =>
    match ← textReader (some t.span) with
    | .failure inner => return .failure (← MonadExcept.ofExcept (refusal input t.kind inner))
    | .success a _ rest =>
      if ← MonadExcept.ofExcept (Cursor.isAtEnd rest) then return .success a location remainder
      else return .failure (← MonadExcept.ofExcept (refusal input t.kind (.empty rest)))

end Parsing.Primitive

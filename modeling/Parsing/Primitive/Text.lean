import Parsing.Character.LowercaseForm
import Parsing.Reply
import Parsing.Span

namespace Parsing.Primitive

universe v

variable {m : Type → Type v} [Monad m] [MonadExcept Fault m]

def one (accepts : Char → Bool) (expectations : List String) : Reader m Span Char := fun input => do
  match ← MonadExcept.ofExcept (Span.next? input) with
  | none => return .failure (.expected input expectations)
  | some (c, rest) =>
    if accepts c then return .success c input rest
    else return .failure (.expected input expectations)

def agrees (ignoreCase : Bool) (found expected : Char) : Bool :=
  found == expected ||
    (ignoreCase && Character.lowercaseForm found == Character.lowercaseForm expected)

def matchText (ignoreCase : Bool) : List Char → Span → Except Fault (Span × Option Char)
  | [], remainder => .ok (remainder, none)
  | expected :: more, remainder => do
    match ← Span.next? remainder with
    | none => .ok (remainder, some expected)
    | some (found, rest) =>
      if agrees ignoreCase found expected then matchText ignoreCase more rest
      else .ok (remainder, some expected)

def literal (text : String) (ignoreCase : Bool) : Reader m Span View := fun input => do
  match ← MonadExcept.ofExcept (matchText ignoreCase text.toList input) with
  | (remainder, none) =>
    return .success (← MonadExcept.ofExcept (Span.upTo input remainder)) input remainder
  | (remainder, some expected) =>
    if Span.same remainder input then return .failure (.expected input [Wording.quote text])
    else return .failure (.expected remainder [Wording.character expected])

def dropRun (accepts : Char → Bool) (v : View) : View :=
  v.skip (v.chars.takeWhile accepts).length

def takeWhile (accepts : Char → Bool) (name : Option String) : Reader m Span View := fun input => do
  let remainder := some (dropRun accepts (← MonadExcept.ofExcept (Span.view input)))
  match name, Span.same remainder input with
  | some name, true => return .failure (.expected input [name])
  | _, _ => return .success (← MonadExcept.ofExcept (Span.upTo input remainder)) input remainder

end Parsing.Primitive

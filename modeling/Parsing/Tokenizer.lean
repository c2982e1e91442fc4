import Parsing.Reply
import Parsing.TokenList

namespace Parsing

universe v

/-- A scan is given the remaining text and the previous token. Its reply covers the next token, from the
location to the remainder; there is none where only text to skip is left. -/
abbrev Scan (m : Type → Type v) (K : Type) :=
  Span → Option (Token K) → m (Option (Reply Span K))

structure Tokenization (K : Type) where
  remainder : Span
  previous : Option (Token K)
  finished : Bool
deriving DecidableEq

namespace Tokenization

variable {K : Type}

def start (span : Span) : Tokenization K :=
  ⟨span, none, false⟩

variable [TokenKind K] {m : Type → Type v} [Monad m] [MonadExcept Fault m]

def next (scan : Scan m K) (t : Tokenization K) :
    m (Option (Except (Failure Span) (Token K)) × Tokenization K) := do
  if t.finished then return (none, t)
  else
    match ← scan t.remainder t.previous with
    | none => return (none, { t with finished := true })
    | some (.failure e) => return (some (.error e), { t with finished := true })
    | some (.success kind location rest) =>
      if Span.same rest location then
        throw (.emptyToken (TokenKind.name kind) (Span.position location))
      else
        let token : Token K := ⟨kind, ← MonadExcept.ofExcept (Span.upTo location rest)⟩
        return (some (.ok token), ⟨rest, some token, false⟩)

def collect (scan : Scan m K) : Nat → Tokenization K → List (Token K) →
    m (Except (Failure Span) (List (Token K)))
  | 0, _, _ => throw .endless
  | rounds + 1, t, tokens => do
    match ← t.next scan with
    | (none, _) => return .ok tokens.reverse
    | (some (.error e), _) => return .error e
    | (some (.ok token), t) => collect scan rounds t (token :: tokens)

end Tokenization

def tokenize {K : Type} [TokenKind K] {m : Type → Type v} [Monad m] [MonadExcept Fault m]
    (scan : Scan m K) (source : Source) : m (Except (Failure Span) (TokenView K)) := do
  let view := View.ofSource source
  match ← Tokenization.collect scan (view.length + 1) (Tokenization.start (some view)) [] with
  | .ok tokens => return .ok (TokenView.ofTokens source.id tokens view.finish.position)
  | .error e => return .error e

end Parsing

import Parsing.Parser.Derived
import Parsing.Tokenizer

namespace Parsing

universe v

/-- A parser of the tokens of a kind. Texts in the table have kinds of their own, and a rule may be limited
to what follows certain kinds, where no token has the empty name. -/
structure Rule (K V : Type) where
  kind : K
  parser : Parser K V .text Unit
  table : List (String × K)
  after : Option (List String)

structure Lexer (K V : Type) where
  rules : List (Rule K V)
  skip : Parser K V .text Unit

variable {K V : Type} [TokenKind K]

def Rule.applies (r : Rule K V) (previous : Option (Token K)) : Bool :=
  match r.after with
  | none => true
  | some names => names.contains <| match previous with
    | none => ""
    | some token => TokenKind.name token.kind

namespace Lexer

variable {m : Type → Type v} [Monad m] [MonadExcept Fault m]

def tryRules (read : Parser K V .text Unit → Reader m Span Unit) (start : Span)
    (previous : Option (Token K)) : Failure Span → List (Rule K V) → m (Reply Span K)
  | failed, [] => return .failure failed
  | failed, rule :: rules => do
    if rule.applies previous then
      match ← read rule.parser start with
      | .success _ _ rest =>
        let text ← MonadExcept.ofExcept (Cursor.textTo start rest)
        return .success ((rule.table.lookup text).getD rule.kind) start rest
      | .failure e =>
        if e.isCommitted start then return .failure e
        else tryRules read start previous (failed.merge e) rules
    else tryRules read start previous failed rules

def scan (lexer : Lexer K V) (read : Parser K V .text Unit → Reader m Span Unit) : Scan m K :=
  fun remainder previous => do
    let start := (← read lexer.skip remainder).remainder
    if ← MonadExcept.ofExcept (Cursor.isAtEnd start) then return none
    else return some (← tryRules read start previous (.empty start) lexer.rules)

end Lexer

end Parsing

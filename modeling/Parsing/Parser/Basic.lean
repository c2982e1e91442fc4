import Parsing.Combinator.Chain
import Parsing.Expression.Machine
import Parsing.Primitive.Text
import Parsing.Primitive.Tokens

/-!
Parsers as terms. A parser reads text or tokens and yields values of one type; the definitions that
references name all yield values of the type `V`. What a term denotes is a reader, given the readers of
the references.
-/

namespace Parsing

universe v

inductive Medium where
  | text
  | tokens
deriving DecidableEq, Repr

abbrev Input (K : Type) : Medium → Type
  | .text => Span
  | .tokens => TokenList K

instance Input.cursor {K : Type} [TokenKind K] : (i : Medium) → Cursor (Input K i)
  | .text => inferInstanceAs (Cursor Span)
  | .tokens => inferInstanceAs (Cursor (TokenList K))

inductive Parser (K V : Type) : Medium → Type → Type 1 where
  | one (accepts : Char → Bool) (expectations : List String) : Parser K V .text Char
  | literal (text : String) (ignoreCase : Bool) : Parser K V .text View
  | takeWhile (accepts : Char → Bool) (name : Option String) : Parser K V .text View
  | token (accepts : Token K → Bool) (expectation : String) : Parser K V .tokens (Token K)
  | kinds (expected : List K) : Parser K V .tokens (List (Token K))
  | inToken {α : Type} (token : Parser K V .tokens (Token K)) (text : Parser K V .text α) :
      Parser K V .tokens α
  | expression {α : Type} (operand : Parser K V .tokens α) (grammar : Expression.Grammar K α) :
      Parser K V .tokens α
  | map {i : Medium} {α β : Type} (f : α → β) (p : Parser K V i α) : Parser K V i β
  | bind {i : Medium} {α β : Type} (p : Parser K V i α) (q : α → Parser K V i β) : Parser K V i β
  | seq {i : Medium} {α β : Type} (p : Parser K V i α) (q : Parser K V i β) : Parser K V i (α × β)
  | or {i : Medium} {α : Type} (p q : Parser K V i α) : Parser K V i α
  | attempt {i : Medium} {α : Type} (p : Parser K V i α) : Parser K V i α
  | labelled {i : Medium} {α : Type} (p : Parser K V i α) (name : String) : Parser K V i α
  | reporting {i : Medium} {α : Type} (p : Parser K V i α) (text : String) : Parser K V i α
  | guard {i : Medium} {α : Type} (p : Parser K V i α) (accepts : α → Bool) (expectation : String) :
      Parser K V i α
  | notFollowedBy {i : Medium} {α : Type} (p : Parser K V i α) : Parser K V i Unit
  | succeed {i : Medium} {α : Type} (a : α) : Parser K V i α
  | many {i : Medium} {α : Type} (p : Parser K V i α) : Parser K V i (List α)
  | many1 {i : Medium} {α : Type} (p : Parser K V i α) : Parser K V i (List α)
  | skipMany {i : Medium} {α : Type} (p : Parser K V i α) : Parser K V i Unit
  | optional {i : Medium} {α : Type} (p : Parser K V i α) : Parser K V i (Option α)
  | sepBy {i : Medium} {α β : Type} (required : Bool) (item : Parser K V i α)
      (delimiter : Parser K V i β) : Parser K V i (List α)
  | times {i : Medium} {α : Type} (size count : Nat) (p : Parser K V i α) : Parser K V i (List α)
  | whole {i : Medium} {α : Type} (p : Parser K V i α) : Parser K V i α
  | chain {i : Medium} {α ω : Type} (associativity : Associativity) (operator : Parser K V i ω)
      (operand : Parser K V i α) (apply : ω → α → α → α) : Parser K V i α
  | reference {i : Medium} (name : String) : Parser K V i V
  | fail {i : Medium} {α : Type} (skip : Nat) (report : Failure Unit) : Parser K V i α

namespace Parser

variable {K V : Type} [DecidableEq K] [TokenKind K] {m : Type → Type v} [Monad m] [MonadExcept Fault m]

def denote (refer : (i : Medium) → String → Reader m (Input K i) V) :
    {i : Medium} → {α : Type} → Parser K V i α → Reader m (Input K i) α
  | _, _, .one accepts expectations => Primitive.one accepts expectations
  | _, _, .literal text ignoreCase => Primitive.literal text ignoreCase
  | _, _, .takeWhile accepts name => Primitive.takeWhile accepts name
  | _, _, .token accepts expectation => Primitive.token accepts expectation
  | _, _, .kinds expected => Primitive.kinds expected
  | _, _, .inToken t p => Primitive.inToken (t.denote refer) (p.denote refer)
  | _, _, .expression operand grammar => Expression.expression (operand.denote refer) grammar
  | _, _, .map f p => Combinator.map f (p.denote refer)
  | _, _, .bind p q => Combinator.bind (p.denote refer) fun a => (q a).denote refer
  | _, _, .seq p q => Combinator.seq (p.denote refer) (q.denote refer)
  | _, _, .or p q => Combinator.or (p.denote refer) (q.denote refer)
  | _, _, .attempt p => Combinator.attempt (p.denote refer)
  | _, _, .labelled p name => Combinator.labelled (p.denote refer) name
  | _, _, .reporting p text => Combinator.reporting (p.denote refer) text
  | _, _, .guard p accepts expectation => Combinator.guard (p.denote refer) accepts expectation
  | _, _, .notFollowedBy p => Combinator.notFollowedBy (p.denote refer)
  | _, _, .succeed a => Combinator.succeed a
  | _, _, .many p => Combinator.many (p.denote refer)
  | _, _, .many1 p => Combinator.many1 (p.denote refer)
  | _, _, .skipMany p => Combinator.skipMany (p.denote refer)
  | _, _, .optional p => Combinator.optional (p.denote refer)
  | _, _, .sepBy required item delimiter =>
    Combinator.sepBy required (item.denote refer) (delimiter.denote refer)
  | _, _, .times size count p => Combinator.times size count (p.denote refer)
  | _, _, .whole p => Combinator.whole (p.denote refer)
  | _, _, .chain associativity operator operand f =>
    Combinator.chain associativity (operator.denote refer) (operand.denote refer) f
  | _, _, .reference name => refer _ name
  | _, _, .fail skip report => Combinator.fail skip report

end Parser

end Parsing

import Parsing.Character.LowercaseForm
import Parsing.Span

namespace Parsing

/-- How a kind appears in messages: what it is called where it is expected, the class that goes before
the text of a token, and the text of a kind that has only one. -/
structure Presentation where
  description : Option String
  category : Option String
  sample : Option String
deriving DecidableEq

class TokenKind (K : Type) where
  name : K → String
  presentation : K → Presentation

namespace TokenKind

variable {K : Type} [TokenKind K]

def smallName (k : K) : String :=
  Character.lowercaseText (name k)

def whenExpected (k : K) : String :=
  match (presentation k).description, (presentation k).sample with
  | some description, _ => description
  | none, some sample => Wording.quote sample
  | none, none => smallName k

def whenFound (k : K) (text : String) : String :=
  let found := Wording.quote (Wording.shorten text 12)
  match (presentation k).category, (presentation k).sample with
  | some category, _ => category ++ " " ++ found
  | none, some _ => found
  | none, none => smallName k ++ " " ++ found

end TokenKind

structure Token (K : Type) where
  kind : K
  span : View
deriving DecidableEq

namespace Token

variable {K : Type}

def position (t : Token K) : Position :=
  t.span.position

def text (t : Token K) : String :=
  t.span.text

def same [DecidableEq K] (t u : Token K) : Bool :=
  t.kind == u.kind && t.span.same u.span

def hash [Hashable K] (t : Token K) : UInt64 :=
  mixHash (Hashable.hash t.kind) t.span.hash

def describe [TokenKind K] (t : Token K) : String :=
  TokenKind.whenFound t.kind t.text

def render [TokenKind K] (t : Token K) : String :=
  TokenKind.name t.kind ++ "@" ++ t.position.render ++ ": " ++ t.text

end Token

end Parsing

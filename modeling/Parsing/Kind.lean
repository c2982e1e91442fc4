import Parsing.Token

namespace Parsing

structure Kind where
  name : String
  presentation : Presentation
deriving DecidableEq

instance : TokenKind Kind where
  name := Kind.name
  presentation := Kind.presentation

instance : Hashable Kind where
  hash k := Hashable.hash k.name

end Parsing

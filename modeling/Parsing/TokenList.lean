import Parsing.Token

namespace Parsing

structure TokenView (K : Type) where
  id : Nat
  index : Nat
  rest : List (Token K)
  stop : Position
deriving DecidableEq

abbrev TokenList (K : Type) := Option (TokenView K)

variable {K : Type}

namespace TokenView

def ofTokens (id : Nat) (tokens : List (Token K)) (stop : Position) : TokenView K :=
  ⟨id, 0, tokens, stop⟩

def ofList (id : Nat) (tokens : List (Token K)) : TokenView K :=
  ofTokens id tokens <| match tokens.getLast? with
    | none => Position.zero
    | some last => last.span.finish.position

def next? (l : TokenView K) : Option (Token K × TokenView K) :=
  match l.rest with
  | [] => none
  | token :: rest => some (token, { l with index := l.index + 1, rest := rest })

def position (l : TokenView K) : Position :=
  match l.rest with
  | [] => l.stop
  | token :: _ => token.position

def same (l k : TokenView K) : Bool :=
  l.id == k.id && l.index == k.index

end TokenView

def Source.slice (source : Source) (first stop : Nat) : Except Fault String :=
  if stop < first then .error .badSlice
  else match splitBytes first source.chars with
    | none => .error .badSlice
    | some (_, rest) =>
      match splitBytes (stop - first) rest with
      | none => .error .badSlice
      | some (chars, _) => .ok (String.ofList chars)

def coveredText : List (Token K) → Except Fault String
  | [] => .ok ""
  | [only] => .ok only.text
  | first :: second :: more =>
    let last := (second :: more).getLastD second
    first.span.source.slice first.position.offset (last.position.offset + last.span.length)

namespace TokenList

def view : TokenList K → Except Fault (TokenView K)
  | none => .error .noTokens
  | some l => .ok l

def index : TokenList K → Nat
  | none => 0
  | some l => l.index

def same : TokenList K → TokenList K → Bool
  | none, none => true
  | some l, some k => l.same k
  | _, _ => false

def hash : TokenList K → UInt64
  | none => 0
  | some l => mixHash (Hashable.hash l.id) (Hashable.hash l.index)

def next? (l : TokenList K) : Except Fault (Option (Token K × TokenList K)) :=
  l.view.map fun v => v.next?.map fun (token, rest) => (token, some rest)

def textTo (l next : TokenList K) : Except Fault String := do
  let v ← l.view
  if next.index < v.index ∨ v.index + v.rest.length < next.index then .error .badSlice
  else coveredText (v.rest.take (next.index - v.index))

def inspect [TokenKind K] : TokenList K → String
  | none => "TokenList(none)"
  | some l => "TokenList(" ++ toString l.index ++ ": " ++
      (match l.rest with
        | [] => "end"
        | token :: _ => token.render) ++ ")"

end TokenList

instance [TokenKind K] : Cursor (TokenList K) where
  same := TokenList.same
  offset := TokenList.index
  left
    | none => 0
    | some l => l.rest.length
  isAtEnd l := (TokenList.view l).map fun v => v.rest.isEmpty
  tail? l := (TokenList.next? l).map fun item => item.map Prod.snd
  position l := (TokenList.view l).map TokenView.position
  describe l := (TokenList.view l).map fun v => v.rest.head?.map Token.describe
  textTo := TokenList.textTo

end Parsing

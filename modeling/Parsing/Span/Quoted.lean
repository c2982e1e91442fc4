import Parsing.Character.Extending
import Parsing.Character.Hidden
import Parsing.Span

namespace Parsing

namespace Quoted

def codePoint (c : Char) : String :=
  "\\u\x7b" ++ String.ofList (Nat.toDigits 16 c.toNat) ++ "\x7d"

def escape (c : Char) : String :=
  match c with
  | '\x00' => "\\0"
  | '\t' => "\\t"
  | '\r' => "\\r"
  | '\n' => "\\n"
  | '"' => "\\\""
  | '\\' => "\\\\"
  | _ => if Character.isExtending c || Character.isHidden c then codePoint c else String.singleton c

def quoted (text : String) : String :=
  "\"" ++ String.join (text.toList.map escape) ++ "\""

end Quoted

def Span.inspect : Span → String
  | none => "TextSpan(none)"
  | some v => "TextSpan(" ++ toString v.position.offset ++ "@" ++ v.position.render ++ ": " ++
      Quoted.quoted (Wording.shorten v.text 20) ++ ")"

end Parsing

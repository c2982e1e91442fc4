namespace Parsing.Wording

def alternatives (items : List String) : Option String :=
  match items.eraseDups.reverse with
  | [] => none
  | [single] => some single
  | last :: init => some (", ".intercalate init.reverse ++ " or " ++ last)

def shorten (text : String) (limit : Nat) : String :=
  let cs := text.toList
  if cs.length ≤ limit then text else String.ofList (cs.take (limit - 3)) ++ "..."

def quote (text : String) : String :=
  "`" ++ text ++ "`"

def character (c : Char) : String :=
  match c with
  | '\r' => "carriage return"
  | '\n' => "line feed"
  | '\t' => "tab"
  | '\x00' => "NUL byte"
  | _ => quote (String.singleton c)

end Parsing.Wording

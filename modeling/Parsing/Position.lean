namespace Parsing

structure Position where
  offset : Nat
  line : Nat
  column : Nat
deriving DecidableEq, Repr

namespace Position

def zero : Position := ⟨0, 1, 1⟩

def advance (p : Position) (c : Char) : Position :=
  if c = '\n' then ⟨p.offset + c.utf8Size, p.line + 1, 1⟩
  else ⟨p.offset + c.utf8Size, p.line, p.column + 1⟩

def advanceAll (p : Position) (cs : List Char) : Position :=
  cs.foldl advance p

/-- Two positions stand at the same place when their offsets agree, whatever their lines and columns say. -/
def same (p q : Position) : Bool :=
  p.offset == q.offset

def compare (p q : Position) : Ordering :=
  Ord.compare p.offset q.offset

def hash (p : Position) : UInt64 :=
  Hashable.hash p.offset

def render (p : Position) : String :=
  "line " ++ toString p.line ++ ", column " ++ toString p.column

end Position

end Parsing

import Parsing.Cursor
import Parsing.Wording

namespace Parsing

structure Failure (C : Type) where
  remainder : C
  /-- The place within a single item, where the item itself was at fault. -/
  within : Option Position
  message : Option String
  expectations : Option (List String)
  backtrack : Bool
deriving DecidableEq

namespace Failure

variable {C : Type}

def empty (remainder : C) : Failure C :=
  ⟨remainder, none, none, none, false⟩

def expected (remainder : C) (expectations : List String) : Failure C :=
  ⟨remainder, none, none, some expectations, false⟩

def withMessage (remainder : C) (message : String) : Failure C :=
  ⟨remainder, none, some message, none, false⟩

variable [Cursor C]

def isPartial (f : Failure C) (start : C) : Bool :=
  !Cursor.same f.remainder start || f.within.isSome

def isCommitted (f : Failure C) (start : C) : Bool :=
  !f.backtrack && f.isPartial start

def joinExpectations : Option (List String) → Option (List String) → Option (List String)
  | some as, some bs => some (as ++ bs)
  | none, bs => bs
  | as, none => as

/-- The failure of two alternatives: both where they occurred at one place, otherwise the one that
advanced further, the first on a tie. -/
def merge (first second : Failure C) : Failure C :=
  if Cursor.same first.remainder second.remainder then
    { remainder := second.remainder
      within := second.within
      message := second.message.or first.message
      expectations := joinExpectations first.expectations second.expectations
      backtrack := second.backtrack }
  else if Cursor.offset first.remainder < Cursor.offset second.remainder then second
  else first

def position (f : Failure C) : Except Fault Position :=
  match f.within with
  | some p => .ok p
  | none => Cursor.position f.remainder

def unexpected : Option String → String
  | some item => "unexpected " ++ item
  | none => "unexpected end of input"

def fragment (f : Failure C) : Except Fault String :=
  match f.message with
  | some message => .ok message
  | none => (Cursor.describe f.remainder).map fun item =>
    match f.expectations.bind Wording.alternatives with
    | some expected => unexpected item ++ ", expected " ++ expected
    | none => unexpected item

def render (f : Failure C) : Except Fault String := do
  let p ← f.position
  let fragment ← f.fragment
  return "Syntax error (" ++ p.render ++ "): " ++ fragment ++ "."

end Failure

end Parsing

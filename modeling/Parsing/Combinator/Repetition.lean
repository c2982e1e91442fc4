import Parsing.Combinator.Basic

/-!
Repetitions. A repeated step that succeeds without moving would go on for ever and is a fault; as every
other step takes an item, the items that remain bound the number of rounds.
-/

namespace Parsing.Combinator

universe v

variable {m : Type → Type v} [Monad m] [MonadExcept Fault m] {C α β : Type} [Cursor C]

def collect (step : Reader m C α) (location : C) : Nat → C → List α → m (Reply C (List α))
  | 0, _, _ => throw .endless
  | rounds + 1, remainder, values => do
    match ← step remainder with
    | .success a _ rest =>
      if Cursor.same rest remainder then
        throw (.zeroWidth (← MonadExcept.ofExcept (Cursor.position remainder)))
      else collect step location rounds rest (a :: values)
    | .failure e =>
      if e.isCommitted remainder then return .failure e
      else return .success values.reverse location remainder

def rounds (input : C) : Nat :=
  Cursor.left input + 1

def many (p : Reader m C α) : Reader m C (List α) := fun input =>
  collect p input (rounds input) input []

def many1 (p : Reader m C α) : Reader m C (List α) := fun input => do
  match ← p input with
  | .failure e => return .failure e
  | .success a _ rest => collect p input (rounds rest) rest [a]

def skipMany (p : Reader m C α) : Reader m C Unit := fun input => do
  return (← collect (map (fun _ => ()) p) input (rounds input) input []).map fun _ => ()

def sepItem (item : Reader m C α) (delimiter : Reader m C β) : Reader m C α := fun input => do
  match ← delimiter input with
  | .failure e => return .failure e
  | .success _ _ rest => item rest

def sepBy (required : Bool) (item : Reader m C α) (delimiter : Reader m C β) : Reader m C (List α) :=
  fun input => do
    match ← item input with
    | .success a _ rest => collect (sepItem item delimiter) input (rounds rest) rest [a]
    | .failure e =>
      if required || e.isCommitted input then return .failure e
      else return .success [] input input

def exactly (p : Reader m C α) (location : C) : Nat → C → List α → m (Reply C (List α))
  | 0, remainder, values => return .success values.reverse location remainder
  | count + 1, remainder, values => do
    match ← p remainder with
    | .failure e => return .failure e
    | .success a _ rest => exactly p location count rest (a :: values)

-- The bytes that a list may take, `2 ^ 63 - 1`.
def maxSpace : Nat :=
  0x7fffffffffffffff

/-- The list is reserved before anything is read, at `size` bytes for each value. -/
def times (size count : Nat) (p : Reader m C α) : Reader m C (List α) := fun input =>
  if maxSpace < count * size then throw .capacity else exactly p input count input []

end Parsing.Combinator

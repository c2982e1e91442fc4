import Parsing.Failure

namespace Parsing

universe v

inductive Reply (C α : Type) where
  | success (value : α) (location remainder : C)
  | failure (reason : Failure C)
deriving DecidableEq

namespace Reply

variable {C α β : Type}

def map (f : α → β) : Reply C α → Reply C β
  | success value location remainder => success (f value) location remainder
  | failure reason => failure reason

def remainder : Reply C α → C
  | success _ _ remainder => remainder
  | failure reason => reason.remainder

def isSuccess : Reply C α → Bool
  | success .. => true
  | failure _ => false

end Reply

abbrev Reader (m : Type → Type v) (C α : Type) :=
  C → m (Reply C α)

end Parsing

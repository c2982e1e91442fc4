import Parsing.Fault

namespace Parsing

class Cursor (C : Type) where
  same : C → C → Bool
  offset : C → Nat
  -- No more items than this remain.
  left : C → Nat
  isAtEnd : C → Except Fault Bool
  tail? : C → Except Fault (Option C)
  position : C → Except Fault Position
  describe : C → Except Fault (Option String)
  textTo : C → C → Except Fault String

end Parsing

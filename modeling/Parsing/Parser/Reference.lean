import Parsing.Parser.Basic

/-!
Named definitions, which may refer to each other and to themselves. A run looks up every reference afresh;
a memoised run keeps the definitions that it has looked up, so that each is asked for once.
-/

namespace Parsing

structure Definitions (K V : Type) : Type 1 where
  text : List (String × Parser K V .text V)
  tokens : List (String × Parser K V .tokens V)

namespace Definitions

variable {K V : Type}

def empty : Definitions K V :=
  ⟨[], []⟩

def entries (d : Definitions K V) : (i : Medium) → List (String × Parser K V i V)
  | .text => d.text
  | .tokens => d.tokens

def find? (d : Definitions K V) (i : Medium) (name : String) : Option (Parser K V i V) :=
  (d.entries i).lookup name

def insert (d : Definitions K V) : (i : Medium) → String → Parser K V i V → Definitions K V
  | .text, name, p => { d with text := (name, p) :: d.text }
  | .tokens, name, p => { d with tokens := (name, p) :: d.tokens }

end Definitions

def Input.extent {K : Type} : {i : Medium} → Input K i → Nat
  | .text, none => 0
  | .text, some v => v.length
  | .tokens, none => 0
  | .tokens, some l => l.rest.foldl (fun n t => n + 1 + t.span.length) 0

/-- How deep references need to nest where a run ends and reads no texts but those of its input: a run that
meets the same name at the same place again does not end. -/
def Definitions.depth {K V : Type} {i : Medium} (d : Definitions K V) (input : Input K i) : Nat :=
  (d.text.length + d.tokens.length) * (Input.extent input + 1)

namespace Parser

variable {K V : Type} [DecidableEq K] [TokenKind K]

def runDepth (definitions : Definitions K V) :
    Nat → {i : Medium} → {α : Type} → Parser K V i α → Reader (Except Fault) (Input K i) α
  | 0, _, _, p => p.denote fun _ _ _ => .error .endless
  | depth + 1, _, _, p => p.denote fun i name input =>
    match definitions.find? i name with
    | some q => runDepth definitions depth q input
    | none => .error (.undefined name)

def run {i : Medium} {α : Type} (definitions : Definitions K V) (p : Parser K V i α) :
    Reader (Except Fault) (Input K i) α := fun input =>
  p.runDepth definitions (definitions.depth input) input

end Parser

structure Cells (K V : Type) : Type 1 where
  made : Definitions K V
  calls : List (Medium × String)

namespace Cells

variable {K V : Type}

def empty : Cells K V :=
  ⟨.empty, []⟩

def resolve (definitions : Definitions K V) (i : Medium) (name : String) (cells : Cells K V) :
    Option (Parser K V i V) × Cells K V :=
  match cells.made.find? i name with
  | some p => (some p, cells)
  | none =>
    match definitions.find? i name with
    | some p => (some p, ⟨cells.made.insert i name p, (i, name) :: cells.calls⟩)
    | none => (none, cells)

def builds (cells : Cells K V) (name : String) : Nat :=
  cells.calls.countP fun call => call.2 == name

def inspect (cells : Cells K V) (i : Medium) (name : String) : String :=
  match cells.made.find? i name with
  | some _ => "Reference(resolved)"
  | none => "Reference(unresolved)"

end Cells

def Memo (K V : Type) (α : Type) : Type 1 :=
  Cells K V → Except Fault α × Cells K V

namespace Memo

variable {K V : Type}

instance : Monad (Memo K V) where
  pure a := fun cells => (.ok a, cells)
  bind x f := fun cells =>
    match x cells with
    | (.ok a, cells) => f a cells
    | (.error e, cells) => (.error e, cells)

instance : MonadExcept Fault (Memo K V) where
  throw e := fun cells => (.error e, cells)
  tryCatch x handle := fun cells =>
    match x cells with
    | (.error e, cells) => handle e cells
    | result => result

end Memo

namespace Parser

variable {K V : Type} [DecidableEq K] [TokenKind K]

def memoDepth (definitions : Definitions K V) :
    Nat → {i : Medium} → {α : Type} → Parser K V i α → Reader (Memo K V) (Input K i) α
  | 0, _, _, p => p.denote fun _ _ _ => throw .endless
  | depth + 1, _, _, p => p.denote fun i name input cells =>
    match cells.resolve definitions i name with
    | (some q, cells) => memoDepth definitions depth q input cells
    | (none, cells) => (.error (.undefined name), cells)

def runMemo {i : Medium} {α : Type} (definitions : Definitions K V) (p : Parser K V i α) :
    Reader (Memo K V) (Input K i) α := fun input =>
  p.memoDepth definitions (definitions.depth input) input

end Parser

end Parsing

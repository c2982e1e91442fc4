import Parsing.Bytes
import Parsing.Cursor
import Parsing.Wording

/-!
Spans of text. A view holds the part of a source that begins at a position and ends at a byte offset;
a span is a view, or nothing where none was given.
-/

namespace Parsing

/-- A text with an identity: two sources are the same only if their numbers agree. -/
structure Source where
  id : Nat
  chars : List Char
deriving DecidableEq

structure View where
  source : Source
  position : Position
  chars : List Char
  stop : Nat
  covers : position.offset + byteLength chars = stop
deriving DecidableEq

abbrev Span := Option View

theorem Position.offset_advance (p : Position) (c : Char) :
    (p.advance c).offset = p.offset + c.utf8Size := by
  unfold Position.advance
  split <;> rfl

theorem Position.offset_advanceAll (p : Position) (cs : List Char) :
    (p.advanceAll cs).offset = p.offset + byteLength cs := by
  induction cs generalizing p with
  | nil => rfl
  | cons c cs ih =>
    change ((p.advance c).advanceAll cs).offset = _
    rw [ih, Position.offset_advance, byteLength_cons, Nat.add_assoc]

namespace View

def ofSource (source : Source) : View :=
  ⟨source, Position.zero, source.chars, byteLength source.chars, by simp [Position.zero]⟩

def ofRange (source : Source) (position : Position) (length : Nat) : Except Fault View :=
  match splitBytes position.offset source.chars with
  | none => .error (.outOfSource position.offset (position.offset + length) (byteLength source.chars))
  | some (_, rest) =>
    match h : splitBytes length rest with
    | none => .error (.outOfSource position.offset (position.offset + length) (byteLength source.chars))
    | some (chars, _) =>
      .ok ⟨source, position, chars, position.offset + length, by rw [byteLength_splitBytes h]⟩

def text (v : View) : String :=
  String.ofList v.chars

def length (v : View) : Nat :=
  v.stop - v.position.offset

def same (v w : View) : Bool :=
  v.source.id == w.source.id && v.position.offset == w.position.offset && v.stop == w.stop

def hash (v : View) : UInt64 :=
  mixHash (Hashable.hash v.source.id) (mixHash v.position.hash (Hashable.hash v.stop))

def next? : View → Option (Char × View)
  | ⟨_, _, [], _, _⟩ => none
  | ⟨source, position, c :: cs, stop, covers⟩ =>
    some (c, ⟨source, position.advance c, cs, stop, by
      rw [Position.offset_advance, Nat.add_assoc, ← byteLength_cons]
      exact covers⟩)

def skip (v : View) (count : Nat) : View :=
  ⟨v.source, v.position.advanceAll (v.chars.take count), v.chars.drop count, v.stop, by
    rw [Position.offset_advanceAll, Nat.add_assoc, ← byteLength_append, List.take_append_drop]
    exact v.covers⟩

def first (v : View) (count : Nat) : View :=
  ⟨v.source, v.position, v.chars.take count, v.position.offset + byteLength (v.chars.take count), rfl⟩

def firstBytes (v : View) (bytes : Nat) : Except Fault View :=
  match h : splitBytes bytes v.chars with
  | none => .error (.notBoundary bytes v.length)
  | some (chars, _) =>
    .ok ⟨v.source, v.position, chars, v.position.offset + bytes, by rw [byteLength_splitBytes h]⟩

def upTo (v next : View) : Except Fault View :=
  if v.source.id ≠ next.source.id then .error .otherSource
  else if next.position.offset < v.position.offset ∨ v.stop < next.position.offset then
    .error (.outOfSpan next.position.offset v.position.offset v.stop)
  else
    match h : splitBytes (next.position.offset - v.position.offset) v.chars with
    | none => .error .badSlice
    | some (chars, _) =>
      .ok ⟨v.source, v.position, chars,
        v.position.offset + (next.position.offset - v.position.offset),
        by rw [byteLength_splitBytes h]⟩

def finish (v : View) : View :=
  ⟨v.source, v.position.advanceAll v.chars, [], v.stop, by
    rw [Position.offset_advanceAll, byteLength_nil, Nat.add_zero]
    exact v.covers⟩

def char? (v : View) (index : Nat) : Option Char :=
  v.chars[index]?

def describe (v : View) : Option String :=
  v.chars.head?.map Wording.character

end View

namespace Span

def view : Span → Except Fault View
  | none => .error .noSpan
  | some v => .ok v

def position : Span → Position
  | none => Position.zero
  | some v => v.position

def same : Span → Span → Bool
  | none, none => true
  | some v, some w => v.same w
  | _, _ => false

def hash : Span → UInt64
  | none => 0
  | some v => v.hash

def next? (s : Span) : Except Fault (Option (Char × Span)) :=
  s.view.map fun v => v.next?.map fun (c, rest) => (c, some rest)

def upTo (s next : Span) : Except Fault View := do
  (← s.view).upTo (← next.view)

end Span

instance : Cursor Span where
  same := Span.same
  offset s := (Span.position s).offset
  left
    | none => 0
    | some v => v.length
  isAtEnd s := (Span.view s).map fun v => v.chars.isEmpty
  tail? s := (Span.next? s).map fun item => item.map Prod.snd
  position s := .ok (Span.position s)
  describe s := (Span.view s).map View.describe
  textTo s next := (Span.upTo s next).map View.text

end Parsing

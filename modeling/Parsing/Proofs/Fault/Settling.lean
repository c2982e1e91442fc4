import Parsing.Proofs.Fault.Readers

namespace Parsing

/-- The fault is not that a bound was exceeded, that a stack was broken or that a name was undefined. -/
def Fault.Definite : Fault → Prop
  | .endless | .brokenStack | .undefined _ => False
  | _ => True

def Settles {α : Type} (x : Except Fault α) : Prop :=
  ∀ fault, x = .error fault → fault.Definite

section Rules

variable {α β : Type} {x : Except Fault α} {f : α → Except Fault β}

theorem settles_ok (a : α) : Settles (.ok a) :=
  nofun

theorem settles_error {fault : Fault} (h : fault.Definite) : Settles (.error fault : Except Fault α) := by
  rintro _ ⟨⟩
  exact h

theorem Settles.bind (hx : Settles x) (hf : ∀ a, x = .ok a → Settles (f a)) : Settles (x >>= f) := by
  intro fault h
  rcases bind_eq_error h with h | ⟨a, ha, h⟩
  · exact hx fault h
  · exact hf a ha fault h

theorem Settles.map (hx : Settles x) (f : α → β) : Settles (x.map f) := by
  cases x with
  | error fault => exact settles_error (hx fault rfl)
  | ok a => exact settles_ok (f a)

theorem settles_ite {c : Prop} [Decidable c] {y : Except Fault α} (hx : Settles x) (hy : Settles y) :
    Settles (if c then x else y) := by
  split
  · exact hx
  · exact hy

theorem Settles.returns (hx : Settles x) :
    (∃ a, x = .ok a) ∨ ∃ fault, x = .error fault ∧ fault.Definite := by
  cases x with
  | error fault => exact .inr ⟨fault, rfl, hx fault rfl⟩
  | ok a => exact .inl ⟨a, rfl⟩

theorem Settles.ofExcept (hx : Settles x) : Settles (MonadExcept.ofExcept x : Except Fault α) := by
  rw [ofExcept_eq]
  exact hx

end Rules

section Cursors

theorem settles_spanView (s : Span) : Settles s.view := by
  cases s with
  | none => exact settles_error trivial
  | some v => exact settles_ok v

theorem settles_spanNext (s : Span) : Settles (Span.next? s) :=
  (settles_spanView s).map _

theorem settles_viewUpTo (v w : View) : Settles (v.upTo w) := by
  unfold View.upTo
  split
  · exact settles_error trivial
  · split
    · exact settles_error trivial
    · split
      · exact settles_error trivial
      · exact settles_ok _

theorem settles_upTo (s next : Span) : Settles (Span.upTo s next) := by
  apply (settles_spanView s).bind
  intro v _
  apply (settles_spanView next).bind
  intro w _
  exact settles_viewUpTo v w

variable {K : Type}

theorem settles_tokensView (l : TokenList K) : Settles l.view := by
  cases l with
  | none => exact settles_error trivial
  | some v => exact settles_ok v

theorem settles_tokensNext (l : TokenList K) : Settles (TokenList.next? l) :=
  (settles_tokensView l).map _

theorem settles_slice (source : Source) (first stop : Nat) : Settles (source.slice first stop) := by
  unfold Source.slice
  split
  · exact settles_error trivial
  · split
    · exact settles_error trivial
    · split
      · exact settles_error trivial
      · exact settles_ok _

theorem settles_coveredText (tokens : List (Token K)) : Settles (coveredText tokens) := by
  unfold coveredText
  split
  · exact settles_ok _
  · exact settles_ok _
  · exact settles_slice _ _ _

variable [TokenKind K] {i : Medium}

theorem settles_isAtEnd (input : Input K i) : Settles (Cursor.isAtEnd input) := by
  cases i with
  | text => exact (settles_spanView input).map _
  | tokens => exact (settles_tokensView input).map _

theorem settles_tail (input : Input K i) : Settles (Cursor.tail? input) := by
  cases i with
  | text => exact (settles_spanNext input).map _
  | tokens => exact (settles_tokensNext input).map _

theorem settles_position (input : Input K i) : Settles (Cursor.position input) := by
  cases i with
  | text => exact settles_ok _
  | tokens => exact (settles_tokensView input).map _

theorem settles_describe (input : Input K i) : Settles (Cursor.describe input) := by
  cases i with
  | text => exact (settles_spanView input).map _
  | tokens => exact (settles_tokensView input).map _

theorem settles_textTo (input rest : Input K i) : Settles (Cursor.textTo input rest) := by
  cases i with
  | text => exact (settles_upTo input rest).map _
  | tokens =>
    apply (settles_tokensView input).bind
    intro v _
    exact settles_ite (settles_error trivial) (settles_coveredText _)

end Cursors

section Primitives

theorem settles_one (accepts : Char → Bool) (expectations : List String) (input : Span) :
    Settles ((Primitive.one accepts expectations : Reader (Except Fault) Span Char) input) := by
  apply (settles_spanNext input).ofExcept.bind
  rintro (_ | ⟨c, rest⟩) _
  · exact settles_ok _
  · exact settles_ite (settles_ok _) (settles_ok _)

theorem settles_matchText (ignoreCase : Bool) (cs : List Char) (s : Span) :
    Settles (Primitive.matchText ignoreCase cs s) := by
  induction cs generalizing s with
  | nil => exact settles_ok _
  | cons c cs ih =>
    apply (settles_spanNext s).bind
    rintro (_ | ⟨found, rest⟩) _
    · exact settles_ok _
    · exact settles_ite (ih rest) (settles_ok _)

theorem settles_literal (text : String) (ignoreCase : Bool) (input : Span) :
    Settles ((Primitive.literal text ignoreCase : Reader (Except Fault) Span View) input) := by
  apply (settles_matchText ignoreCase text.toList input).ofExcept.bind
  rintro ⟨rest, _ | expected⟩ _
  · exact (settles_upTo input rest).ofExcept.bind fun _ _ => settles_ok _
  · exact settles_ite (settles_ok _) (settles_ok _)

theorem settles_takeWhile (accepts : Char → Bool) (name : Option String) (input : Span) :
    Settles ((Primitive.takeWhile accepts name : Reader (Except Fault) Span View) input) := by
  apply (settles_spanView input).ofExcept.bind
  intro v _
  dsimp only
  split
  · exact settles_ok _
  · exact (settles_upTo input _).ofExcept.bind fun _ _ => settles_ok _

variable {K α : Type}

theorem settles_token (accepts : Token K → Bool) (expectation : String) (input : TokenList K) :
    Settles ((Primitive.token accepts expectation : Reader (Except Fault) (TokenList K) (Token K)) input) := by
  apply (settles_tokensNext input).ofExcept.bind
  rintro (_ | ⟨t, rest⟩) _
  · exact settles_ok _
  · exact settles_ite (settles_ok _) (settles_ok _)

variable [TokenKind K]

theorem settles_matchKinds [DecidableEq K] (location : TokenList K) (kinds : List K)
    (remainder : TokenList K) (tokens : List (Token K)) :
    Settles (Primitive.matchKinds location kinds remainder tokens) := by
  induction kinds generalizing remainder tokens with
  | nil => exact settles_ok _
  | cons kind kinds ih =>
    apply (settles_tokensNext remainder).bind
    rintro (_ | ⟨t, rest⟩) _
    · exact settles_ok _
    · exact settles_ite (ih rest (t :: tokens)) (settles_ok _)

theorem settles_failurePosition {i : Medium} (e : Failure (Input K i)) : Settles e.position := by
  unfold Failure.position
  split
  · exact settles_ok _
  · exact settles_position e.remainder

theorem settles_fragment {i : Medium} (e : Failure (Input K i)) : Settles e.fragment := by
  unfold Failure.fragment
  split
  · exact settles_ok _
  · exact (settles_describe e.remainder).map _

theorem settles_refusal (input : TokenList K) (kind : K) (inner : Failure Span) :
    Settles (Primitive.refusal input kind inner) := by
  apply (settles_isAtEnd (K := K) (i := .text) inner.remainder).bind
  intro atEnd _
  apply (settles_fragment (K := K) (i := .text) inner).bind
  intro fragment _
  apply (settles_failurePosition (K := K) (i := .text) inner).bind
  intro place _
  exact settles_ok _

end Primitives

def Settling {C α : Type} (p : Reader (Except Fault) C α) : Prop :=
  ∀ input, Settles (p input)

section Sequences

variable {C α β : Type} {p : Reader (Except Fault) C α}

theorem Settling.bind {q : α → Reader (Except Fault) C β} (hp : Settling p) (hq : ∀ a, Settling (q a)) :
    Settling (Combinator.bind p q) := by
  intro input fault h
  rcases bind_fault h with h | ⟨a, location, rest, -, h⟩
  · exact hp input fault h
  · exact hq a rest fault h

theorem Settling.seq {q : Reader (Except Fault) C β} (hp : Settling p) (hq : Settling q) :
    Settling (Combinator.seq p q) := by
  intro input fault h
  rcases seq_fault h with h | ⟨a, location, rest, -, h⟩
  · exact hp input fault h
  · exact hq rest fault h

theorem Settling.sepItem {delimiter : Reader (Except Fault) C β} (hp : Settling p)
    (hd : Settling delimiter) : Settling (Combinator.sepItem p delimiter) := by
  intro input fault h
  rcases sepItem_fault h with h | ⟨b, location, rest, -, h⟩
  · exact hd input fault h
  · exact hp rest fault h

theorem Settling.or [Cursor C] {q : Reader (Except Fault) C α} (hp : Settling p) (hq : Settling q) :
    Settling (Combinator.or p q) := by
  intro input fault h
  rcases or_fault h with h | h
  · exact hp input fault h
  · exact hq input fault h

end Sequences

end Parsing

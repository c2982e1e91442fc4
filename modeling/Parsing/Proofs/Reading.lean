import Parsing.Combinator.Basic
import Parsing.Primitive.Tokens

namespace Parsing

variable {K α β : Type}

section Faults

variable {ε : Type}

@[simp] theorem ok_bind (a : α) (f : α → Except ε β) : (Except.ok a >>= f) = f a := rfl

@[simp] theorem error_bind (e : ε) (f : α → Except ε β) : (Except.error e >>= f) = .error e := rfl

@[simp] theorem pure_eq_ok (a : α) : (pure a : Except ε α) = .ok a := rfl

theorem bind_eq_ok {x : Except ε α} {f : α → Except ε β} {b : β} (h : (x >>= f) = .ok b) :
    ∃ a, x = .ok a ∧ f a = .ok b := by
  cases x with
  | error e => cases h
  | ok a => exact ⟨a, rfl, h⟩

@[simp] theorem ofExcept_eq (x : Except Fault α) : (MonadExcept.ofExcept x : Except Fault α) = x := by
  cases x <;> rfl

end Faults

namespace TokenView

structure Reads (l : TokenView K) (tokens : List (Token K)) (k : TokenView K) : Prop where
  id : k.id = l.id
  stop : k.stop = l.stop
  index : k.index = l.index + tokens.length
  rest : l.rest = tokens ++ k.rest

theorem Reads.refl (l : TokenView K) : l.Reads [] l :=
  ⟨rfl, rfl, rfl, rfl⟩

theorem Reads.trans {l m k : TokenView K} {xs ys : List (Token K)} (h : l.Reads xs m)
    (h' : m.Reads ys k) : l.Reads (xs ++ ys) k := by
  refine ⟨h'.id.trans h.id, h'.stop.trans h.stop, ?_, ?_⟩
  · rw [h'.index, h.index, List.length_append]
    omega
  · rw [h.rest, h'.rest, List.append_assoc]

theorem Reads.index_le {l k : TokenView K} {tokens : List (Token K)} (h : l.Reads tokens k) :
    l.index ≤ k.index := by
  have := h.index
  omega

theorem Reads.length_rest {l k : TokenView K} {tokens : List (Token K)} (h : l.Reads tokens k) :
    l.rest.length = tokens.length + k.rest.length := by
  rw [h.rest, List.length_append]

theorem Reads.tokens_eq {l k : TokenView K} {tokens : List (Token K)} (h : l.Reads tokens k) :
    l.rest.take (k.index - l.index) = tokens := by
  have hn : k.index - l.index = tokens.length := by
    have := h.index
    omega
  rw [hn, h.rest, List.take_left]

theorem reads_next {l k : TokenView K} {token : Token K} (h : l.next? = some (token, k)) :
    l.Reads [token] k := by
  unfold next? at h
  cases hr : l.rest with
  | nil => simp [hr] at h
  | cons t rest =>
    simp only [hr, Option.some.injEq, Prod.mk.injEq] at h
    obtain ⟨rfl, rfl⟩ := h
    exact ⟨rfl, rfl, rfl, hr⟩

theorem next?_eq_none {l : TokenView K} : l.next? = none ↔ l.rest = [] := by
  unfold next?
  cases l.rest <;> simp

theorem exists_next {l : TokenView K} {token : Token K} (h : l.rest.head? = some token) :
    ∃ k, l.next? = some (token, k) := by
  unfold next?
  cases hr : l.rest with
  | nil => simp [hr] at h
  | cons t rest =>
    obtain rfl : t = token := by simpa [hr] using h
    exact ⟨_, rfl⟩

theorem head?_rest {l k : TokenView K} {token : Token K} (h : l.next? = some (token, k)) :
    l.rest.head? = some token := by
  rw [(reads_next h).rest]
  rfl

end TokenView

@[simp] theorem next?_some (l : TokenView K) :
    TokenList.next? (some l) = .ok (l.next?.map fun item => (item.1, some item.2)) := rfl

theorem left_of_reads [TokenKind K] {l k : TokenView K} {tokens : List (Token K)} (h : l.Reads tokens k) :
    Cursor.left (some l : TokenList K) = tokens.length + Cursor.left (some k : TokenList K) :=
  h.length_rest

theorem left_of_next [TokenKind K] {l k : TokenView K} {token : Token K} (h : l.next? = some (token, k)) :
    Cursor.left (some l : TokenList K) = Cursor.left (some k : TokenList K) + 1 := by
  rw [left_of_reads (TokenView.reads_next h), Nat.add_comm]
  rfl

section Forward

/-- A success of a reader of tokens leaves the same list, at the same place or further on. -/
def ForwardOnly (operand : Reader (Except Fault) (TokenList K) α) : Prop :=
  ∀ l value location rest, operand (some l) = .ok (.success value location rest) →
    ∃ tokens k, rest = some k ∧ l.Reads tokens k

theorem forwardOnly_token (accepts : Token K → Bool) (expectation : String) :
    ForwardOnly (Primitive.token accepts expectation) := by
  intro l value location rest h
  cases hn : l.next? with
  | none => simp [Primitive.token, hn] at h
  | some item =>
    obtain ⟨token, k⟩ := item
    by_cases ha : accepts token = true
    · simp only [Primitive.token, next?_some, hn, Option.map_some, ofExcept_eq, ok_bind, ha,
        ↓reduceIte, pure_eq_ok, Except.ok.injEq, Reply.success.injEq] at h
      exact ⟨[token], k, h.2.2.symm, TokenView.reads_next hn⟩
    · simp [Primitive.token, hn, ha] at h

theorem ForwardOnly.map {p : Reader (Except Fault) (TokenList K) α} (forward : ForwardOnly p)
    (f : α → β) : ForwardOnly (Combinator.map f p) := by
  intro l value location rest h
  obtain ⟨reply, hp, hr⟩ := bind_eq_ok h
  cases reply with
  | failure e => cases hr
  | success a start k =>
    cases hr
    exact forward l a _ _ hp

end Forward

end Parsing

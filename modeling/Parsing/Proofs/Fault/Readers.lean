import Parsing.Proofs.Tokenizer.Partition

namespace Parsing

section Results

variable {α β ε : Type} {x : Except ε α} {f : α → Except ε β} {e : ε}

theorem bind_eq_error (h : (x >>= f) = .error e) : x = .error e ∨ ∃ a, x = .ok a ∧ f a = .error e := by
  cases x with
  | error e' =>
    cases h
    exact .inl rfl
  | ok a => exact .inr ⟨a, rfl, h⟩

theorem eq_error_of_bind (h : (x >>= f) = .error e) (hf : ∀ a, ∃ b, f a = .ok b) : x = .error e := by
  rcases bind_eq_error h with h | ⟨a, -, h⟩
  · exact h
  · obtain ⟨b, hb⟩ := hf a
    cases hb.symm.trans h

end Results

structure Cursor.Answers {C : Type} [Cursor C] (input : C) : Prop where
  isAtEnd : ∃ atEnd, Cursor.isAtEnd input = .ok atEnd
  tail? : ∃ tail, Cursor.tail? input = .ok tail
  position : ∃ place, Cursor.position input = .ok place
  describe : ∃ item, Cursor.describe input = .ok item

namespace Input

variable {K : Type}

def Readable : {i : Medium} → Input K i → Prop
  | .text, input => ∃ v, input = some v
  | .tokens, input => ∃ l source, input = some l ∧ InOrder source l.rest

variable [TokenKind K] {i : Medium} {input rest : Input K i}

theorem Readable.suffix (h : Readable input) (hs : Suffix input rest) : Readable rest := by
  have leaves := leaves_of_suffix hs
  cases i with
  | text =>
    obtain ⟨v, rfl⟩ := h
    obtain ⟨cs, w, rfl, -⟩ := leaves
    exact ⟨w, rfl⟩
  | tokens =>
    obtain ⟨l, source, rfl, order⟩ := h
    obtain ⟨tokens, k, rfl, read⟩ := leaves
    refine ⟨k, source, rfl, order.of_sublist ?_⟩
    rw [read.rest]
    exact List.sublist_append_right _ _

theorem Readable.textTo (h : Readable input) (hs : Suffix input rest) :
    ∃ text, Cursor.textTo input rest = .ok text := by
  have leaves := leaves_of_suffix hs
  cases i with
  | text =>
    obtain ⟨v, rfl⟩ := h
    exact textTo_of_leaves (.refl _) leaves
  | tokens =>
    obtain ⟨l, source, rfl, order⟩ := h
    obtain ⟨tokens, k, rfl, read⟩ := leaves
    obtain ⟨none, some⟩ := order.textTo read
    cases tokens with
    | nil => exact ⟨_, none rfl⟩
    | cons t ts =>
      obtain ⟨text, ht, -⟩ := some t ((t :: ts).getLast (by simp)) rfl (List.getLast?_eq_some_getLast _)
      exact ⟨text, ht⟩

theorem Readable.answers (h : Readable input) : Cursor.Answers input := by
  cases i with
  | text =>
    obtain ⟨v, rfl⟩ := h
    exact ⟨⟨_, rfl⟩, ⟨_, rfl⟩, ⟨_, rfl⟩, ⟨_, rfl⟩⟩
  | tokens =>
    obtain ⟨l, source, rfl, -⟩ := h
    exact ⟨⟨_, rfl⟩, ⟨_, rfl⟩, ⟨_, rfl⟩, ⟨_, rfl⟩⟩

end Input

section Combinators

variable {C α β : Type} {p : Reader (Except Fault) C α} {input : C} {fault : Fault}

theorem map_fault {f : α → β} (h : Combinator.map f p input = .error fault) : p input = .error fault :=
  eq_error_of_bind h fun _ => ⟨_, rfl⟩

theorem bind_fault {q : α → Reader (Except Fault) C β} (h : Combinator.bind p q input = .error fault) :
    p input = .error fault ∨
      ∃ a location rest, p input = .ok (.success a location rest) ∧ q a rest = .error fault := by
  rcases bind_eq_error h with h | ⟨⟨a, location, rest⟩ | e, hp, h⟩
  · exact .inl h
  · refine .inr ⟨a, location, rest, hp, eq_error_of_bind h ?_⟩
    rintro (_ | _) <;> exact ⟨_, rfl⟩
  · cases h

theorem seq_fault {q : Reader (Except Fault) C β} (h : Combinator.seq p q input = .error fault) :
    p input = .error fault ∨
      ∃ a location rest, p input = .ok (.success a location rest) ∧ q rest = .error fault := by
  rcases bind_eq_error h with h | ⟨⟨a, location, rest⟩ | e, hp, h⟩
  · exact .inl h
  · refine .inr ⟨a, location, rest, hp, eq_error_of_bind h ?_⟩
    rintro (_ | _) <;> exact ⟨_, rfl⟩
  · cases h

theorem reporting_fault {text : String} (h : Combinator.reporting p text input = .error fault) :
    p input = .error fault := by
  refine eq_error_of_bind h ?_
  rintro (_ | _) <;> exact ⟨_, rfl⟩

theorem sepItem_fault {delimiter : Reader (Except Fault) C β}
    (h : Combinator.sepItem p delimiter input = .error fault) :
    delimiter input = .error fault ∨
      ∃ b location rest, delimiter input = .ok (.success b location rest) ∧ p rest = .error fault := by
  rcases bind_eq_error h with h | ⟨⟨b, location, rest⟩ | e, read, h⟩
  · exact .inl h
  · exact .inr ⟨b, location, rest, read, h⟩
  · cases h

theorem exists_ite {c : Prop} [Decidable c] (a b : β) :
    ∃ d, (if c then (.ok a : Except Fault β) else .ok b) = .ok d := by
  split <;> exact ⟨_, rfl⟩

theorem guard_fault {accepts : α → Bool} {expectation : String}
    (h : Combinator.guard p accepts expectation input = .error fault) : p input = .error fault := by
  refine eq_error_of_bind h ?_
  rintro (_ | _)
  · exact exists_ite _ _
  · exact ⟨_, rfl⟩

variable [Cursor C]

theorem or_fault {q : Reader (Except Fault) C α} (h : Combinator.or p q input = .error fault) :
    p input = .error fault ∨ q input = .error fault := by
  rcases bind_eq_error h with h | ⟨⟨a, location, rest⟩ | e, -, h⟩
  · exact .inl h
  · cases h
  · dsimp only at h
    split at h
    · cases h
    · refine .inr (eq_error_of_bind h ?_)
      rintro (_ | _) <;> exact ⟨_, rfl⟩

theorem attempt_fault (h : Combinator.attempt p input = .error fault) : p input = .error fault := by
  refine eq_error_of_bind h ?_
  rintro (_ | _)
  · exact ⟨_, rfl⟩
  · exact exists_ite _ _

theorem labelled_fault {name : String} (h : Combinator.labelled p name input = .error fault) :
    p input = .error fault := by
  refine eq_error_of_bind h ?_
  rintro (_ | _)
  · exact ⟨_, rfl⟩
  · exact exists_ite _ _

theorem optional_fault (h : Combinator.optional p input = .error fault) : p input = .error fault := by
  refine eq_error_of_bind h ?_
  rintro (_ | _)
  · exact ⟨_, rfl⟩
  · exact exists_ite _ _

end Combinators

section Readable

open Ensuring

variable {K : Type} [TokenKind K] {i : Medium} {α β ω : Type} {p : Reader (Except Fault) (Input K i) α}
  {input : Input K i} {fault : Fault}

theorem Advancing.suffix (hp : Advancing p) {a : α} {location rest : Input K i}
    (h : p input = .ok (.success a location rest)) : Suffix input rest :=
  hp input _ h

theorem notFollowedBy_fault (hp : Advancing p) (readable : input.Readable)
    (h : Combinator.notFollowedBy p input = .error fault) : p input = .error fault := by
  rcases bind_eq_error h with h | ⟨⟨a, location, rest⟩ | e, read, h⟩
  · exact h
  · obtain ⟨text, ht⟩ := readable.textTo (hp.suffix read)
    simp only [ofExcept_eq, ht] at h
    cases h
  · cases h

theorem whole_fault (hp : Advancing p) (readable : input.Readable)
    (h : Combinator.whole p input = .error fault) : p input = .error fault := by
  rcases bind_eq_error h with h | ⟨⟨a, location, rest⟩ | e, read, h⟩
  · exact h
  · obtain ⟨atEnd, he⟩ := (readable.suffix (hp.suffix read)).answers.isAtEnd
    simp only [ofExcept_eq, he, ok_bind] at h
    split at h <;> cases h
  · cases h

theorem exists_drop (count : Nat) (readable : input.Readable) :
    ∃ rest, (Combinator.drop count input : Except Fault (Input K i)) = .ok rest := by
  induction count generalizing input with
  | zero => exact ⟨input, rfl⟩
  | succ count ih =>
    obtain ⟨tail, ht⟩ := readable.answers.tail?
    simp only [Combinator.drop, ofExcept_eq, ht, ok_bind]
    cases tail with
    | none => exact ⟨input, rfl⟩
    | some rest => exact ih (readable.suffix (suffix_of_tail ht))

theorem fail_fault (skip : Nat) (report : Failure Unit) (readable : input.Readable) :
    (Combinator.fail skip report : Reader (Except Fault) (Input K i) α) input ≠ .error fault := by
  obtain ⟨rest, hr⟩ := exists_drop skip readable
  simp [Combinator.fail, hr]

end Readable

section Rendering

variable {C : Type} [Cursor C] {e : Failure C}

theorem Failure.position_of_answers (h : Cursor.Answers e.remainder) : ∃ place, e.position = .ok place := by
  unfold Failure.position
  split
  · exact ⟨_, rfl⟩
  · exact h.position

theorem Failure.fragment_of_answers (h : Cursor.Answers e.remainder) : ∃ text, e.fragment = .ok text := by
  unfold Failure.fragment
  split
  · exact ⟨_, rfl⟩
  · obtain ⟨item, hi⟩ := h.describe
    exact ⟨_, by rw [hi]; rfl⟩

theorem Failure.render_of_answers (h : Cursor.Answers e.remainder) : ∃ text, e.render = .ok text := by
  obtain ⟨place, hp⟩ := Failure.position_of_answers h
  obtain ⟨fragment, hf⟩ := Failure.fragment_of_answers h
  exact ⟨_, by simp only [Failure.render, hp, hf, ok_bind]; rfl⟩

end Rendering

section Text

variable {v w : View} {fault : Fault}

theorem next?_view (v : View) :
    Span.next? (some v) = .ok (v.next?.map fun item => (item.1, some item.2)) := rfl

theorem exists_upTo (h : Suffix (some v : Span) (some w)) : ∃ part, Span.upTo (some v) (some w) = .ok part := by
  obtain ⟨cs, _, ⟨⟩, read⟩ := Input.leaves_of_suffix (K := Kind) (i := .text) h
  exact ⟨_, read.upTo⟩

theorem one_fault (accepts : Char → Bool) (expectations : List String) :
    (Primitive.one accepts expectations : Reader (Except Fault) Span Char) (some v) ≠ .error fault := by
  intro h
  simp only [Primitive.one, next?_view, ofExcept_eq, ok_bind] at h
  generalize v.next? = item at h
  rcases item with _ | ⟨c, w⟩
  · cases h
  · dsimp only [Option.map_some] at h
    split at h <;> cases h

theorem matchText_fault (ignoreCase : Bool) (cs : List Char) :
    Primitive.matchText ignoreCase cs (some v) ≠ .error fault := by
  induction cs generalizing v with
  | nil => nofun
  | cons c cs ih =>
    intro h
    simp only [Primitive.matchText, next?_view, ok_bind] at h
    generalize v.next? = item at h
    rcases item with _ | ⟨d, w⟩
    · cases h
    · dsimp only [Option.map_some] at h
      split at h
      · exact ih h
      · cases h

theorem literal_fault (text : String) (ignoreCase : Bool) :
    (Primitive.literal text ignoreCase : Reader (Except Fault) Span View) (some v) ≠ .error fault := by
  intro h
  rcases bind_eq_error h with h | ⟨⟨rest, _ | expected⟩, matched, h⟩
  · rw [ofExcept_eq] at h
    exact matchText_fault ignoreCase text.toList h
  · rw [ofExcept_eq] at matched
    have suffix := suffix_matchText matched
    obtain ⟨cs, w, rfl, -⟩ := Input.leaves_of_suffix (K := Kind) (i := .text) suffix
    obtain ⟨part, hp⟩ := exists_upTo suffix
    simp only [ofExcept_eq, hp] at h
    cases h
  · dsimp only at h
    split at h <;> cases h

theorem takeWhile_fault (accepts : Char → Bool) (name : Option String) :
    (Primitive.takeWhile accepts name : Reader (Except Fault) Span View) (some v) ≠ .error fault := by
  intro h
  obtain ⟨part, hp⟩ := exists_upTo (suffix_of_reads (v.reads_skip (v.chars.takeWhile accepts).length))
  simp only [Primitive.takeWhile, Span.view, ofExcept_eq, ok_bind] at h
  split at h
  · cases h
  · change (Span.upTo (some v) (some (v.skip _)) >>= _) = _ at h
    rw [hp] at h
    cases h

end Text

section Tokens

variable {K α : Type} {l : TokenView K} {fault : Fault}

theorem token_fault (accepts : Token K → Bool) (expectation : String) :
    (Primitive.token accepts expectation : Reader (Except Fault) (TokenList K) (Token K)) (some l) ≠
      .error fault := by
  intro h
  simp only [Primitive.token, next?_some, ofExcept_eq, ok_bind] at h
  generalize l.next? = item at h
  rcases item with _ | ⟨t, k⟩
  · cases h
  · dsimp only [Option.map_some] at h
    split at h <;> cases h

variable [TokenKind K]

theorem matchKinds_fault [DecidableEq K] (location : TokenList K) (kinds : List K)
    (tokens : List (Token K)) : Primitive.matchKinds location kinds (some l) tokens ≠ .error fault := by
  induction kinds generalizing l tokens with
  | nil => nofun
  | cons kind kinds ih =>
    intro h
    simp only [Primitive.matchKinds, next?_some, ok_bind] at h
    generalize l.next? = item at h
    rcases item with _ | ⟨t, k⟩
    · cases h
    · dsimp only [Option.map_some] at h
      split at h
      · exact ih _ h
      · cases h

theorem kinds_fault [DecidableEq K] (expected : List K) :
    (Primitive.kinds expected : Reader (Except Fault) (TokenList K) (List (Token K))) (some l) ≠
      .error fault := by
  rw [Primitive.kinds, ofExcept_eq]
  exact matchKinds_fault _ _ _

theorem exists_refusal (input : TokenList K) (kind : K) {inner : Failure Span}
    (h : Cursor.Answers inner.remainder) : ∃ e, Primitive.refusal input kind inner = .ok e := by
  obtain ⟨atEnd, he⟩ := h.isAtEnd
  obtain ⟨fragment, hf⟩ := Failure.fragment_of_answers h
  obtain ⟨place, hp⟩ := Failure.position_of_answers h
  exact ⟨_, by simp only [Primitive.refusal, he, hf, hp, ok_bind]; rfl⟩

theorem inToken_fault {tokenReader : Reader (Except Fault) (TokenList K) (Token K)}
    {textReader : Reader (Except Fault) Span α} (hp : Tracking textReader) {input : TokenList K}
    (h : Primitive.inToken tokenReader textReader input = .error fault) :
    tokenReader input = .error fault ∨
      ∃ t location rest, tokenReader input = .ok (.success t location rest) ∧
        textReader (some t.span) = .error fault := by
  rcases bind_eq_error h with h | ⟨⟨t, location, rest⟩ | e, read, h⟩
  · exact .inl h
  · have inside : ∀ reply, textReader (some t.span) = .ok reply → Cursor.Answers reply.remainder := by
      intro reply hr
      have readable : Input.Readable (K := K) (i := .text) (some t.span) := ⟨_, rfl⟩
      exact (readable.suffix (hp.advancing _ _ hr)).answers
    refine .inr ⟨t, location, rest, read, ?_⟩
    rcases bind_eq_error h with h | ⟨⟨a, start, last⟩ | inner, read', h⟩
    · exact h
    · obtain ⟨atEnd, he⟩ := (inside _ read').isAtEnd
      have answers : Cursor.Answers (Failure.empty last).remainder := inside _ read'
      obtain ⟨e, hr⟩ := exists_refusal input t.kind answers
      simp only [ofExcept_eq, Reply.remainder] at he h
      simp only [he, hr, ok_bind] at h
      split at h <;> cases h
    · obtain ⟨e, hr⟩ := exists_refusal input t.kind (inside _ read')
      simp only [ofExcept_eq, hr] at h
      cases h
  · cases h

end Tokens

end Parsing

import Parsing.Kind
import Parsing.Parser.Derived
import Parsing.Proofs.Alternation.Merging
import Parsing.Proofs.Remainder.Parser

namespace Parsing

section Readers

variable {C α : Type} [Cursor C]

def Reply.after (e : Failure C) : Reply C α → Reply C α
  | .success a location rest => .success a location rest
  | .failure f => .failure (e.merge f)

/-- The first reader fails with `e` and may be given up, the second may not, and it has not come as far. -/
structure Overtakes (p q : Reader (Except Fault) C α) (input : C) (e : Failure C) : Prop where
  fails : p input = .ok (.failure e)
  free : e.isCommitted input = false
  second : ∃ f, q input = .ok (.failure f) ∧ f.isCommitted input = true ∧
    Cursor.offset f.remainder < Cursor.offset e.remainder

variable {p q : Reader (Except Fault) C α} {input : C} {e : Failure C}

theorem or_of_fault {fault : Fault} (hp : p input = .error fault) :
    Combinator.or p q input = .error fault := by
  simp [Combinator.or, hp]

theorem or_of_success {a : α} {location rest : C} (hp : p input = .ok (.success a location rest)) :
    Combinator.or p q input = .ok (.success a location rest) := by
  simp [Combinator.or, hp]

theorem or_of_committed (hp : p input = .ok (.failure e)) (final : e.isCommitted input = true) :
    Combinator.or p q input = .ok (.failure e) := by
  simp [Combinator.or, hp, final]

theorem or_of_free (hp : p input = .ok (.failure e)) (free : e.isCommitted input = false) :
    Combinator.or p q input = (q input).map (Reply.after e) := by
  simp only [Combinator.or, hp, ok_bind, free]
  rcases q input with fault | ⟨a, location, rest⟩ | f <;> rfl

end Readers

section Nesting

variable {K α : Type} [TokenKind K] {i : Medium} {p q r : Reader (Except Fault) (Input K i) α}
  {input : Input K i} {e f : Failure (Input K i)}

theorem after_merge (he : Suffix input e.remainder) (hf : Suffix input f.remainder)
    {reply : Reply (Input K i) α} (tracks : reply.Tracks input) :
    reply.after (e.merge f) = (reply.after f).after e := by
  cases reply with
  | success a location rest => rfl
  | failure g => exact congrArg Reply.failure (Failure.merge_assoc he hf tracks)

-- The failure that stands for two is final where the second is, unless the first has overtaken it.
theorem isCommitted_merge (he : Suffix input e.remainder) (hf : Suffix input f.remainder)
    (free : e.isCommitted input = false)
    (h : f.isCommitted input = true → ¬ Cursor.offset f.remainder < Cursor.offset e.remainder) :
    (e.merge f).isCommitted input = f.isCommitted input := by
  rcases suffix_trichotomy he hf with ef | ef | ef
  · rw [Failure.merge_of_eq ef]
    rfl
  · rw [Failure.merge_of_lt ef]
  · have second : f.isCommitted input = false := by
      cases hc : f.isCommitted input with
      | false => rfl
      | true => exact (h hc ef).elim
    rw [Failure.merge_of_gt ef, free, second]

theorem or_or_of_failures (hp : Tracking p) (hq : Tracking q) (hr : Tracking r)
    (first : p input = .ok (.failure e)) (free : e.isCommitted input = false)
    (second : q input = .ok (.failure f))
    (h : f.isCommitted input = true → ¬ Cursor.offset f.remainder < Cursor.offset e.remainder) :
    Combinator.or (Combinator.or p q) r input = Combinator.or p (Combinator.or q r) input := by
  have he : Suffix input e.remainder := hp input _ first
  have hf : Suffix input f.remainder := hq input _ second
  have same := isCommitted_merge he hf free h
  have merged : Combinator.or p q input = .ok (.failure (e.merge f)) := by
    rw [or_of_free first free, second]
    rfl
  rw [or_of_free first free]
  cases hc : f.isCommitted input with
  | true =>
    rw [or_of_committed merged (same.trans hc), or_of_committed second hc]
    rfl
  | false =>
    rw [or_of_free merged (same.trans hc), or_of_free second hc]
    cases third : r input with
    | error fault => rfl
    | ok reply => exact congrArg Except.ok (after_merge he hf (hr input reply third))

theorem or_or_eq (hp : Tracking p) (hq : Tracking q) (hr : Tracking r)
    (h : ∀ e, ¬ Overtakes p q input e) :
    Combinator.or (Combinator.or p q) r input = Combinator.or p (Combinator.or q r) input := by
  cases first : p input with
  | error fault => rw [or_of_fault (or_of_fault first), or_of_fault first]
  | ok reply =>
    cases reply with
    | success a location rest => rw [or_of_success (or_of_success first), or_of_success first]
    | failure e =>
      cases free : e.isCommitted input with
      | true => rw [or_of_committed (or_of_committed first free) free, or_of_committed first free]
      | false =>
        cases second : q input with
        | error fault =>
          have inner : Combinator.or p q input = .error fault := by
            rw [or_of_free first free, second]
            rfl
          rw [or_of_fault inner, or_of_free first free, or_of_fault second]
          rfl
        | ok reply =>
          cases reply with
          | success a location rest =>
            have inner : Combinator.or p q input = .ok (.success a location rest) := by
              rw [or_of_free first free, second]
              rfl
            rw [or_of_success inner, or_of_free first free, or_of_success second]
            rfl
          | failure f =>
            apply or_or_of_failures hp hq hr first free second
            intro final further
            exact h e ⟨first, free, f, second, final, further⟩

theorem Overtakes.inner (h : Overtakes p q input e) :
    Combinator.or p (Combinator.or q r) input = .ok (.failure e) := by
  obtain ⟨f, second, final, further⟩ := h.second
  rw [or_of_free h.fails h.free, or_of_committed second final]
  exact congrArg (Except.ok ∘ Reply.failure) (Failure.merge_of_gt further)

theorem Overtakes.outer (h : Overtakes p q input e) :
    Combinator.or (Combinator.or p q) r input = (r input).map (Reply.after e) := by
  obtain ⟨f, second, -, further⟩ := h.second
  have merged : Combinator.or p q input = .ok (.failure e) := by
    rw [or_of_free h.fails h.free, second]
    exact congrArg (Except.ok ∘ Reply.failure) (Failure.merge_of_gt further)
  rw [or_of_free merged h.free]

end Nesting

section Parsers

variable {K V : Type} [DecidableEq K] [TokenKind K] {i : Medium} {α : Type}

theorem Parser.runDepth_or (definitions : Definitions K V) (depth : Nat) (p q : Parser K V i α) :
    (p.or q).runDepth definitions depth =
      Combinator.or (p.runDepth definitions depth) (q.runDepth definitions depth) := by
  obtain ⟨refer, runs⟩ := Parser.exists_runDepth_eq definitions depth
  rw [runs, runs, runs, Parser.denote]

/-- Three alternatives give one result, however they are nested, unless the first is given up further on than
the second, which may not be given up. Nested to the right they then fail as the first does; nested to the left,
the third is tried all the same. -/
theorem run_or_nested (definitions : Definitions K V) (depth : Nat) (a b c : Parser K V i α)
    (input : Input K i) :
    ((∀ e, ¬ Overtakes (a.runDepth definitions depth) (b.runDepth definitions depth) input e) →
      ((a.or b).or c).runDepth definitions depth input =
        (a.or (b.or c)).runDepth definitions depth input) ∧
    ∀ e, Overtakes (a.runDepth definitions depth) (b.runDepth definitions depth) input e →
      (a.or (b.or c)).runDepth definitions depth input = .ok (.failure e) ∧
        ((a.or b).or c).runDepth definitions depth input =
          (c.runDepth definitions depth input).map (Reply.after e) := by
  simp only [Parser.runDepth_or]
  constructor
  · intro h
    exact or_or_eq (a.tracking_runDepth definitions depth) (b.tracking_runDepth definitions depth)
      (c.tracking_runDepth definitions depth) h
  · intro e h
    exact ⟨h.inner, h.outer⟩

end Parsers

section Letters

def lettersText : View :=
  .ofSource ⟨0, ['x', 'y', 'w']⟩

-- An `x`, a `y` and a `z`, of which the last may be missed.
def missed : Parser Kind Unit .text Unit :=
  .value (.seq (.char 'x') (.seq (.char 'y') (.attempt (.char 'z')))) ()

def missedFailure : Failure Span :=
  ⟨some (lettersText.skip 2), none, none, some [Wording.character 'z'], true⟩

def single (c : Char) : Parser Kind Unit .text Unit :=
  .value (.char c) ()

theorem run_or_nested_missed :
    ((missed.or (single 'q')).or (single 'r')).run .empty (some lettersText) =
        .ok (.failure missedFailure) ∧
      (missed.or ((single 'q').or (single 'r'))).run .empty (some lettersText) =
        .ok (.failure missedFailure) := by
  have left : ((missed.or (single 'q')).or (single 'r')).run .empty (some lettersText) =
      .ok (.failure missedFailure) := rfl
  have second : (single 'q').run .empty (some lettersText) =
      .ok (.failure (.expected (some lettersText) [Wording.character 'q'])) := rfl
  refine ⟨left, ?_⟩
  have apart : ∀ e, ¬ Overtakes (missed.runDepth .empty 0) ((single 'q').runDepth .empty 0)
      (some lettersText) e := by
    rintro e ⟨-, -, f, hf, final, -⟩
    cases second.symm.trans hf
    cases final
  exact ((run_or_nested .empty 0 missed (single 'q') (single 'r') (some lettersText)).1 apart).symm.trans left

-- An `x` and a `q`, of which the first is found, stands between an overtaking failure and an `x`.
theorem not_run_or_nested : ¬ ∀ (a b c : Parser Kind Unit .text Unit) (input : Span),
    ((a.or b).or c).run .empty input = (a.or (b.or c)).run .empty input := by
  intro h
  have left : ((missed.or (.value (.seq (.char 'x') (.char 'q')) ())).or (single 'x')).run .empty
      (some lettersText) = .ok (.success () (some lettersText) (some (lettersText.skip 1))) := rfl
  have right : (missed.or ((Parser.value (.seq (.char 'x') (.char 'q')) ()).or (single 'x'))).run .empty
      (some lettersText) = .ok (.failure missedFailure) := rfl
  cases left.symm.trans ((h _ _ _ _).trans right)

end Letters

end Parsing

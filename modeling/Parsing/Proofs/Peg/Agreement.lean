import Parsing.Proofs.Peg.Terminals
import Parsing.Proofs.Remainder.Parser

namespace Parsing

variable {K V : Type} [DecidableEq K] [TokenKind K]

namespace Parser

theorem Backtracked.meets {refer : (i : Medium) → String → Reader (Except Fault) (Input K i) V}
    (ht : ∀ {i : Medium} {α : Type} (p : Parser K V i α), Tracking (p.denote refer)) {i : Medium}
    {α : Type} {p : Parser K V i α} (hp : p.Backtracked) : Meets (p.denote refer) p.peg := by
  induction hp with
  | one accepts expectations => exact meets_one accepts expectations
  | literal text ignoreCase => exact meets_literal text ignoreCase
  | takeWhile accepts name => exact meets_takeWhile accepts name
  | token accepts expectation => exact meets_token accepts expectation
  | kinds expected => exact meets_kinds expected
  | succeed a => exact meets_succeed a
  | map f _ hp => exact hp.map f
  | @seq _ _ _ p _ _ _ hp hq => exact hp.seq (ht p).advancing hq
  | attempt _ hp => exact hp.attempt
  | or _ _ hp hq => exact hp.attempt.or (marked_attempt _) hq
  | @many _ _ p _ hp => exact hp.attempt.many (ht p).attempt.advancing (marked_attempt _)
  | @many1 _ _ p _ hp => exact hp.attempt.many1 (ht p).attempt.advancing (marked_attempt _)
  | optional _ hp => exact hp.attempt.optional (marked_attempt _)
  | @notFollowedBy _ _ p _ hp => exact hp.notFollowedBy (ht p).advancing
  | @sepBy _ _ _ item delimiter _ _ hi hd =>
    exact hi.attempt.sepBy (ht item).attempt.advancing (marked_attempt _) hd.attempt
      (ht delimiter).attempt.advancing (marked_attempt _)

theorem Backtracked.meets_runDepth (definitions : Definitions K V) (depth : Nat) {i : Medium} {α : Type}
    {p : Parser K V i α} (hp : p.Backtracked) : Meets (p.runDepth definitions depth) p.peg := by
  cases depth with
  | zero => exact hp.meets fun q => q.tracking_runDepth definitions 0
  | succ depth => exact hp.meets fun q => q.tracking_runDepth definitions (depth + 1)

end Parser

/-- A backtracked parser succeeds exactly where the parsing expression yields its value and its remainder, and
it fails exactly where the expression fails, unless a lookahead cannot read the text that it has matched. -/
theorem run_iff_peg (definitions : Definitions K V) {i : Medium} {α : Type} {p : Parser K V i α}
    (hp : p.Backtracked) (input : Input K i)
    (legible : ∀ fault, Illegible input fault → p.run definitions input ≠ .error fault) :
    (∀ value rest, p.run definitions input = .ok (.success value input rest) ↔
        p.peg input (some (value, rest))) ∧
      ((∃ e, p.run definitions input = .ok (.failure e)) ↔ p.peg input none) := by
  have meets := hp.meets_runDepth definitions (definitions.depth input)
  have tracks := p.tracking_runDepth definitions (definitions.depth input) input
  have replies : ∀ outcome, p.peg input outcome →
      ∃ reply, p.run definitions input = .ok reply ∧ reply.outcome = outcome := by
    intro outcome h
    rcases meets.complete input outcome h with reached | ⟨fault, illegible, run⟩
    · exact reached
    · exact absurd run (legible fault illegible)
  constructor
  · intro value rest
    constructor
    · intro run
      exact meets.sound input _ run
    · intro h
      obtain ⟨reply, run, ho⟩ := replies _ h
      cases reply with
      | success value' location rest' =>
        cases ho
        obtain ⟨rfl, -⟩ := tracks _ run
        exact run
      | failure e => cases ho
  · constructor
    · rintro ⟨e, run⟩
      exact meets.sound input _ run
    · intro h
      obtain ⟨reply, run, ho⟩ := replies _ h
      cases reply with
      | success value location rest => cases ho
      | failure e => exact ⟨e, run⟩

-- A list with a delimiter behind its last item, which is left.
def letterList : Parser Kind Unit .text (List Char) :=
  .sepBy true (.attempt (.or (.attempt (.char 'a')) (.char 'b'))) (.attempt (.char ','))

def letterListText : View :=
  .ofSource ⟨0, ['a', ',', 'b', ',', '!']⟩

-- Yields nothing where two tokens follow, whose text the lookahead reads for its message.
def unpaired : Parser Kind Unit .tokens (Option Unit) :=
  .optional (.attempt (.notFollowedBy (.seq .anyToken .anyToken)))

theorem backtracked_unpaired : unpaired.Backtracked :=
  .optional (.notFollowedBy (.seq (.token _ _) (.token _ _)))

def letterAt (offset : Nat) : Token Kind :=
  ⟨⟨"letter", ⟨none, none, none⟩⟩, ((View.ofSource ⟨0, ['a', 'b', 'c']⟩).skip offset).first 1⟩

def lettersAt (offsets : List Nat) : TokenView Kind :=
  .ofList 0 (offsets.map letterAt)

theorem run_iff_peg_letters :
    (letterList.run .empty (some letterListText) =
        .ok (.success ['a', 'b'] (some letterListText) (some (letterListText.skip 3))) ∧
      letterList.peg (some letterListText) (some (['a', 'b'], some (letterListText.skip 3)))) ∧
    unpaired.run .empty (some (lettersAt [0, 2])) =
        .ok (.success none (some (lettersAt [0, 2])) (some (lettersAt [0, 2]))) ∧
      unpaired.peg (some (lettersAt [0, 2])) (some (none, some (lettersAt [0, 2]))) := by
  constructor
  · have backtracked : letterList.Backtracked := .sepBy (.or (.one _ _) (.one _ _)) (.one _ _)
    have run : letterList.run .empty (some letterListText) =
        .ok (.success ['a', 'b'] (some letterListText) (some (letterListText.skip 3))) := rfl
    have legible : ∀ fault, Illegible (K := Kind) (i := .text) (some letterListText) fault →
        letterList.run .empty (some letterListText) ≠ .error fault :=
      fun fault illegible => absurd illegible (not_illegible_text _ fault)
    exact ⟨run, ((run_iff_peg .empty backtracked _ legible).1 _ _).mp run⟩
  · have run : unpaired.run .empty (some (lettersAt [0, 2])) =
        .ok (.success none (some (lettersAt [0, 2])) (some (lettersAt [0, 2]))) := rfl
    have legible : ∀ fault, Illegible (i := .tokens) (some (lettersAt [0, 2])) fault →
        unpaired.run .empty (some (lettersAt [0, 2])) ≠ .error fault := by
      intro fault _
      rw [run]
      exact nofun
    exact ⟨run, ((run_iff_peg .empty backtracked_unpaired _ legible).1 _ _).mp run⟩

theorem badSlice_of_disorder :
    unpaired.Backtracked ∧
      unpaired.peg (some (lettersAt [2, 0])) (some (none, some (lettersAt [2, 0]))) ∧
      unpaired.run .empty (some (lettersAt [2, 0])) = .error .badSlice := by
  have first : Peg.token (fun _ => true) (some (lettersAt [2, 0]) : TokenList Kind) _ :=
    ⟨_, rfl, rfl⟩
  refine ⟨backtracked_unpaired, ?_, rfl⟩
  exact .second (.fails (.fails (Peg.Seq.succeeds first ⟨_, rfl, rfl⟩))) rfl

end Parsing

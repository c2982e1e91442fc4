import Parsing.Kind
import Parsing.Parser.Derived
import Parsing.Proofs.Remainder.Expression

namespace Parsing

open Ensuring

universe v

variable {K V : Type} [DecidableEq K] [TokenKind K]

namespace Parser

theorem tracking_denote {m : Type → Type v} [Monad m] [MonadExcept Fault m] [Ensuring m]
    {refer : (i : Medium) → String → Reader m (Input K i) V}
    (hr : ∀ i name, Tracking (refer i name)) {i : Medium} {α : Type} (p : Parser K V i α) :
    Tracking (p.denote refer) := by
  induction p with
  | one accepts expectations => exact tracking_one accepts expectations
  | literal text ignoreCase => exact tracking_literal text ignoreCase
  | takeWhile accepts name => exact tracking_takeWhile accepts name
  | token accepts expectation => exact tracking_token accepts expectation
  | kinds expected => exact tracking_kinds expected
  | inToken t p ht hp => exact ht.inToken hp
  | expression operand grammar ho => exact Expression.tracking_expression ho grammar
  | map f p hp => exact hp.map f
  | bind p q hp hq => exact hp.bind hq
  | seq p q hp hq => exact hp.seq hq
  | or p q hp hq => exact hp.or hq
  | attempt p hp => exact hp.attempt
  | labelled p name hp => exact hp.labelled name
  | reporting p text hp => exact hp.reporting text
  | guard p accepts expectation hp => exact hp.guard accepts expectation
  | notFollowedBy p hp => exact hp.notFollowedBy
  | succeed a => exact tracking_succeed a
  | many p hp => exact hp.many
  | many1 p hp => exact hp.many1
  | skipMany p hp => exact hp.skipMany
  | optional p hp => exact hp.optional
  | sepBy required item delimiter hi hd => exact hi.sepBy hd required
  | times size count p hp => exact hp.times size count
  | whole p hp => exact hp.whole
  | chain associativity operator operand f ho ha => exact ho.chain f ha associativity
  | reference name => exact hr _ name
  | fail skip report => exact tracking_fail skip report

theorem exists_runDepth_eq (definitions : Definitions K V) (depth : Nat) :
    ∃ refer, ∀ {i : Medium} {α : Type} (p : Parser K V i α),
      p.runDepth definitions depth = p.denote refer := by
  cases depth with
  | zero => exact ⟨_, fun _ => rfl⟩
  | succ depth => exact ⟨_, fun _ => rfl⟩

theorem tracking_runDepth (definitions : Definitions K V) (depth : Nat) {i : Medium} {α : Type}
    (p : Parser K V i α) : Tracking (p.runDepth definitions depth) := by
  induction depth generalizing i α with
  | zero =>
    apply tracking_denote
    intro i name input reply h
    cases h
  | succ depth ih =>
    apply tracking_denote
    intro i name input
    dsimp only
    split
    · exact ih _ input
    · intro reply h
      cases h

theorem tracking_memoDepth (definitions : Definitions K V) (depth : Nat) {i : Medium} {α : Type}
    (p : Parser K V i α) : Tracking (p.memoDepth definitions depth) := by
  induction depth generalizing i α with
  | zero =>
    apply tracking_denote
    intro i name input
    exact ensures_throw
  | succ depth ih =>
    apply tracking_denote
    intro i name input cells reply h
    dsimp only at h
    split at h
    · exact ih _ input _ reply h
    · cases h

end Parser

/-- A run that returns is located at its input, and it leaves the same text or list of tokens with the same end,
no less far on and after whole items, whether it succeeds or fails. -/
theorem run_leaves_suffix (definitions : Definitions K V) (depth : Nat) {i : Medium} {α : Type}
    (p : Parser K V i α) (input : Input K i) (cells : Cells K V) (reply : Reply (Input K i) α)
    (returned : p.runDepth definitions depth input = .ok reply ∨
      (p.memoDepth definitions depth input cells).1 = .ok reply) :
    (∀ value location rest, reply = .success value location rest → location = input) ∧
      Input.Leaves input reply.remainder ∧ Cursor.offset input ≤ Cursor.offset reply.remainder := by
  have tracks : reply.Tracks input := by
    rcases returned with h | h
    · exact p.tracking_runDepth definitions depth input reply h
    · exact p.tracking_memoDepth definitions depth input cells reply h
  have leaves : Input.Leaves input reply.remainder := by
    cases reply with
    | success value location rest => exact Input.leaves_of_suffix tracks.2
    | failure e => exact Input.leaves_of_suffix tracks
  refine ⟨?_, leaves, leaves.offset_le⟩
  rintro value location rest rfl
  exact tracks.1

-- How many brackets there are around an `x`.
def nested : Parser Kind Nat .text Nat :=
  .or (.map (· + 1) (.between (.char '[') (.reference "nested") (.char ']')))
    (.map (fun _ => 0) (.char 'x'))

def nestedDefinition : Definitions Kind Nat :=
  ⟨[("nested", nested)], []⟩

def bracketedText : View :=
  .ofSource ⟨0, ['[', '[', 'x', ']', ']', '!']⟩

theorem run_leaves_suffix_nested :
    nested.run nestedDefinition (some bracketedText) =
        .ok (.success 2 (some bracketedText) (some (bracketedText.skip 5))) ∧
      @Input.Leaves Kind .text (some bracketedText) (some (bracketedText.skip 5)) := by
  have returned : nested.run nestedDefinition (some bracketedText) =
      .ok (.success 2 (some bracketedText) (some (bracketedText.skip 5))) := rfl
  exact ⟨returned, (run_leaves_suffix nestedDefinition _ nested _ .empty _ (.inl returned)).2.1⟩

end Parsing

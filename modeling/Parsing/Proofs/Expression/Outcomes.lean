import Parsing.Proofs.Expression.Moves

namespace Parsing.Expression

open Frames Expression.Configuration

variable {K α : Type} {g : Grammar K α} [DecidableEq K] [TokenKind K]

inductive Outcome (operand : Reader (Except Fault) (TokenList K) α) (input : TokenList K)
    (c : Configuration g) : Except Fault (Step g) → Prop
  | moved {c'} (move : Transition operand c c') : Outcome operand input c (.ok (.going (c'.machine input)))
  | finished {l arms t} (config : c = .holding (some l) (onto arms []) t)
      (halted : HaltedAt (onto arms []) l) :
      Outcome operand input c (.ok (.done (.success (Arm.plugAll arms t).value input (some l))))
  | refused (kind : K) : Outcome operand input c
      (.ok (.done (.failure (.expected c.remainder [TokenKind.whenExpected kind]))))
  | unchecked (message : String) :
      Outcome operand input c (.ok (.done (.failure (.withMessage c.remainder message))))
  | failed {remainder F e} (config : c = .awaiting remainder F)
      (read : operand remainder = .ok (.failure e)) :
      Outcome operand input c (.ok (.done (.failure e)))
  | faulted {remainder F e} (config : c = .awaiting remainder F) (read : operand remainder = .error e) :
      Outcome operand input c (.error e)
  | unstarted (none : c.remainder = none) : Outcome operand input c (.error .noTokens)

variable {operand : Reader (Except Fault) (TokenList K) α} (input : TokenList K)

theorem refused_outcome (c : Configuration g) (arms : List (Arm g))
    (choice : Fin g.conditionals.length) (ops : List (Entry g)) (next : Except Fault (Step g)) :
    Outcome operand input c
      ((c.machine input).requireBranches (arms.flatMap Arm.entries ++ .ifMark choice :: ops) next) := by
  obtain ⟨kind, hk⟩ := requireBranches_condition (c.machine input) arms choice ops next
  rw [hk]
  cases c <;> exact .refused kind

theorem finish_outcome {l : TokenView K} {F : List (Frame g)} (t : Tree g) (halted : HaltedAt F l) :
    Outcome operand input (.holding (some l) F t) ((holding (some l) F t).machine input).finish := by
  cases hi : innermost (operators F) with
  | some set =>
    simp only [Machine.finish, machine, around, hi]
    exact .refused set.stop
  | none =>
    obtain ⟨arms, rfl | ⟨set, opening, before, F', rfl⟩ | ⟨choice, token, F', rfl⟩⟩ := exists_onto F
    · rw [finish_onto]
      exact .finished rfl halted
    · simp at hi
    · simp only [Machine.finish, machine, around, hi]
      rw [operators_onto]
      exact refused_outcome input (.holding (some l) (onto arms (.condition choice token :: F')) t)
        arms choice (operators F') _

theorem close_outcome {l k : TokenView K} {token : Token K} {set : Grouping K α} {F : List (Frame g)}
    (t : Tree g) (next : l.next? = some (token, k)) (other : g.infixOf token.kind = none)
    (inside : innermost (operators F) = some set) (stop : token.kind = set.stop) :
    Outcome operand input (.holding (some l) F t)
      (((holding (some l) F t).machine input).close set (some k)) := by
  obtain ⟨arms, rfl | ⟨set', opening, before, F', rfl⟩ | ⟨choice, token', F', rfl⟩⟩ := exists_onto F
  · simp [operators, innermost] at inside
  · obtain rfl : set' = set := by simpa using inside
    rw [close_group input token]
    cases hc : set'.check (before.values ++ [(Arm.plugAll arms t).value]) before.separators with
    | some message => exact .unchecked message
    | none => exact .moved (.closed next other stop hc)
  · simp only [Machine.close, machine, around, aboveInnermost_onto]
    exact refused_outcome input (.holding (some l) (onto arms (.condition choice token' :: F')) t)
      arms choice (aboveInnermost (operators F')) _

theorem separate_outcome {l k : TokenView K} {token : Token K} {set : Grouping K α}
    {F : List (Frame g)} (t : Tree g) (next : l.next? = some (token, k))
    (other : g.infixOf token.kind = none) (inside : innermost (operators F) = some set)
    (going : token.kind ≠ set.stop) (found : token.kind ∈ set.separators) :
    Outcome operand input (.holding (some l) F t)
      (((holding (some l) F t).machine input).separate token (some k)) := by
  obtain ⟨arms, rfl | ⟨set', opening, before, F', rfl⟩ | ⟨choice, token', F', rfl⟩⟩ := exists_onto F
  · simp [operators, innermost] at inside
  · obtain rfl : set' = set := by simpa using inside
    rw [separate_group]
    exact .moved (.separated next other going found)
  · simp only [Machine.separate, machine, around, aboveInnermost_onto]
    exact refused_outcome input (.holding (some l) (onto arms (.condition choice token' :: F')) t)
      arms choice (aboveInnermost (operators F')) _

theorem branch_outcome {l k : TokenView K} {token : Token K} {F : List (Frame g)} (t : Tree g)
    (next : l.next? = some (token, k)) (other : g.infixOf token.kind = none)
    (free : Unclaimed F token.kind) :
    Outcome operand input (.holding (some l) F t)
      (((holding (some l) F t).machine input).branch token (some k)) := by
  by_cases hc : Branchless F .consequent (g.thenOf token.kind)
  · by_cases ha : Branchless F .alternative (g.elseOf token.kind)
    · rw [branch_halted input t hc ha]
      apply finish_outcome input t
      intro token' ht
      obtain rfl : token = token' := by simpa [TokenView.head?_rest next] using ht
      exact ⟨other, free, hc, ha⟩
    · obtain ⟨choice, found, hb⟩ : ∃ choice, g.elseOf token.kind = some choice ∧
          belongs .alternative choice (operators F) = true := by simpa [Branchless] using ha
      obtain ⟨arms, ifToken, thenToken, c, F', nearest, rfl⟩ := (belongs_alternative_iff choice F).mp hb
      rw [branch_alternative input ifToken thenToken c F' t hc found nearest]
      exact .moved (.alternative next other free hc found nearest)
  · obtain ⟨choice, found, hb⟩ : ∃ choice, g.thenOf token.kind = some choice ∧
        belongs .consequent choice (operators F) = true := by simpa [Branchless] using hc
    obtain ⟨arms, ifToken, F', rfl⟩ := (belongs_consequent_iff choice F).mp hb
    rw [branch_consequent input arms ifToken F' t found]
    exact .moved (.consequent next other free found)

theorem readOperator_outcome (l : TokenView K) (F : List (Frame g)) (t : Tree g) :
    Outcome operand input (.holding (some l) F t)
      ((holding (some l) F t).machine input).readOperator := by
  cases hn : l.next? with
  | none =>
    have halted : HaltedAt F l := by simp [HaltedAt, TokenView.next?_eq_none.mp hn]
    rw [readOperator_halted input t halted]
    exact finish_outcome input t halted
  | some item =>
    obtain ⟨token, k⟩ := item
    cases ho : g.infixOf token.kind with
    | some op =>
      obtain ⟨arms, F', rfl, tight, hstop⟩ :=
        exists_onto_while (fun a => Stacks.bindsTighter op.precedence a.entries) F
      have move : Transition operand (.holding (some l) (onto arms F') t) _ :=
        .infixed hn ho tight (bindsTighter_eq_false op.precedence hstop)
      have hs := move.step input
      rw [step_holding] at hs
      rw [hs]
      exact .moved move
    | none =>
      cases hi : innermost (operators F) with
      | none =>
        have free : Unclaimed F token.kind := by simp [Unclaimed, hi]
        rw [readOperator_unclaimed input t hn ho free]
        exact branch_outcome input t hn ho free
      | some set =>
        rw [readOperator_claimed input t hn ho hi]
        split
        · rename_i stop
          exact close_outcome input t hn ho hi stop
        · rename_i going
          split
          · rename_i found
            exact separate_outcome input t hn ho hi going found
          · rename_i unfound
            apply branch_outcome input t hn ho
            intro set' hs
            obtain rfl : set = set' := by simpa [hi] using hs
            exact ⟨going, unfound⟩

theorem plain_outcome {l : TokenView K} (F : List (Frame g)) (plain : PlainAt g l) :
    Outcome operand input (.awaiting (some l) F) (((awaiting (some l) F).machine input).step operand) := by
  cases hr : operand (some l) with
  | error e =>
    rw [step_faulted input F plain hr]
    exact .faulted rfl hr
  | ok reply =>
    cases reply with
    | failure e =>
      rw [step_failed input F plain hr]
      exact .failed rfl hr
    | success value location rest =>
      have move : Transition operand (.awaiting (some l) F) _ := .operand plain hr
      rw [move.step input]
      exact .moved move

theorem awaiting_outcome (l : TokenView K) (F : List (Frame g)) :
    Outcome operand input (.awaiting (some l) F) (((awaiting (some l) F).machine input).step operand) := by
  by_cases plain : PlainAt g l
  · exact plain_outcome input F plain
  · suffices h : ∃ c, Transition operand (.awaiting (some l) F) c by
      obtain ⟨c, move⟩ := h
      rw [move.step input]
      exact .moved move
    cases hn : l.next? with
    | none => simp [PlainAt, TokenView.next?_eq_none.mp hn] at plain
    | some item =>
      obtain ⟨token, k⟩ := item
      cases h₁ : g.prefixOf token.kind with
      | some op => exact ⟨_, .prefixed hn h₁⟩
      | none =>
        cases h₂ : g.groupingOf token.kind with
        | some set =>
          by_cases filled : set.allowEmpty → ∀ token ∈ k.rest.head?, token.kind ≠ set.stop
          · exact ⟨_, .opened hn h₁ h₂ filled⟩
          · obtain ⟨allowed, closing, hc, stop⟩ : set.allowEmpty = true ∧
                ∃ closing, k.rest.head? = some closing ∧ closing.kind = set.stop := by
              simpa using filled
            obtain ⟨k', after⟩ := TokenView.exists_next hc
            exact ⟨_, .empty hn h₁ h₂ allowed after stop⟩
        | none =>
          cases h₃ : g.ifOf token.kind with
          | some choice => exact ⟨_, .condition hn h₁ h₂ h₃⟩
          | none => simp [PlainAt, TokenView.head?_rest hn, h₁, h₂, h₃] at plain

theorem step_outcome (c : Configuration g) :
    Outcome operand input c ((c.machine input).step operand) := by
  cases c with
  | awaiting remainder F =>
    cases remainder with
    | none => exact .unstarted rfl
    | some l => exact awaiting_outcome input l F
  | holding remainder F t =>
    rw [step_holding]
    cases remainder with
    | none => exact .unstarted rfl
    | some l => exact readOperator_outcome input l F t

theorem exists_transition {c : Configuration g} {s : Machine g}
    (h : (c.machine input).step operand = .ok (.going s)) :
    ∃ c', s = c'.machine input ∧ Transition operand c c' := by
  have ho : Outcome operand input c ((c.machine input).step operand) := step_outcome input c
  rw [h] at ho
  cases ho with
  | @moved c' move => exact ⟨c', rfl, move⟩

end Parsing.Expression

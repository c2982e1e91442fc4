import Mathlib.Logic.Relation
import Parsing.Proofs.Expression.Outcomes

/-!
With an operand parser that never goes back, what is left to read bounds the number of steps, so that a
run answers as the state it has reached does.
-/

namespace Parsing.Expression

open Frames Expression.Configuration

variable {K α : Type} {g : Grammar K α} [DecidableEq K]
  {operand : Reader (Except Fault) (TokenList K) α}

section Progress

theorem Transition.reads (forward : ForwardOnly operand)
    {c c' : Configuration g} (move : Transition operand c c') :
    ∃ l k tokens, c.remainder = some l ∧ c'.remainder = some k ∧ l.Reads tokens k := by
  cases move with
  | operand plain read =>
    obtain ⟨tokens, k, rfl, hr⟩ := forward _ _ _ _ read
    exact ⟨_, k, tokens, rfl, rfl, hr⟩
  | empty next other found allowed after stop =>
    exact ⟨_, _, _, rfl, rfl, (TokenView.reads_next next).trans (TokenView.reads_next after)⟩
  | prefixed next | opened next | condition next | infixed next | separated next | closed next
  | consequent next | alternative next => exact ⟨_, _, _, rfl, rfl, TokenView.reads_next next⟩

theorem index_le_of_moves (forward : ForwardOnly operand) {c c' : Configuration g}
    (moves : Relation.ReflTransGen (Transition operand) c c') :
    c.remainder.index ≤ c'.remainder.index := by
  induction moves with
  | refl => exact Nat.le_refl _
  | tail _ move ih =>
    obtain ⟨l, k, tokens, hl, hk, hr⟩ := move.reads forward
    rw [hl] at ih
    rw [hk]
    exact Nat.le_trans ih hr.index_le

theorem reads_of_moves (forward : ForwardOnly operand) {c d : Configuration g} {l : TokenView K}
    (hc : c.remainder = some l) (moves : Relation.ReflTransGen (Transition operand) c d) :
    ∃ tokens k, d.remainder = some k ∧ l.Reads tokens k := by
  induction moves with
  | refl => exact ⟨[], l, hc, .refl l⟩
  | tail _ move ih =>
    obtain ⟨tokens, k, hk, reads⟩ := ih
    obtain ⟨k', m, more, hk', hm, reads'⟩ := move.reads forward
    obtain rfl : k = k' := Option.some.inj (hk.symm.trans hk')
    exact ⟨tokens ++ more, m, hm, reads.trans reads'⟩

end Progress

variable [TokenKind K]

def Machine.Reaches (operand : Reader (Except Fault) (TokenList K) α) : Machine g → Machine g → Prop :=
  Relation.ReflTransGen fun s s' => s.step operand = .ok (.going s')

theorem exists_configuration {input : TokenList K} {c : Configuration g} {s : Machine g}
    (h : Machine.Reaches operand (c.machine input) s) :
    ∃ c' : Configuration g, s = c'.machine input ∧
      Relation.ReflTransGen (Transition operand) c c' := by
  induction h with
  | refl => exact ⟨c, rfl, .refl⟩
  | tail _ hs ih =>
    obtain ⟨c', rfl, hc⟩ := ih
    obtain ⟨c'', rfl, move⟩ := exists_transition input hs
    exact ⟨c'', rfl, hc.tail move⟩

theorem exists_start {input : TokenList K} {s : Machine g}
    (h : Machine.Reaches operand (.start input) s) : ∃ c : Configuration g, s = c.machine input ∧
      Relation.ReflTransGen (Transition operand) (.awaiting input []) c :=
  exists_configuration (show Machine.Reaches operand ((awaiting input []).machine input) s from h)

theorem exists_done {s : Machine g} {steps : Nat} {reply : Reply (TokenList K) α}
    (h : s.runSteps operand steps = .ok reply) :
    ∃ s', Machine.Reaches operand s s' ∧ s'.step operand = .ok (.done reply) := by
  induction steps generalizing s with
  | zero => cases h
  | succ steps ih =>
    obtain ⟨out, hs, hr⟩ := bind_eq_ok h
    cases out with
    | done r =>
      cases hr
      exact ⟨s, .refl, hs⟩
    | going next =>
      obtain ⟨s', hreach, hd⟩ := ih hr
      exact ⟨s', .head hs hreach, hd⟩

section Budget

def Configuration.budget : Configuration g → Nat
  | .awaiting remainder _ => 2 * Cursor.left remainder + 2
  | .holding remainder _ _ => 2 * Cursor.left remainder + 1

theorem Transition.budget_lt (forward : ForwardOnly operand) {c c' : Configuration g}
    (h : Transition operand c c') : c'.budget < c.budget := by
  cases h with
  | operand plain read =>
    obtain ⟨tokens, k, rfl, hr⟩ := forward _ _ _ _ read
    have := left_of_reads hr
    simp only [budget]
    omega
  | empty next other found allowed after stop =>
    have h₁ := left_of_next next
    have h₂ := left_of_next after
    simp only [budget]
    omega
  | prefixed next | opened next | condition next | infixed next | separated next | closed next
  | consequent next | alternative next =>
    have := left_of_next next
    simp only [budget]
    omega

def Answers (operand : Reader (Except Fault) (TokenList K) α) (input : TokenList K)
    (c : Configuration g) (result : Except Fault (Reply (TokenList K) α)) : Prop :=
  ∀ steps, c.budget ≤ steps → (c.machine input).runSteps operand steps = result

variable {input : TokenList K} {result : Except Fault (Reply (TokenList K) α)}

omit [DecidableEq K] in
theorem exists_step {c : Configuration g} {steps : Nat} (h : c.budget ≤ steps) :
    ∃ n, steps = n + 1 := by
  apply Nat.exists_eq_succ_of_ne_zero
  rintro rfl
  cases c <;> simp [budget] at h

theorem Answers.of_done {c : Configuration g} {reply : Reply (TokenList K) α}
    (h : (c.machine input).step operand = .ok (.done reply)) :
    Answers operand input c (.ok reply) := by
  intro steps hs
  obtain ⟨n, rfl⟩ := exists_step hs
  simp [Machine.runSteps, h]

theorem Answers.of_error {c : Configuration g} {fault : Fault}
    (h : (c.machine input).step operand = .error fault) :
    Answers operand input c (.error fault) := by
  intro steps hs
  obtain ⟨n, rfl⟩ := exists_step hs
  simp [Machine.runSteps, h]

theorem Answers.of_halted (input : TokenList K) {k : TokenView K} {arms : List (Arm g)} (t : Tree g)
    (halted : HaltedAt (onto arms []) k) : Answers operand input (.holding (some k) (onto arms []) t)
      (.ok (.success (Arm.plugAll arms t).value input (some k))) := by
  apply Answers.of_done
  rw [step_holding, readOperator_halted input t halted, finish_onto]

theorem run_of_moves (forward : ForwardOnly operand) {c c' : Configuration g}
    (moves : Relation.ReflTransGen (Transition operand) c c') {steps : Nat} (hs : c.budget ≤ steps) :
    ∃ steps', c'.budget ≤ steps' ∧ (c.machine input).runSteps operand steps =
      (c'.machine input).runSteps operand steps' := by
  induction moves with
  | refl => exact ⟨steps, hs, rfl⟩
  | tail _ move ih =>
    obtain ⟨n, hn, he⟩ := ih
    have hlt := move.budget_lt forward
    obtain ⟨n, rfl⟩ := exists_step hn
    refine ⟨n, by omega, ?_⟩
    simp [he, Machine.runSteps, move.step input]

theorem Answers.of_moves (forward : ForwardOnly operand) {c c' : Configuration g}
    (moves : Relation.ReflTransGen (Transition operand) c c') (h : Answers operand input c' result) :
    Answers operand input c result := by
  intro steps hs
  obtain ⟨n, hn, he⟩ := run_of_moves forward moves hs
  rw [he, h n hn]

theorem expression_eq (input : TokenList K) : expression operand g input =
    ((awaiting input [] : Configuration g).machine input).runSteps operand
      (awaiting input [] : Configuration g).budget := rfl

theorem Answers.expression_eq
    (h : Answers operand input (.awaiting input [] : Configuration g) result) :
    expression operand g input = result :=
  h _ (Nat.le_refl _)

theorem exists_answer (forward : ForwardOnly operand) (input : TokenList K) (c : Configuration g) :
    ∃ result, Answers operand input c result := by
  induction hb : c.budget using Nat.strongRecOn generalizing c with
  | ind n ih =>
    cases hs : (c.machine input).step operand with
    | error fault => exact ⟨_, .of_error hs⟩
    | ok out =>
      cases out with
      | done reply => exact ⟨_, .of_done hs⟩
      | going s =>
        obtain ⟨c', rfl, move⟩ := exists_transition input hs
        have hlt := move.budget_lt forward
        obtain ⟨result, hr⟩ := ih c'.budget (hb ▸ hlt) c' rfl
        exact ⟨result, hr.of_moves forward (.single move)⟩

theorem runSteps_start (forward : ForwardOnly operand) (input : TokenList K) {steps : Nat}
    (h : 2 * Cursor.left input + 2 ≤ steps) :
    (Machine.start input : Machine g).runSteps operand steps = expression operand g input := by
  obtain ⟨result, hr⟩ := exists_answer forward input (.awaiting input [] : Configuration g)
  rw [hr.expression_eq]
  exact hr steps h

end Budget

end Parsing.Expression

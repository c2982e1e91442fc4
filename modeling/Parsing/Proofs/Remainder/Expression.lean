import Parsing.Proofs.Remainder.Primitive

namespace Parsing.Expression

open Ensuring

universe v

variable {K α : Type} [TokenKind K] {g : Grammar K α}

def Machine.Tracks (input : TokenList K) (s : Machine g) : Prop :=
  s.input = input ∧ Suffix input s.remainder

def Step.Tracks (input : TokenList K) : Step g → Prop
  | .going s => s.Tracks input
  | .done reply => reply.Tracks input

namespace Machine

variable {input : TokenList K} {s : Machine g}

theorem Tracks.shift (hs : s.Tracks input) {rest : TokenList K} (h : Suffix s.remainder rest)
    (stack : Stacks g) (entry : Entry g) : (s.shift stack entry rest).Tracks input :=
  ⟨hs.1, hs.2.trans h⟩

theorem Tracks.push (hs : s.Tracks input) {rest : TokenList K} (h : Suffix s.remainder rest)
    (stack : Stacks g) (value : α) : (s.push stack value rest).Tracks input :=
  ⟨hs.1, hs.2.trans h⟩

section Operand

variable [DecidableEq K]

theorem suffix_afterEmpty {set : Grouping K α} {rest after : TokenList K}
    (h : afterEmpty set rest = .ok (some after)) : Suffix rest after := by
  unfold afterEmpty at h
  split at h
  · obtain ⟨item, hn, hr⟩ := bind_eq_ok h
    rcases item with _ | ⟨token, next⟩
    · cases hr
    · simp only [pure_eq_ok, Except.ok.injEq, Option.ite_none_right_eq_some,
        Option.some.injEq] at hr
      obtain ⟨-, rfl⟩ := hr
      exact suffix_of_next_token hn
  · cases h

theorem Tracks.opening? (hs : s.Tracks input) {step : Step g} (h : s.opening? = .ok (some step)) :
    step.Tracks input := by
  obtain ⟨item, hn, hr⟩ := bind_eq_ok h
  rcases item with _ | ⟨token, rest⟩
  · cases hr
  · have hrest := suffix_of_next_token hn
    dsimp only at hr
    split at hr
    · cases hr
      exact hs.shift hrest _ _
    · split at hr
      · obtain ⟨empty, he, hr⟩ := bind_eq_ok hr
        rcases empty with _ | after
        · cases hr
          exact hs.shift hrest _ _
        · cases hr
          exact hs.push (hrest.trans (suffix_afterEmpty he)) _ _
      · split at hr
        · cases hr
          exact hs.shift hrest _ _
        · cases hr

end Operand

section Operator

theorem Tracks.requireBranches (hs : s.Tracks input) {ops : List (Entry g)}
    {next : Except Fault (Step g)} {step : Step g} (hn : ∀ step, next = .ok step → step.Tracks input)
    (h : s.requireBranches ops next = .ok step) : step.Tracks input := by
  unfold Machine.requireBranches at h
  split at h
  · cases h
    exact hs.2
  · exact hn step h

theorem Tracks.close (hs : s.Tracks input) {set : Grouping K α} {rest : TokenList K}
    (hr : Suffix s.remainder rest) {step : Step g} (h : s.close set rest = .ok step) :
    step.Tracks input := by
  refine hs.requireBranches ?_ h
  intro step h
  obtain ⟨reduced, -, h⟩ := bind_eq_ok h
  obtain ⟨⟨separators, depth, ops⟩, -, h⟩ := bind_eq_ok h
  dsimp only at h
  split at h
  · cases h
  · split at h
    · cases h
      exact hs.2
    · cases h
      exact hs.push hr _ _

theorem Tracks.separate (hs : s.Tracks input) {token : Token K} {rest : TokenList K}
    (hr : Suffix s.remainder rest) {step : Step g} (h : s.separate token rest = .ok step) :
    step.Tracks input := by
  refine hs.requireBranches ?_ h
  intro step h
  obtain ⟨reduced, -, h⟩ := bind_eq_ok h
  cases h
  exact hs.shift hr _ _

theorem Tracks.finish (hs : s.Tracks input) {step : Step g} (h : s.finish = .ok step) :
    step.Tracks input := by
  unfold Machine.finish at h
  split at h
  · cases h
    exact hs.2
  · refine hs.requireBranches ?_ h
    intro step h
    obtain ⟨reduced, -, h⟩ := bind_eq_ok h
    split at h
    · cases h
      exact hs
    · cases h

variable [DecidableEq K]

theorem Tracks.branch (hs : s.Tracks input) {token : Token K} {rest : TokenList K}
    (hr : Suffix s.remainder rest) {step : Step g} (h : s.branch token rest = .ok step) :
    step.Tracks input := by
  unfold Machine.branch at h
  split at h
  · obtain ⟨reduced, -, h⟩ := bind_eq_ok h
    cases h
    exact hs.shift hr _ _
  · split at h
    · obtain ⟨reduced, -, h⟩ := bind_eq_ok h
      cases h
      exact hs.shift hr _ _
    · exact hs.finish h

theorem Tracks.readOperator (hs : s.Tracks input) {step : Step g} (h : s.readOperator = .ok step) :
    step.Tracks input := by
  obtain ⟨item, hn, h⟩ := bind_eq_ok h
  rcases item with _ | ⟨token, rest⟩
  · exact hs.finish h
  · have hrest := suffix_of_next_token hn
    dsimp only at h
    split at h
    · obtain ⟨reduced, -, h⟩ := bind_eq_ok h
      cases h
      exact hs.shift hrest _ _
    · split at h
      · exact hs.branch hrest h
      · split at h
        · exact hs.close hrest h
        · split at h
          · exact hs.separate hrest h
          · exact hs.branch hrest h

end Operator

section Runs

variable [DecidableEq K] {m : Type → Type v} [Monad m] [MonadExcept Fault m] [Ensuring m]
  {operand : Reader m (TokenList K) α}

theorem Tracks.step (ho : Tracking operand) (hs : s.Tracks input) :
    Ensures (s.step operand) (Step.Tracks input) := by
  unfold Machine.step
  split
  · apply ensures_bind (ensures_ofExcept fun _ h => h)
    rintro (_ | step) h
    · apply ensures_bind (ho s.remainder)
      rintro (⟨value, location, rest⟩ | e) hr
      · exact ensures_pure (hs.push hr.2 _ _)
      · exact ensures_pure (hs.2.trans hr)
    · exact ensures_pure (hs.opening? h)
  · exact ensures_ofExcept fun _ h => hs.readOperator h

theorem Tracks.runSteps (ho : Tracking operand) (hs : s.Tracks input) (steps : Nat) :
    Ensures (s.runSteps operand steps) (Reply.Tracks input) := by
  induction steps generalizing s with
  | zero => exact ensures_throw
  | succ steps ih =>
    apply ensures_bind (hs.step ho)
    rintro (next | reply) h
    · exact ih h
    · exact ensures_pure h

end Runs

end Machine

theorem tracking_expression [DecidableEq K] {m : Type → Type v} [Monad m] [MonadExcept Fault m]
    [Ensuring m] {operand : Reader m (TokenList K) α} (ho : Tracking operand) (g : Grammar K α) :
    Tracking (expression operand g) := by
  intro input
  have hs : (Machine.start input : Machine g).Tracks input := ⟨rfl, .refl input⟩
  exact hs.runSteps ho _

end Parsing.Expression

import Parsing.Proofs.Expression.Acceptance
import Parsing.Proofs.Expression.Replay
import Parsing.Proofs.Expression.Walks
import Parsing.Proofs.Remainder.Progress

namespace Parsing

def Token.ofKind {K : Type} (kind : K) : Token K :=
  ⟨kind, .ofSource ⟨0, []⟩⟩

namespace Expression

open Frames Expression.Configuration

variable {K α : Type} {g : Grammar K α}

section Completion

def closing (o : K) : List (Frame g) → List (Token K)
  | [] => []
  | .arm _ :: F => closing o F
  | .group set _ _ :: F => .ofKind set.stop :: closing o F
  | .condition choice _ :: F => .ofKind (g.conditionals.get choice).thenKind :: .ofKind o :: closing o F

def Configuration.completion (o : K) : Configuration g → List (Token K)
  | .awaiting _ F => .ofKind o :: closing o F
  | .holding _ F _ => closing o F

theorem SameShapes.known {F G : List (Frame g)} (shapes : SameShapes F G) : Known G := by
  induction shapes with
  | nil => exact fun set inside => nomatch inside
  | cons shape _ ih =>
    cases shape with
    | arm node => exact known_arm ih
    | group known separators => exact known_group known _ _ _
    | condition choice => exact known_condition ih

variable {o : K} (unused : ∀ role, o ∉ g.kindsOf role)
include unused

theorem not_stop_of_unused {set : Grouping K α} (known : set ∈ g.groupings) : o ≠ set.stop := by
  rintro rfl
  exact unused .grouping (Grammar.grouping_kinds_mem known (by simp))

variable [DecidableEq K]

theorem plain_of_unused : g.prefixOf o = none ∧ g.groupingOf o = none ∧ g.ifOf o = none := by
  refine ⟨?_, ?_, ?_⟩
  · exact Grammar.prefixOf_eq_none.mpr fun h => unused .operator (List.mem_append_right _ h)
  · apply Grammar.groupingOf_eq_none.mpr
    rintro set known rfl
    exact unused .grouping (Grammar.grouping_kinds_mem known (by simp))
  · apply Grammar.ifOf_eq_none.mpr
    rintro choice known rfl
    exact unused .conditional (List.mem_flatMap.mpr ⟨choice, known, Conditional.ifKind_mem choice⟩)

variable {operand : Reader (Except Fault) (TokenList K) α} {accepts : K → Prop}
  (one : TakesOne operand accepts) (accepted : accepts o)
include one accepted

theorem exists_operand {k : TokenView K} {rest : List (Token K)} (hk : k.rest = .ofKind o :: rest)
    (F : List (Frame g)) : ∃ m t, m.rest = rest ∧
      Transition operand (.awaiting (some k) F) (.holding (some m) F t) := by
  obtain ⟨m, next, hm⟩ := exists_next_cons hk
  obtain ⟨value, location, read⟩ := one.takes next accepted
  exact ⟨m, _, hm, .operand ((plainAt_iff next).mpr (plain_of_unused unused)) read⟩

variable (unambiguous : g.Unambiguous)
  (unchecked : ∀ set ∈ g.groupings, ∀ items separators, set.check items separators = none)
include unambiguous unchecked

theorem exists_closed {F G : List (Frame g)} (shapes : SameShapes F G) (arms : List (Arm g))
    {k : TokenView K} (t : Tree g) (hk : k.rest = closing o F) :
    ∃ arms' t' last, last.rest = [] ∧ Relation.ReflTransGen (Transition operand)
      (.holding (some k) (onto arms G) t) (.holding (some last) (onto arms' []) t') := by
  -- The arms above the frames that are left go along until a grouping or a condition takes them.
  induction shapes generalizing arms k t with
  | nil => exact ⟨arms, t, k, hk, .refl⟩
  | @cons f f' F G shape shapes ih =>
    cases shape with
    | @arm a b node =>
      have moved : onto arms (.arm b :: G) = onto (arms ++ [b]) G := (onto_append arms [b] G).symm
      rw [moved]
      exact ih (arms ++ [b]) t hk
    | @group set known opening opening' before before' separators =>
      obtain ⟨m, next, hm⟩ := exists_next_cons hk
      have role : set.stop ∈ g.kindsOf .grouping := Grammar.grouping_kinds_mem known (by simp)
      have close : Transition operand (.holding (some k) (onto arms (.group set opening' before' :: G)) t) _ :=
        .closed next (unambiguous.infixOf_eq_none role (by decide)) rfl (unchecked set known _ _)
      obtain ⟨arms', t', last, ends, moves⟩ := ih [] _ hm
      exact ⟨arms', t', last, ends, .head close moves⟩
    | @condition choice token token' =>
      obtain ⟨m, next, hm⟩ := exists_next_cons hk
      have role : (g.conditionals.get choice).thenKind ∈ g.kindsOf .conditional :=
        Grammar.conditional_kinds_mem (Conditional.thenKind_mem _)
      have known : Known (.condition choice token' :: G) := known_condition (SameShapes.known shapes)
      have free := unclaimed_of_known unambiguous known role arms
      have branch : Transition operand (.holding (some k) (onto arms (.condition choice token' :: G)) t) _ :=
        .consequent next (unambiguous.infixOf_eq_none role (by decide)) free (unambiguous.thenOf_kind choice)
      obtain ⟨n, yes, hn, read⟩ := exists_operand unused one accepted hm _
      obtain ⟨arms', t', last, ends, moves⟩ := ih [_] yes hn
      exact ⟨arms', t', last, ends, .head branch (.head read moves)⟩

theorem exists_completed {k k' : TokenView K} {c d : Configuration g} (beside : c.Beside k k' d)
    (hc : c.remainder = some k) (hk : k'.rest = c.completion o) :
    ∃ arms t last, last.rest = [] ∧
      Relation.ReflTransGen (Transition operand) d (.holding (some last) (onto arms []) t) := by
  have same : ∀ {l' : TokenView K}, Beside k k' k l' → k' = l' := by
    rintro l' ⟨tokens, here, there⟩
    obtain rfl : tokens = [] := by
      have := here.index
      exact List.eq_nil_of_length_eq_zero (by omega)
    exact there.eq (.refl l')
  cases beside with
  | awaiting views shapes =>
    cases hc
    obtain rfl := same views
    obtain ⟨m, t, hm, read⟩ := exists_operand unused one accepted hk _
    obtain ⟨arms, t', last, ends, moves⟩ :=
      exists_closed unused one accepted unambiguous unchecked shapes [] t hm
    exact ⟨arms, t', last, ends, .head read moves⟩
  | holding views shapes =>
    cases hc
    obtain rfl := same views
    exact exists_closed unused one accepted unambiguous unchecked shapes [] _ hk

end Completion

section Runs

variable [DecidableEq K] [TokenKind K] {operand : Reader (Except Fault) (TokenList K) α}
  {accepts : K → Prop}

theorem remainder_of_failure (one : TakesOne operand accepts) (input : TokenList K) {c : Configuration g}
    {k : TokenView K} (hc : c.remainder = some k) {e : Failure (TokenList K)}
    (failed : (c.machine input).step operand = .ok (.done (.failure e))) : e.remainder = some k := by
  have outcome : Outcome operand input c ((c.machine input).step operand) := step_outcome input c
  rw [failed] at outcome
  cases outcome with
  | refused kind => exact hc
  | unchecked message => exact hc
  | failed config read =>
    subst config
    cases hc
    exact one.stays read

/-- Where the machine fails, the tokens before the failure can be extended so that it succeeds and leaves
nothing. -/
theorem expression_viable (definitions : List (Definition K α)) (g : Grammar K α)
    (defined : Grammar.ofDefinitions definitions = .ok g)
    (unchecked : ∀ set ∈ g.groupings, ∀ items separators, set.check items separators = none)
    (operand : Reader (Except Fault) (TokenList K) α) (accepts : K → Prop)
    (one : TakesOne operand accepts) (o : K) (accepted : accepts o) (unused : ∀ role, o ∉ g.kindsOf role)
    (l : TokenView K) (e : Failure (TokenList K))
    (failed : expression operand g (some l) = .ok (.failure e)) :
    ∃ tokens k, e.remainder = some k ∧ l.Reads tokens k ∧ ∃ extension value,
      expression operand g (some { l with rest := tokens ++ extension }) =
        .ok (.success value (some { l with rest := tokens ++ extension })
          (some { l with index := l.index + (tokens ++ extension).length, rest := [] })) := by
  have unambiguous := Grammar.unambiguous_of_definitions defined
  have forward := one.forwardOnly
  obtain ⟨s, reached, done⟩ := exists_done failed
  obtain ⟨c, rfl, moves⟩ := exists_start reached
  obtain ⟨-, k, hc, -⟩ := reads_of_moves forward rfl moves
  -- The list goes on behind `k` with what completes the configuration.
  let k' : TokenView K := { k with rest := c.completion o }
  have ahead : (∃ F, c = .awaiting (some k) F) → Unstopped g k' := by
    rintro ⟨F, rfl⟩ token ⟨⟩ set known
    exact not_stop_of_unused unused known
  obtain ⟨l, tokens, ⟨⟩, reads, -, replays⟩ := replay_moves one unchecked moves hc ahead
  let start : TokenView K := { l with rest := tokens ++ c.completion o }
  have views : Beside k k' l start := ⟨tokens, reads, reads.id, reads.stop, reads.index, rfl⟩
  obtain ⟨d, before, beside⟩ := replays (.awaiting (some start) []) (.awaiting views .nil)
  obtain ⟨arms, t, last, ends, after⟩ :=
    exists_completed unused one accepted unambiguous unchecked beside hc rfl
  have halted : HaltedAt (onto arms ([] : List (Frame g))) last := by simp [HaltedAt, ends]
  have walk := before.trans after
  have answer := ((Answers.of_halted (some start) t halted).of_moves forward walk).expression_eq
  obtain ⟨all, _, ⟨⟩, whole⟩ := reads_of_moves forward (l := start) rfl walk
  obtain rfl : tokens ++ c.completion o = all := by simpa [ends] using whole.rest
  have stops : last = { l with index := l.index + (tokens ++ c.completion o).length, rest := [] } := by
    obtain ⟨id, index, rest, stop⟩ := last
    obtain ⟨rfl, rfl, rfl, -⟩ := whole
    cases ends
    rfl
  rw [stops] at answer
  exact ⟨tokens, k, remainder_of_failure one _ hc done, reads, c.completion o, _, answer⟩

-- The calculator without the check of its grouping.
def uncheckedCalculator : Grammar Kind Int :=
  { calculator with groupings := calculator.groupings.map fun set => { set with check := fun _ _ => none } }

def uncheckedDefinitions : List (Definition Kind Int) :=
  uncheckedCalculator.infixes.map .infixes ++ uncheckedCalculator.prefixes.map .prefixes ++
    uncheckedCalculator.groupings.map .grouping ++ uncheckedCalculator.conditionals.map .conditional

def isDigit (kind : Kind) : Prop :=
  kind = sign "1" ∨ kind = sign "2"

instance : DecidablePred isDigit :=
  fun _ => inferInstanceAs (Decidable (_ ∨ _))

theorem takesOne_digit : TakesOne digit isDigit :=
  (takesOne_token isDigit "digit").map _

-- The list breaks off after `if [ 1 ,`, where a digit and `] then 1` could follow.
theorem expression_viable_item :
    ∃ e, expression digit uncheckedCalculator (some (marks ["if", "[", "1", ",", "]"] 0)) = .ok (.failure e) ∧
      ∃ tokens k, e.remainder = some k ∧ (marks ["if", "[", "1", ",", "]"] 0).Reads tokens k ∧
        ∃ extension value, expression digit uncheckedCalculator
            (some { marks ["if", "[", "1", ",", "]"] 0 with rest := tokens ++ extension }) =
          .ok (.success value (some { marks ["if", "[", "1", ",", "]"] 0 with rest := tokens ++ extension })
            (some { marks ["if", "[", "1", ",", "]"] 0 with
              index := 0 + (tokens ++ extension).length, rest := [] })) := by
  refine ⟨_, rfl, ?_⟩
  refine expression_viable uncheckedDefinitions uncheckedCalculator rfl ?_ digit isDigit takesOne_digit
    (sign "1") (.inl rfl) ?_ _ _ rfl
  · simp [uncheckedCalculator, calculator]
  · rintro (_ | _ | _) <;> decide

end Runs

end Expression

end Parsing

import Parsing.Proofs.Expression.Acceptance
import Parsing.Proofs.Expression.Runs
import Parsing.Proofs.Expression.Walks

namespace Parsing.Expression

open Frames Expression.Configuration

variable {K α : Type} {g : Grammar K α}

/-- The kind that a state asks for at the token `next`. An open grouping asks for its stop token, but at a token
of its own it asks for the branch that is missing inside of it. -/
inductive Machine.Asks [DecidableEq K] (s : Machine g) (next : Option (Token K)) : K → Prop
  | stop {set : Grouping K α} (inside : innermost s.stack.operators = some set)
      (other : ∀ token ∈ next, token.kind ∉ set.stop :: set.separators) : s.Asks next set.stop
  | inner {set : Grouping K α} {token : Token K} {choice : Fin g.conditionals.length}
      (inside : innermost s.stack.operators = some set) (here : next = some token)
      (own : token.kind ∈ set.stop :: set.separators)
      (waits : dangling (aboveInnermost s.stack.operators) = some choice) :
      s.Asks next (g.conditionals.get choice).thenKind
  | outer {choice : Fin g.conditionals.length} (outside : innermost s.stack.operators = none)
      (unplaced : ∀ token ∈ next, ∀ i, g.thenOf token.kind = some i →
        belongs .consequent i s.stack.operators = false)
      (waits : dangling s.stack.operators = some choice) : s.Asks next (g.conditionals.get choice).thenKind

/-- Outside of all groupings conditions of two definitions wait for a branch, and `kind` is the branch of the
outermost one. -/
def Machine.Crossed (s : Machine g) (kind : K) : Prop :=
  innermost s.stack.operators = none ∧ ∃ outer inner, dangling s.stack.operators = some outer ∧
    belongs .consequent inner s.stack.operators = true ∧ inner ≠ outer ∧
    kind = (g.conditionals.get outer).thenKind

section Groupings

def Frame.Defined : Frame g → Prop
  | .group set _ _ => set ∈ g.groupings
  | .arm _ | .condition _ _ => True

def Configuration.frames : Configuration g → List (Frame g)
  | .awaiting _ F => F
  | .holding _ F _ => F

theorem known_of_defined {F : List (Frame g)} (h : ∀ f ∈ F, f.Defined) : Known F := by
  induction F with
  | nil => exact fun set inside => nomatch inside
  | cons f F ih =>
    obtain ⟨first, rest⟩ := List.forall_mem_cons.mp h
    cases f with
    | arm a => exact known_arm (ih rest)
    | group set opening before => exact known_group first opening before F
    | condition choice token => exact known_condition (ih rest)

theorem defined_of_onto {arms : List (Arm g)} {F : List (Frame g)} (h : ∀ f ∈ onto arms F, f.Defined) :
    ∀ f ∈ F, f.Defined :=
  fun f hf => h f (List.mem_append_right _ hf)

variable [DecidableEq K] {operand : Reader (Except Fault) (TokenList K) α} {c d : Configuration g}

theorem Transition.defined (move : Transition operand c d) (h : ∀ f ∈ c.frames, f.Defined) :
    ∀ f ∈ d.frames, f.Defined := by
  cases move with
  | prefixed next found => exact List.forall_mem_cons.mpr ⟨trivial, h⟩
  | empty next other found allowed after stop => exact h
  | opened next other found filled =>
    exact List.forall_mem_cons.mpr ⟨(Grammar.groupingOf_eq_some found).1, h⟩
  | condition next other another found => exact List.forall_mem_cons.mpr ⟨trivial, h⟩
  | operand plain read => exact h
  | infixed next found tight loose => exact List.forall_mem_cons.mpr ⟨trivial, defined_of_onto h⟩
  | separated next other going found =>
    obtain ⟨known, rest⟩ := List.forall_mem_cons.mp (defined_of_onto h)
    exact List.forall_mem_cons.mpr ⟨known, rest⟩
  | closed next other stop checked => exact (List.forall_mem_cons.mp (defined_of_onto h)).2
  | consequent next other free found =>
    exact List.forall_mem_cons.mpr ⟨trivial, (List.forall_mem_cons.mp (defined_of_onto h)).2⟩
  | alternative next other free another found nearest =>
    exact List.forall_mem_cons.mpr ⟨trivial, (List.forall_mem_cons.mp (defined_of_onto h)).2⟩

theorem defined_of_moves (moves : Relation.ReflTransGen (Transition operand) c d)
    (h : ∀ f ∈ c.frames, f.Defined) : ∀ f ∈ d.frames, f.Defined := by
  induction moves with
  | refl => exact h
  | tail _ move ih => exact move.defined ih

end Groupings

section Conditions

-- Where no grouping is open, the innermost condition that waits is the one that a branch belongs to.
theorem exists_belongs {F : List (Frame g)} {outer : Fin g.conditionals.length}
    (outside : innermost (operators F) = none) (waits : dangling (operators F) = some outer) :
    ∃ inner, belongs .consequent inner (operators F) = true := by
  obtain ⟨arms, rfl | ⟨set, opening, before, F', rfl⟩ | ⟨inner, token, F', rfl⟩⟩ := exists_onto F
  · rw [operators_onto, dangling_entries] at waits
    cases waits
  · simp at outside
  · exact ⟨inner, (belongs_consequent_iff inner _).mpr ⟨arms, token, F', rfl⟩⟩

end Conditions

variable [TokenKind K] {s : Machine g} {e : Failure (TokenList K)}

section Steps

theorem requireBranches_failure {ops : List (Entry g)} {next : Except Fault (Step g)}
    (h : s.requireBranches ops next = .ok (.done (.failure e))) :
    (∃ choice, dangling ops = some choice ∧
        e = .expected s.remainder [TokenKind.whenExpected (g.conditionals.get choice).thenKind]) ∨
      next = .ok (.done (.failure e)) := by
  unfold Machine.requireBranches at h
  split at h
  · next choice waits =>
    cases h
    exact .inl ⟨choice, waits, rfl⟩
  · exact .inr h

theorem finish_failure (h : s.finish = .ok (.done (.failure e))) :
    (∃ set, innermost s.stack.operators = some set ∧
        e = .expected s.remainder [TokenKind.whenExpected set.stop]) ∨
      innermost s.stack.operators = none ∧ ∃ choice, dangling s.stack.operators = some choice ∧
        e = .expected s.remainder [TokenKind.whenExpected (g.conditionals.get choice).thenKind] := by
  unfold Machine.finish at h
  split at h
  · next set inside =>
    cases h
    exact .inl ⟨set, inside, rfl⟩
  · next outside =>
    rcases requireBranches_failure h with waits | h
    · exact .inr ⟨outside, waits⟩
    · obtain ⟨reduced, -, h⟩ := bind_eq_ok h
      split at h <;> cases h

theorem close_failure {set : Grouping K α} {rest : TokenList K}
    (h : s.close set rest = .ok (.done (.failure e))) :
    (∃ choice, dangling (aboveInnermost s.stack.operators) = some choice ∧
        e = .expected s.remainder [TokenKind.whenExpected (g.conditionals.get choice).thenKind]) ∨
      ∃ items separators message, set.check items separators = some message ∧
        e = .withMessage s.remainder message := by
  refine (requireBranches_failure h).imp id fun h => ?_
  obtain ⟨reduced, -, h⟩ := bind_eq_ok h
  obtain ⟨⟨separators, depth, ops⟩, -, h⟩ := bind_eq_ok h
  dsimp only at h
  split at h
  · cases h
  · split at h
    · next message refused =>
      cases h
      exact ⟨_, _, message, refused, rfl⟩
    · cases h

theorem separate_failure {token : Token K} {rest : TokenList K}
    (h : s.separate token rest = .ok (.done (.failure e))) :
    ∃ choice, dangling (aboveInnermost s.stack.operators) = some choice ∧
      e = .expected s.remainder [TokenKind.whenExpected (g.conditionals.get choice).thenKind] := by
  rcases requireBranches_failure h with waits | h
  · exact waits
  · obtain ⟨reduced, -, h⟩ := bind_eq_ok h
    cases h

variable [DecidableEq K]

theorem branch_failure {token : Token K} {rest : TokenList K}
    (h : s.branch token rest = .ok (.done (.failure e))) :
    s.finish = .ok (.done (.failure e)) ∧ ∀ choice, g.thenOf token.kind = some choice →
      belongs .consequent choice s.stack.operators = false := by
  unfold Machine.branch at h
  split at h
  · obtain ⟨reduced, -, h⟩ := bind_eq_ok h
    cases h
  · next missed =>
    split at h
    · obtain ⟨reduced, -, h⟩ := bind_eq_ok h
      cases h
    · refine ⟨h, ?_⟩
      intro choice found
      simpa [found] using missed

omit [TokenKind K] in
theorem opening_going {step : Step g} (h : s.opening? = .ok (some step)) : ∃ t, step = .going t := by
  obtain ⟨item, -, h⟩ := bind_eq_ok h
  split at h
  · cases h
  · split at h
    · cases h
      exact ⟨_, rfl⟩
    · split at h
      · obtain ⟨after, -, h⟩ := bind_eq_ok h
        split at h <;> cases h <;> exact ⟨_, rfl⟩
      · split at h
        · cases h
          exact ⟨_, rfl⟩
        · cases h

omit [TokenKind K] in
theorem readOperand_failure {operand : Reader (Except Fault) (TokenList K) α}
    (h : s.readOperand operand = .ok (.done (.failure e))) : operand s.remainder = .ok (.failure e) := by
  obtain ⟨opening, read, h⟩ := bind_eq_ok h
  rw [ofExcept_eq] at read
  split at h
  · next step =>
    obtain ⟨t, rfl⟩ := opening_going read
    cases h
  · obtain ⟨reply, read, h⟩ := bind_eq_ok h
    split at h
    · cases h
    · cases h
      exact read

inductive Machine.GivesUp (s : Machine g) (l : TokenView K) : Failure (TokenList K) → Prop
  | refused {set : Grouping K α} {items : List α} {separators : List (Token K)} {message : String}
      (inside : innermost s.stack.operators = some set)
      (refuses : set.check items separators = some message) : s.GivesUp l (.withMessage (some l) message)
  | asks {kind : K} (asks : s.Asks l.rest.head? kind) :
      s.GivesUp l (.expected (some l) [TokenKind.whenExpected kind])

theorem finish_givesUp {l : TokenView K} (here : s.remainder = some l)
    (h : s.finish = .ok (.done (.failure e)))
    (unclaimed : ∀ token ∈ l.rest.head?, ∀ set, innermost s.stack.operators = some set →
      token.kind ∉ set.stop :: set.separators)
    (unplaced : ∀ token ∈ l.rest.head?, ∀ i, g.thenOf token.kind = some i →
      belongs .consequent i s.stack.operators = false) : s.GivesUp l e := by
  rcases finish_failure h with ⟨set, inside, rfl⟩ | ⟨outside, choice, waits, rfl⟩
  · rw [here]
    exact .asks (.stop inside fun token ht => unclaimed token ht set inside)
  · rw [here]
    exact .asks (.outer outside unplaced waits)

theorem branch_givesUp {l k : TokenView K} {token : Token K} {rest : TokenList K} (here : s.remainder = some l)
    (next : l.next? = some (token, k)) (h : s.branch token rest = .ok (.done (.failure e)))
    (unclaimed : ∀ set, innermost s.stack.operators = some set → token.kind ∉ set.stop :: set.separators) :
    s.GivesUp l e := by
  obtain ⟨h, unplaced⟩ := branch_failure h
  refine finish_givesUp here h ?_ ?_ <;> rw [TokenView.head?_rest next]
  · rintro _ ⟨⟩
    exact unclaimed
  · rintro _ ⟨⟩
    exact unplaced

theorem readOperator_givesUp {l : TokenView K} (here : s.remainder = some l)
    (h : s.readOperator = .ok (.done (.failure e))) : s.GivesUp l e := by
  rw [Machine.readOperator, here, next?_some] at h
  cases hn : l.next? with
  | none =>
    have last : l.rest.head? = none := by simp [TokenView.next?_eq_none.mp hn]
    rw [hn] at h
    exact finish_givesUp here h (by simp [last]) (by simp [last])
  | some item =>
    obtain ⟨token, k⟩ := item
    have head := TokenView.head?_rest hn
    simp only [hn, Option.map_some, ok_bind] at h
    split at h
    · obtain ⟨reduced, -, h⟩ := bind_eq_ok h
      cases h
    · split at h
      · next outside => exact branch_givesUp here hn h (by simp [outside])
      · next set inside =>
        have only : ∀ other, innermost s.stack.operators = some other → other = set := by
          intro other found
          exact Option.some.inj (found.symm.trans inside)
        split at h
        · next stop =>
          rcases close_failure h with ⟨choice, waits, rfl⟩ | ⟨items, separators, message, refuses, rfl⟩
          · rw [here]
            exact .asks (.inner inside head (by simp [stop]) waits)
          · rw [here]
            exact .refused inside refuses
        · next going =>
          split at h
          · next separator =>
            obtain ⟨choice, waits, rfl⟩ := separate_failure h
            rw [here]
            exact .asks (.inner inside head (List.mem_cons_of_mem _ separator) waits)
          · next unfound =>
            apply branch_givesUp here hn h
            intro other found
            rw [only other found]
            simp [going, unfound]

end Steps

section Runs

variable [DecidableEq K] {operand : Reader (Except Fault) (TokenList K) α}

omit [TokenKind K] in
theorem Machine.Asks.kind_eq_iff (unambiguous : g.Unambiguous) {input remainder : TokenList K}
    {F : List (Frame g)} {t : Tree g} (known : Known F) {token : Token K} {kind : K}
    (asks : ((holding remainder F t).machine input).Asks (some token) kind) :
    token.kind = kind ↔ ((holding remainder F t).machine input).Crossed token.kind := by
  cases asks with
  | stop inside other =>
    constructor
    · intro same
      exact (other token rfl (by simp [same])).elim
    · rintro ⟨outside, -⟩
      cases inside.symm.trans outside
  | @inner set token' choice inside here own waits =>
    cases here
    constructor
    · intro same
      have role : token.kind ∈ g.conditionalKinds := by
        rw [same]
        exact Grammar.conditional_kinds_mem (Conditional.thenKind_mem _)
      obtain ⟨going, unfound⟩ := unclaimed_of_known unambiguous known role [] set inside
      simp [going, unfound] at own
    · rintro ⟨outside, -⟩
      cases inside.symm.trans outside
  | @outer choice outside unplaced waits =>
    constructor
    · intro same
      have found : g.thenOf token.kind = some choice := by
        rw [same]
        exact unambiguous.thenOf_kind choice
      have unbound := unplaced token rfl choice found
      obtain ⟨inner, belongs⟩ := exists_belongs outside waits
      refine ⟨outside, choice, inner, waits, belongs, ?_, same⟩
      rintro rfl
      cases unbound.symm.trans belongs
    · rintro ⟨-, outer, inner, waits', -, -, same⟩
      cases waits.symm.trans waits'
      exact same

omit [DecidableEq K] in
theorem fragment_expected (l : TokenView K) (text : String) :
    (Failure.expected (some l : TokenList K) [text]).fragment =
      .ok (Failure.unexpected (l.rest.head?.map Token.describe) ++ ", expected " ++ text) := rfl

/-- A run fails where the operand parser fails, where a check refuses a grouping, or where the machine asks for
a kind. The token at hand is of that kind only if conditions of two definitions cross: it is the branch of the
outermost, but an inner condition waits for its own. -/
theorem expression_asks (definitions : List (Definition K α)) (g : Grammar K α)
    (accepted : Grammar.ofDefinitions definitions = .ok g)
    (operand : Reader (Except Fault) (TokenList K) α) (input : TokenList K) (steps : Nat)
    (e : Failure (TokenList K))
    (failed : (Machine.start input : Machine g).runSteps operand steps = .ok (.failure e)) :
    ∃ (s : Machine g) (l : TokenView K), Machine.Reaches operand (.start input) s ∧ s.remainder = some l ∧
      (s.expect = .operand ∧ operand (some l) = .ok (.failure e) ∨
        s.expect = .operator ∧ (∃ set items separators message, innermost s.stack.operators = some set ∧
          set.check items separators = some message ∧ e = .withMessage (some l) message) ∨
        s.expect = .operator ∧ ∃ kind, s.Asks l.rest.head? kind ∧
          e = .expected (some l) [TokenKind.whenExpected kind] ∧
          ∀ token ∈ l.rest.head?, (token.kind = kind ↔ s.Crossed token.kind) ∧
            e.fragment = .ok ("unexpected " ++ token.describe ++ ", expected " ++
              TokenKind.whenExpected kind)) := by
  have unambiguous := Grammar.unambiguous_of_definitions accepted
  obtain ⟨s, reached, done⟩ := exists_done failed
  obtain ⟨c, rfl, moves⟩ := exists_start reached
  have known : Known c.frames := known_of_defined (defined_of_moves moves (by simp [Configuration.frames]))
  cases c with
  | awaiting remainder F =>
    cases remainder with
    | none => cases done
    | some l => exact ⟨_, l, reached, rfl, .inl ⟨rfl, readOperand_failure done⟩⟩
  | holding remainder F t =>
    cases remainder with
    | none => cases done
    | some l =>
      rw [step_holding] at done
      refine ⟨_, l, reached, rfl, .inr ?_⟩
      cases readOperator_givesUp rfl done with
      | refused inside refuses => exact .inl ⟨rfl, _, _, _, _, inside, refuses, rfl⟩
      | @asks kind asks =>
        refine .inr ⟨rfl, kind, asks, rfl, ?_⟩
        intro token here
        rw [here] at asks
        refine ⟨asks.kind_eq_iff unambiguous known, ?_⟩
        rw [fragment_expected, here]
        rfl

-- The calculator and another conditional.
def crossing : Grammar Kind Int :=
  { calculator with conditionals := calculator.conditionals ++
      [⟨sign "when", sign "do", sign "otherwise", fun c a b => if c = 0 then b else a,
        fun c a => if c = 0 then 0 else a⟩] }

def crossingDefinitions : List (Definition Kind Int) :=
  crossing.infixes.map .infixes ++ crossing.prefixes.map .prefixes ++
    crossing.groupings.map .grouping ++ crossing.conditionals.map .conditional

theorem expectations_digit {l : TokenView Kind} {e : Failure (TokenList Kind)}
    (h : digit (some l) = .ok (.failure e)) : e.expectations = some ["digit"] := by
  obtain ⟨reply, read, failure⟩ := bind_eq_ok h
  simp only [Primitive.token, next?_some, ofExcept_eq, ok_bind] at read
  generalize l.next? = item at read
  rcases item with _ | ⟨token, k⟩
  · cases read
    cases failure
    rfl
  · dsimp only [Option.map_some] at read
    split at read <;> cases read <;> cases failure
    rfl

-- In `[ when 1 ]` the condition lacks its branch.
theorem expression_asks_branch :
    expression digit crossing (some (marks ["[", "when", "1", "]"] 0)) =
        .ok (.failure (.expected (some (marks ["[", "when", "1", "]"] 3))
          [TokenKind.whenExpected (sign "do")])) ∧
      ∃ (s : Machine crossing) (l : TokenView Kind),
        Machine.Reaches digit (.start (some (marks ["[", "when", "1", "]"] 0))) s ∧ s.remainder = some l ∧
          s.expect = .operator ∧ ∃ kind, s.Asks l.rest.head? kind ∧
            ∀ token ∈ l.rest.head?, (token.kind = kind ↔ s.Crossed token.kind) := by
  have failed : expression digit crossing (some (marks ["[", "when", "1", "]"] 0)) =
      .ok (.failure (.expected (some (marks ["[", "when", "1", "]"] 3))
        [TokenKind.whenExpected (sign "do")])) := rfl
  refine ⟨failed, ?_⟩
  obtain ⟨s, l, reached, here, ⟨expect, read⟩ | ⟨-, _, _, _, _, -, -, other⟩ | ⟨expect, kind, asks, -, h⟩⟩ :=
    expression_asks crossingDefinitions crossing rfl digit _ _ _ failed
  · have different : TokenKind.whenExpected (sign "do") ≠ "digit" := by decide
    have same := expectations_digit read
    exact (different (by simpa [Failure.expected] using same)).elim
  · cases other
  · exact ⟨s, l, reached, here, expect, kind, asks, fun token ht => (h token ht).1⟩

-- After `if when 1` the machine asks for `then`, and `then` is at hand.
theorem asks_for_token_at_hand :
    Grammar.ofDefinitions crossingDefinitions = .ok crossing ∧
      expression digit crossing (some (marks ["if", "when", "1", "then"] 0)) =
        .ok (.failure (.expected (some (marks ["if", "when", "1", "then"] 3))
          [TokenKind.whenExpected (sign "then")])) ∧
      (marks ["if", "when", "1", "then"] 3).rest.head? = some (mark "then") ∧
      ∃ s : Machine crossing, Machine.Reaches digit (.start (some (marks ["if", "when", "1", "then"] 0))) s ∧
        s.remainder = some (marks ["if", "when", "1", "then"] 3) ∧
        s.Asks (some (mark "then")) (mark "then").kind := by
  refine ⟨rfl, rfl, rfl, ?_⟩
  refine ⟨⟨some (marks ["if", "when", "1", "then"] 0), some (marks ["if", "when", "1", "then"] 3), .operator,
    ⟨[.ifMark ⟨1, by decide⟩, .ifMark ⟨0, by decide⟩], [1]⟩⟩, ?_, rfl, ?_⟩
  · exact .head rfl (.head rfl (.single rfl))
  · refine @Machine.Asks.outer _ _ _ _ _ _ ⟨0, by decide⟩ rfl ?_ rfl
    rintro token ⟨⟩ i found
    cases found
    rfl

end Runs

end Parsing.Expression

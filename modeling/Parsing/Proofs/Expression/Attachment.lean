import Parsing.Proofs.Expression.Discipline

namespace Parsing.Expression

open Frames Expression.Configuration

variable {K α : Type} {g : Grammar K α}

inductive Reductions (passes : Entry g → Bool) : Nat → Stacks g → Stacks g → Prop where
  | none (s : Stacks g) : Reductions passes 0 s s
  | more {count : Nat} {s t u : Stacks g} {top : Entry g} (head : s.operators.head? = some top)
      (passed : passes top = true) (reduced : s.reduce = .ok t) (rest : Reductions passes count t u) :
      Reductions passes (count + 1) s u

namespace Branch

def passes : Branch → Entry g → Bool
  | _, .infixed _ | _, .prefixed _ | _, .elseMark _ => true
  | .consequent, .thenMark _ => true
  | _, _ => false

def mark (choice : Fin g.conditionals.length) : Branch → Entry g
  | .consequent => .ifMark choice
  | .alternative => .thenMark choice

def above (choice : Fin g.conditionals.length) : Branch → List (Entry g) → Bool
  | .consequent => Stacks.aboveIf choice
  | .alternative => Stacks.aboveThen choice

end Branch

def Bars (choice : Fin g.conditionals.length) : List (Entry g) → Prop
  | [] | .opened .. :: _ | .separator _ :: _ => True
  | .ifMark i :: _ => i ≠ choice
  | _ => False

section Counting

variable {passes : Entry g → Bool} {s t u : Stacks g} {m n : Nat}

-- Reductions have one result, so that fewer of them come to one of the stacks on the way.
theorem Reductions.passed_of_lt (h : Reductions passes n s t) (fewer : m < n)
    (h' : Reductions (fun _ => true) m s u) : ∃ top, u.operators.head? = some top ∧ passes top = true := by
  induction h generalizing m with
  | none => omega
  | more head passed reduced _ ih =>
    cases h' with
    | none => exact ⟨_, head, passed⟩
    | more _ _ reduced' rest' =>
      cases reduced.symm.trans reduced'
      exact ih (by omega) rest'

theorem not_bars_of_passed {choice : Fin g.conditionals.length} {ops : List (Entry g)} {top : Entry g}
    (head : ops.head? = some top) (passed : Branch.passes .consequent top = true) : ¬Bars choice ops := by
  cases ops with
  | nil => cases head
  | cons entry below =>
    cases head
    cases top <;> simp [Branch.passes, Bars] at passed ⊢

end Counting

section Frames

namespace Arm

def top : Arm g → Entry g
  | .infixed op _ _ => .infixed op
  | .prefixed op _ => .prefixed op
  | .consequent choice _ _ _ => .thenMark choice
  | .alternative choice _ _ _ _ _ => .elseMark choice

theorem head?_operators (a : Arm g) (F : List (Frame g)) :
    (operators (.arm a :: F)).head? = some a.top := by
  cases a <;> rfl

theorem passes_consequent (a : Arm g) : Branch.passes .consequent a.top = true := by
  cases a <;> rfl

theorem passes_alternative (a : Arm g) : Branch.passes .alternative a.top = !a.isConsequent := by
  cases a <;> rfl

end Arm

theorem head?_operators_group (set : Grouping K α) (opening : Token K) (before : Series g)
    (F : List (Frame g)) :
    (∃ depth, (operators (.group set opening before :: F)).head? = some (.opened set depth)) ∨
      ∃ token, (operators (.group set opening before :: F)).head? = some (.separator token) := by
  simp only [operators, Frame.entries]
  cases before.separators.reverse with
  | nil => exact .inl ⟨_, rfl⟩
  | cons token tokens => exact .inr ⟨token, rfl⟩

theorem eq_condition_of_head {F : List (Frame g)} {choice : Fin g.conditionals.length}
    (h : (operators F).head? = some (.ifMark choice)) : ∃ token F', F = .condition choice token :: F' := by
  cases F with
  | nil => cases h
  | cons f F =>
    cases f with
    | arm a =>
      rw [Arm.head?_operators] at h
      cases a <;> cases h
    | group set opening before =>
      rcases head?_operators_group set opening before F with ⟨depth, head⟩ | ⟨token, head⟩ <;>
        cases head.symm.trans h
    | condition i token =>
      cases h
      exact ⟨token, F, rfl⟩

theorem eq_consequent_of_head {F : List (Frame g)} {choice : Fin g.conditionals.length}
    (h : (operators F).head? = some (.thenMark choice)) :
    ∃ ifToken thenToken condition F', F = .arm (.consequent choice ifToken thenToken condition) :: F' := by
  cases F with
  | nil => cases h
  | cons f F =>
    cases f with
    | arm a =>
      rw [Arm.head?_operators] at h
      cases a with
      | consequent i ifToken thenToken condition =>
        cases h
        exact ⟨ifToken, thenToken, condition, F, rfl⟩
      | infixed => cases h
      | prefixed => cases h
      | alternative => cases h
    | group set opening before =>
      rcases head?_operators_group set opening before F with ⟨depth, head⟩ | ⟨token, head⟩ <;>
        cases head.symm.trans h
    | condition i token => cases h

theorem reductions_onto {passes : Entry g → Bool} {arms : List (Arm g)}
    (h : ∀ a ∈ arms, passes a.top = true) (F : List (Frame g)) (t : Tree g) :
    Reductions passes arms.length (around (onto arms F) t) (around F (Arm.plugAll arms t)) := by
  induction arms generalizing t with
  | nil => exact .none _
  | cons a arms ih =>
    have rest := ih (fun b hb => h b (List.mem_cons_of_mem a hb)) (a.plug t)
    exact .more (a.head?_operators _) (h a List.mem_cons_self) (reduce_arm a _ t) rest

theorem Reductions.exists_arms {passes : Entry g → Bool} {count : Nat} {F : List (Frame g)} {t : Tree g}
    {s : Stacks g} (h : Reductions passes count (around F t) s) :
    ∃ arms F', F = onto arms F' ∧ (∀ a ∈ arms, passes a.top = true) ∧
      s = around F' (Arm.plugAll arms t) := by
  induction count generalizing F t with
  | zero =>
    cases h
    exact ⟨[], F, rfl, by simp, rfl⟩
  | succ count ih =>
    cases h with
    | more head passed reduced rest =>
      obtain ⟨a, F', rfl, rfl⟩ := reduce_around reduced
      cases head.symm.trans (a.head?_operators F')
      obtain ⟨arms, F'', rfl, all, rfl⟩ := ih rest
      refine ⟨a :: arms, F'', rfl, ?_, rfl⟩
      simpa [passed] using all

theorem belongs_iff_reductions_around (branch : Branch) (choice : Fin g.conditionals.length)
    (F : List (Frame g)) (t : Tree g) :
    belongs branch choice (around F t).operators = true ↔
      ∃ count s, Reductions branch.passes count (around F t) s ∧
        s.operators.head? = some (branch.mark choice) := by
  cases branch with
  | consequent =>
    refine (belongs_consequent_iff choice F).trans ⟨?_, ?_⟩
    · rintro ⟨arms, token, F', rfl⟩
      exact ⟨_, _, reductions_onto (fun a _ => a.passes_consequent) _ t, rfl⟩
    · rintro ⟨count, s, reductions, head⟩
      obtain ⟨arms, F', rfl, -, rfl⟩ := reductions.exists_arms
      obtain ⟨token, F'', rfl⟩ := eq_condition_of_head head
      exact ⟨arms, token, F'', rfl⟩
  | alternative =>
    refine (belongs_alternative_iff choice F).trans ⟨?_, ?_⟩
    · rintro ⟨arms, ifToken, thenToken, condition, F', nearest, rfl⟩
      refine ⟨_, _, reductions_onto (fun a ha => ?_) _ t, rfl⟩
      rw [Arm.passes_alternative, nearest a ha]
      rfl
    · rintro ⟨count, s, reductions, head⟩
      obtain ⟨arms, F', rfl, all, rfl⟩ := reductions.exists_arms
      obtain ⟨ifToken, thenToken, condition, F'', rfl⟩ := eq_consequent_of_head head
      refine ⟨arms, ifToken, thenToken, condition, F'', fun a ha => ?_, rfl⟩
      simpa [Arm.passes_alternative] using all a ha

theorem reduceWhile_of_reductions (branch : Branch) {choice : Fin g.conditionals.length} {count : Nat}
    {F : List (Frame g)} {t : Tree g} {s : Stacks g}
    (reductions : Reductions branch.passes count (around F t) s)
    (head : s.operators.head? = some (branch.mark choice)) :
    (around F t).reduceWhile (branch.above choice) = .ok s := by
  obtain ⟨arms, F', rfl, all, rfl⟩ := reductions.exists_arms
  cases branch with
  | consequent =>
    obtain ⟨token, F'', rfl⟩ := eq_condition_of_head head
    exact reduce_to_condition arms choice token F'' t
  | alternative =>
    obtain ⟨ifToken, thenToken, condition, F'', rfl⟩ := eq_consequent_of_head head
    refine reduce_to_consequent (fun a ha => ?_) choice ifToken thenToken condition F'' t
    simpa [Arm.passes_alternative] using all a ha

end Frames

variable [DecidableEq K] [TokenKind K]

/-- Wherever an operator is expected, a branch belongs to a conditional exactly if reductions bring the mark of
the conditional to the top, before anything that bars the way. The loop of the branch stops at that mark. -/
theorem belongs_iff_reductions (operand : Reader (Except Fault) (TokenList K) α) (input : TokenList K)
    (s : Machine g) (reached : Machine.Reaches operand (.start input) s) (expects : s.expect = .operator)
    (choice : Fin g.conditionals.length) :
    (belongs .consequent choice s.stack.operators = true ↔
      ∃ count t, Reductions (Branch.passes .consequent) count s.stack t ∧
        t.operators.head? = some (.ifMark choice) ∧
        ∀ fewer < count, ∀ u, Reductions (fun _ => true) fewer s.stack u → ¬Bars choice u.operators) ∧
    (belongs .alternative choice s.stack.operators = true ↔
      ∃ count t, Reductions (Branch.passes .alternative) count s.stack t ∧
        t.operators.head? = some (.thenMark choice)) ∧
    (∀ count t, Reductions (Branch.passes .consequent) count s.stack t →
      t.operators.head? = some (.ifMark choice) →
        s.stack.reduceWhile (Stacks.aboveIf choice) = .ok t) ∧
    ∀ count t, Reductions (Branch.passes .alternative) count s.stack t →
      t.operators.head? = some (.thenMark choice) →
        s.stack.reduceWhile (Stacks.aboveThen choice) = .ok t := by
  obtain ⟨c, rfl, -⟩ := exists_start reached
  cases c with
  | awaiting remainder F => cases expects
  | holding remainder F focus =>
    refine ⟨?_, belongs_iff_reductions_around .alternative choice F focus, ?_, ?_⟩
    · refine (belongs_iff_reductions_around .consequent choice F focus).trans ⟨?_, ?_⟩
      · rintro ⟨count, t, reductions, head⟩
        refine ⟨count, t, reductions, head, ?_⟩
        intro fewer lt u reductions'
        obtain ⟨top, head', passed⟩ := reductions.passed_of_lt lt reductions'
        exact not_bars_of_passed head' passed
      · rintro ⟨count, t, reductions, head, -⟩
        exact ⟨count, t, reductions, head⟩
    · intro count t reductions head
      exact reduceWhile_of_reductions .consequent reductions head
    · intro count t reductions head
      exact reduceWhile_of_reductions .alternative reductions head

-- The tokens of a conditional within the consequent of another.
def nestedBranches : List String :=
  ["if", "1", "then", "if", "2", "then", "1", "else", "2", "-", "1"]

def onlyChoice : Fin calculator.conditionals.length :=
  ⟨0, Nat.zero_lt_one⟩

def afterBranches : Machine calculator :=
  ⟨some (marks nestedBranches 0), some (marks nestedBranches 11), .operator,
    ⟨[.infixed ⟨1, .left, fun a b => a - b⟩, .elseMark onlyChoice, .thenMark onlyChoice, .ifMark onlyChoice,
      .thenMark onlyChoice, .ifMark onlyChoice], [1, 2, 1, 2, 1]⟩⟩

-- A further alternative belongs to the outer one, after two reductions.
theorem belongs_iff_reductions_nested :
    Machine.Reaches digit (.start (some (marks nestedBranches 0))) afterBranches ∧
      ∃ t, Reductions (Branch.passes .alternative) 2 afterBranches.stack t ∧
        t.operators.head? = some (.thenMark onlyChoice) ∧
        belongs .alternative onlyChoice afterBranches.stack.operators = true ∧
        afterBranches.stack.reduceWhile (Stacks.aboveThen onlyChoice) = .ok t := by
  have reached : Machine.Reaches digit (.start (some (marks nestedBranches 0))) afterBranches :=
    .head rfl (.head rfl (.head rfl (.head rfl (.head rfl (.head rfl (.head rfl (.head rfl (.head rfl
      (.head rfl (.single rfl))))))))))
  obtain ⟨-, alternative, -, stops⟩ := belongs_iff_reductions digit _ afterBranches reached rfl onlyChoice
  have reductions : Reductions (Branch.passes .alternative) 2 afterBranches.stack
      ⟨[.thenMark onlyChoice, .ifMark onlyChoice], [1, 1]⟩ :=
    .more rfl rfl rfl (.more rfl rfl rfl (.none _))
  exact ⟨reached, _, reductions, rfl, alternative.mpr ⟨_, _, reductions, rfl⟩, stops _ _ reductions rfl⟩

end Parsing.Expression

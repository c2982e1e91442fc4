import Parsing.Expression.Machine
import Parsing.Proofs.Expression.Lookahead

namespace Parsing.Expression

open Frames

variable {K α : Type} {g : Grammar K α}

section Precedence

-- Only the entries on top tell whether an operator binds tighter.
theorem bindsTighter_entries (precedence : Int) (a : Arm g) (ops : List (Entry g)) :
    Stacks.bindsTighter precedence (a.entries ++ ops) = Stacks.bindsTighter precedence a.entries := by
  cases a <;> rfl

theorem bindsTighter_arm (precedence : Int) (a : Arm g) (F : List (Frame g)) :
    Stacks.bindsTighter precedence (operators (.arm a :: F)) =
      Stacks.bindsTighter precedence a.entries :=
  bindsTighter_entries precedence a (operators F)

theorem bindsTighter_group (precedence : Int) (set : Grouping K α) (opening : Token K)
    (before : Series g) (F : List (Frame g)) :
    Stacks.bindsTighter precedence (operators (.group set opening before :: F)) = false := by
  simp only [operators, Frame.entries]
  cases before.separators.reverse <;> rfl

theorem bindsTighter_eq_false (precedence : Int) {F : List (Frame g)}
    (h : ∀ a F', F = .arm a :: F' → Stacks.bindsTighter precedence a.entries = false) :
    Stacks.bindsTighter precedence (operators F) = false := by
  cases F with
  | nil => rfl
  | cons f F =>
    cases f with
    | arm a => exact (bindsTighter_arm precedence a F).trans (h a F rfl)
    | condition choice token => rfl
    | group set opening before => exact bindsTighter_group precedence set opening before F

theorem bindsTighter_iff (o : InfixOperator α) (a : Arm g) :
    Stacks.bindsTighter o.precedence a.entries = true ↔ a.node.Outbinds o := by
  cases a with
  | infixed op token left =>
    simp [Arm.entries, Stacks.bindsTighter, Arm.node, Node.Outbinds, InfixOperator.Outbinds]
  | prefixed op token => simp [Arm.entries, Stacks.bindsTighter, Arm.node, Node.Outbinds]
  | consequent choice ifToken thenToken condition =>
    simp [Arm.entries, Stacks.bindsTighter, Arm.node, Node.Outbinds]
  | alternative choice ifToken thenToken elseToken condition yes =>
    simp [Arm.entries, Stacks.bindsTighter, Arm.node, Node.Outbinds]

def Admitted (F : List (Frame g)) (ops : List (InfixOperator α)) : Prop :=
  ∀ p ∈ ops, Stacks.bindsTighter p.precedence (operators F) = false

theorem admitted_nil (F : List (Frame g)) : Admitted F [] := by
  simp [Admitted]

theorem admitted_cons {F : List (Frame g)} {op : InfixOperator α} {ops : List (InfixOperator α)} :
    Admitted F (op :: ops) ↔
      Stacks.bindsTighter op.precedence (operators F) = false ∧ Admitted F ops := by
  simp [Admitted]

theorem admitted_group (set : Grouping K α) (opening : Token K) (before : Series g)
    (F : List (Frame g)) (ops : List (InfixOperator α)) :
    Admitted (.group set opening before :: F) ops :=
  fun _ _ => bindsTighter_group _ set opening before F

theorem admitted_condition (choice : Fin g.conditionals.length) (token : Token K)
    (F : List (Frame g)) (ops : List (InfixOperator α)) :
    Admitted (.condition choice token :: F) ops :=
  fun _ _ => rfl

theorem admitted_consequent (choice : Fin g.conditionals.length) (ifToken thenToken : Token K)
    (condition : Tree g) (F : List (Frame g)) (ops : List (InfixOperator α)) :
    Admitted (.arm (.consequent choice ifToken thenToken condition) :: F) ops :=
  fun _ _ => rfl

theorem admitted_alternative (choice : Fin g.conditionals.length)
    (ifToken thenToken elseToken : Token K) (condition yes : Tree g) (F : List (Frame g))
    (ops : List (InfixOperator α)) :
    Admitted (.arm (.alternative choice ifToken thenToken elseToken condition yes) :: F) ops :=
  fun _ _ => rfl

theorem admitted_arm {a : Arm g} {F : List (Frame g)} {ops : List (InfixOperator α)} :
    Admitted (.arm a :: F) ops ↔ ∀ p ∈ ops, ¬ a.node.Outbinds p := by
  simp only [Admitted, bindsTighter_arm, ← bindsTighter_iff, Bool.not_eq_true]

end Precedence

theorem reduce_to_group (arms : List (Arm g)) (set : Grouping K α) (opening : Token K)
    (before : Series g) (F : List (Frame g)) (t : Tree g) :
    (around (onto arms (.group set opening before :: F)) t).reduceWhile Stacks.aboveBarrier =
      .ok (around (.group set opening before :: F) (Arm.plugAll arms t)) := by
  apply reduceWhile_onto
  · intro a _ ops
    cases a <;> rfl
  · simp only [operators, Frame.entries]
    cases before.separators.reverse <;> rfl

theorem reduce_to_bottom (arms : List (Arm g)) (t : Tree g) :
    (around (onto arms []) t).reduceWhile Stacks.aboveBottom = .ok (around [] (Arm.plugAll arms t)) := by
  apply reduceWhile_onto
  · intro a _ ops
    cases a <;> rfl
  · rfl

theorem reduce_to_condition (arms : List (Arm g)) (choice : Fin g.conditionals.length)
    (token : Token K) (F : List (Frame g)) (t : Tree g) :
    (around (onto arms (.condition choice token :: F)) t).reduceWhile (Stacks.aboveIf choice) =
      .ok (around (.condition choice token :: F) (Arm.plugAll arms t)) := by
  apply reduceWhile_onto
  · intro a _ ops
    cases a <;> rfl
  · simp [operators, Frame.entries, Stacks.aboveIf]

theorem reduce_to_consequent {arms : List (Arm g)} (nearest : ∀ a ∈ arms, a.isConsequent = false)
    (choice : Fin g.conditionals.length) (ifToken thenToken : Token K) (condition : Tree g)
    (F : List (Frame g)) (t : Tree g) :
    (around (onto arms (.arm (.consequent choice ifToken thenToken condition) :: F)) t).reduceWhile
        (Stacks.aboveThen choice) =
      .ok (around (.arm (.consequent choice ifToken thenToken condition) :: F)
        (Arm.plugAll arms t)) := by
  apply reduceWhile_onto
  · intro a ha ops
    have hc := nearest a ha
    cases a with
    | consequent => simp [Arm.isConsequent] at hc
    | infixed => rfl
    | prefixed => rfl
    | alternative => rfl
  · simp [operators, Frame.entries, Arm.entries, Stacks.aboveThen]

theorem popGrouping_separators (xs separators : List (Token K)) (ops : List (Entry g))
    (set : Grouping K α) (depth : Nat) :
    Machine.popGrouping (xs.map .separator ++ .opened set depth :: ops) separators =
      .ok (xs.reverse ++ separators, depth, ops) := by
  induction xs generalizing separators with
  | nil => rfl
  | cons x xs ih =>
    simp only [List.map_cons, List.cons_append, Machine.popGrouping, ih]
    simp

theorem popGrouping_group (set : Grouping K α) (opening : Token K) (before : Series g)
    (F : List (Frame g)) :
    Machine.popGrouping (operators (.group set opening before :: F)) [] =
      .ok (before.separators, (operands F).length, operators F) := by
  simp only [operators, Frame.entries, List.append_assoc, List.singleton_append,
    popGrouping_separators]
  simp

variable [TokenKind K]

theorem requireBranches_group (s : Machine g) (arms : List (Arm g)) (set : Grouping K α)
    (opening : Token K) (before : Series g) (F : List (Frame g)) (next : Except Fault (Step g)) :
    s.requireBranches (aboveInnermost (operators (onto arms (.group set opening before :: F)))) next =
      next := by
  rw [Machine.requireBranches, aboveInnermost_onto, aboveInnermost_group, dangling_entries,
    dangling_separators]

theorem requireBranches_condition (s : Machine g) (arms : List (Arm g))
    (choice : Fin g.conditionals.length) (ops : List (Entry g)) (next : Except Fault (Step g)) :
    ∃ kind, s.requireBranches (arms.flatMap Arm.entries ++ .ifMark choice :: ops) next =
      .ok (s.refuse kind) := by
  obtain ⟨i, hi⟩ := Option.isSome_iff_exists.mp (isSome_dangling choice ops)
  exact ⟨_, by rw [Machine.requireBranches, dangling_entries, hi]⟩

end Parsing.Expression

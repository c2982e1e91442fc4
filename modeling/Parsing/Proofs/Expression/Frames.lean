import Parsing.Expression.Stack
import Parsing.Proofs.Expression.Tree

/-!
The stacks of the machine as a tree that is not finished: frames from the innermost outwards, each of which
waits for an operand. Reductions fill the frames that lack only that operand, and the lookahead reads off
which frame comes next.
-/

namespace Parsing.Expression

variable {K α : Type} {g : Grammar K α}

inductive Arm (g : Grammar K α) where
  | infixed (op : InfixOperator α) (token : Token K) (left : Tree g)
  | prefixed (op : PrefixOperator α) (token : Token K)
  | consequent (choice : Fin g.conditionals.length) (ifToken thenToken : Token K) (condition : Tree g)
  | alternative (choice : Fin g.conditionals.length) (ifToken thenToken elseToken : Token K)
      (condition yes : Tree g)

namespace Arm

def plug (t : Tree g) : Arm g → Tree g
  | .infixed op token left => .infixed op token left t
  | .prefixed op token => .prefixed op token t
  | .consequent choice ifToken thenToken condition => .ifThen choice ifToken thenToken condition t
  | .alternative choice ifToken thenToken elseToken condition yes =>
    .ifThenElse choice ifToken thenToken elseToken condition yes t

def plugAll (arms : List (Arm g)) (t : Tree g) : Tree g :=
  arms.foldl plug t

def entries : Arm g → List (Entry g)
  | .infixed op _ _ => [.infixed op]
  | .prefixed op _ => [.prefixed op]
  | .consequent choice _ _ _ => [.thenMark choice, .ifMark choice]
  | .alternative choice _ _ _ _ _ => [.elseMark choice, .thenMark choice, .ifMark choice]

def operands : Arm g → List α
  | .infixed _ _ left => [left.value]
  | .prefixed _ _ => []
  | .consequent _ _ _ condition => [condition.value]
  | .alternative _ _ _ _ condition yes => [yes.value, condition.value]

def node : Arm g → Node g
  | .infixed op _ _ => .infixed op
  | .prefixed op _ => .prefixed op
  | .consequent choice _ _ _ => .ifThen choice
  | .alternative choice _ _ _ _ _ => .ifThenElse choice

def leftSpine : Arm g → List (InfixOperator α)
  | .infixed op _ left => op :: left.leftSpine
  | _ => []

@[simp] theorem rightSpine_plug (a : Arm g) (t : Tree g) :
    (a.plug t).rightSpine = a.node :: t.rightSpine := by
  cases a <;> rfl

@[simp] theorem leftSpine_plug (a : Arm g) (t : Tree g) : (a.plug t).leftSpine = a.leftSpine := by
  cases a <;> rfl

theorem plugAll_append (xs ys : List (Arm g)) (t : Tree g) :
    plugAll (xs ++ ys) t = plugAll ys (plugAll xs t) := by
  simp [plugAll]

theorem rightSpine_plugAll (arms : List (Arm g)) (t : Tree g) :
    (plugAll arms t).rightSpine = (arms.map node).reverse ++ t.rightSpine := by
  induction arms generalizing t with
  | nil => rfl
  | cons a arms ih =>
    have h : (plugAll (a :: arms) t).rightSpine = (plugAll arms (a.plug t)).rightSpine := rfl
    rw [h, ih]
    simp

end Arm

inductive Frame (g : Grammar K α) where
  | arm (arm : Arm g)
  | group (set : Grouping K α) (opening : Token K) (before : Series g)
  | condition (choice : Fin g.conditionals.length) (token : Token K)

namespace Frame

def operands : Frame g → List α
  | .arm a => a.operands
  | .group _ _ before => before.values.reverse
  | .condition _ _ => []

def entries (depth : Nat) : Frame g → List (Entry g)
  | .arm a => a.entries
  | .group set _ before => before.separators.reverse.map .separator ++ [.opened set depth]
  | .condition choice _ => [.ifMark choice]

end Frame

namespace Frames

def operands : List (Frame g) → List α
  | [] => []
  | f :: F => f.operands ++ operands F

def operators : List (Frame g) → List (Entry g)
  | [] => []
  | f :: F => f.entries (operands F).length ++ operators F

def around (F : List (Frame g)) (t : Tree g) : Stacks g :=
  ⟨operators F, t.value :: operands F⟩

def onto (arms : List (Arm g)) (F : List (Frame g)) : List (Frame g) :=
  arms.map .arm ++ F

@[simp] theorem onto_nil (F : List (Frame g)) : onto [] F = F := rfl

@[simp] theorem onto_cons (a : Arm g) (arms : List (Arm g)) (F : List (Frame g)) :
    onto (a :: arms) F = .arm a :: onto arms F := rfl

theorem onto_append (xs ys : List (Arm g)) (F : List (Frame g)) :
    onto (xs ++ ys) F = onto xs (onto ys F) := by
  simp [onto]

theorem operators_onto (arms : List (Arm g)) (F : List (Frame g)) :
    operators (onto arms F) = arms.flatMap Arm.entries ++ operators F := by
  induction arms with
  | nil => rfl
  | cons a arms ih => rw [onto_cons, operators, ih, List.flatMap_cons, List.append_assoc]; rfl

theorem exists_onto (F : List (Frame g)) : ∃ arms, F = onto arms [] ∨
    (∃ set opening before F', F = onto arms (.group set opening before :: F')) ∨
    ∃ choice token F', F = onto arms (.condition choice token :: F') := by
  induction F with
  | nil => exact ⟨[], .inl rfl⟩
  | cons f F ih =>
    cases f with
    | group set opening before => exact ⟨[], .inr (.inl ⟨set, opening, before, F, rfl⟩)⟩
    | condition choice token => exact ⟨[], .inr (.inr ⟨choice, token, F, rfl⟩)⟩
    | arm a =>
      obtain ⟨arms, rfl | ⟨set, opening, before, F', rfl⟩ | ⟨choice, token, F', rfl⟩⟩ := ih
      · exact ⟨a :: arms, .inl rfl⟩
      · exact ⟨a :: arms, .inr (.inl ⟨set, opening, before, F', rfl⟩)⟩
      · exact ⟨a :: arms, .inr (.inr ⟨choice, token, F', rfl⟩)⟩

theorem exists_onto_while (p : Arm g → Bool) (F : List (Frame g)) : ∃ arms F', F = onto arms F' ∧
    (∀ a ∈ arms, p a = true) ∧ ∀ a F'', F' = .arm a :: F'' → p a = false := by
  induction F with
  | nil => exact ⟨[], [], rfl, by simp, by simp⟩
  | cons f F ih =>
    cases f with
    | group set opening before => exact ⟨[], _, rfl, by simp, by simp⟩
    | condition choice token => exact ⟨[], _, rfl, by simp, by simp⟩
    | arm a =>
      cases h : p a with
      | false =>
        refine ⟨[], _, rfl, by simp, ?_⟩
        rintro b F'' hb
        cases hb
        exact h
      | true =>
        obtain ⟨arms, F', rfl, hall, hstop⟩ := ih
        refine ⟨a :: arms, F', rfl, ?_, hstop⟩
        simpa [h] using hall

end Frames

section Reduction

open Frames

theorem reduce_arm (a : Arm g) (F : List (Frame g)) (t : Tree g) :
    (around (.arm a :: F) t).reduce = .ok (around F (a.plug t)) := by
  cases a <;> simp [around, operators, Frames.operands, Frame.entries, Frame.operands, Arm.entries,
    Arm.operands, Arm.plug, Stacks.reduce, Tree.value]

theorem reduceRounds_onto (continues : List (Entry g) → Bool) (arms : List (Arm g))
    (F : List (Frame g)) (t : Tree g) (rounds : Nat) (hr : arms.length ≤ rounds)
    (go : ∀ a ∈ arms, ∀ ops, continues (a.entries ++ ops) = true)
    (halt : continues (operators F) = false) :
    (around (onto arms F) t).reduceRounds continues rounds = .ok (around F (Arm.plugAll arms t)) := by
  induction arms generalizing t rounds with
  | nil => cases rounds <;> simp [Stacks.reduceRounds, around, halt, Arm.plugAll]
  | cons a arms ih =>
    cases rounds with
    | zero => simp at hr
    | succ rounds =>
      have hgo : continues (around (onto (a :: arms) F) t).operators = true :=
        go a (by simp) (operators (onto arms F))
      have hrest := ih (a.plug t) rounds (by simpa using hr) fun b hb => go b (by simp [hb])
      rw [Stacks.reduceRounds, if_pos hgo, onto_cons, reduce_arm]
      exact hrest

theorem length_onto_le (arms : List (Arm g)) (F : List (Frame g)) :
    arms.length ≤ (operators (onto arms F)).length := by
  induction arms with
  | nil => simp
  | cons a arms ih =>
    have ha : 1 ≤ a.entries.length := by cases a <;> simp [Arm.entries]
    simp only [onto_cons, operators, Frame.entries, List.length_cons, List.length_append]
    omega

theorem reduceWhile_onto (continues : List (Entry g) → Bool) (arms : List (Arm g))
    (F : List (Frame g)) (t : Tree g)
    (go : ∀ a ∈ arms, ∀ ops, continues (a.entries ++ ops) = true)
    (halt : continues (operators F) = false) :
    (around (onto arms F) t).reduceWhile continues = .ok (around F (Arm.plugAll arms t)) :=
  reduceRounds_onto continues arms F t _ (length_onto_le arms F) go halt

end Reduction

end Parsing.Expression

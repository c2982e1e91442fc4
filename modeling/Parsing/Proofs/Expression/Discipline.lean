import Parsing.Proofs.Expression.Runs

namespace Parsing.Expression

open Frames Expression.Configuration

variable {K α : Type} {g : Grammar K α}

def Entry.holds : Entry g → Bool
  | .infixed _ | .separator _ | .thenMark _ | .elseMark _ => true
  | .prefixed _ | .opened _ _ | .ifMark _ => false

def held (ops : List (Entry g)) : Nat :=
  ops.countP Entry.holds

def Entry.RestsOn : Entry g → List (Entry g) → Prop
  | .thenMark choice, below => below.head? = some (.ifMark choice)
  | .elseMark choice, below => below.head? = some (.thenMark choice)
  | .separator _, below => (∃ set depth, below.head? = some (.opened set depth)) ∨
      ∃ token, below.head? = some (.separator token)
  | .opened _ depth, below => depth = held below
  | .infixed _, _ | .prefixed _, _ | .ifMark _, _ => True

def Placed (ops : List (Entry g)) : Prop :=
  ∀ entry below, entry :: below <:+ ops → entry.RestsOn below

/-- The values on the stacks are those that the operators hold and `extra` more. -/
structure Stacks.Disciplined (s : Stacks g) (extra : Nat) : Prop where
  placed : Placed s.operators
  counted : s.operands.length = held s.operators + extra

def Expect.held : Expect → Nat
  | .operand => 0
  | .operator => 1

section Frames

theorem placed_nil : Placed ([] : List (Entry g)) := by
  intro entry below h
  simp at h

theorem placed_cons {entry : Entry g} {ops : List (Entry g)} (rests : entry.RestsOn ops)
    (h : Placed ops) : Placed (entry :: ops) := by
  intro e below hs
  rcases List.suffix_cons_iff.mp hs with he | hs
  · obtain ⟨rfl, rfl⟩ := List.cons.inj he
    exact rests
  · exact h e below hs

theorem placed_arm (a : Arm g) {ops : List (Entry g)} (h : Placed ops) : Placed (a.entries ++ ops) := by
  cases a with
  | infixed op token left => exact placed_cons trivial h
  | prefixed op token => exact placed_cons trivial h
  | consequent choice ifToken thenToken condition => exact placed_cons rfl (placed_cons trivial h)
  | alternative choice ifToken thenToken elseToken condition yes =>
    exact placed_cons rfl (placed_cons rfl (placed_cons trivial h))

theorem placed_group (separators : List (Token K)) (set : Grouping K α) {ops : List (Entry g)}
    (h : Placed ops) : Placed (separators.map .separator ++ .opened set (held ops) :: ops) := by
  induction separators with
  | nil => exact placed_cons rfl h
  | cons separator separators ih =>
    refine placed_cons ?_ ih
    cases separators with
    | nil => exact .inl ⟨set, held ops, rfl⟩
    | cons next _ => exact .inr ⟨next, rfl⟩

theorem length_values (before : Series g) : before.values.length = before.separators.length := by
  induction before using Series.separators.induct with
  | case1 => rfl
  | case2 before item separator ih => simp [Series.values, Series.separators, ih]

theorem length_operands_frame (f : Frame g) (depth : Nat) :
    f.operands.length = held (f.entries depth) := by
  cases f with
  | arm a => cases a <;> rfl
  | condition choice token => rfl
  | group set opening before =>
    have hs : ∀ xs : List (Token K), (xs.map (.separator : Token K → Entry g)).countP Entry.holds =
        xs.length := by
      intro xs
      rw [List.countP_map, List.countP_eq_length.mpr]
      intro x _
      rfl
    simp [Frame.operands, Frame.entries, held, hs, length_values, Entry.holds]

theorem length_operands (F : List (Frame g)) : (operands F).length = held (operators F) := by
  induction F with
  | nil => rfl
  | cons f F ih =>
    rw [operands, operators, List.length_append, held, List.countP_append]
    rw [length_operands_frame f (operands F).length, ih]
    rfl

theorem placed_operators (F : List (Frame g)) : Placed (operators F) := by
  induction F with
  | nil => exact placed_nil
  | cons f F ih =>
    cases f with
    | arm a => exact placed_arm a ih
    | condition choice token => exact placed_cons trivial ih
    | group set opening before =>
      rw [operators, Frame.entries, length_operands, List.append_assoc]
      exact placed_group _ set ih

theorem disciplined_around (F : List (Frame g)) (t : Tree g) : (around F t).Disciplined 1 :=
  ⟨placed_operators F, by simp [around, length_operands]⟩

theorem disciplined_machine (input : TokenList K) (c : Configuration g) :
    (c.machine input).stack.Disciplined (c.machine input).expect.held := by
  cases c with
  | awaiting remainder F => exact ⟨placed_operators F, length_operands F⟩
  | holding remainder F t => exact disciplined_around F t

theorem reduce_around {F : List (Frame g)} {t : Tree g} {s : Stacks g}
    (h : (around F t).reduce = .ok s) : ∃ a F', F = .arm a :: F' ∧ s = around F' (a.plug t) := by
  cases F with
  | nil => simp [around, operators, Stacks.reduce] at h
  | cons f F =>
    cases f with
    | arm a =>
      rw [reduce_arm] at h
      cases h
      exact ⟨a, F, rfl, rfl⟩
    | condition choice token => simp [around, operators, Frame.entries, Stacks.reduce] at h
    | group set opening before =>
      simp only [around, operators, Frame.entries] at h
      cases hs : before.separators.reverse with
      | nil => simp [hs, Stacks.reduce] at h
      | cons separator separators => simp [hs, Stacks.reduce] at h

theorem reductions_around {F : List (Frame g)} {t : Tree g} {s : Stacks g}
    (h : Relation.ReflTransGen (fun a b => Stacks.reduce a = .ok b) (around F t) s) :
    ∃ F' t', s = around F' t' := by
  induction h with
  | refl => exact ⟨F, t, rfl⟩
  | tail _ hr ih =>
    obtain ⟨F', t', rfl⟩ := ih
    obtain ⟨a, F'', rfl, rfl⟩ := reduce_around hr
    exact ⟨F'', a.plug t', rfl⟩

end Frames

section Runs

variable [DecidableEq K] [TokenKind K] {operand : Reader (Except Fault) (TokenList K) α}

theorem step_faults (input : TokenList K) {c : Configuration g} {fault : Fault}
    (h : (c.machine input).step operand = .error fault) :
    (c.machine input).remainder = none ∧ fault = .noTokens ∨
      (c.machine input).expect = .operand ∧ operand (c.machine input).remainder = .error fault := by
  have ho : Outcome operand input c ((c.machine input).step operand) := step_outcome input c
  rw [h] at ho
  cases ho with
  | faulted config read =>
    subst config
    exact .inr ⟨rfl, read⟩
  | unstarted none =>
    refine .inl ⟨?_, rfl⟩
    cases c <;> exact none

/-- In every state that a run reaches, and between any two reductions of its loops, nothing is ever missing on
the stacks: a step faults only where there is no list to read, or where the operand parser faults. -/
theorem reachable_disciplined (operand : Reader (Except Fault) (TokenList K) α) (input : TokenList K)
    (s : Machine g) (h : Machine.Reaches operand (.start input) s) :
    s.stack.Disciplined s.expect.held ∧
      (s.expect = .operator → ∀ t, Relation.ReflTransGen (fun a b => Stacks.reduce a = .ok b) s.stack t →
        t.Disciplined 1) ∧
      ∀ fault, s.step operand = .error fault → s.remainder = none ∧ fault = .noTokens ∨
        s.expect = .operand ∧ operand s.remainder = .error fault := by
  obtain ⟨c, rfl, -⟩ := exists_start h
  refine ⟨disciplined_machine input c, ?_, fun fault hf => step_faults input hf⟩
  intro he t ht
  cases c with
  | awaiting remainder F => cases he
  | holding remainder F focus =>
    obtain ⟨F', t', rfl⟩ := reductions_around ht
    exact disciplined_around F' t'

-- The state after `1 - if 2 then`.
def beforeBranch : Machine calculator :=
  ⟨some (marks ["1", "-", "if", "2", "then"] 0), some (marks ["1", "-", "if", "2", "then"] 5), .operand,
    ⟨[.thenMark ⟨0, by decide⟩, .ifMark ⟨0, by decide⟩, .infixed ⟨1, .left, fun a b => a - b⟩],
      [2, 1]⟩⟩

theorem reachable_disciplined_beforeBranch :
    Machine.Reaches digit (.start (some (marks ["1", "-", "if", "2", "then"] 0))) beforeBranch ∧
      beforeBranch.stack.Disciplined 0 := by
  have reached :
      Machine.Reaches digit (.start (some (marks ["1", "-", "if", "2", "then"] 0))) beforeBranch :=
    .head rfl (.head rfl (.head rfl (.head rfl (.single rfl))))
  exact ⟨reached, (reachable_disciplined digit _ beforeBranch reached).1⟩

end Runs

end Parsing.Expression

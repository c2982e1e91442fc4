import Parsing.Proofs.Expression.Configurations

namespace Parsing.Expression

open Frames Expression.Configuration

variable {K α : Type} {g : Grammar K α}

section Groupings

variable [TokenKind K] (input : TokenList K)

theorem close_group {l k : TokenView K} (token : Token K) (arms : List (Arm g)) (set : Grouping K α)
    (opening : Token K) (before : Series g) (F : List (Frame g)) (t : Tree g) :
    ((holding (some l) (onto arms (.group set opening before :: F)) t).machine input).close set (some k) =
      .ok (match set.check (before.values ++ [(Arm.plugAll arms t).value]) before.separators with
        | some message => .done (.failure (.withMessage (some l) message))
        | none => .going ((holding (some k) F
            (.grouped set opening before (Arm.plugAll arms t) token)).machine input)) := by
  simp only [Machine.close, machine]
  change Machine.requireBranches _ (aboveInnermost (operators _)) _ = _
  rw [requireBranches_group]
  simp only [reduce_to_group, ok_bind]
  simp only [around, popGrouping_group, ok_bind, Frames.operands, Frame.operands]
  -- The values of the grouping are those above the depth at which it was opened.
  have hlen : ((Arm.plugAll arms t).value :: (before.values.reverse ++ operands F)).length -
      (operands F).length = ((Arm.plugAll arms t).value :: before.values.reverse).length := by
    simp
    omega
  have hge : ¬ ((Arm.plugAll arms t).value :: (before.values.reverse ++ operands F)).length <
      (operands F).length := by
    simp
    omega
  simp only [hge, ↓reduceIte, hlen]
  simp only [← List.cons_append, List.take_left, List.drop_left, List.reverse_cons,
    List.reverse_reverse]
  cases set.check (before.values ++ [(Arm.plugAll arms t).value]) before.separators with
  | some message => rfl
  | none => rfl

theorem separate_group {l k : TokenView K} (token : Token K) (arms : List (Arm g))
    (set : Grouping K α) (opening : Token K) (before : Series g) (F : List (Frame g)) (t : Tree g) :
    ((holding (some l) (onto arms (.group set opening before :: F)) t).machine input).separate token
        (some k) =
      .ok (.going ((awaiting (some k)
        (.group set opening (.snoc before (Arm.plugAll arms t) token) :: F)).machine input)) := by
  simp only [Machine.separate, machine]
  change Machine.requireBranches _ (aboveInnermost (operators _)) _ = _
  rw [requireBranches_group]
  simp only [reduce_to_group, ok_bind]
  simp [Machine.shift, around, operators, Frames.operands, Frame.operands,
    Frame.entries, Series.separators, Series.values]

theorem finish_onto (l : TokenView K) (arms : List (Arm g)) (t : Tree g) :
    ((holding (some l) (onto arms []) t).machine input).finish =
      .ok (.done (.success (Arm.plugAll arms t).value input (some l))) := by
  have hi : innermost (operators (onto arms ([] : List (Frame g)))) = none := by
    rw [innermost_onto]
    rfl
  have hd : dangling (operators (onto arms [])) = none := by
    rw [operators_onto, dangling_entries]
    rfl
  have hr := reduce_to_bottom arms t
  simp only [around] at hr
  simp only [Machine.finish, machine, around, hi, Machine.requireBranches, hd, hr]
  rfl

end Groupings

variable [DecidableEq K]

section Operand

theorem afterEmpty_some {set : Grouping K α} {m k : TokenView K} {closing : Token K}
    (allowed : set.allowEmpty = true) (after : m.next? = some (closing, k))
    (stop : closing.kind = set.stop) : Machine.afterEmpty set (some m) = .ok (some (some k)) := by
  simp [Machine.afterEmpty, allowed, after, stop]

theorem afterEmpty_none {set : Grouping K α} {m : TokenView K}
    (filled : set.allowEmpty → ∀ token ∈ m.rest.head?, token.kind ≠ set.stop) :
    Machine.afterEmpty set (some m) = .ok none := by
  unfold Machine.afterEmpty
  split
  · rename_i h
    cases hn : m.next? with
    | none => simp [hn]
    | some item =>
      obtain ⟨token, k⟩ := item
      have ht := filled h token (by simp [TokenView.head?_rest hn])
      simp [hn, ht]
  · rfl

theorem opening_plain (input : TokenList K) {l : TokenView K} (F : List (Frame g))
    (plain : PlainAt g l) : ((awaiting (some l) F).machine input).opening? = .ok none := by
  cases hn : l.next? with
  | none => simp [Machine.opening?, machine, hn]
  | some item =>
    obtain ⟨token, k⟩ := item
    obtain ⟨h₁, h₂, h₃⟩ := plain token (by simp [TokenView.head?_rest hn])
    simp [Machine.opening?, machine, hn, h₁, h₂, h₃]

end Operand

section Operator

variable [TokenKind K] (input : TokenList K)

theorem step_holding (operand : Reader (Except Fault) (TokenList K) α) (remainder : TokenList K)
    (F : List (Frame g)) (t : Tree g) :
    ((holding remainder F t).machine input).step operand =
      ((holding remainder F t).machine input).readOperator := by
  simp [Machine.step, machine]

theorem readOperator_unclaimed {l k : TokenView K} {token : Token K} {F : List (Frame g)}
    (t : Tree g) (next : l.next? = some (token, k)) (other : g.infixOf token.kind = none)
    (free : Unclaimed F token.kind) :
    ((holding (some l) F t).machine input).readOperator =
      ((holding (some l) F t).machine input).branch token (some k) := by
  simp only [Machine.readOperator, machine, around, next?_some, next, Option.map_some, ok_bind, other]
  split
  · rfl
  · rename_i set hs
    obtain ⟨h₁, h₂⟩ := free set hs
    rw [if_neg h₁, if_neg h₂]

theorem readOperator_claimed {l k : TokenView K} {token : Token K} {F : List (Frame g)}
    {set : Grouping K α} (t : Tree g) (next : l.next? = some (token, k))
    (other : g.infixOf token.kind = none) (inside : innermost (operators F) = some set) :
    ((holding (some l) F t).machine input).readOperator =
      if token.kind = set.stop then ((holding (some l) F t).machine input).close set (some k)
      else if token.kind ∈ set.separators then
        ((holding (some l) F t).machine input).separate token (some k)
      else ((holding (some l) F t).machine input).branch token (some k) := by
  simp only [Machine.readOperator, machine, around, next?_some, next, Option.map_some, ok_bind, other,
    inside]

theorem branch_consequent {l k : TokenView K} {token : Token K} (arms : List (Arm g))
    {choice : Fin g.conditionals.length} (ifToken : Token K) (F : List (Frame g)) (t : Tree g)
    (found : g.thenOf token.kind = some choice) :
    ((holding (some l) (onto arms (.condition choice ifToken :: F)) t).machine input).branch token
        (some k) =
      .ok (.going ((awaiting (some k)
        (.arm (.consequent choice ifToken token (Arm.plugAll arms t)) :: F)).machine input)) := by
  have hb : belongs .consequent choice (operators (onto arms (.condition choice ifToken :: F))) = true :=
    (belongs_consequent_iff choice _).mpr ⟨arms, ifToken, F, rfl⟩
  have hr := reduce_to_condition arms choice ifToken F t
  simp only [around] at hr
  simp only [Machine.branch, machine, around, found, Option.filter_some, hb, ↓reduceIte, hr, ok_bind]
  rfl

theorem branch_alternative {l k : TokenView K} {token : Token K} {arms : List (Arm g)}
    {choice : Fin g.conditionals.length} (ifToken thenToken : Token K) (c : Tree g)
    (F : List (Frame g)) (t : Tree g)
    (another : Branchless (onto arms (.arm (.consequent choice ifToken thenToken c) :: F))
      .consequent (g.thenOf token.kind))
    (found : g.elseOf token.kind = some choice) (nearest : ∀ a ∈ arms, a.isConsequent = false) :
    ((holding (some l) (onto arms (.arm (.consequent choice ifToken thenToken c) :: F)) t).machine
        input).branch token (some k) =
      .ok (.going ((awaiting (some k)
        (.arm (.alternative choice ifToken thenToken token c (Arm.plugAll arms t)) :: F)).machine
          input)) := by
  have hb : belongs .alternative choice
      (operators (onto arms (.arm (.consequent choice ifToken thenToken c) :: F))) = true :=
    (belongs_alternative_iff choice _).mpr ⟨arms, ifToken, thenToken, c, F, nearest, rfl⟩
  have hr := reduce_to_consequent nearest choice ifToken thenToken c F t
  have hn : (g.thenOf token.kind).filter (belongs .consequent · (operators
      (onto arms (.arm (.consequent choice ifToken thenToken c) :: F)))) = none := by
    simpa [Branchless] using another
  simp only [around] at hr
  simp only [Machine.branch, machine, around, hn, found, Option.filter_some, hb, ↓reduceIte, hr, ok_bind]
  rfl

theorem branch_halted {l k : TokenView K} {token : Token K} {F : List (Frame g)} (t : Tree g)
    (hc : Branchless F .consequent (g.thenOf token.kind))
    (ha : Branchless F .alternative (g.elseOf token.kind)) :
    ((holding (some l) F t).machine input).branch token (some k) =
      ((holding (some l) F t).machine input).finish := by
  have h₁ : (g.thenOf token.kind).filter (belongs .consequent · (operators F)) = none := by
    simpa [Branchless] using hc
  have h₂ : (g.elseOf token.kind).filter (belongs .alternative · (operators F)) = none := by
    simpa [Branchless] using ha
  simp only [Machine.branch, machine, around, h₁, h₂]

theorem readOperator_halted {l : TokenView K} {F : List (Frame g)} (t : Tree g)
    (halted : HaltedAt F l) :
    ((holding (some l) F t).machine input).readOperator =
      ((holding (some l) F t).machine input).finish := by
  cases hn : l.next? with
  | none => simp only [Machine.readOperator, machine, next?_some, hn, Option.map_none, ok_bind]
  | some item =>
    obtain ⟨token, k⟩ := item
    obtain ⟨other, free, hc, ha⟩ := halted token (TokenView.head?_rest hn)
    rw [readOperator_unclaimed input t hn other free, branch_halted input t hc ha]

end Operator

variable [TokenKind K] {operand : Reader (Except Fault) (TokenList K) α} (input : TokenList K)

theorem Transition.step {c c' : Configuration g} (h : Transition operand c c') :
    (c.machine input).step operand = .ok (.going (c'.machine input)) := by
  cases h with
  | prefixed next found =>
    simp only [Machine.step, machine, Machine.readOperand, Machine.opening?, next?_some, next,
      Option.map_some, ok_bind, found, pure_eq_ok, ofExcept_eq]
    rfl
  | empty next other found allowed after stop =>
    simp only [Machine.step, machine, Machine.readOperand, Machine.opening?, next?_some, next,
      Option.map_some, ok_bind, other, found, afterEmpty_some allowed after stop, pure_eq_ok,
      ofExcept_eq]
    rfl
  | opened next other found filled =>
    simp only [Machine.step, machine, Machine.readOperand, Machine.opening?, next?_some, next,
      Option.map_some, ok_bind, other, found, afterEmpty_none filled, pure_eq_ok, ofExcept_eq]
    rfl
  | condition next other another found =>
    simp only [Machine.step, machine, Machine.readOperand, Machine.opening?, next?_some, next,
      Option.map_some, ok_bind, other, another, found, pure_eq_ok, ofExcept_eq]
    rfl
  | @operand l value location rest F plain read =>
    have hp := opening_plain input F plain
    simp only [machine] at hp
    simp only [Machine.step, machine, Machine.readOperand, hp, ofExcept_eq, ok_bind, read, pure_eq_ok]
    rfl
  | @infixed l k token op arms F t next found tight loose =>
    have hr := reduceWhile_onto (Stacks.bindsTighter op.precedence) arms F t
      (fun a ha ops => (bindsTighter_entries op.precedence a ops).trans (tight a ha)) loose
    rw [step_holding]
    simp only [Machine.readOperator, machine, next?_some, next, Option.map_some, ok_bind,
      found, hr]
    rfl
  | @separated l k token arms set opening before F t next other going found =>
    have inside := (innermost_onto arms (.group set opening before :: F)).trans
      (innermost_group set opening before F)
    rw [step_holding, readOperator_claimed input t next other inside, if_neg going, if_pos found]
    exact separate_group input token arms set opening before F t
  | @closed l k token arms set opening before F t next other stop checked =>
    have inside := (innermost_onto arms (.group set opening before :: F)).trans
      (innermost_group set opening before F)
    rw [step_holding, readOperator_claimed input t next other inside, if_pos stop,
      close_group input token, checked]
  | consequent next other free found =>
    rw [step_holding, readOperator_unclaimed input _ next other free]
    exact branch_consequent input _ _ _ _ found
  | alternative next other free another found nearest =>
    rw [step_holding, readOperator_unclaimed input _ next other free]
    exact branch_alternative input _ _ _ _ _ another found nearest

theorem step_failed {l : TokenView K} (F : List (Frame g)) (plain : PlainAt g l)
    {e : Failure (TokenList K)} (read : operand (some l) = .ok (.failure e)) :
    ((awaiting (some l) F).machine input).step operand = .ok (.done (.failure e)) := by
  have hp := opening_plain input F plain
  simp only [machine] at hp
  simp only [Machine.step, machine, Machine.readOperand, hp, ofExcept_eq, ok_bind, read, pure_eq_ok]

theorem step_faulted {l : TokenView K} (F : List (Frame g)) (plain : PlainAt g l) {fault : Fault}
    (read : operand (some l) = .error fault) :
    ((awaiting (some l) F).machine input).step operand = .error fault := by
  have hp := opening_plain input F plain
  simp only [machine] at hp
  simp only [Machine.step, machine, Machine.readOperand, hp, ofExcept_eq, ok_bind, read, error_bind]

end Parsing.Expression

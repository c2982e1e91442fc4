import Mathlib.Logic.Relation
import Parsing.Proofs.Expression.Configurations
import Parsing.Proofs.Expression.Kinds

namespace Parsing.Expression

open Frames Expression.Configuration

variable {K α : Type} {g : Grammar K α}

section Unwinding

namespace Tree

def arms : Tree g → List (Arm g)
  | .infixed op token left right => right.arms ++ [.infixed op token left]
  | .prefixed op token inner => inner.arms ++ [.prefixed op token]
  | .ifThen choice ifToken thenToken condition yes =>
    yes.arms ++ [.consequent choice ifToken thenToken condition]
  | .ifThenElse choice ifToken thenToken elseToken condition yes no =>
    no.arms ++ [.alternative choice ifToken thenToken elseToken condition yes]
  | .operand _ _ | .empty _ _ _ | .grouped _ _ _ _ _ => []

def core : Tree g → Tree g
  | .infixed _ _ _ right => right.core
  | .prefixed _ _ inner => inner.core
  | .ifThen _ _ _ _ yes => yes.core
  | .ifThenElse _ _ _ _ _ _ no => no.core
  | t => t

@[simp] theorem arms_plug (a : Arm g) (t : Tree g) : (a.plug t).arms = t.arms ++ [a] := by
  cases a <;> rfl

@[simp] theorem core_plug (a : Arm g) (t : Tree g) : (a.plug t).core = t.core := by
  cases a <;> rfl

theorem plugAll_arms (t : Tree g) : Arm.plugAll t.arms t.core = t := by
  induction t using Tree.arms.induct with
  | case1 op token left right ih => rw [arms, core, Arm.plugAll_append, ih]; rfl
  | case2 op token inner ih => rw [arms, core, Arm.plugAll_append, ih]; rfl
  | case3 choice ifToken thenToken condition yes ih => rw [arms, core, Arm.plugAll_append, ih]; rfl
  | case4 choice ifToken thenToken elseToken condition yes no ih =>
    rw [arms, core, Arm.plugAll_append, ih]; rfl
  | case5 => rfl
  | case6 => rfl
  | case7 => rfl

theorem rightSpine_core (t : Tree g) : t.core.rightSpine = [] := by
  induction t using Tree.arms.induct with
  | case1 op token left right ih => exact ih
  | case2 op token inner ih => exact ih
  | case3 choice ifToken thenToken condition yes ih => exact ih
  | case4 choice ifToken thenToken elseToken condition yes no ih => exact ih
  | case5 => rfl
  | case6 => rfl
  | case7 => rfl

theorem node_mem_rightSpine {t : Tree g} {a : Arm g} (h : a ∈ t.arms) : a.node ∈ t.rightSpine := by
  have hs : t.rightSpine = (t.arms.map Arm.node).reverse := by
    conv_lhs => rw [← plugAll_arms t, Arm.rightSpine_plugAll, rightSpine_core, List.append_nil]
  rw [hs, List.mem_reverse]
  exact List.mem_map_of_mem h

end Tree

end Unwinding

section Groupings

def Known (F : List (Frame g)) : Prop :=
  ∀ set, innermost (operators F) = some set → set ∈ g.groupings

theorem known_arm {a : Arm g} {F : List (Frame g)} (h : Known F) : Known (.arm a :: F) := by
  intro set hs
  exact h set ((innermost_onto [a] F).symm.trans hs)

theorem known_group {set : Grouping K α} (hs : set ∈ g.groupings) (opening : Token K)
    (before : Series g) (F : List (Frame g)) : Known (.group set opening before :: F) := by
  intro other ho
  obtain rfl : set = other := by simpa using ho
  exact hs

theorem known_condition {choice : Fin g.conditionals.length} {token : Token K} {F : List (Frame g)}
    (h : Known F) : Known (.condition choice token :: F) :=
  fun set hs => h set hs

theorem unclaimed_of_known (unambiguous : g.Unambiguous) {F : List (Frame g)} (h : Known F)
    {kind : K} (hk : kind ∈ g.conditionalKinds) (arms : List (Arm g)) : Unclaimed (onto arms F) kind := by
  intro set hs
  rw [innermost_onto] at hs
  have hn : kind ∉ g.kindsOf .grouping :=
    unambiguous.notMem (r := .conditional) hk (by decide)
  constructor
  · rintro rfl
    exact hn (Grammar.grouping_kinds_mem (h set hs) (by simp))
  · intro hm
    exact hn (Grammar.grouping_kinds_mem (h set hs) (by simp [hm]))

end Groupings

section Walking

variable [DecidableEq K] (operand : Reader (Except Fault) (TokenList K) α)

def Walks (F : List (Frame g)) (t : Tree g) (l k : TokenView K) : Prop :=
  Relation.ReflTransGen (Transition operand) (.awaiting (some l) F)
    (.holding (some k) (onto t.arms F) t.core)

variable {operand}

theorem walks_operand {value : α} {tokens : List (Token K)} {l k : TokenView K} (F : List (Frame g))
    (h : Tree.Spans (g := g) operand (.operand value tokens) l k) :
    Walks operand F (.operand value tokens) l k := by
  obtain ⟨hplain, ⟨location, read⟩, hr⟩ := h
  have plain : PlainAt g l := fun token ht => Grammar.not_starts_iff.mp (hplain token ht)
  have move : Transition operand (.awaiting (some l) F) _ := .operand plain read
  have ht : l.rest.take (TokenList.index (some k) - l.index) = tokens := hr.tokens_eq
  rw [ht] at move
  exact .single move

theorem walks_empty (unambiguous : g.Unambiguous) {set : Grouping K α} {opening closing : Token K}
    {l k : TokenView K} (F : List (Frame g))
    (h : Tree.Spans (g := g) operand (.empty set opening closing) l k) :
    Walks operand F (.empty set opening closing) l k := by
  obtain ⟨m, next, after, hs, hstart, allowed, hstop⟩ := h
  have hrole : opening.kind ∈ g.kindsOf .grouping :=
    Grammar.grouping_kinds_mem hs (by simp [hstart])
  have found : g.groupingOf opening.kind = some set := hstart ▸ unambiguous.groupingOf_start hs
  exact .single (.empty next (unambiguous.prefixOf_eq_none hrole (by decide)) found allowed after
    hstop.symm)

theorem Walks.plug {a : Arm g} {F : List (Frame g)} {t : Tree g} {l m k : TokenView K}
    (before : Relation.ReflTransGen (Transition operand) (.awaiting (some l) F)
      (.awaiting (some m) (.arm a :: F)))
    (h : Walks operand (.arm a :: F) t m k) : Walks operand F (a.plug t) l k := by
  rw [Walks, Tree.arms_plug, Tree.core_plug, onto_append]
  exact before.trans h

theorem Walks.infixed (unambiguous : g.Unambiguous) {op : InfixOperator α} {token : Token K}
    {left right : Tree g} {F : List (Frame g)} {l m n k : TokenView K} (hl : Walks operand F left l m)
    (next : m.next? = some (token, n)) (kind : g.InfixKind token.kind op)
    (tight : ∀ p ∈ left.rightSpine, p.Outbinds op)
    (loose : Stacks.bindsTighter op.precedence (operators F) = false)
    (hr : Walks operand (.arm (.infixed op token left) :: F) right n k) :
    Walks operand F (.infixed op token left right) l k := by
  have htight : ∀ a ∈ left.arms, Stacks.bindsTighter op.precedence a.entries = true := fun a ha =>
    (bindsTighter_iff op a).mpr (tight a.node (Tree.node_mem_rightSpine ha))
  have move : Transition operand (.holding (some m) (onto left.arms F) left.core) _ :=
    .infixed next (unambiguous.infixOf_of_kind kind) htight loose
  rw [Tree.plugAll_arms] at move
  exact .plug (a := .infixed op token left) (hl.tail move) hr

theorem Walks.prefixed (unambiguous : g.Unambiguous) {op : PrefixOperator α} {token : Token K}
    {inner : Tree g} {F : List (Frame g)} {l m k : TokenView K} (next : l.next? = some (token, m))
    (kind : g.PrefixKind token.kind op) (h : Walks operand (.arm (.prefixed op token) :: F) inner m k) :
    Walks operand F (.prefixed op token inner) l k :=
  .plug (a := .prefixed op token)
    (.single (.prefixed next (unambiguous.prefixOf_of_kind kind))) h

theorem Walks.condition (unambiguous : g.Unambiguous) {choice : Fin g.conditionals.length}
    {ifToken thenToken : Token K} {condition : Tree g} {F : List (Frame g)} {l m n k : TokenView K}
    (known : Known F) (first : l.next? = some (ifToken, m))
    (hi : (g.conditionals.get choice).ifKind = ifToken.kind)
    (h : Walks operand (.condition choice ifToken :: F) condition m n)
    (next : n.next? = some (thenToken, k))
    (ht : (g.conditionals.get choice).thenKind = thenToken.kind) :
    Relation.ReflTransGen (Transition operand) (.awaiting (some l) F)
      (.awaiting (some k) (.arm (.consequent choice ifToken thenToken condition) :: F)) := by
  have hir : ifToken.kind ∈ g.kindsOf .conditional :=
    Grammar.conditional_kinds_mem (hi ▸ Conditional.ifKind_mem _)
  have htr : thenToken.kind ∈ g.kindsOf .conditional :=
    Grammar.conditional_kinds_mem (ht ▸ Conditional.thenKind_mem _)
  have opened : Transition operand (.awaiting (some l) F) _ :=
    .condition first (unambiguous.prefixOf_eq_none hir (by decide))
      (unambiguous.groupingOf_eq_none hir (by decide)) (hi ▸ unambiguous.ifOf_kind choice)
  have branch : Transition operand
      (.holding (some n) (onto condition.arms (.condition choice ifToken :: F)) condition.core) _ :=
    .consequent next (unambiguous.infixOf_eq_none htr (by decide))
      (unclaimed_of_known unambiguous (known_condition known) htr condition.arms)
      (ht ▸ unambiguous.thenOf_kind choice)
  rw [Tree.plugAll_arms] at branch
  exact .head opened (h.tail branch)

theorem Walks.alternative (unambiguous : g.Unambiguous) {choice : Fin g.conditionals.length}
    {ifToken thenToken elseToken : Token K} {condition yes : Tree g} {F : List (Frame g)}
    {l m k : TokenView K} (known : Known F)
    (h : Walks operand (.arm (.consequent choice ifToken thenToken condition) :: F) yes l m)
    (next : m.next? = some (elseToken, k))
    (he : (g.conditionals.get choice).elseKind = elseToken.kind)
    (complete : ∀ other, .ifThen other ∉ yes.rightSpine) :
    Relation.ReflTransGen (Transition operand)
      (.awaiting (some l) (.arm (.consequent choice ifToken thenToken condition) :: F))
      (.awaiting (some k)
        (.arm (.alternative choice ifToken thenToken elseToken condition yes) :: F)) := by
  have hrole : elseToken.kind ∈ g.kindsOf .conditional :=
    Grammar.conditional_kinds_mem (he ▸ Conditional.elseKind_mem _)
  have nearest : ∀ a ∈ yes.arms, a.isConsequent = false := by
    intro a ha
    have hn := Tree.node_mem_rightSpine ha
    cases a with
    | consequent other => exact (complete other hn).elim
    | infixed => rfl
    | prefixed => rfl
    | alternative => rfl
  have another : g.thenOf elseToken.kind = none := he ▸ unambiguous.thenOf_elseKind choice
  have move : Transition operand (.holding (some m)
      (onto yes.arms (.arm (.consequent choice ifToken thenToken condition) :: F)) yes.core) _ :=
    .alternative next (unambiguous.infixOf_eq_none hrole (by decide))
      (unclaimed_of_known unambiguous (known_arm known) hrole yes.arms)
      (by simp [Branchless, another]) (he ▸ unambiguous.elseOf_kind choice) nearest
  rw [Tree.plugAll_arms] at move
  exact h.tail move

theorem Walks.separated (unambiguous : g.Unambiguous) {set : Grouping K α} (hs : set ∈ g.groupings)
    {opening separator : Token K} {before : Series g} {item : Tree g} {F : List (Frame g)}
    {l m k : TokenView K} (h : Walks operand (.group set opening before :: F) item l m)
    (next : m.next? = some (separator, k)) (found : separator.kind ∈ set.separators)
    (going : separator.kind ≠ set.stop) :
    Relation.ReflTransGen (Transition operand) (.awaiting (some l) (.group set opening before :: F))
      (.awaiting (some k) (.group set opening (.snoc before item separator) :: F)) := by
  have hrole : separator.kind ∈ g.kindsOf .grouping :=
    Grammar.grouping_kinds_mem hs (by simp [found])
  have move : Transition operand
      (.holding (some m) (onto item.arms (.group set opening before :: F)) item.core) _ :=
    .separated next (unambiguous.infixOf_eq_none hrole (by decide)) going found
  rw [Tree.plugAll_arms] at move
  exact h.tail move

theorem Walks.closed (unambiguous : g.Unambiguous) {set : Grouping K α} (hs : set ∈ g.groupings)
    {opening closing : Token K} {before : Series g} {last : Tree g} {F : List (Frame g)}
    {l m k : TokenView K} (h : Walks operand (.group set opening before :: F) last l m)
    (next : m.next? = some (closing, k)) (stop : set.stop = closing.kind)
    (checked : set.check (before.values ++ [last.value]) before.separators = none) :
    Relation.ReflTransGen (Transition operand) (.awaiting (some l) (.group set opening before :: F))
      (.holding (some k) F (.grouped set opening before last closing)) := by
  have hrole : closing.kind ∈ g.kindsOf .grouping :=
    Grammar.grouping_kinds_mem hs (by simp [stop])
  have move : Transition operand
      (.holding (some m) (onto last.arms (.group set opening before :: F)) last.core) _ :=
    .closed next (unambiguous.infixOf_eq_none hrole (by decide)) stop.symm
      (by rw [Tree.plugAll_arms, checked])
  rw [Tree.plugAll_arms] at move
  exact h.tail move

end Walking

end Parsing.Expression

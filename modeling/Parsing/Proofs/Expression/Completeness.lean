import Parsing.Proofs.Expression.Soundness
import Parsing.Proofs.Expression.Walks

namespace Parsing.Expression

open Frames Expression.Configuration

variable {K α : Type} {g : Grammar K α}

section Walking

variable [DecidableEq K] {operand : Reader (Except Fault) (TokenList K) α}

mutual

theorem Tree.Spans.walks (unambiguous : g.Unambiguous) : ∀ {t : Tree g} {l k : TokenView K},
    t.Spans operand l k → t.Canonical → ∀ {F : List (Frame g)}, Admitted F t.leftSpine → Known F →
      Walks operand F t l k
  | .operand _ _, _, _, h, _, F, _, _ => walks_operand F h
  | .empty _ _ _, _, _, h, _, F, _, _ => walks_empty unambiguous F h
  | .infixed op token left right, l, k, h, hc, F, hF, known => by
    obtain ⟨m, n, hl, next, kind, hr⟩ := h
    obtain ⟨hlc, hrc, tight, hfree⟩ := hc
    obtain ⟨loose, hF⟩ := admitted_cons.mp hF
    have hleft := hl.walks unambiguous hlc hF known
    have hright := hr.walks unambiguous hrc
      (admitted_arm (a := .infixed op token left).mpr hfree) (known_arm known)
    exact hleft.infixed unambiguous next kind tight loose hright
  | .prefixed op token inner, l, k, h, hc, F, hF, known => by
    obtain ⟨m, next, kind, hs⟩ := h
    have hfree : Admitted (.arm (.prefixed op token) :: F) inner.leftSpine :=
      admitted_arm.mpr fun p hp => Int.not_lt.mpr (hc.2 p hp)
    exact (hs.walks unambiguous hc.1 hfree (known_arm known)).prefixed unambiguous next kind
  | .grouped set opening before last closing, l, k, h, hc, F, _, _ => by
    obtain ⟨m, n, p, next, hs, hstart, filled, hb, hl, after, stop, checked⟩ := h
    have hrole : opening.kind ∈ g.kindsOf .grouping :=
      Grammar.grouping_kinds_mem hs (by simp [hstart])
    have opened : Transition operand (.awaiting (some l) F) _ :=
      .opened next (unambiguous.prefixOf_eq_none hrole (by decide))
        (hstart ▸ unambiguous.groupingOf_start hs) filled
    have hbefore := hb.walks unambiguous hs hc.1 opening F
    have hlast := hl.walks unambiguous hc.2 (admitted_group set opening before F _)
      (known_group hs opening before F)
    exact (Relation.ReflTransGen.head opened hbefore).trans
      (hlast.closed unambiguous hs after stop checked)
  | .ifThen choice ifToken thenToken condition yes, l, k, h, hc, F, _, known => by
    obtain ⟨m, n, p, first, hi, hcond, next, ht, hy⟩ := h
    have hcondition := hcond.walks unambiguous hc.1 (admitted_condition choice ifToken F _)
      (known_condition known)
    have hyes := hy.walks unambiguous hc.2
      (admitted_consequent choice ifToken thenToken condition F _) (known_arm known)
    exact hyes.plug (hcondition.condition unambiguous known first hi next ht)
  | .ifThenElse choice ifToken thenToken elseToken condition yes no, l, k, h, hc, F, _, known => by
    obtain ⟨m, n, p, q, r, first, hi, hcond, next, ht, hy, after, he, hn⟩ := h
    obtain ⟨hcc, hyc, hnc, complete⟩ := hc
    have hcondition := hcond.walks unambiguous hcc (admitted_condition choice ifToken F _)
      (known_condition known)
    have hyes := hy.walks unambiguous hyc
      (admitted_consequent choice ifToken thenToken condition F _) (known_arm known)
    have hno := hn.walks unambiguous hnc
      (admitted_alternative choice ifToken thenToken elseToken condition yes F _) (known_arm known)
    exact hno.plug ((hcondition.condition unambiguous known first hi next ht).trans
      (hyes.alternative unambiguous known after he complete))

theorem Series.Spans.walks (unambiguous : g.Unambiguous) {set : Grouping K α}
    (hs : set ∈ g.groupings) : ∀ {before : Series g} {l k : TokenView K},
    before.Spans operand set l k → before.Canonical → ∀ (opening : Token K) (F : List (Frame g)),
      Relation.ReflTransGen (Transition operand) (.awaiting (some l) (.group set opening .nil :: F))
        (.awaiting (some k) (.group set opening before :: F))
  | .nil, _, _, h, _, _, _ => h ▸ .refl
  | .snoc before item separator, l, k, h, hc, opening, F => by
    obtain ⟨m, n, hb, hi, next, found, going⟩ := h
    have hbefore := hb.walks unambiguous hs hc.1 opening F
    have hitem := hi.walks unambiguous hc.2 (admitted_group set opening before F _)
      (known_group hs opening before F)
    exact hbefore.trans (hitem.separated unambiguous hs next found going)

end

end Walking

section Runs

variable [DecidableEq K] [TokenKind K]

/-- The machine reads every canonical expression that cannot go on where it ends, and it never stops
before the end of a canonical expression. -/
theorem expression_complete (definitions : List (Definition K α)) (g : Grammar K α)
    (accepted : Grammar.ofDefinitions definitions = .ok g)
    (operand : Reader (Except Fault) (TokenList K) α) (forward : ForwardOnly operand) (t : Tree g)
    (l k : TokenView K) (spans : t.Spans operand l k) (canonical : t.Canonical) :
    (t.EndsAt k → expression operand g (some l) = .ok (.success t.value (some l) (some k))) ∧
      ∀ value location remainder,
        expression operand g (some l) = .ok (.success value location remainder) →
          k.index ≤ remainder.index := by
  have unambiguous := Grammar.unambiguous_of_definitions accepted
  have walk : Walks operand [] t l k :=
    spans.walks unambiguous canonical (fun _ _ => rfl) (fun _ hs => nomatch hs)
  constructor
  · intro ends
    have halted : HaltedAt (onto t.arms []) k := by
      rw [halted_iff unambiguous t.rightSpine_core, t.plugAll_arms]
      exact ends
    have answer := (Answers.of_halted (some l) t.core halted).of_moves forward walk
    rw [t.plugAll_arms] at answer
    exact answer.expression_eq
  · intro value location remainder success
    obtain ⟨steps, -, hs⟩ := run_of_moves forward walk (Nat.le_refl _)
    rw [expression_eq, hs] at success
    obtain ⟨s, hreach, hdone⟩ := exists_done success
    obtain ⟨c, rfl, moves⟩ := exists_configuration hreach
    have hle := index_le_of_moves forward moves
    have ho : Outcome operand (some l) c _ := step_outcome (some l) c
    rw [hdone] at ho
    cases ho with
    | finished config halted =>
      subst config
      exact hle

-- `-1 - 2`, where the operator before a digit binds tighter than the one between digits.
def difference : Tree calculator :=
  .infixed ⟨1, .left, fun a b => a - b⟩ (mark "-")
    (.prefixed ⟨2, fun a => -a⟩ (mark "-") (.operand 1 [mark "1"])) (.operand 2 [mark "2"])

theorem expression_complete_difference :
    expression digit calculator (some (marks ["-", "1", "-", "2", "then"] 0)) =
      .ok (.success (-3) (some (marks ["-", "1", "-", "2", "then"] 0))
        (some (marks ["-", "1", "-", "2", "then"] 4))) := by
  have one : (Tree.operand 1 [mark "1"] : Tree calculator).Spans digit
      (marks ["-", "1", "-", "2", "then"] 1) (marks ["-", "1", "-", "2", "then"] 2) := by
    refine ⟨?_, ⟨_, rfl⟩, rfl, rfl, rfl, rfl⟩
    rintro token ⟨⟩
    exact Grammar.not_starts_iff.mpr ⟨rfl, rfl, rfl⟩
  have two : (Tree.operand 2 [mark "2"] : Tree calculator).Spans digit
      (marks ["-", "1", "-", "2", "then"] 3) (marks ["-", "1", "-", "2", "then"] 4) := by
    refine ⟨?_, ⟨_, rfl⟩, rfl, rfl, rfl, rfl⟩
    rintro token ⟨⟩
    exact Grammar.not_starts_iff.mpr ⟨rfl, rfl, rfl⟩
  have spans : difference.Spans digit (marks ["-", "1", "-", "2", "then"] 0)
      (marks ["-", "1", "-", "2", "then"] 4) :=
    ⟨_, _, ⟨_, rfl, Grammar.prefixOf_eq_some rfl, one⟩, rfl, Grammar.infixOf_eq_some rfl, two⟩
  have canonical : difference.Canonical := by
    simp [difference, Tree.Canonical, Tree.rightSpine, Tree.leftSpine, Node.Outbinds]
  have ends : difference.EndsAt (marks ["-", "1", "-", "2", "then"] 4) := by
    rintro token ⟨⟩
    refine ⟨fun op h => ?_, by rintro choice ⟨⟩⟩
    exact Grammar.infixOf_eq_none.mp rfl (Grammar.mem_infixKinds.mpr ⟨op, h⟩)
  exact (expression_complete calculatorDefinitions calculator rfl digit forwardOnly_digit difference _ _
    spans canonical).1 ends

end Runs

end Parsing.Expression

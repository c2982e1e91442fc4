import Parsing.Proofs.Expression.Acceptance
import Parsing.Proofs.Expression.Runs

namespace Parsing.Expression

open Frames Expression.Configuration

variable {K α : Type} {g : Grammar K α}

section Arms

namespace Arm

def Spans (operand : Reader (Except Fault) (TokenList K) α) (l k : TokenView K) : Arm g → Prop
  | .infixed op token left =>
    ∃ m, left.Spans operand l m ∧ m.next? = some (token, k) ∧ g.InfixKind token.kind op
  | .prefixed op token => l.next? = some (token, k) ∧ g.PrefixKind token.kind op
  | .consequent choice ifToken thenToken condition =>
    ∃ m n, l.next? = some (ifToken, m) ∧ (g.conditionals.get choice).ifKind = ifToken.kind ∧
      condition.Spans operand m n ∧ n.next? = some (thenToken, k) ∧
      (g.conditionals.get choice).thenKind = thenToken.kind
  | .alternative choice ifToken thenToken elseToken condition yes =>
    ∃ m n p q, l.next? = some (ifToken, m) ∧ (g.conditionals.get choice).ifKind = ifToken.kind ∧
      condition.Spans operand m n ∧ n.next? = some (thenToken, p) ∧
      (g.conditionals.get choice).thenKind = thenToken.kind ∧ yes.Spans operand p q ∧
      q.next? = some (elseToken, k) ∧ (g.conditionals.get choice).elseKind = elseToken.kind

def Canonical : Arm g → Prop
  | .infixed o _ left => left.Canonical ∧ ∀ p ∈ left.rightSpine, p.Outbinds o
  | .prefixed _ _ => True
  | .consequent _ _ _ condition => condition.Canonical
  | .alternative _ _ _ _ condition yes => condition.Canonical ∧ yes.Canonical ∧
      ∀ choice, .ifThen choice ∉ yes.rightSpine

theorem plug_spans {operand : Reader (Except Fault) (TokenList K) α} {a : Arm g} {t : Tree g}
    {l m k : TokenView K} (ha : a.Spans operand l m) (ht : t.Spans operand m k) :
    (a.plug t).Spans operand l k := by
  cases a with
  | infixed op token left =>
    obtain ⟨n, hl, hn, hk⟩ := ha
    exact ⟨n, m, hl, hn, hk, ht⟩
  | prefixed op token =>
    obtain ⟨hn, hk⟩ := ha
    exact ⟨m, hn, hk, ht⟩
  | consequent choice ifToken thenToken condition =>
    obtain ⟨n, p, hi, hik, hc, hn, hk⟩ := ha
    exact ⟨n, p, m, hi, hik, hc, hn, hk, ht⟩
  | alternative choice ifToken thenToken elseToken condition yes =>
    obtain ⟨n, p, q, r, hi, hik, hc, hn, htk, hy, he, hek⟩ := ha
    exact ⟨n, p, q, r, m, hi, hik, hc, hn, htk, hy, he, hek, ht⟩

theorem plug_canonical {a : Arm g} {t : Tree g} (ha : a.Canonical) (ht : t.Canonical)
    (free : ∀ p ∈ t.leftSpine, ¬ a.node.Outbinds p) : (a.plug t).Canonical := by
  cases a with
  | infixed op token left => exact ⟨ha.1, ht, ha.2, free⟩
  | prefixed op token => exact ⟨ht, fun p hp => Int.not_lt.mp (free p hp)⟩
  | consequent choice ifToken thenToken condition => exact ⟨ha, ht⟩
  | alternative choice ifToken thenToken elseToken condition yes => exact ⟨ha.1, ha.2.1, ht, ha.2.2⟩

end Arm

end Arms

section Frames

variable (operand : Reader (Except Fault) (TokenList K) α) (start : TokenView K)

def Frame.Spans (l k : TokenView K) : Frame g → Prop
  | .arm a => a.Spans operand l k ∧ a.Canonical
  | .group set opening before =>
    ∃ m, l.next? = some (opening, m) ∧ set ∈ g.groupings ∧ set.start = opening.kind ∧
      (set.allowEmpty → ∀ token ∈ m.rest.head?, token.kind ≠ set.stop) ∧
      before.Spans operand set m k ∧ before.Canonical
  | .condition choice token =>
    l.next? = some (token, k) ∧ (g.conditionals.get choice).ifKind = token.kind

def Frame.leftSpine : Frame g → List (InfixOperator α)
  | .arm a => a.leftSpine
  | .group _ _ _ | .condition _ _ => []

def FramesSpan : List (Frame g) → TokenView K → Prop
  | [], l => start = l
  | f :: F, l => ∃ m, FramesSpan F m ∧ f.Spans operand m l ∧ Admitted F f.leftSpine

def Covers (F : List (Frame g)) (t : Tree g) (k : TokenView K) : Prop :=
  ∃ m, FramesSpan operand start F m ∧ t.Spans operand m k ∧ t.Canonical ∧ Admitted F t.leftSpine

variable {operand start}

theorem Covers.plug {a : Arm g} {F : List (Frame g)} {t : Tree g} {k : TokenView K}
    (h : Covers operand start (.arm a :: F) t k) : Covers operand start F (a.plug t) k := by
  obtain ⟨m, ⟨n, hF, ⟨hs, hc⟩, hl⟩, ht, htc, hfree⟩ := h
  refine ⟨n, hF, Arm.plug_spans hs ht, Arm.plug_canonical hc htc (admitted_arm.mp hfree), ?_⟩
  rw [Arm.leftSpine_plug]
  exact hl

theorem Covers.plugAll {arms : List (Arm g)} {F : List (Frame g)} {t : Tree g} {k : TokenView K}
    (h : Covers operand start (onto arms F) t k) :
    Covers operand start F (Arm.plugAll arms t) k := by
  induction arms generalizing t with
  | nil => exact h
  | cons a arms ih => exact ih h.plug

theorem outbinds_plugAll {arms : List (Arm g)} {t : Tree g} (ht : t.rightSpine = [])
    {o : InfixOperator α} (h : ∀ a ∈ arms, a.node.Outbinds o) :
    ∀ p ∈ (Arm.plugAll arms t).rightSpine, p.Outbinds o := by
  intro p hp
  simp only [Arm.rightSpine_plugAll, ht, List.append_nil, List.mem_reverse, List.mem_map] at hp
  obtain ⟨a, ha, rfl⟩ := hp
  exact h a ha

theorem complete_plugAll {arms : List (Arm g)} {t : Tree g} (ht : t.rightSpine = [])
    (h : ∀ a ∈ arms, a.isConsequent = false) (choice : Fin g.conditionals.length) :
    .ifThen choice ∉ (Arm.plugAll arms t).rightSpine := by
  simp only [Arm.rightSpine_plugAll, ht, List.append_nil, List.mem_reverse, List.mem_map]
  rintro ⟨a, ha, he⟩
  have hc := h a ha
  cases a with
  | consequent => cases hc
  | infixed => cases he
  | prefixed => cases he
  | alternative => cases he

end Frames

section Moves

variable (operand : Reader (Except Fault) (TokenList K) α) (start : TokenView K)

def Configuration.Sound : Configuration g → Prop
  | .awaiting remainder F => ∃ l, remainder = some l ∧ FramesSpan operand start F l
  | .holding remainder F t =>
    ∃ l, remainder = some l ∧ Covers operand start F t l ∧ t.rightSpine = []

variable {operand start} [DecidableEq K]

theorem Transition.sound (forward : ForwardOnly operand) {c c' : Configuration g}
    (move : Transition operand c c') (h : c.Sound operand start) : c'.Sound operand start := by
  cases move with
  | prefixed next found =>
    obtain ⟨_, ⟨⟩, hF⟩ := h
    exact ⟨_, rfl, _, hF, ⟨⟨next, Grammar.prefixOf_eq_some found⟩, trivial⟩, admitted_nil _⟩
  | empty next other found allowed after stop =>
    obtain ⟨_, ⟨⟩, hF⟩ := h
    obtain ⟨hs, hk⟩ := Grammar.groupingOf_eq_some found
    exact ⟨_, rfl, ⟨_, hF, ⟨_, next, after, hs, hk, allowed, stop.symm⟩, trivial, admitted_nil _⟩,
      rfl⟩
  | opened next other found filled =>
    obtain ⟨_, ⟨⟩, hF⟩ := h
    obtain ⟨hs, hk⟩ := Grammar.groupingOf_eq_some found
    exact ⟨_, rfl, _, hF, ⟨_, next, hs, hk, filled, rfl, trivial⟩, admitted_nil _⟩
  | condition next other another found =>
    obtain ⟨_, ⟨⟩, hF⟩ := h
    exact ⟨_, rfl, _, hF, ⟨next, Grammar.kind_of_findChoice found⟩, admitted_nil _⟩
  | @operand l value location rest F plain read =>
    obtain ⟨_, ⟨⟩, hF⟩ := h
    obtain ⟨tokens, k, rfl, hr⟩ := forward _ _ _ _ read
    have ht : l.rest.take (TokenList.index (some k) - l.index) = tokens := hr.tokens_eq
    have hp : ∀ token ∈ l.rest.head?, ¬ g.Starts token.kind := fun token h' =>
      Grammar.not_starts_iff.mpr (plain token h')
    exact ⟨k, rfl, ⟨l, hF, ⟨hp, ⟨_, read⟩, ht ▸ hr⟩, trivial, admitted_nil _⟩, rfl⟩
  | infixed next found tight loose =>
    obtain ⟨_, ⟨⟩, hc, hs⟩ := h
    -- The arms that were filled bind tighter than the operator, and the frame below them does not.
    obtain ⟨m, hF, ht, htc, hfree⟩ := hc.plugAll
    have hout := outbinds_plugAll hs fun a ha => (bindsTighter_iff _ a).mp (tight a ha)
    exact ⟨_, rfl, m, hF, ⟨⟨_, ht, next, Grammar.infixOf_eq_some found⟩, htc, hout⟩,
      admitted_cons.mpr ⟨loose, hfree⟩⟩
  | separated next other going found =>
    obtain ⟨_, ⟨⟩, hc, -⟩ := h
    obtain ⟨m, ⟨n, hF, ⟨p, ho, hs, hk, hfill, hb, hbc⟩, hl⟩, ht, htc, -⟩ := hc.plugAll
    exact ⟨_, rfl, n, hF, ⟨p, ho, hs, hk, hfill, ⟨_, _, hb, ht, next, found, going⟩, hbc, htc⟩, hl⟩
  | closed next other stop checked =>
    obtain ⟨_, ⟨⟩, hc, -⟩ := h
    obtain ⟨m, ⟨n, hF, ⟨p, ho, hs, hk, hfill, hb, hbc⟩, -⟩, ht, htc, -⟩ := hc.plugAll
    exact ⟨_, rfl, ⟨n, hF, ⟨_, _, _, ho, hs, hk, hfill, hb, ht, next, stop.symm, checked⟩,
      ⟨hbc, htc⟩, admitted_nil _⟩, rfl⟩
  | consequent next other free found =>
    obtain ⟨_, ⟨⟩, hc, -⟩ := h
    obtain ⟨m, ⟨n, hF, ⟨hi, hk⟩, -⟩, ht, htc, -⟩ := hc.plugAll
    exact ⟨_, rfl, n, hF, ⟨⟨_, _, hi, hk, ht, next, Grammar.kind_of_findChoice found⟩, htc⟩,
      admitted_nil _⟩
  | alternative next other free another found nearest =>
    obtain ⟨_, ⟨⟩, hc, hs⟩ := h
    obtain ⟨m, ⟨n, hF, ⟨⟨p, q, hi, hik, hcond, ht, htk⟩, hcc⟩, -⟩, hy, hyc, -⟩ := hc.plugAll
    exact ⟨_, rfl, n, hF, ⟨⟨_, _, _, _, hi, hik, hcond, ht, htk, hy, next,
      Grammar.kind_of_findChoice found⟩, hcc, hyc, complete_plugAll hs nearest⟩, admitted_nil _⟩

theorem sound_of_moves (forward : ForwardOnly operand) {c : Configuration g}
    (moves : Relation.ReflTransGen (Transition operand) (.awaiting (some start) []) c) :
    c.Sound operand start := by
  induction moves with
  | refl => exact ⟨start, rfl, rfl⟩
  | tail _ move ih => exact move.sound forward ih

end Moves

section Runs

variable [DecidableEq K]

theorem halted_iff (unambiguous : g.Unambiguous) {t : Tree g} (ht : t.rightSpine = [])
    (arms : List (Arm g)) (k : TokenView K) :
    HaltedAt (onto arms []) k ↔ (Arm.plugAll arms t).EndsAt k := by
  have hfree (kind : K) : Unclaimed (onto arms ([] : List (Frame g))) kind := by
    simp [Unclaimed, operators, innermost]
  have hthen (found : Option (Fin g.conditionals.length)) :
      Branchless (onto arms []) .consequent found := by
    simp [Branchless, belongs_consequent_onto, operators, belongs_nil]
  have hkind (token : Token K) : g.infixOf token.kind = none ↔ ∀ op, ¬ g.InfixKind token.kind op := by
    rw [Grammar.infixOf_eq_none, Grammar.mem_infixKinds, not_exists]
  constructor
  · intro h token hk
    obtain ⟨hi, -, -, he⟩ := h token hk
    refine ⟨(hkind token).mp hi, ?_⟩
    intro choice ho hc
    have hb := (belongs_iff_openBranch ht arms choice).mpr ho
    rw [he choice (hc ▸ unambiguous.elseOf_kind choice)] at hb
    cases hb
  · intro h token hk
    obtain ⟨hi, ho⟩ := h token hk
    refine ⟨(hkind token).mpr hi, hfree _, hthen _, ?_⟩
    intro choice hc
    by_contra hb
    have ho := ho choice ((belongs_iff_openBranch ht arms choice).mp (by simpa using hb))
    exact ho (Grammar.kind_of_findChoice hc).symm

variable [TokenKind K]

/-- A success of the machine is a canonical expression over exactly the tokens that were read, with its
value, and the expression cannot go on where the machine stopped. -/
theorem expression_sound (definitions : List (Definition K α)) (g : Grammar K α)
    (accepted : Grammar.ofDefinitions definitions = .ok g)
    (operand : Reader (Except Fault) (TokenList K) α) (forward : ForwardOnly operand)
    (input location remainder : TokenList K) (value : α)
    (success : expression operand g input = .ok (.success value location remainder)) :
    ∃ (l k : TokenView K) (t : Tree g), input = some l ∧ location = some l ∧ remainder = some k ∧
      t.Spans operand l k ∧ l.Reads t.tokens k ∧ t.value = value ∧ t.Canonical ∧ t.EndsAt k := by
  have unambiguous := Grammar.unambiguous_of_definitions accepted
  cases input with
  | none => cases success
  | some l =>
    obtain ⟨s, hreach, hdone⟩ := exists_done success
    obtain ⟨c, rfl, moves⟩ := exists_start hreach
    have hsound := sound_of_moves forward moves
    have ho : Outcome operand (some l) c _ := step_outcome (some l) c
    rw [hdone] at ho
    cases ho with
    | @finished k arms t config halted =>
      subst config
      obtain ⟨_, ⟨⟩, hc, hs⟩ := hsound
      obtain ⟨m, hF, ht, htc, -⟩ := hc.plugAll
      obtain rfl : l = m := hF
      exact ⟨l, k, Arm.plugAll arms t, rfl, rfl, rfl, ht, ht.reads, rfl, htc,
        (halted_iff unambiguous hs arms k).mp halted⟩

theorem expression_sound_calculator :
    ∃ (l k : TokenView Kind) (t : Tree calculator), l = marks ["-", "2", "^", "2", "-", "1", "]"] 0 ∧
      t.Spans digit l k ∧ t.value = -5 ∧ t.Canonical ∧ t.EndsAt k := by
  obtain ⟨l, k, t, hl, -, -, spans, -, value, canonical, ends⟩ :=
    expression_sound calculatorDefinitions calculator rfl digit forwardOnly_digit
      (some (marks ["-", "2", "^", "2", "-", "1", "]"] 0)) _ _ (-5) rfl
  exact ⟨l, k, t, (Option.some.inj hl).symm, spans, value, canonical, ends⟩

end Runs

end Parsing.Expression

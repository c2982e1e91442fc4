import Parsing.Kind
import Parsing.Parser.Derived
import Parsing.Proofs.Remainder.Parser
import Parsing.Proofs.Text.Respect

namespace Parsing

theorem View.chars_first {v w : View} (h : v.chars = w.chars) (count : Nat) :
    (v.first count).chars = (w.first count).chars := by
  change v.chars.take count = w.chars.take count
  rw [h]

def Similarity.text : Similarity where
  Related v w := v.chars = w.chars
  chars := id
  reads := by
    intro v w v' w' cs h hv hw
    rw [hv.chars, hw.chars] at h
    exact List.append_cancel_left h
  first := View.chars_first

variable {K V : Type}

/-- The functions of the parser do not tell views of the same text apart: they look neither at positions nor
at the identity of a source. -/
def Parser.Blind (T : V → V → Prop) {α : Type} (R : α → α → Prop) (p : Parser K V .text α) : Prop :=
  p.Respects .text T R p

def Definitions.Blind (T : V → V → Prop) (definitions : Definitions K V) : Prop :=
  definitions.Respects .text T

variable [DecidableEq K] [TokenKind K]

/-- On two views of the same text a run succeeds with related values after the same characters, or it fails
after the same characters with the same report, or it raises the same fault. -/
theorem run_independent_of_context {definitions : Definitions K V} {T : V → V → Prop}
    (hd : definitions.Blind T) {α : Type} {R : α → α → Prop} {p : Parser K V .text α} (hp : p.Blind T R)
    {v w : View} (same : v.chars = w.chars) :
    (∃ a b cs v' w', p.run definitions (some v) = .ok (.success a (some v) (some v')) ∧
        p.run definitions (some w) = .ok (.success b (some w) (some w')) ∧
        R a b ∧ v.Reads cs v' ∧ w.Reads cs w') ∨
      (∃ e f cs v' w', p.run definitions (some v) = .ok (.failure e) ∧
        p.run definitions (some w) = .ok (.failure f) ∧
        e.remainder = some v' ∧ f.remainder = some w' ∧ v.Reads cs v' ∧ w.Reads cs w' ∧
        e.message = f.message ∧ e.expectations = f.expectations ∧ e.backtrack = f.backtrack ∧
        e.within.isSome = f.within.isSome) ∨
      ∃ e f, p.run definitions (some v) = .error e ∧ p.run definitions (some w) = .error f ∧
        e.unplaced = f.unplaced := by
  have concur := Parser.Respects.concur_run hd hp (v := v) (w := w) same
  have located := p.tracking_runDepth definitions (definitions.depth (i := .text) (some v)) (some v)
  have located' := p.tracking_runDepth definitions (definitions.depth (i := .text) (some w)) (some w)
  generalize hx : p.run definitions (some v) = x at concur
  generalize hy : p.run definitions (some w) = y at concur
  cases concur with
  | fault same => exact .inr (.inr ⟨_, _, rfl, rfl, same⟩)
  | ok replies =>
    cases replies with
    | @success a b location location' s t related rest =>
      obtain ⟨rfl, -⟩ := located _ hx
      obtain ⟨rfl, -⟩ := located' _ hy
      obtain ⟨hv, hw⟩ := rest
      exact .inl ⟨a, b, _, _, _, rfl, rfl, related, hv, hw⟩
    | @failure e f alike =>
      obtain ⟨remainder, within, message, expectations, backtrack⟩ := alike
      generalize hs : e.remainder = s at remainder
      generalize ht : f.remainder = t at remainder
      obtain ⟨hv, hw⟩ := remainder
      exact .inr (.inl ⟨e, f, _, _, _, rfl, rfl, hs, ht, hv, hw, message, expectations, backtrack, within⟩)

omit [DecidableEq K] [TokenKind K] in
theorem Parser.blind_chars (T : V → V → Prop) (cs : List Char) :
    (Parser.sequence (cs.map .char) : Parser K V .text (List Char)).Blind T Eq := by
  induction cs with
  | nil => exact .succeed rfl
  | cons c cs ih =>
    refine .map ?_ (.seq (.one _ _) ih)
    rintro ⟨a, as⟩ ⟨b, bs⟩ ⟨rfl, rfl⟩
    rfl

-- A word, and the same word again behind `=`.
def twice : Parser Kind View .text View :=
  .bind (.takeWhile (· ≠ '=') (some "word")) fun word =>
    .seqLeft (.succeed word) (.seq (.char '=') (.sequence (word.chars.map .char)))

theorem blind_twice : twice.Blind Similarity.text.Related Similarity.text.Related := by
  refine .bind (.takeWhile _ _) fun word word' same => ?_
  have chars : word.chars = word'.chars := same
  rw [chars]
  refine .map (R := fun x y => x.1.chars = y.1.chars ∧ x.2.1 = y.2.1 ∧ x.2.2 = y.2.2) ?_ ?_
  · rintro x y ⟨h, -⟩
    exact h
  · exact .seq (.succeed same) (.seq (.one _ _) (Parser.blind_chars _ _))

def twiceDefinition : Definitions Kind View :=
  ⟨[("twice", twice)], []⟩

def pairs : Parser Kind View .text (List View) :=
  .sepBy true (.reference "twice") (.char ';')

def pairsText : View :=
  .ofSource ⟨0, ['a', 'b', '=', 'a', 'b', ';', 'é', '=', 'é']⟩

-- The same text on the second line of another source, in which more follows.
def pairsInside : View :=
  ((View.ofSource ⟨1, ['?', '\n', 'a', 'b', '=', 'a', 'b', ';', 'é', '=', 'é', 'x', 'y']⟩).skip 2).first 9

theorem run_independent_of_context_pairs :
    pairs.run twiceDefinition (some pairsText) =
        .ok (.success [pairsText.first 2, (pairsText.skip 6).first 1] (some pairsText)
          (some (pairsText.skip 9))) ∧
      ∃ words rest, pairs.run twiceDefinition (some pairsInside) =
          .ok (.success words (some pairsInside) rest) ∧
        List.Forall₂ (fun v w => v.chars = w.chars) [pairsText.first 2, (pairsText.skip 6).first 1] words := by
  have here : pairs.run twiceDefinition (some pairsText) =
      .ok (.success [pairsText.first 2, (pairsText.skip 6).first 1] (some pairsText)
        (some (pairsText.skip 9))) := rfl
  have blind : twiceDefinition.Blind Similarity.text.Related := by
    intro name q found
    obtain rfl : twice = q := by
      change List.lookup name [("twice", twice)] = some q at found
      rw [List.lookup_cons] at found
      split at found
      · exact Option.some.inj found
      · cases found
    exact blind_twice
  have alike : pairs.Blind Similarity.text.Related (List.Forall₂ Similarity.text.Related) :=
    .sepBy true (.reference "twice") (.one _ _)
  refine ⟨here, ?_⟩
  rcases run_independent_of_context blind alike (v := pairsText) (w := pairsInside) rfl with
    ⟨a, b, cs, v, w, ha, hb, related, -⟩ | ⟨e, f, cs, v, w, he, -⟩ | ⟨e, f, he, -⟩
  · rw [here] at ha
    cases ha
    exact ⟨b, _, hb, related⟩
  · cases here.symm.trans he
  · cases here.symm.trans he

end Parsing

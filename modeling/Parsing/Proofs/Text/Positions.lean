import Parsing.Kind
import Parsing.Parser.Derived
import Parsing.Proofs.Remainder.Parser
import Parsing.Proofs.Text.Respect

namespace Parsing

theorem View.Derived.eq_of_reads {source : Source} {v w w' : View} {cs : List Char} (h : v.Derived source)
    (hw : v.Reads cs w) (hw' : v.Reads cs w') : w = w' ∧ w.Derived source :=
  ⟨hw.eq hw', h.reads hw⟩

def Similarity.derived (source : Source) : Similarity where
  Related v w := v = w ∧ v.Derived source
  chars := by
    rintro v _ ⟨rfl, -⟩
    rfl
  reads := by
    rintro v _ v' w' cs ⟨rfl, h⟩ hv hw
    exact h.eq_of_reads hv hw
  first := by
    rintro v _ ⟨rfl, h⟩ count
    exact ⟨rfl, h.first count⟩

theorem View.Derived.upTo_ne_badSlice {source : Source} {v next : View} (h : v.Derived source)
    (h' : next.Derived source) : v.upTo next ≠ .error .badSlice := by
  obtain ⟨before, after, located⟩ := h.located
  obtain ⟨before', after', located'⟩ := h'.located
  have hid : ¬v.source.id ≠ next.source.id := by simp [located.source, located'.source]
  intro bad
  by_cases outside : next.position.offset < v.position.offset ∨ v.stop < next.position.offset
  · rw [View.upTo, if_neg hid, if_pos outside] at bad
    cases bad
  · obtain ⟨w, hw⟩ := located.upTo located' (by omega) (by omega)
    cases hw.symm.trans bad

section Runs

variable {K V : Type} [DecidableEq K] [TokenKind K] {source : Source} {v : View}

omit [DecidableEq K] [TokenKind K] in
theorem View.Derived.leaves (h : v.Derived source) {rest : Input K .text}
    (hr : Input.Leaves (i := .text) (some v) rest) : ∃ w, rest = some w ∧ w.Derived source := by
  obtain ⟨cs, w, rfl, read⟩ := hr
  exact ⟨w, rfl, h.reads read⟩

theorem Parser.Respects.related_value {definitions : Definitions K V} {T : V → V → Prop}
    (hd : definitions.Respects (.derived source) T) {α : Type} {R : α → α → Prop} {p : Parser K V .text α}
    (hp : p.Respects (.derived source) T R p) (h : v.Derived source) {a : α} {location rest : Span}
    (returned : p.run definitions (some v) = .ok (.success a location rest)) : R a a := by
  have concur := hp.concur_run hd (v := v) (w := v) ⟨rfl, h⟩
  rw [returned] at concur
  cases concur with
  | ok replies =>
    cases replies with
    | success related rest => exact related

end Runs

/-- A view that was made from a source by taking parts begins and ends between characters of the source, and its
position counts what lies before it; so do the views that a parser leaves and that its values hold. -/
theorem positions_true {K V : Type} [DecidableEq K] [TokenKind K] (source : Source) :
    (∀ v : View, v.Derived source →
      (∃ before after, source.chars = before ++ v.chars ++ after ∧
        v.position.offset = byteLength before ∧ v.stop = byteLength (before ++ v.chars) ∧
        v.position.line = 1 + before.count '\n' ∧
        v.position.column = 1 + (before.reverse.takeWhile (· ≠ '\n')).length) ∧
      v.source = source ∧ source.slice v.position.offset v.stop = .ok v.text ∧
      ∀ next : View, next.Derived source → v.upTo next ≠ .error .badSlice) ∧
    ∀ (definitions : Definitions K V) {α : Type} (p : Parser K V .text α) (v : View), v.Derived source →
      (∀ a location rest, p.run definitions (some v) = .ok (.success a location rest) →
        location = some v ∧ (∃ w, rest = some w ∧ w.Derived source) ∧
        ∀ T R, definitions.Respects (.derived source) T → p.Respects (.derived source) T R p → R a a) ∧
      ∀ e, p.run definitions (some v) = .ok (.failure e) →
        ∃ w, e.remainder = some w ∧ w.Derived source := by
  constructor
  · intro v h
    obtain ⟨before, after, located⟩ := h.located
    obtain ⟨offset, line, column⟩ := located.position
    exact ⟨⟨before, after, located.chars, offset, located.stop, line, column⟩, located.source,
      located.source ▸ located.slice, fun next h' => h.upTo_ne_badSlice h'⟩
  · intro definitions α p v h
    have tracks := p.tracking_runDepth definitions (definitions.depth (i := .text) (some v)) (some v)
    constructor
    · intro a location rest returned
      obtain ⟨here, suffix⟩ := tracks _ returned
      exact ⟨here, h.leaves (Input.leaves_of_suffix suffix), fun T R hd hp => hp.related_value hd h returned⟩
    · intro e returned
      exact h.leaves (Input.leaves_of_suffix (tracks _ returned))

def lines : Parser Kind View .text (List View) :=
  .sepBy true (.takeWhile (· ≠ '\n') (some "line")) (.char '\n')

def threeLines : Source :=
  ⟨0, ['é', '\n', 'ü', 'b', '\n', 'c']⟩

theorem positions_true_lines :
    ∃ first second third rest,
      lines.run .empty (some (.ofSource threeLines)) =
        .ok (.success [first, second, third] (some (.ofSource threeLines)) rest) ∧
      third.position = ⟨7, 3, 1⟩ ∧
      threeLines.slice third.position.offset third.stop = .ok "c" ∧
      ∃ before after, threeLines.chars = before ++ third.chars ++ after ∧
        third.position.offset = byteLength before ∧ third.position.line = 1 + before.count '\n' := by
  have parts := (positions_true (K := Kind) (V := View) threeLines).2 .empty lines _ .whole
  have views := (positions_true (K := Kind) (V := View) threeLines).1
  have returned : lines.run .empty (some (.ofSource threeLines)) =
      .ok (.success [(View.ofSource threeLines).first 1, ((View.ofSource threeLines).skip 2).first 2,
        ((View.ofSource threeLines).skip 5).first 1] (some (.ofSource threeLines))
        (some ((View.ofSource threeLines).skip 6))) := rfl
  have alike := (parts.1 _ _ _ returned).2.2 (Similarity.derived threeLines).Related _
    (by intro name q found; cases found) (.sepBy true (.takeWhile _ _) (.one _ _))
  cases alike with
  | cons _ more =>
    cases more with
    | cons _ more =>
      cases more with
      | cons third _ =>
        obtain ⟨⟨before, after, chars, offset, -, line, -⟩, -, slice, -⟩ := views _ third.2
        exact ⟨_, _, _, _, returned, rfl, slice, before, after, chars, offset, line⟩

end Parsing

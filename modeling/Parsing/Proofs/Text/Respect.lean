import Parsing.Parser.Reference
import Parsing.Proofs.Text.Abreast

namespace Parsing

variable {K V : Type}

namespace Parser

/-- The parsers are built alike, and their functions take related values to related values: `T` between the
values of references, `R` between the values of the parsers. -/
inductive Respects (S : Similarity) (T : V → V → Prop) :
    {α : Type} → (α → α → Prop) → Parser K V .text α → Parser K V .text α → Prop where
  | one (accepts : Char → Bool) (expectations : List String) :
      Respects S T Eq (.one accepts expectations) (.one accepts expectations)
  | literal (text : String) (ignoreCase : Bool) :
      Respects S T S.Related (.literal text ignoreCase) (.literal text ignoreCase)
  | takeWhile (accepts : Char → Bool) (name : Option String) :
      Respects S T S.Related (.takeWhile accepts name) (.takeWhile accepts name)
  | map {α β : Type} {R : α → α → Prop} {Q : β → β → Prop} {p p' : Parser K V .text α} {f g : α → β}
      (hf : ∀ a b, R a b → Q (f a) (g b)) (hp : Respects S T R p p') :
      Respects S T Q (.map f p) (.map g p')
  | bind {α β : Type} {R : α → α → Prop} {Q : β → β → Prop} {p p' : Parser K V .text α}
      {q q' : α → Parser K V .text β} (hp : Respects S T R p p')
      (hq : ∀ a b, R a b → Respects S T Q (q a) (q' b)) : Respects S T Q (.bind p q) (.bind p' q')
  | seq {α β : Type} {R : α → α → Prop} {Q : β → β → Prop} {p p' : Parser K V .text α}
      {q q' : Parser K V .text β} (hp : Respects S T R p p') (hq : Respects S T Q q q') :
      Respects S T (fun x y => R x.1 y.1 ∧ Q x.2 y.2) (.seq p q) (.seq p' q')
  | or {α : Type} {R : α → α → Prop} {p p' q q' : Parser K V .text α} (hp : Respects S T R p p')
      (hq : Respects S T R q q') : Respects S T R (.or p q) (.or p' q')
  | attempt {α : Type} {R : α → α → Prop} {p p' : Parser K V .text α} (hp : Respects S T R p p') :
      Respects S T R (.attempt p) (.attempt p')
  | labelled {α : Type} {R : α → α → Prop} {p p' : Parser K V .text α} (name : String)
      (hp : Respects S T R p p') : Respects S T R (.labelled p name) (.labelled p' name)
  | reporting {α : Type} {R : α → α → Prop} {p p' : Parser K V .text α} (text : String)
      (hp : Respects S T R p p') : Respects S T R (.reporting p text) (.reporting p' text)
  | guard {α : Type} {R : α → α → Prop} {p p' : Parser K V .text α} {accepts accepts' : α → Bool}
      (ha : ∀ a b, R a b → accepts a = accepts' b) (expectation : String) (hp : Respects S T R p p') :
      Respects S T R (.guard p accepts expectation) (.guard p' accepts' expectation)
  | notFollowedBy {α : Type} {R : α → α → Prop} {p p' : Parser K V .text α}
      (hp : Respects S T R p p') : Respects S T Eq (.notFollowedBy p) (.notFollowedBy p')
  | succeed {α : Type} {R : α → α → Prop} {a b : α} (related : R a b) :
      Respects S T R (.succeed a) (.succeed b)
  | many {α : Type} {R : α → α → Prop} {p p' : Parser K V .text α} (hp : Respects S T R p p') :
      Respects S T (List.Forall₂ R) (.many p) (.many p')
  | many1 {α : Type} {R : α → α → Prop} {p p' : Parser K V .text α} (hp : Respects S T R p p') :
      Respects S T (List.Forall₂ R) (.many1 p) (.many1 p')
  | skipMany {α : Type} {R : α → α → Prop} {p p' : Parser K V .text α} (hp : Respects S T R p p') :
      Respects S T Eq (.skipMany p) (.skipMany p')
  | optional {α : Type} {R : α → α → Prop} {p p' : Parser K V .text α} (hp : Respects S T R p p') :
      Respects S T (Option.Rel R) (.optional p) (.optional p')
  | sepBy {α β : Type} {R : α → α → Prop} {Q : β → β → Prop} {item item' : Parser K V .text α}
      {delimiter delimiter' : Parser K V .text β} (required : Bool) (hi : Respects S T R item item')
      (hd : Respects S T Q delimiter delimiter') :
      Respects S T (List.Forall₂ R) (.sepBy required item delimiter) (.sepBy required item' delimiter')
  | times {α : Type} {R : α → α → Prop} {p p' : Parser K V .text α} (size count : Nat)
      (hp : Respects S T R p p') :
      Respects S T (List.Forall₂ R) (.times size count p) (.times size count p')
  | whole {α : Type} {R : α → α → Prop} {p p' : Parser K V .text α} (hp : Respects S T R p p') :
      Respects S T R (.whole p) (.whole p')
  | chain {α ω : Type} {R : α → α → Prop} {W : ω → ω → Prop} {operator operator' : Parser K V .text ω}
      {operand operand' : Parser K V .text α} (associativity : Associativity)
      {apply apply' : ω → α → α → α}
      (hf : ∀ op op' a a' b b', W op op' → R a a' → R b b' → R (apply op a b) (apply' op' a' b'))
      (ho : Respects S T W operator operator') (ha : Respects S T R operand operand') :
      Respects S T R (.chain associativity operator operand apply)
        (.chain associativity operator' operand' apply')
  | reference (name : String) : Respects S T T (.reference name) (.reference name)
  | fail {α : Type} {R : α → α → Prop} (skip : Nat) (report : Failure Unit) :
      Respects S T R (.fail skip report) (.fail skip report)

end Parser

def Definitions.Respects (S : Similarity) (T : V → V → Prop) (definitions : Definitions K V) : Prop :=
  ∀ name q, definitions.find? .text name = some q → q.Respects S T T q

variable [DecidableEq K] [TokenKind K] {S : Similarity} {T : V → V → Prop}

namespace Parser

theorem Respects.paired_denote
    {refer refer' : (i : Medium) → String → Reader (Except Fault) (Input K i) V}
    (hr : ∀ name, Paired S T (refer .text name) (refer' .text name)) {α : Type} {R : α → α → Prop}
    {p p' : Parser K V .text α} (h : p.Respects S T R p') :
    Paired S R (p.denote refer) (p'.denote refer') := by
  induction h with
  | one accepts expectations => exact paired_one accepts expectations
  | literal text ignoreCase => exact paired_literal text ignoreCase
  | takeWhile accepts name => exact paired_takeWhile accepts name
  | map hf _ hp => exact hp.map hf
  | bind _ _ hp hq => exact hp.bind hq
  | seq _ _ hp hq => exact hp.seq hq
  | or _ _ hp hq => exact hp.or hq
  | attempt _ hp => exact hp.attempt
  | labelled name _ hp => exact hp.labelled name
  | reporting text _ hp => exact hp.reporting text
  | guard ha expectation _ hp => exact hp.guard ha expectation
  | notFollowedBy _ hp => exact hp.notFollowedBy
  | succeed related => exact paired_succeed related
  | many _ hp => exact hp.many
  | many1 _ hp => exact hp.many1
  | skipMany _ hp => exact hp.skipMany
  | optional _ hp => exact hp.optional
  | sepBy required _ _ hi hd => exact hi.sepBy hd required
  | times size count _ hp => exact hp.times size count
  | whole _ hp => exact hp.whole
  | chain associativity hf _ _ ho ha => exact ho.chain hf ha associativity
  | reference name => exact hr name
  | fail skip report => exact paired_fail skip report

theorem Respects.paired_runDepth {definitions : Definitions K V} (hd : definitions.Respects S T)
    (depth : Nat) {α : Type} {R : α → α → Prop} {p p' : Parser K V .text α} (h : p.Respects S T R p') :
    Paired S R (p.runDepth definitions depth) (p'.runDepth definitions depth) := by
  induction depth generalizing α with
  | zero => exact h.paired_denote fun name v w _ => .fault rfl
  | succ depth ih =>
    apply h.paired_denote
    intro name v w related
    dsimp only
    cases found : definitions.find? .text name with
    | none => exact .fault rfl
    | some q => exact ih (hd name q found) v w related

theorem Respects.concur_run {definitions : Definitions K V} (hd : definitions.Respects S T) {α : Type}
    {R : α → α → Prop} {p p' : Parser K V .text α} (h : p.Respects S T R p') {v w : View}
    (related : S.Related v w) :
    Concur (Reply.Abreast R v w) (p.run definitions (some v)) (p'.run definitions (some w)) := by
  have depth : definitions.depth (K := K) (i := .text) (some v) =
      definitions.depth (K := K) (i := .text) (some w) := by
    change _ * (v.length + 1) = _ * (w.length + 1)
    rw [S.length related]
  unfold Parser.run
  rw [depth]
  exact h.paired_runDepth hd _ v w related

end Parser

end Parsing

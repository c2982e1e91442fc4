import Parsing.Proofs.Remainder.Combinator

namespace Parsing

open Ensuring

universe v

section Readers

variable {m : Type → Type v} [Monad m] [MonadExcept Fault m] [Ensuring m] {C α β ω : Type}

def Reply.Placeless : Reply C α → Prop
  | .success .. => True
  | .failure e => e.within = none

def Placeless (p : Reader m C α) : Prop :=
  ∀ input, Ensures (p input) Reply.Placeless

theorem ensures_placeless {x : m (Reply C α)} {f : Reply C α → m (Reply C β)}
    (hx : Ensures x Reply.Placeless)
    (hs : ∀ a location rest, Ensures (f (.success a location rest)) Reply.Placeless)
    (hf : ∀ e, e.within = none → Ensures (f (.failure e)) Reply.Placeless) :
    Ensures (x >>= f) Reply.Placeless := by
  apply ensures_bind hx
  rintro (⟨a, location, rest⟩ | e) h
  · exact hs a location rest
  · exact hf e h

theorem ensures_placeless_ok {x : Except Fault α} {f : α → m (Reply C β)}
    (hf : ∀ a, Ensures (f a) Reply.Placeless) :
    Ensures (MonadExcept.ofExcept x >>= f) Reply.Placeless :=
  ensures_bind (ensures_ofExcept fun _ _ => trivial) fun a _ => hf a

variable {p q : Reader m C α}

theorem Placeless.map (hp : Placeless p) (f : α → β) : Placeless (Combinator.map f p) := by
  intro input
  apply ensures_placeless (hp input)
  · intro a location rest
    exact ensures_pure trivial
  · intro e h
    exact ensures_pure h

theorem Placeless.seq {q : Reader m C β} (hp : Placeless p) (hq : Placeless q) :
    Placeless (Combinator.seq p q) := by
  intro input
  apply ensures_placeless (hp input)
  · intro a location rest
    apply ensures_placeless (hq rest)
    · intro b location' rest'
      exact ensures_pure trivial
    · intro e h
      exact ensures_pure h
  · intro e h
    exact ensures_pure h

theorem Placeless.bind {q : α → Reader m C β} (hp : Placeless p) (hq : ∀ a, Placeless (q a)) :
    Placeless (Combinator.bind p q) := by
  intro input
  apply ensures_placeless (hp input)
  · intro a location rest
    apply ensures_placeless (hq a rest)
    · intro b location' rest'
      exact ensures_pure trivial
    · intro e h
      exact ensures_pure h
  · intro e h
    exact ensures_pure h

theorem placeless_succeed (a : α) : Placeless (Combinator.succeed a : Reader m C α) :=
  fun _ => ensures_pure trivial

theorem Placeless.reporting (hp : Placeless p) (text : String) :
    Placeless (Combinator.reporting p text) := by
  intro input
  apply ensures_placeless (hp input)
  · intro a location rest
    exact ensures_pure trivial
  · intro e h
    exact ensures_pure h

theorem Placeless.guard (hp : Placeless p) (accepts : α → Bool) (expectation : String) :
    Placeless (Combinator.guard p accepts expectation) := by
  intro input
  apply ensures_placeless (hp input)
  · intro a location rest
    exact ensures_ite (ensures_pure trivial) (ensures_pure rfl)
  · intro e h
    exact ensures_pure h

theorem Placeless.sepItem {delimiter : Reader m C β} (hp : Placeless p) (hd : Placeless delimiter) :
    Placeless (Combinator.sepItem p delimiter) := by
  intro input
  apply ensures_placeless (hd input)
  · intro b location rest
    exact hp rest
  · intro e h
    exact ensures_pure h

theorem Placeless.exactly (hp : Placeless p) (location : C) (count : Nat) (remainder : C)
    (values : List α) :
    Ensures (Combinator.exactly p location count remainder values) Reply.Placeless := by
  induction count generalizing remainder values with
  | zero => exact ensures_pure trivial
  | succ count ih =>
    apply ensures_placeless (hp remainder)
    · intro a start rest
      exact ih rest (a :: values)
    · intro e h
      exact ensures_pure h

theorem Placeless.times (hp : Placeless p) (size count : Nat) :
    Placeless (Combinator.times size count p) :=
  fun input => ensures_ite ensures_throw (hp.exactly input count input [])

section Links

def Combinator.Link.Placeless : Combinator.Link C ω α → Prop
  | .broken e => e.within = none
  | _ => True

variable {next : C → m (Combinator.Link C ω α)}
  (hn : ∀ start, Ensures (next start) Combinator.Link.Placeless)
  (apply : ω → α → α → α) (location : C)
include hn

theorem placeless_chainLeft (rounds : Nat) (remainder : C) (acc : α) :
    Ensures (Combinator.chainLeft next apply location rounds remainder acc) Reply.Placeless := by
  induction rounds generalizing remainder acc with
  | zero => exact ensures_throw
  | succ rounds ih =>
    apply ensures_bind (hn remainder)
    rintro (⟨op, a, rest⟩ | e | _) h
    · exact ih rest _
    · exact ensures_pure h
    · exact ensures_pure trivial

theorem placeless_chainRight (rounds : Nat) (remainder : C) (pending : List (α × ω)) (last : α) :
    Ensures (Combinator.chainRight next apply location rounds remainder pending last)
      Reply.Placeless := by
  induction rounds generalizing remainder pending last with
  | zero => exact ensures_throw
  | succ rounds ih =>
    apply ensures_bind (hn remainder)
    rintro (⟨op, a, rest⟩ | e | _) h
    · exact ih rest _ _
    · exact ensures_pure h
    · exact ensures_pure trivial

end Links

variable [Cursor C]

theorem within_merge {e f : Failure C} (he : e.within = none) (hf : f.within = none) :
    (e.merge f).within = none := by
  unfold Failure.merge
  split
  · exact hf
  · split
    · exact hf
    · exact he

theorem Placeless.or (hp : Placeless p) (hq : Placeless q) : Placeless (Combinator.or p q) := by
  intro input
  apply ensures_placeless (hp input)
  · intro a location rest
    exact ensures_pure trivial
  · intro e h
    refine ensures_ite (ensures_pure h) (ensures_placeless (hq input) ?_ ?_)
    · intro b location rest
      exact ensures_pure trivial
    · intro f h'
      exact ensures_pure (within_merge h h')

theorem Placeless.attempt (hp : Placeless p) : Placeless (Combinator.attempt p) := by
  intro input
  apply ensures_placeless (hp input)
  · intro a location rest
    exact ensures_pure trivial
  · intro e h
    exact ensures_ite (ensures_pure rfl) (ensures_pure h)

theorem Placeless.labelled (hp : Placeless p) (name : String) :
    Placeless (Combinator.labelled p name) := by
  intro input
  apply ensures_placeless (hp input)
  · intro a location rest
    exact ensures_pure trivial
  · intro e h
    exact ensures_ite (ensures_pure h) (ensures_pure rfl)

theorem Placeless.optional (hp : Placeless p) : Placeless (Combinator.optional p) := by
  intro input
  apply ensures_placeless (hp input)
  · intro a location rest
    exact ensures_pure trivial
  · intro e h
    exact ensures_ite (ensures_pure h) (ensures_pure trivial)

theorem Placeless.notFollowedBy (hp : Placeless p) : Placeless (Combinator.notFollowedBy p) := by
  intro input
  apply ensures_placeless (hp input)
  · intro a location rest
    apply ensures_placeless_ok
    intro matched
    exact ensures_pure rfl
  · intro e h
    exact ensures_pure trivial

theorem Placeless.whole (hp : Placeless p) : Placeless (Combinator.whole p) := by
  intro input
  apply ensures_placeless (hp input)
  · intro a location rest
    apply ensures_placeless_ok
    intro atEnd
    exact ensures_ite (ensures_pure trivial) (ensures_pure rfl)
  · intro e h
    exact ensures_pure h

theorem placeless_fail (skip : Nat) {report : Failure Unit} (h : report.within = none) :
    Placeless (Combinator.fail skip report : Reader m C α) := by
  intro input
  apply ensures_bind (ensures_drop skip input)
  intro rest _
  exact ensures_pure h

theorem Placeless.collect (hp : Placeless p) (location : C) (rounds : Nat) (remainder : C)
    (values : List α) :
    Ensures (Combinator.collect p location rounds remainder values) Reply.Placeless := by
  induction rounds generalizing remainder values with
  | zero => exact ensures_throw
  | succ rounds ih =>
    apply ensures_placeless (hp remainder)
    · intro a start rest
      refine ensures_ite (ensures_placeless_ok ?_) (ih rest (a :: values))
      intro place
      exact ensures_throw
    · intro e h
      exact ensures_ite (ensures_pure h) (ensures_pure trivial)

theorem Placeless.many (hp : Placeless p) : Placeless (Combinator.many p) :=
  fun input => hp.collect input _ input []

theorem Placeless.many1 (hp : Placeless p) : Placeless (Combinator.many1 p) := by
  intro input
  apply ensures_placeless (hp input)
  · intro a location rest
    exact hp.collect input _ rest [a]
  · intro e h
    exact ensures_pure h

theorem Placeless.skipMany (hp : Placeless p) : Placeless (Combinator.skipMany p) := by
  intro input
  apply ensures_placeless ((hp.map fun _ => ()).collect input _ input [])
  · intro values location rest
    exact ensures_pure trivial
  · intro e h
    exact ensures_pure h

theorem Placeless.sepBy {delimiter : Reader m C β} (hp : Placeless p) (hd : Placeless delimiter)
    (required : Bool) : Placeless (Combinator.sepBy required p delimiter) := by
  intro input
  apply ensures_placeless (hp input)
  · intro a location rest
    exact (hp.sepItem hd).collect input _ rest [a]
  · intro e h
    exact ensures_ite (ensures_pure h) (ensures_pure trivial)

section Chain

variable {operator : Reader m C ω} {operand : Reader m C α}

theorem Placeless.link (ho : Placeless operator) (ha : Placeless operand) (start : C) :
    Ensures (Combinator.link operator operand start) Combinator.Link.Placeless := by
  apply ensures_bind (ho start)
  rintro (⟨op, location, rest⟩ | e) h
  · apply ensures_bind (ha rest)
    rintro (⟨a, location', rest'⟩ | e) h'
    · apply ensures_ite
      · apply ensures_bind (ensures_ofExcept fun _ _ => trivial)
        intro place _
        exact ensures_throw
      · exact ensures_pure trivial
    · exact ensures_pure h'
  · exact ensures_ite (ensures_pure h) (ensures_pure trivial)

theorem Placeless.chain (ho : Placeless operator) (ha : Placeless operand)
    (associativity : Associativity) (apply : ω → α → α → α) :
    Placeless (Combinator.chain associativity operator operand apply) := by
  intro input
  apply ensures_placeless (ha input)
  · intro a location rest
    cases associativity with
    | left => exact placeless_chainLeft (ho.link ha) apply input _ rest a
    | right => exact placeless_chainRight (ho.link ha) apply input _ rest [] a
  · intro e h
    exact ensures_pure h

end Chain

end Readers

section Primitives

variable {m : Type → Type v} [Monad m] [MonadExcept Fault m] [Ensuring m]

theorem placeless_one (accepts : Char → Bool) (expectations : List String) :
    Placeless (Primitive.one accepts expectations : Reader m Span Char) := by
  intro input
  apply ensures_placeless_ok
  rintro (_ | ⟨c, rest⟩)
  · exact ensures_pure rfl
  · exact ensures_ite (ensures_pure trivial) (ensures_pure rfl)

theorem placeless_literal (text : String) (ignoreCase : Bool) :
    Placeless (Primitive.literal text ignoreCase : Reader m Span View) := by
  intro input
  apply ensures_placeless_ok
  rintro ⟨rest, _ | missing⟩
  · apply ensures_placeless_ok
    intro view
    exact ensures_pure trivial
  · exact ensures_ite (ensures_pure rfl) (ensures_pure rfl)

theorem placeless_takeWhile (accepts : Char → Bool) (name : Option String) :
    Placeless (Primitive.takeWhile accepts name : Reader m Span View) := by
  intro input
  apply ensures_placeless_ok
  intro v
  dsimp only
  split
  · exact ensures_pure rfl
  · apply ensures_placeless_ok
    intro view
    exact ensures_pure trivial

end Primitives

variable {K V : Type}

namespace Parser

def Placeless : {i : Medium} → {α : Type} → Parser K V i α → Prop
  | _, _, .inToken t p => t.Placeless ∧ p.Placeless
  | _, _, .expression operand _ => operand.Placeless
  | _, _, .map _ p => p.Placeless
  | _, _, .bind p q => p.Placeless ∧ ∀ a, (q a).Placeless
  | _, _, .seq p q => p.Placeless ∧ q.Placeless
  | _, _, .or p q => p.Placeless ∧ q.Placeless
  | _, _, .attempt p => p.Placeless
  | _, _, .labelled p _ => p.Placeless
  | _, _, .reporting p _ => p.Placeless
  | _, _, .guard p _ _ => p.Placeless
  | _, _, .notFollowedBy p => p.Placeless
  | _, _, .many p => p.Placeless
  | _, _, .many1 p => p.Placeless
  | _, _, .skipMany p => p.Placeless
  | _, _, .optional p => p.Placeless
  | _, _, .sepBy _ item delimiter => item.Placeless ∧ delimiter.Placeless
  | _, _, .times _ _ p => p.Placeless
  | _, _, .whole p => p.Placeless
  | _, _, .chain _ operator operand _ => operator.Placeless ∧ operand.Placeless
  | _, _, .fail _ report => report.within = none
  | _, _, .one .. | _, _, .literal .. | _, _, .takeWhile .. | _, _, .token .. | _, _, .kinds _
  | _, _, .succeed _ | _, _, .reference _ => True

end Parser

def Definitions.Placeless (definitions : Definitions K V) : Prop :=
  ∀ name q, definitions.find? .text name = some q → q.Placeless

namespace Parser

variable [DecidableEq K] [TokenKind K]

-- The parts of a parser of text are parsers of text, which the cases for tokens contradict.
theorem placeless_denote {refer : (i : Medium) → String → Reader (Except Fault) (Input K i) V}
    (hr : ∀ name, Parsing.Placeless (refer .text name)) {i : Medium} {α : Type} (p : Parser K V i α)
    (hi : i = .text) (h : p.Placeless) : Parsing.Placeless (p.denote refer) := by
  induction p with
  | one accepts expectations => exact placeless_one accepts expectations
  | literal text ignoreCase => exact placeless_literal text ignoreCase
  | takeWhile accepts name => exact placeless_takeWhile accepts name
  | token accepts expectation => cases hi
  | kinds expected => cases hi
  | inToken t p ht hp => cases hi
  | expression operand grammar ho => cases hi
  | map f p hp => exact (hp hi h).map f
  | bind p q hp hq => exact (hp hi h.1).bind fun a => hq a hi (h.2 a)
  | seq p q hp hq => exact (hp hi h.1).seq (hq hi h.2)
  | or p q hp hq => exact (hp hi h.1).or (hq hi h.2)
  | attempt p hp => exact (hp hi h).attempt
  | labelled p name hp => exact (hp hi h).labelled name
  | reporting p text hp => exact (hp hi h).reporting text
  | guard p accepts expectation hp => exact (hp hi h).guard accepts expectation
  | notFollowedBy p hp => exact (hp hi h).notFollowedBy
  | succeed a => exact placeless_succeed a
  | many p hp => exact (hp hi h).many
  | many1 p hp => exact (hp hi h).many1
  | skipMany p hp => exact (hp hi h).skipMany
  | optional p hp => exact (hp hi h).optional
  | sepBy required item delimiter hp hd => exact (hp hi h.1).sepBy (hd hi h.2) required
  | times size count p hp => exact (hp hi h).times size count
  | whole p hp => exact (hp hi h).whole
  | chain associativity operator operand f ho ha =>
    exact (ho hi h.1).chain (ha hi h.2) associativity f
  | reference name =>
    subst hi
    exact hr name
  | fail skip report => exact placeless_fail skip h

theorem placeless_runDepth {definitions : Definitions K V} (hd : definitions.Placeless) (depth : Nat)
    {α : Type} {p : Parser K V .text α} (h : p.Placeless) :
    Parsing.Placeless (p.runDepth definitions depth) := by
  induction depth generalizing α with
  | zero =>
    refine placeless_denote ?_ p rfl h
    intro name input
    exact ensures_throw
  | succ depth ih =>
    refine placeless_denote ?_ p rfl h
    intro name input
    dsimp only
    cases found : definitions.find? .text name with
    | none => exact ensures_throw
    | some q => exact ih (hd name q found) input

end Parser

end Parsing

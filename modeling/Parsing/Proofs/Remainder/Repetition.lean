import Parsing.Proofs.Remainder.Combinator

namespace Parsing

open Ensuring

universe v

variable {m : Type → Type v} [Monad m] [MonadExcept Fault m] [Ensuring m] {C α β ω : Type} [Cursor C]

section Repetition

variable {p : Reader m C α}

theorem Advancing.collect {step : Reader m C α} (hs : Advancing step) {location remainder : C}
    (h : Suffix location remainder) (rounds : Nat) (values : List α) :
    Ensures (Combinator.collect step location rounds remainder values) (Reply.Tracks location) := by
  induction rounds generalizing remainder values with
  | zero => exact ensures_throw
  | succ rounds ih =>
    apply ensures_bind (hs remainder)
    rintro (⟨a, start, rest⟩ | e) hr
    · apply ensures_ite
      · apply ensures_bind (ensures_ofExcept fun _ _ => trivial)
        intro place _
        exact ensures_throw
      · exact ih (h.trans hr) (a :: values)
    · exact ensures_ite (ensures_pure (h.trans hr)) (ensures_pure ⟨rfl, h⟩)

theorem Tracking.many (hp : Tracking p) : Tracking (Combinator.many p) :=
  fun input => hp.advancing.collect (.refl input) _ _

theorem Tracking.many1 (hp : Tracking p) : Tracking (Combinator.many1 p) := by
  intro input
  apply ensures_bind (hp input)
  rintro (⟨a, location, rest⟩ | e) h
  · exact hp.advancing.collect h.2 _ _
  · exact ensures_pure h

theorem Tracking.skipMany (hp : Tracking p) : Tracking (Combinator.skipMany p) := by
  intro input
  apply ensures_bind ((hp.map fun _ => ()).advancing.collect (.refl input) _ _)
  rintro (⟨a, location, rest⟩ | e) h
  · exact ensures_pure h
  · exact ensures_pure h

theorem Advancing.sepItem {item : Reader m C α} {delimiter : Reader m C β} (hi : Advancing item)
    (hd : Advancing delimiter) : Advancing (Combinator.sepItem item delimiter) := by
  intro input
  apply ensures_bind (hd input)
  rintro (⟨b, location, rest⟩ | e) h
  · apply ensures_mono (hi rest)
    intro reply hr
    exact Suffix.trans h hr
  · exact ensures_pure h

theorem Tracking.sepBy {item : Reader m C α} {delimiter : Reader m C β} (hi : Tracking item)
    (hd : Tracking delimiter) (required : Bool) :
    Tracking (Combinator.sepBy required item delimiter) := by
  intro input
  apply ensures_bind (hi input)
  rintro (⟨a, location, rest⟩ | e) h
  · exact (hi.advancing.sepItem hd.advancing).collect h.2 _ _
  · exact ensures_ite (ensures_pure h) (ensures_pure ⟨rfl, .refl input⟩)

theorem Advancing.exactly (hp : Advancing p) {location remainder : C} (h : Suffix location remainder)
    (count : Nat) (values : List α) :
    Ensures (Combinator.exactly p location count remainder values) (Reply.Tracks location) := by
  induction count generalizing remainder values with
  | zero => exact ensures_pure ⟨rfl, h⟩
  | succ count ih =>
    apply ensures_bind (hp remainder)
    rintro (⟨a, start, rest⟩ | e) hr
    · exact ih (h.trans hr) (a :: values)
    · exact ensures_pure (h.trans hr)

theorem Tracking.times (hp : Tracking p) (size count : Nat) : Tracking (Combinator.times size count p) :=
  fun input => ensures_ite ensures_throw (hp.advancing.exactly (.refl input) _ _)

end Repetition

section Chain

def Combinator.Link.Tracks (start : C) : Combinator.Link C ω α → Prop
  | .linked _ _ rest => Suffix start rest
  | .broken e => Suffix start e.remainder
  | .ended => True

variable {operator : Reader m C ω} {operand : Reader m C α}

theorem ensures_link (ho : Advancing operator) (ha : Advancing operand) (start : C) :
    Ensures (Combinator.link operator operand start) (Combinator.Link.Tracks start) := by
  apply ensures_bind (ho start)
  rintro (⟨op, location, rest⟩ | e) h
  · apply ensures_bind (ha rest)
    rintro (⟨a, location', rest'⟩ | e) h'
    · apply ensures_ite
      · apply ensures_bind (ensures_ofExcept fun _ _ => trivial)
        intro place _
        exact ensures_throw
      · exact ensures_pure (Suffix.trans h h')
    · exact ensures_pure (Suffix.trans h h')
  · exact ensures_ite (ensures_pure h) (ensures_pure trivial)

variable {next : C → m (Combinator.Link C ω α)}
  (hn : ∀ start, Ensures (next start) (Combinator.Link.Tracks start))
  (apply : ω → α → α → α) {location : C}
include hn

theorem ensures_chainLeft {remainder : C} (h : Suffix location remainder) (rounds : Nat) (acc : α) :
    Ensures (Combinator.chainLeft next apply location rounds remainder acc) (Reply.Tracks location) := by
  induction rounds generalizing remainder acc with
  | zero => exact ensures_throw
  | succ rounds ih =>
    apply ensures_bind (hn remainder)
    rintro (⟨op, a, rest⟩ | e | _) hl
    · exact ih (h.trans hl) _
    · exact ensures_pure (h.trans hl)
    · exact ensures_pure ⟨rfl, h⟩

theorem ensures_chainRight {remainder : C} (h : Suffix location remainder) (rounds : Nat)
    (pending : List (α × ω)) (last : α) :
    Ensures (Combinator.chainRight next apply location rounds remainder pending last)
      (Reply.Tracks location) := by
  induction rounds generalizing remainder pending last with
  | zero => exact ensures_throw
  | succ rounds ih =>
    apply ensures_bind (hn remainder)
    rintro (⟨op, a, rest⟩ | e | _) hl
    · exact ih (h.trans hl) _ _
    · exact ensures_pure (h.trans hl)
    · exact ensures_pure ⟨rfl, h⟩

omit hn in
theorem Tracking.chain (ho : Tracking operator) (ha : Tracking operand) (associativity : Associativity) :
    Tracking (Combinator.chain associativity operator operand apply) := by
  intro input
  apply ensures_bind (ha input)
  have hl := ensures_link ho.advancing ha.advancing
  rintro (⟨a, location, rest⟩ | e) h
  · cases associativity with
    | left => exact ensures_chainLeft hl apply h.2 _ _
    | right => exact ensures_chainRight hl apply h.2 _ _ _
  · exact ensures_pure h

end Chain

end Parsing

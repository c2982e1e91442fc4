import Parsing.Proofs.Reading
import Parsing.Combinator.Chain

/-!
Two failures are alike if they occur at one place, within the same item, and are marked alike for
alternatives; their messages and expectations are free. No combinator looks at these, so combinations of
alike readers are alike.
-/

namespace Parsing

section Agreement

variable {α β γ δ : Type}

inductive Agree (R : α → β → Prop) : Except Fault α → Except Fault β → Prop where
  | ok {a : α} {b : β} (related : R a b) : Agree R (.ok a) (.ok b)
  | fault (e : Fault) : Agree R (.error e) (.error e)

variable {R : α → β → Prop} {S : γ → δ → Prop}

theorem Agree.refl {Q : α → α → Prop} (hq : ∀ a, Q a a) (x : Except Fault α) : Agree Q x x := by
  cases x with
  | ok a => exact .ok (hq a)
  | error e => exact .fault e

theorem Agree.bind {x : Except Fault α} {y : Except Fault β} {f : α → Except Fault γ}
    {g : β → Except Fault δ} (h : Agree R x y) (hf : ∀ a b, R a b → Agree S (f a) (g b)) :
    Agree S (x >>= f) (y >>= g) := by
  cases h with
  | ok related => exact hf _ _ related
  | fault e => exact .fault e

theorem Agree.bind_left (x : Except Fault α) {f : α → Except Fault γ} {g : α → Except Fault δ}
    (hf : ∀ a, Agree S (f a) (g a)) : Agree S (x >>= f) (x >>= g) := by
  cases x with
  | ok a => exact hf a
  | error e => exact .fault e

theorem Agree.bind_right {x : Except Fault α} {y : Except Fault β} {f : β → Except Fault δ}
    {Q : α → δ → Prop} (h : Agree R x y) (hf : ∀ a b, x = .ok a → R a b → Agree Q (.ok a) (f b)) :
    Agree Q x (y >>= f) := by
  cases h with
  | ok related => exact hf _ _ rfl related
  | fault e => exact .fault e

theorem Agree.ite {c d : Prop} [Decidable c] [Decidable d] {x x' : Except Fault α}
    {y y' : Except Fault β} (hc : c ↔ d) (ht : Agree R x y) (he : Agree R x' y') :
    Agree R (if c then x else x') (if d then y else y') := by
  by_cases h : c
  · rw [if_pos h, if_pos (hc.mp h)]
    exact ht
  · rw [if_neg h, if_neg (mt hc.mpr h)]
    exact he

end Agreement

namespace Failure

variable {C : Type}

structure Alike (e f : Failure C) : Prop where
  remainder : e.remainder = f.remainder
  within : e.within = f.within
  backtrack : e.backtrack = f.backtrack

theorem Alike.refl (e : Failure C) : e.Alike e :=
  ⟨rfl, rfl, rfl⟩

variable [Cursor C] {e f : Failure C}

theorem Alike.isPartial (h : e.Alike f) (start : C) : e.isPartial start = f.isPartial start := by
  rw [Failure.isPartial, Failure.isPartial, h.remainder, h.within]

theorem Alike.isCommitted (h : e.Alike f) (start : C) :
    e.isCommitted start = f.isCommitted start := by
  rw [Failure.isCommitted, Failure.isCommitted, h.backtrack, h.isPartial]

theorem Alike.merge {e' f' : Failure C} (h : e.Alike f) (h' : e'.Alike f') :
    (e.merge e').Alike (f.merge f') := by
  unfold Failure.merge
  rw [h.remainder, h'.remainder]
  split
  · exact ⟨rfl, h'.within, h'.backtrack⟩
  · split
    · exact h'
    · exact h

end Failure

inductive Reply.Alike {C α : Type} : Reply C α → Reply C α → Prop where
  | success (value : α) (location remainder : C) :
      Alike (.success value location remainder) (.success value location remainder)
  | failure {e f : Failure C} (alike : e.Alike f) : Alike (.failure e) (.failure f)

theorem Reply.Alike.refl {C α : Type} (reply : Reply C α) : reply.Alike reply := by
  cases reply with
  | success value location remainder => exact .success value location remainder
  | failure e => exact .failure (.refl e)

inductive Combinator.Link.Alike {C ω α : Type} : Link C ω α → Link C ω α → Prop where
  | linked (operator : ω) (operand : α) (remainder : C) :
      Alike (.linked operator operand remainder) (.linked operator operand remainder)
  | broken {e f : Failure C} (alike : e.Alike f) : Alike (.broken e) (.broken f)
  | ended : Alike .ended .ended

theorem Combinator.Link.Alike.refl {C ω α : Type} (link : Combinator.Link C ω α) : link.Alike link := by
  cases link with
  | linked operator operand remainder => exact .linked operator operand remainder
  | broken e => exact .broken (.refl e)
  | ended => exact .ended

def Alike {C α : Type} (p q : Reader (Except Fault) C α) : Prop :=
  ∀ input, Agree Reply.Alike (p input) (q input)

variable {C α β ω : Type} {p p' : Reader (Except Fault) C α}

theorem Alike.refl (p : Reader (Except Fault) C α) : Alike p p :=
  fun input => .refl Reply.Alike.refl (p input)

section Rounds

variable {next next' : C → Except Fault (Combinator.Link C ω α)}
  (hn : ∀ start, Agree Combinator.Link.Alike (next start) (next' start))
  (apply : ω → α → α → α) (location : C)
include hn

theorem agree_chainLeft (rounds : Nat) (remainder : C) (acc : α) :
    Agree Reply.Alike (Combinator.chainLeft next apply location rounds remainder acc)
      (Combinator.chainLeft next' apply location rounds remainder acc) := by
  induction rounds generalizing remainder acc with
  | zero => exact .fault .endless
  | succ rounds ih =>
    apply (hn remainder).bind
    rintro _ _ (⟨op, a, rest⟩ | ⟨he⟩ | _)
    · exact ih rest _
    · exact .ok (.failure he)
    · exact .ok (.success _ _ _)

theorem agree_chainRight (rounds : Nat) (remainder : C) (pending : List (α × ω)) (last : α) :
    Agree Reply.Alike (Combinator.chainRight next apply location rounds remainder pending last)
      (Combinator.chainRight next' apply location rounds remainder pending last) := by
  induction rounds generalizing remainder pending last with
  | zero => exact .fault .endless
  | succ rounds ih =>
    apply (hn remainder).bind
    rintro _ _ (⟨op, a, rest⟩ | ⟨he⟩ | _)
    · exact ih rest _ _
    · exact .ok (.failure he)
    · exact .ok (.success _ _ _)

end Rounds

namespace Alike

theorem map (hp : Alike p p') (f : α → β) : Alike (Combinator.map f p) (Combinator.map f p') := by
  intro input
  apply (hp input).bind
  rintro _ _ (⟨a, location, rest⟩ | ⟨he⟩)
  · exact .ok (.success _ _ _)
  · exact .ok (.failure he)

theorem bind {q q' : α → Reader (Except Fault) C β} (hp : Alike p p') (hq : ∀ a, Alike (q a) (q' a)) :
    Alike (Combinator.bind p q) (Combinator.bind p' q') := by
  intro input
  apply (hp input).bind
  rintro _ _ (⟨a, location, rest⟩ | ⟨he⟩)
  · apply (hq a rest).bind
    rintro _ _ (⟨b, start, last⟩ | ⟨he⟩)
    · exact .ok (.success _ _ _)
    · exact .ok (.failure he)
  · exact .ok (.failure he)

theorem seq {q q' : Reader (Except Fault) C β} (hp : Alike p p') (hq : Alike q q') :
    Alike (Combinator.seq p q) (Combinator.seq p' q') := by
  intro input
  apply (hp input).bind
  rintro _ _ (⟨a, location, rest⟩ | ⟨he⟩)
  · apply (hq rest).bind
    rintro _ _ (⟨b, start, last⟩ | ⟨he⟩)
    · exact .ok (.success _ _ _)
    · exact .ok (.failure he)
  · exact .ok (.failure he)

theorem reporting (hp : Alike p p') (text : String) :
    Alike (Combinator.reporting p text) (Combinator.reporting p' text) := by
  intro input
  apply (hp input).bind
  rintro _ _ (⟨a, location, rest⟩ | ⟨he⟩)
  · exact .ok (.success _ _ _)
  · exact .ok (.failure ⟨he.remainder, he.within, he.backtrack⟩)

theorem guard (hp : Alike p p') (accepts : α → Bool) (expectation : String) :
    Alike (Combinator.guard p accepts expectation) (Combinator.guard p' accepts expectation) := by
  intro input
  apply (hp input).bind
  rintro _ _ (⟨a, location, rest⟩ | ⟨he⟩)
  · exact .refl Reply.Alike.refl _
  · exact .ok (.failure he)

theorem sepItem {delimiter delimiter' : Reader (Except Fault) C β} (hp : Alike p p')
    (hd : Alike delimiter delimiter') :
    Alike (Combinator.sepItem p delimiter) (Combinator.sepItem p' delimiter') := by
  intro input
  apply (hd input).bind
  rintro _ _ (⟨b, location, rest⟩ | ⟨he⟩)
  · exact hp rest
  · exact .ok (.failure he)

theorem exactly (hp : Alike p p') (location : C) (count : Nat) (remainder : C) (values : List α) :
    Agree Reply.Alike (Combinator.exactly p location count remainder values)
      (Combinator.exactly p' location count remainder values) := by
  induction count generalizing remainder values with
  | zero => exact .ok (.success _ _ _)
  | succ count ih =>
    apply (hp remainder).bind
    rintro _ _ (⟨a, start, rest⟩ | ⟨he⟩)
    · exact ih rest (a :: values)
    · exact .ok (.failure he)

theorem times (hp : Alike p p') (size count : Nat) :
    Alike (Combinator.times size count p) (Combinator.times size count p') :=
  fun input => .ite .rfl (.fault _) (hp.exactly input count input [])

variable [Cursor C]

theorem or {q q' : Reader (Except Fault) C α} (hp : Alike p p') (hq : Alike q q') :
    Alike (Combinator.or p q) (Combinator.or p' q') := by
  intro input
  apply (hp input).bind
  rintro _ _ (⟨a, location, rest⟩ | ⟨he⟩)
  · exact .ok (.success _ _ _)
  · apply Agree.ite (by rw [he.isCommitted]) (.ok (.failure he))
    apply (hq input).bind
    rintro _ _ (⟨b, start, last⟩ | ⟨hf⟩)
    · exact .ok (.success _ _ _)
    · exact .ok (.failure (he.merge hf))

theorem attempt (hp : Alike p p') : Alike (Combinator.attempt p) (Combinator.attempt p') := by
  intro input
  apply (hp input).bind
  rintro _ _ (⟨a, location, rest⟩ | ⟨he⟩)
  · exact .ok (.success _ _ _)
  · apply Agree.ite (by rw [he.isPartial])
    · exact .ok (.failure ⟨rfl, rfl, rfl⟩)
    · exact .ok (.failure ⟨he.remainder, he.within, rfl⟩)

theorem labelled (hp : Alike p p') (name : String) :
    Alike (Combinator.labelled p name) (Combinator.labelled p' name) := by
  intro input
  apply (hp input).bind
  rintro _ _ (⟨a, location, rest⟩ | ⟨he⟩)
  · exact .ok (.success _ _ _)
  · apply Agree.ite (by rw [he.isPartial])
    · exact .ok (.failure he)
    · exact .ok (.failure ⟨he.remainder, rfl, rfl⟩)

theorem optional (hp : Alike p p') : Alike (Combinator.optional p) (Combinator.optional p') := by
  intro input
  apply (hp input).bind
  rintro _ _ (⟨a, location, rest⟩ | ⟨he⟩)
  · exact .ok (.success _ _ _)
  · exact .ite (by rw [he.isCommitted]) (.ok (.failure he)) (.ok (.success _ _ _))

theorem notFollowedBy (hp : Alike p p') :
    Alike (Combinator.notFollowedBy p) (Combinator.notFollowedBy p') := by
  intro input
  apply (hp input).bind
  rintro _ _ (⟨a, location, rest⟩ | ⟨he⟩)
  · exact .refl Reply.Alike.refl _
  · exact .ok (.success _ _ _)

theorem whole (hp : Alike p p') : Alike (Combinator.whole p) (Combinator.whole p') := by
  intro input
  apply (hp input).bind
  rintro _ _ (⟨a, location, rest⟩ | ⟨he⟩)
  · exact .refl Reply.Alike.refl _
  · exact .ok (.failure he)

section Repetition

theorem collect {step step' : Reader (Except Fault) C α} (hs : Alike step step') (location : C)
    (rounds : Nat) (remainder : C) (values : List α) :
    Agree Reply.Alike (Combinator.collect step location rounds remainder values)
      (Combinator.collect step' location rounds remainder values) := by
  induction rounds generalizing remainder values with
  | zero => exact .fault .endless
  | succ rounds ih =>
    apply (hs remainder).bind
    rintro _ _ (⟨a, start, rest⟩ | ⟨he⟩)
    · exact .ite .rfl (.refl Reply.Alike.refl _) (ih rest (a :: values))
    · exact .ite (by rw [he.isCommitted]) (.ok (.failure he)) (.ok (.success _ _ _))

theorem many (hp : Alike p p') : Alike (Combinator.many p) (Combinator.many p') :=
  fun input => hp.collect input _ input []

theorem many1 (hp : Alike p p') : Alike (Combinator.many1 p) (Combinator.many1 p') := by
  intro input
  apply (hp input).bind
  rintro _ _ (⟨a, location, rest⟩ | ⟨he⟩)
  · exact hp.collect input _ rest [a]
  · exact .ok (.failure he)

theorem skipMany (hp : Alike p p') : Alike (Combinator.skipMany p) (Combinator.skipMany p') := by
  intro input
  apply ((hp.map fun _ => ()).collect input _ input []).bind
  rintro _ _ (⟨a, location, rest⟩ | ⟨he⟩)
  · exact .ok (.success _ _ _)
  · exact .ok (.failure he)

theorem sepBy {delimiter delimiter' : Reader (Except Fault) C β} (hp : Alike p p')
    (hd : Alike delimiter delimiter') (required : Bool) :
    Alike (Combinator.sepBy required p delimiter) (Combinator.sepBy required p' delimiter') := by
  intro input
  apply (hp input).bind
  rintro _ _ (⟨a, location, rest⟩ | ⟨he⟩)
  · exact (hp.sepItem hd).collect input _ rest [a]
  · exact .ite (by rw [he.isCommitted]) (.ok (.failure he)) (.ok (.success _ _ _))

end Repetition

section Chain

variable {operator operator' : Reader (Except Fault) C ω} {operand operand' : Reader (Except Fault) C α}

theorem link (ho : Alike operator operator') (ha : Alike operand operand') (start : C) :
    Agree Combinator.Link.Alike (Combinator.link operator operand start)
      (Combinator.link operator' operand' start) := by
  apply (ho start).bind
  rintro _ _ (⟨op, location, rest⟩ | ⟨he⟩)
  · apply (ha rest).bind
    rintro _ _ (⟨a, location', last⟩ | ⟨he⟩)
    · exact .ite .rfl (.refl Combinator.Link.Alike.refl _) (.ok (.linked op a last))
    · exact .ok (.broken he)
  · exact .ite (by rw [he.isCommitted]) (.ok (.broken he)) (.ok .ended)

theorem chain (ho : Alike operator operator') (ha : Alike operand operand')
    (associativity : Associativity) (apply : ω → α → α → α) :
    Alike (Combinator.chain associativity operator operand apply)
      (Combinator.chain associativity operator' operand' apply) := by
  intro input
  apply (ha input).bind
  have hl := ho.link ha
  rintro _ _ (⟨a, location, rest⟩ | ⟨he⟩)
  · cases associativity with
    | left => exact agree_chainLeft hl apply input _ rest a
    | right => exact agree_chainRight hl apply input _ rest [] a
  · exact .ok (.failure he)

end Chain

end Alike

end Parsing

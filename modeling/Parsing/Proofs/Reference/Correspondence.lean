import Parsing.Parser.Reference

/-!
A relation between the computations of two monads that results, faults and binds keep is kept by every
combinator and by the machine that reads expressions, and so a parser denotes related readers in both if
references do.
-/

namespace Parsing

universe u v

structure Correspondence (m : Type → Type u) (n : Type → Type v) [Monad m] [MonadExcept Fault m]
    [Monad n] [MonadExcept Fault n] where
  Rel : {α : Type} → m α → n α → Prop
  rel_pure : {α : Type} → (a : α) → Rel (pure a) (pure a)
  rel_throw : {α : Type} → (fault : Fault) → Rel (throw fault : m α) (throw fault)
  rel_bind : {α β : Type} → {x : m α} → {y : n α} → {f : α → m β} → {g : α → n β} → Rel x y →
    (∀ a, Rel (f a) (g a)) → Rel (x >>= f) (y >>= g)

namespace Correspondence

variable {m : Type → Type u} {n : Type → Type v} [Monad m] [MonadExcept Fault m] [Monad n]
  [MonadExcept Fault n] (R : Correspondence m n) {C α β ω : Type}

def Readers (p : Reader m C α) (q : Reader n C α) : Prop :=
  ∀ input, R.Rel (p input) (q input)

section Rules

variable {R}

theorem rel_ite {c : Prop} [Decidable c] {x y : m α} {x' y' : n α} (hx : R.Rel x x') (hy : R.Rel y y') :
    R.Rel (if c then x else y) (if c then x' else y') := by
  split
  · exact hx
  · exact hy

theorem rel_ofExcept (x : Except Fault α) :
    R.Rel (MonadExcept.ofExcept x : m α) (MonadExcept.ofExcept x) := by
  cases x with
  | error fault => exact R.rel_throw fault
  | ok a => exact R.rel_pure a

end Rules

variable {R} {p : Reader m C α} {p' : Reader n C α}

section Sequences

theorem Readers.map (hp : R.Readers p p') (f : α → β) :
    R.Readers (Combinator.map f p) (Combinator.map f p') :=
  fun input => R.rel_bind (hp input) fun _ => R.rel_pure _

theorem Readers.bind {q : α → Reader m C β} {q' : α → Reader n C β} (hp : R.Readers p p')
    (hq : ∀ a, R.Readers (q a) (q' a)) : R.Readers (Combinator.bind p q) (Combinator.bind p' q') := by
  intro input
  apply R.rel_bind (hp input)
  rintro (⟨a, location, rest⟩ | e)
  · apply R.rel_bind (hq a rest)
    rintro (_ | _) <;> exact R.rel_pure _
  · exact R.rel_pure _

theorem Readers.seq {q : Reader m C β} {q' : Reader n C β} (hp : R.Readers p p') (hq : R.Readers q q') :
    R.Readers (Combinator.seq p q) (Combinator.seq p' q') := by
  intro input
  apply R.rel_bind (hp input)
  rintro (⟨a, location, rest⟩ | e)
  · apply R.rel_bind (hq rest)
    rintro (_ | _) <;> exact R.rel_pure _
  · exact R.rel_pure _

theorem Readers.reporting (hp : R.Readers p p') (text : String) :
    R.Readers (Combinator.reporting p text) (Combinator.reporting p' text) := by
  intro input
  apply R.rel_bind (hp input)
  rintro (_ | _) <;> exact R.rel_pure _

theorem Readers.guard (hp : R.Readers p p') (accepts : α → Bool) (expectation : String) :
    R.Readers (Combinator.guard p accepts expectation) (Combinator.guard p' accepts expectation) := by
  intro input
  apply R.rel_bind (hp input)
  rintro (⟨a, location, rest⟩ | e)
  · exact rel_ite (R.rel_pure _) (R.rel_pure _)
  · exact R.rel_pure _

variable [Cursor C]

theorem Readers.or {q : Reader m C α} {q' : Reader n C α} (hp : R.Readers p p') (hq : R.Readers q q') :
    R.Readers (Combinator.or p q) (Combinator.or p' q') := by
  intro input
  apply R.rel_bind (hp input)
  rintro (⟨a, location, rest⟩ | e)
  · exact R.rel_pure _
  · apply rel_ite (R.rel_pure _)
    apply R.rel_bind (hq input)
    rintro (_ | _) <;> exact R.rel_pure _

theorem Readers.attempt (hp : R.Readers p p') :
    R.Readers (Combinator.attempt p) (Combinator.attempt p') := by
  intro input
  apply R.rel_bind (hp input)
  rintro (⟨a, location, rest⟩ | e)
  · exact R.rel_pure _
  · exact rel_ite (R.rel_pure _) (R.rel_pure _)

theorem Readers.labelled (hp : R.Readers p p') (name : String) :
    R.Readers (Combinator.labelled p name) (Combinator.labelled p' name) := by
  intro input
  apply R.rel_bind (hp input)
  rintro (⟨a, location, rest⟩ | e)
  · exact R.rel_pure _
  · exact rel_ite (R.rel_pure _) (R.rel_pure _)

theorem Readers.optional (hp : R.Readers p p') :
    R.Readers (Combinator.optional p) (Combinator.optional p') := by
  intro input
  apply R.rel_bind (hp input)
  rintro (⟨a, location, rest⟩ | e)
  · exact R.rel_pure _
  · exact rel_ite (R.rel_pure _) (R.rel_pure _)

theorem Readers.notFollowedBy (hp : R.Readers p p') :
    R.Readers (Combinator.notFollowedBy p) (Combinator.notFollowedBy p') := by
  intro input
  apply R.rel_bind (hp input)
  rintro (⟨a, location, rest⟩ | e)
  · exact R.rel_bind (rel_ofExcept _) fun _ => R.rel_pure _
  · exact R.rel_pure _

theorem Readers.whole (hp : R.Readers p p') : R.Readers (Combinator.whole p) (Combinator.whole p') := by
  intro input
  apply R.rel_bind (hp input)
  rintro (⟨a, location, rest⟩ | e)
  · exact R.rel_bind (rel_ofExcept _) fun _ => rel_ite (R.rel_pure _) (R.rel_pure _)
  · exact R.rel_pure _

theorem rel_drop (count : Nat) (input : C) :
    R.Rel (Combinator.drop count input : m C) (Combinator.drop count input) := by
  induction count generalizing input with
  | zero => exact R.rel_pure _
  | succ count ih =>
    apply R.rel_bind (rel_ofExcept _)
    rintro (_ | rest)
    · exact R.rel_pure _
    · exact ih rest

theorem readers_fail (skip : Nat) (report : Failure Unit) :
    R.Readers (Combinator.fail skip report : Reader m C α) (Combinator.fail skip report) :=
  fun input => R.rel_bind (rel_drop skip input) fun _ => R.rel_pure _

end Sequences

section Repetition

variable [Cursor C]

theorem Readers.collect (hp : R.Readers p p') (location : C) (rounds : Nat) (start : C) (values : List α) :
    R.Rel (Combinator.collect p location rounds start values)
      (Combinator.collect p' location rounds start values) := by
  induction rounds generalizing start values with
  | zero => exact R.rel_throw _
  | succ rounds ih =>
    apply R.rel_bind (hp start)
    rintro (⟨a, location', rest⟩ | e)
    · apply rel_ite
      · exact R.rel_bind (rel_ofExcept _) fun _ => R.rel_throw _
      · exact ih rest (a :: values)
    · exact rel_ite (R.rel_pure _) (R.rel_pure _)

theorem Readers.many (hp : R.Readers p p') : R.Readers (Combinator.many p) (Combinator.many p') :=
  fun input => hp.collect input _ input []

theorem Readers.many1 (hp : R.Readers p p') : R.Readers (Combinator.many1 p) (Combinator.many1 p') := by
  intro input
  apply R.rel_bind (hp input)
  rintro (⟨a, location, rest⟩ | e)
  · exact hp.collect input _ rest [a]
  · exact R.rel_pure _

theorem Readers.skipMany (hp : R.Readers p p') :
    R.Readers (Combinator.skipMany p) (Combinator.skipMany p') :=
  fun input => R.rel_bind ((hp.map fun _ => ()).collect input _ input []) fun _ => R.rel_pure _

omit [Cursor C] in
theorem Readers.sepItem {q : Reader m C β} {q' : Reader n C β} (hp : R.Readers p p') (hq : R.Readers q q') :
    R.Readers (Combinator.sepItem p q) (Combinator.sepItem p' q') := by
  intro input
  apply R.rel_bind (hq input)
  rintro (⟨b, location, rest⟩ | e)
  · exact hp rest
  · exact R.rel_pure _

theorem Readers.sepBy {q : Reader m C β} {q' : Reader n C β} (hp : R.Readers p p') (hq : R.Readers q q')
    (required : Bool) : R.Readers (Combinator.sepBy required p q) (Combinator.sepBy required p' q') := by
  intro input
  apply R.rel_bind (hp input)
  rintro (⟨a, location, rest⟩ | e)
  · exact (hp.sepItem hq).collect input _ rest [a]
  · exact rel_ite (R.rel_pure _) (R.rel_pure _)

omit [Cursor C] in
theorem Readers.exactly (hp : R.Readers p p') (location : C) (count : Nat) (start : C) (values : List α) :
    R.Rel (Combinator.exactly p location count start values)
      (Combinator.exactly p' location count start values) := by
  induction count generalizing start values with
  | zero => exact R.rel_pure _
  | succ count ih =>
    apply R.rel_bind (hp start)
    rintro (⟨a, location', rest⟩ | e)
    · exact ih rest (a :: values)
    · exact R.rel_pure _

omit [Cursor C] in
theorem Readers.times (hp : R.Readers p p') (size count : Nat) :
    R.Readers (Combinator.times size count p) (Combinator.times size count p') :=
  fun input => rel_ite (R.rel_throw _) (hp.exactly input count input [])

end Repetition

section Chain

variable [Cursor C]

theorem Readers.link {operator : Reader m C ω} {operator' : Reader n C ω} (ho : R.Readers operator operator')
    (hp : R.Readers p p') (start : C) :
    R.Rel (Combinator.link operator p start) (Combinator.link operator' p' start) := by
  apply R.rel_bind (ho start)
  rintro (⟨op, location, rest⟩ | e)
  · apply R.rel_bind (hp rest)
    rintro (⟨a, location', last⟩ | e)
    · apply rel_ite
      · exact R.rel_bind (rel_ofExcept _) fun _ => R.rel_throw _
      · exact R.rel_pure _
    · exact R.rel_pure _
  · exact rel_ite (R.rel_pure _) (R.rel_pure _)

variable {next : C → m (Combinator.Link C ω α)} {next' : C → n (Combinator.Link C ω α)}
  (hn : ∀ start, R.Rel (next start) (next' start)) (apply : ω → α → α → α) (location : C)
include hn

omit [Cursor C] in
theorem rel_chainLeft (rounds : Nat) (start : C) (acc : α) :
    R.Rel (Combinator.chainLeft next apply location rounds start acc)
      (Combinator.chainLeft next' apply location rounds start acc) := by
  induction rounds generalizing start acc with
  | zero => exact R.rel_throw _
  | succ rounds ih =>
    apply R.rel_bind (hn start)
    rintro (⟨op, a, rest⟩ | e | _)
    · exact ih rest _
    · exact R.rel_pure _
    · exact R.rel_pure _

omit [Cursor C] in
theorem rel_chainRight (rounds : Nat) (start : C) (pending : List (α × ω)) (last : α) :
    R.Rel (Combinator.chainRight next apply location rounds start pending last)
      (Combinator.chainRight next' apply location rounds start pending last) := by
  induction rounds generalizing start pending last with
  | zero => exact R.rel_throw _
  | succ rounds ih =>
    apply R.rel_bind (hn start)
    rintro (⟨op, a, rest⟩ | e | _)
    · exact ih rest _ a
    · exact R.rel_pure _
    · exact R.rel_pure _

omit hn in
theorem Readers.chain {operator : Reader m C ω} {operator' : Reader n C ω}
    (ho : R.Readers operator operator') (hp : R.Readers p p') (associativity : Associativity) :
    R.Readers (Combinator.chain associativity operator p apply)
      (Combinator.chain associativity operator' p' apply) := by
  intro input
  apply R.rel_bind (hp input)
  rintro (⟨a, start, rest⟩ | e)
  · cases associativity with
    | left => exact rel_chainLeft (ho.link hp) apply input _ rest a
    | right => exact rel_chainRight (ho.link hp) apply input _ rest [] a
  · exact R.rel_pure _

end Chain

section Primitives

theorem readers_one (accepts : Char → Bool) (expectations : List String) :
    R.Readers (Primitive.one accepts expectations) (Primitive.one accepts expectations) := by
  intro input
  apply R.rel_bind (rel_ofExcept _)
  rintro (_ | ⟨c, rest⟩)
  · exact R.rel_pure _
  · exact rel_ite (R.rel_pure _) (R.rel_pure _)

theorem readers_literal (text : String) (ignoreCase : Bool) :
    R.Readers (Primitive.literal text ignoreCase) (Primitive.literal text ignoreCase) := by
  intro input
  apply R.rel_bind (rel_ofExcept _)
  rintro ⟨rest, _ | expected⟩
  · exact R.rel_bind (rel_ofExcept _) fun _ => R.rel_pure _
  · exact rel_ite (R.rel_pure _) (R.rel_pure _)

theorem readers_takeWhile (accepts : Char → Bool) (name : Option String) :
    R.Readers (Primitive.takeWhile accepts name) (Primitive.takeWhile accepts name) := by
  intro input
  apply R.rel_bind (rel_ofExcept _)
  intro v
  dsimp only
  split
  · exact R.rel_pure _
  · exact R.rel_bind (rel_ofExcept _) fun _ => R.rel_pure _

variable {K : Type}

theorem readers_token (accepts : Token K → Bool) (expectation : String) :
    R.Readers (Primitive.token accepts expectation) (Primitive.token accepts expectation) := by
  intro input
  apply R.rel_bind (rel_ofExcept _)
  rintro (_ | ⟨t, rest⟩)
  · exact R.rel_pure _
  · exact rel_ite (R.rel_pure _) (R.rel_pure _)

theorem Readers.inToken [TokenKind K] {t : Reader m (TokenList K) (Token K)}
    {t' : Reader n (TokenList K) (Token K)} {q : Reader m Span α} {q' : Reader n Span α}
    (ht : R.Readers t t') (hq : R.Readers q q') :
    R.Readers (Primitive.inToken t q) (Primitive.inToken t' q') := by
  intro input
  apply R.rel_bind (ht input)
  rintro (⟨token, location, rest⟩ | e)
  · apply R.rel_bind (hq (some token.span))
    rintro (⟨a, start, last⟩ | inner)
    · apply R.rel_bind (rel_ofExcept _)
      intro atEnd
      exact rel_ite (R.rel_pure _) (R.rel_bind (rel_ofExcept _) fun _ => R.rel_pure _)
    · exact R.rel_bind (rel_ofExcept _) fun _ => R.rel_pure _
  · exact R.rel_pure _

end Primitives

section Expression

open Expression

variable {K : Type} [DecidableEq K] [TokenKind K] {operand : Reader m (TokenList K) α}
  {operand' : Reader n (TokenList K) α} {g : Grammar K α}

theorem Readers.step (ho : R.Readers operand operand') (s : Machine g) :
    R.Rel (s.step operand) (s.step operand') := by
  unfold Machine.step
  split
  · apply R.rel_bind (rel_ofExcept _)
    rintro (_ | step)
    · apply R.rel_bind (ho s.remainder)
      rintro (_ | _) <;> exact R.rel_pure _
    · exact R.rel_pure _
  · exact rel_ofExcept _

theorem Readers.runSteps (ho : R.Readers operand operand') (steps : Nat) (s : Machine g) :
    R.Rel (s.runSteps operand steps) (s.runSteps operand' steps) := by
  induction steps generalizing s with
  | zero => exact R.rel_throw _
  | succ steps ih =>
    apply R.rel_bind (ho.step s)
    rintro (next | reply)
    · exact ih next
    · exact R.rel_pure _

theorem Readers.expression (ho : R.Readers operand operand') (g : Grammar K α) :
    R.Readers (expression operand g) (expression operand' g) :=
  fun input => ho.runSteps _ (.start input)

end Expression

variable {K V : Type} [DecidableEq K] [TokenKind K]

theorem readers_denote {refer : (i : Medium) → String → Reader m (Input K i) V}
    {refer' : (i : Medium) → String → Reader n (Input K i) V}
    (hr : ∀ i name, R.Readers (refer i name) (refer' i name)) {i : Medium} {α : Type}
    (p : Parser K V i α) : R.Readers (p.denote refer) (p.denote refer') := by
  induction p with
  | one accepts expectations => exact readers_one accepts expectations
  | literal text ignoreCase => exact readers_literal text ignoreCase
  | takeWhile accepts name => exact readers_takeWhile accepts name
  | token accepts expectation => exact readers_token accepts expectation
  | kinds expected => exact fun input => rel_ofExcept _
  | inToken t p ht hp => exact ht.inToken hp
  | expression operand grammar ho => exact ho.expression grammar
  | map f p hp => exact hp.map f
  | bind p q hp hq => exact hp.bind hq
  | seq p q hp hq => exact hp.seq hq
  | or p q hp hq => exact hp.or hq
  | attempt p hp => exact hp.attempt
  | labelled p name hp => exact hp.labelled name
  | reporting p text hp => exact hp.reporting text
  | guard p accepts expectation hp => exact hp.guard accepts expectation
  | notFollowedBy p hp => exact hp.notFollowedBy
  | succeed a => exact fun input => R.rel_pure _
  | many p hp => exact hp.many
  | many1 p hp => exact hp.many1
  | skipMany p hp => exact hp.skipMany
  | optional p hp => exact hp.optional
  | sepBy required item delimiter hi hd => exact hi.sepBy hd required
  | times size count p hp => exact hp.times size count
  | whole p hp => exact hp.whole
  | chain associativity operator operand f ho ha => exact ho.chain f ha associativity
  | reference name => exact hr _ name
  | fail skip report => exact readers_fail skip report

end Correspondence

end Parsing

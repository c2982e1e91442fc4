import Parsing.Proofs.Peg.Semantics
import Parsing.Proofs.Remainder.Progress
import Parsing.Proofs.Remainder.Repetition

namespace Parsing

open Ensuring

def Reply.outcome {C α : Type} : Reply C α → Option (α × C)
  | .success value _ rest => some (value, rest)
  | .failure _ => none

def Reply.Marked {C α : Type} : Reply C α → Prop
  | .success .. => True
  | .failure e => e.backtrack = true

theorem not_isCommitted {C : Type} [Cursor C] {e : Failure C} (h : e.backtrack = true) (start : C) :
    ¬e.isCommitted start = true := by
  simp [Failure.isCommitted, h]

section Results

variable {α : Type} {P Q : α → Prop}

theorem ensures_and {x : Except Fault α} (hp : Ensures x P) (hq : Ensures x Q) :
    Ensures x fun a => P a ∧ Q a :=
  fun a h => ⟨hp a h, hq a h⟩

theorem ensures_ite_neg {c : Prop} [Decidable c] {x y : Except Fault α} (hc : ¬c) (hy : Ensures y P) :
    Ensures (if c then x else y) P := by
  rw [if_neg hc]
  exact hy

end Results

variable {K : Type} [TokenKind K] {i : Medium} {α β : Type}

def Marked (p : Reader (Except Fault) (Input K i) α) : Prop :=
  ∀ input, Ensures (p input) Reply.Marked

/-- A fault of reading the text between two places of an input: tokens need not lie in order, and where there
is no input there is no text. -/
def Illegible (input : Input K i) (fault : Fault) : Prop :=
  ∃ start rest, Suffix input start ∧ Suffix start rest ∧ Cursor.textTo start rest = .error fault

theorem not_illegible_text (v : View) (fault : Fault) :
    ¬Illegible (K := K) (i := .text) (some v) fault := by
  rintro ⟨start, rest, hs, hr, ht⟩
  obtain ⟨text, ok⟩ := Input.textTo_of_leaves (Input.leaves_of_suffix hs) (Input.leaves_of_suffix hr)
  cases ok.symm.trans ht

def Reaches (input : Input K i) (x : Except Fault (Reply (Input K i) α))
    (outcome : Option (α × Input K i)) : Prop :=
  (∃ reply, x = .ok reply ∧ reply.outcome = outcome) ∨ ∃ fault, Illegible input fault ∧ x = .error fault

structure Meets (p : Reader (Except Fault) (Input K i) α) (P : Recogniser (Input K i) α) : Prop where
  sound : ∀ input, Ensures (p input) fun reply => P input reply.outcome
  complete : ∀ input outcome, P input outcome → Reaches input (p input) outcome

section Reaching

variable {input rest : Input K i}

theorem reaches_pure {reply : Reply (Input K i) α} {outcome : Option (α × Input K i)}
    (h : reply.outcome = outcome) : Reaches input (pure reply) outcome :=
  .inl ⟨reply, rfl, h⟩

theorem reaches_ite_neg {c : Prop} [Decidable c] {x y : Except Fault (Reply (Input K i) α)}
    {outcome : Option (α × Input K i)} (hc : ¬c) (hy : Reaches input y outcome) :
    Reaches input (if c then x else y) outcome := by
  rw [if_neg hc]
  exact hy

theorem Reaches.of_suffix {x : Except Fault (Reply (Input K i) α)} {outcome : Option (α × Input K i)}
    (h : Reaches rest x outcome) (hs : Suffix input rest) : Reaches input x outcome := by
  rcases h with reached | ⟨fault, ⟨start, stop, hs', hr, ht⟩, hx⟩
  · exact .inl reached
  · exact .inr ⟨fault, ⟨start, stop, hs.trans hs', hr, ht⟩, hx⟩

variable {p : Reader (Except Fault) (Input K i) α} {P : Recogniser (Input K i) α}
  {f : Reply (Input K i) α → Except Fault (Reply (Input K i) β)} {outcome : Option (β × Input K i)}

theorem Meets.reaches_of_failure (hp : Meets p P) (h : P input none)
    (hf : ∀ e, p input = .ok (.failure e) → Reaches input (f (.failure e)) outcome) :
    Reaches input (p input >>= f) outcome := by
  rcases hp.complete input none h with ⟨reply, hr, ho⟩ | ⟨fault, illegible, hr⟩
  · rw [hr, ok_bind]
    cases reply with
    | success value location rest => cases ho
    | failure e => exact hf e hr
  · rw [hr, error_bind]
    exact .inr ⟨fault, illegible, rfl⟩

theorem Meets.reaches_of_success (hp : Meets p P) {a : α} (h : P input (some (a, rest)))
    (hf : ∀ location, p input = .ok (.success a location rest) →
      Reaches input (f (.success a location rest)) outcome) :
    Reaches input (p input >>= f) outcome := by
  rcases hp.complete input _ h with ⟨reply, hr, ho⟩ | ⟨fault, illegible, hr⟩
  · rw [hr, ok_bind]
    cases reply with
    | success value location last =>
      cases ho
      exact hf location hr
    | failure e => cases ho
  · rw [hr, error_bind]
    exact .inr ⟨fault, illegible, rfl⟩

end Reaching

section Combinators

variable {p : Reader (Except Fault) (Input K i) α} {P : Recogniser (Input K i) α}

theorem meets_succeed (a : α) :
    Meets (Combinator.succeed a : Reader (Except Fault) (Input K i) α) (Peg.succeed a) := by
  constructor
  · intro input
    exact ensures_pure rfl
  · rintro input _ rfl
    exact reaches_pure rfl

theorem Meets.map (hp : Meets p P) (f : α → β) : Meets (Combinator.map f p) (Peg.Map f P) := by
  constructor
  · intro input
    refine ensures_bind (hp.sound input) ?_
    rintro (⟨a, location, rest⟩ | e) h
    · exact ensures_pure (.succeeds h)
    · exact ensures_pure (.fails h)
  · rintro input _ (h | h)
    · exact hp.reaches_of_failure h fun e _ => reaches_pure rfl
    · exact hp.reaches_of_success h fun location _ => reaches_pure rfl

theorem Meets.seq {q : Reader (Except Fault) (Input K i) β} {Q : Recogniser (Input K i) β}
    (hp : Meets p P) (ha : Advancing p) (hq : Meets q Q) :
    Meets (Combinator.seq p q) (Peg.Seq P Q) := by
  constructor
  · intro input
    refine ensures_bind (hp.sound input) ?_
    rintro (⟨a, location, middle⟩ | e) h
    · refine ensures_bind (hq.sound middle) ?_
      rintro (⟨b, start, rest⟩ | e) h'
      · exact ensures_pure (.succeeds h h')
      · exact ensures_pure (.failsSecond h h')
    · exact ensures_pure (.failsFirst h)
  · rintro input _ (h | ⟨h, h'⟩ | ⟨h, h'⟩)
    · exact hp.reaches_of_failure h fun e _ => reaches_pure rfl
    · refine hp.reaches_of_success h fun location hr => Reaches.of_suffix ?_ (ha input _ hr)
      exact hq.reaches_of_failure h' fun e _ => reaches_pure rfl
    · refine hp.reaches_of_success h fun location hr => Reaches.of_suffix ?_ (ha input _ hr)
      exact hq.reaches_of_success h' fun start _ => reaches_pure rfl

theorem Meets.attempt (hp : Meets p P) : Meets (Combinator.attempt p) P := by
  constructor
  · intro input
    refine ensures_bind (hp.sound input) ?_
    rintro (⟨a, location, rest⟩ | e) h
    · exact ensures_pure h
    · exact ensures_ite (ensures_pure h) (ensures_pure h)
  · rintro input (_ | ⟨a, rest⟩) h
    · refine hp.reaches_of_failure h fun e _ => ?_
      dsimp only
      split
      · exact reaches_pure rfl
      · exact reaches_pure rfl
    · exact hp.reaches_of_success h fun location _ => reaches_pure rfl

theorem marked_attempt (p : Reader (Except Fault) (Input K i) α) : Marked (Combinator.attempt p) := by
  intro input
  refine ensures_bind (P := fun _ => True) (fun _ _ => trivial) ?_
  rintro (⟨a, location, rest⟩ | e) -
  · exact ensures_pure trivial
  · exact ensures_ite (ensures_pure rfl) (ensures_pure rfl)

theorem Meets.or {q : Reader (Except Fault) (Input K i) α} {Q : Recogniser (Input K i) α}
    (hp : Meets p P) (hm : Marked p) (hq : Meets q Q) :
    Meets (Combinator.or p q) (Peg.Choice P Q) := by
  constructor
  · intro input
    refine ensures_bind (ensures_and (hp.sound input) (hm input)) ?_
    rintro (⟨a, location, rest⟩ | e) ⟨h, marked⟩
    · exact ensures_pure (.first h)
    · refine ensures_ite_neg (not_isCommitted marked input) (ensures_bind (hq.sound input) ?_)
      rintro (⟨b, start, last⟩ | f) h'
      · exact ensures_pure (.second h h')
      · exact ensures_pure (.second h h')
  · rintro input outcome (h | ⟨h, h'⟩)
    · exact hp.reaches_of_success h fun location _ => reaches_pure rfl
    · refine hp.reaches_of_failure h fun e hr => ?_
      refine reaches_ite_neg (not_isCommitted (hm input _ hr) input) ?_
      rcases outcome with _ | ⟨b, last⟩
      · exact hq.reaches_of_failure h' fun f _ => reaches_pure rfl
      · exact hq.reaches_of_success h' fun start _ => reaches_pure rfl

theorem Meets.optional (hp : Meets p P) (hm : Marked p) :
    Meets (Combinator.optional p) (Peg.optional P) := by
  constructor
  · intro input
    refine ensures_bind (ensures_and (hp.sound input) (hm input)) ?_
    rintro (⟨a, location, rest⟩ | e) ⟨h, marked⟩
    · exact ensures_pure (.first (.succeeds h))
    · exact ensures_ite_neg (not_isCommitted marked input) (ensures_pure (.second (.fails h) rfl))
  · rintro input _ (⟨_ | h⟩ | ⟨h | _, rfl⟩)
    · exact hp.reaches_of_success h fun location _ => reaches_pure rfl
    · refine hp.reaches_of_failure h fun e hr => ?_
      exact reaches_ite_neg (not_isCommitted (hm input _ hr) input) (reaches_pure rfl)

theorem Meets.notFollowedBy (hp : Meets p P) (ha : Advancing p) :
    Meets (Combinator.notFollowedBy p) (Peg.Absent P) := by
  constructor
  · intro input
    refine ensures_bind (hp.sound input) ?_
    rintro (⟨a, location, rest⟩ | e) h
    · refine ensures_bind (P := fun _ => True) (fun _ _ => trivial) ?_
      intro matched _
      exact ensures_pure (.fails h)
    · exact ensures_pure (.succeeds h)
  · rintro input _ (h | h)
    · refine hp.reaches_of_success h fun location hr => ?_
      dsimp only
      rw [ofExcept_eq]
      cases ht : Cursor.textTo input _ with
      | ok text => exact reaches_pure rfl
      | error fault => exact .inr ⟨fault, ⟨input, _, .refl input, ha input _ hr, ht⟩, rfl⟩
    · exact hp.reaches_of_failure h fun e _ => reaches_pure rfl

end Combinators

section Repetition

variable {step : Reader (Except Fault) (Input K i) α} {S : Recogniser (Input K i) α}

theorem Meets.ensures_collect (hs : Meets step S) (hm : Marked step) (location : Input K i) (rounds : Nat)
    (remainder : Input K i) (values : List α) :
    Ensures (Combinator.collect step location rounds remainder values) fun reply =>
      ∃ as rest, Peg.Star S remainder as rest ∧ reply.outcome = some (values.reverse ++ as, rest) := by
  induction rounds generalizing remainder values with
  | zero => exact ensures_throw
  | succ rounds ih =>
    refine ensures_bind (ensures_and (hs.sound remainder) (hm remainder)) ?_
    rintro (⟨a, start, middle⟩ | e) ⟨h, marked⟩
    · refine ensures_ite (ensures_bind (P := fun _ => True) (fun _ _ => trivial) ?_) ?_
      · intro place _
        exact ensures_throw
      · refine ensures_mono (ih middle (a :: values)) ?_
        rintro reply ⟨as, rest, star, ho⟩
        refine ⟨a :: as, rest, .more h star, ?_⟩
        rw [ho, List.reverse_cons, List.append_assoc, List.singleton_append]
    · refine ensures_ite_neg (not_isCommitted marked remainder) (ensures_pure ?_)
      exact ⟨[], remainder, .stop h, by simp [Reply.outcome]⟩

theorem collect_zero_width {location start remainder : Input K i} {a : α}
    (h : step remainder = .ok (.success a start remainder)) (rounds : Nat) (values : List α) :
    ∃ fault, Combinator.collect step location (rounds + 1) remainder values = .error fault := by
  simp only [Combinator.collect, h, ok_bind, Input.same_refl, ↓reduceIte, ofExcept_eq]
  cases Cursor.position remainder with
  | ok place => exact ⟨.zeroWidth place, rfl⟩
  | error fault => exact ⟨fault, rfl⟩

-- The induction is on the derivation of the outcome. A step that succeeds without moving would do so again,
-- so that the rest of its derivation, which starts at the same place, rules it out.
theorem Meets.reaches_collect (hs : Meets step S) (ha : Advancing step) (hm : Marked step)
    (location : Input K i) {remainder rest : Input K i} {as : List α}
    (star : Peg.Star S remainder as rest) {rounds : Nat} (enough : Cursor.left remainder < rounds)
    (values : List α) :
    Reaches remainder (Combinator.collect step location rounds remainder values)
      (some (values.reverse ++ as, rest)) := by
  induction star generalizing rounds values with
  | stop h =>
    obtain ⟨rounds, rfl⟩ := Nat.exists_eq_add_one.mpr (Nat.zero_lt_of_lt enough)
    refine hs.reaches_of_failure h fun e hr => ?_
    refine reaches_ite_neg (not_isCommitted (hm _ _ hr) _) (reaches_pure ?_)
    simp [Reply.outcome]
  | @more remainder middle rest a as h star ih =>
    obtain ⟨rounds, rfl⟩ := Nat.exists_eq_add_one.mpr (Nat.zero_lt_of_lt enough)
    refine hs.reaches_of_success h fun start hr => ?_
    have suffix : Suffix remainder middle := ha remainder _ hr
    rcases (Input.leaves_of_suffix suffix).eq_or_lt with rfl | ⟨moved, fewer⟩
    · have stuck : Reaches middle (Combinator.collect step location (rounds + 1) middle values)
          (some (values.reverse ++ a :: as, rest)) := by
        obtain ⟨fault, hf⟩ := collect_zero_width hr rounds values
        rcases ih enough values with ⟨reply, ok, -⟩ | illegible
        · cases hf.symm.trans ok
        · exact .inr illegible
      rwa [Combinator.collect, hr, ok_bind] at stuck
    · have collected := ih (by omega : _ < rounds) (a :: values)
      rw [List.reverse_cons, List.append_assoc, List.singleton_append] at collected
      exact reaches_ite_neg (by simp [moved]) (collected.of_suffix suffix)

variable {p : Reader (Except Fault) (Input K i) α} {P : Recogniser (Input K i) α}

theorem Meets.many (hp : Meets p P) (ha : Advancing p) (hm : Marked p) :
    Meets (Combinator.many p) (Peg.many P) := by
  constructor
  · intro input
    refine ensures_mono (hp.ensures_collect hm input _ input []) ?_
    rintro reply ⟨as, rest, star, ho⟩
    exact ⟨as, rest, star, ho⟩
  · rintro input _ ⟨as, rest, star, rfl⟩
    exact hp.reaches_collect ha hm input star (Nat.lt_succ_self _) []

def collectAfter (p step : Reader (Except Fault) (Input K i) α) :
    Reader (Except Fault) (Input K i) (List α) := fun input => do
  match ← p input with
  | .failure e => return .failure e
  | .success a _ rest => Combinator.collect step input (Combinator.rounds rest) rest [a]

theorem Meets.collectAfter (hp : Meets p P) (ha : Advancing p) (hs : Meets step S)
    (hs' : Advancing step) (hm : Marked step) :
    Meets (collectAfter p step) (Peg.Map (fun x => x.1 :: x.2) (Peg.Seq P (Peg.many S))) := by
  constructor
  · intro input
    refine ensures_bind (hp.sound input) ?_
    rintro (⟨a, location, middle⟩ | e) h
    · refine ensures_mono (hs.ensures_collect hm input _ middle [a]) ?_
      rintro reply ⟨as, rest, star, ho⟩
      rw [ho]
      exact Peg.Map.succeeds (Peg.Seq.succeeds h ⟨as, rest, star, rfl⟩)
    · exact ensures_pure (.fails (.failsFirst h))
  · rintro input _ ((h | ⟨h, h'⟩) | ⟨_ | _ | ⟨h, as, rest, star, ho⟩⟩)
    · exact hp.reaches_of_failure h fun e _ => reaches_pure rfl
    · obtain ⟨as, rest, star, ⟨⟩⟩ := h'
    · cases ho
      refine hp.reaches_of_success h fun location hr => ?_
      exact (hs.reaches_collect hs' hm input star (Nat.lt_succ_self _) [_]).of_suffix (ha input _ hr)

theorem many1_eq (p : Reader (Except Fault) (Input K i) α) : Combinator.many1 p = collectAfter p p := by
  funext input
  refine bind_congr fun reply => ?_
  cases reply with
  | success a location rest => rfl
  | failure e => rfl

theorem Meets.many1 (hp : Meets p P) (ha : Advancing p) (hm : Marked p) :
    Meets (Combinator.many1 p) (Peg.many1 P) := by
  rw [many1_eq]
  exact hp.collectAfter ha hp ha hm

section Lists

variable {item : Reader (Except Fault) (Input K i) α} {delimiter : Reader (Except Fault) (Input K i) β}
  {I : Recogniser (Input K i) α} {D : Recogniser (Input K i) β}

theorem Meets.sepItem (hi : Meets item I) (hd : Meets delimiter D) (ha : Advancing delimiter) :
    Meets (Combinator.sepItem item delimiter) (Peg.Map Prod.snd (Peg.Seq D I)) := by
  constructor
  · intro input
    refine ensures_bind (hd.sound input) ?_
    rintro (⟨b, location, middle⟩ | e) h
    · refine ensures_mono (hi.sound middle) ?_
      rintro (⟨a, start, rest⟩ | e) h'
      · exact Peg.Map.succeeds (Peg.Seq.succeeds h h')
      · exact .fails (.failsSecond h h')
    · exact ensures_pure (.fails (.failsFirst h))
  · rintro input _ ((h | ⟨h, h'⟩) | ⟨_ | _ | ⟨h, h'⟩⟩)
    · exact hd.reaches_of_failure h fun e _ => reaches_pure rfl
    · refine hd.reaches_of_success h fun location hr => ?_
      exact (hi.complete _ _ h').of_suffix (ha input _ hr)
    · refine hd.reaches_of_success h fun location hr => ?_
      exact (hi.complete _ _ h').of_suffix (ha input _ hr)

omit [TokenKind K] in
theorem Marked.sepItem (hi : Marked item) (hd : Marked delimiter) :
    Marked (Combinator.sepItem item delimiter) := by
  intro input
  refine ensures_bind (hd input) ?_
  rintro (⟨b, location, rest⟩ | e) marked
  · exact hi rest
  · exact ensures_pure marked

theorem sepBy_true_eq (item : Reader (Except Fault) (Input K i) α)
    (delimiter : Reader (Except Fault) (Input K i) β) :
    Combinator.sepBy true item delimiter =
      collectAfter item (Combinator.sepItem item delimiter) := by
  funext input
  refine bind_congr fun reply => ?_
  cases reply with
  | success a location rest => rfl
  | failure e => rfl

theorem Meets.sepBy (hi : Meets item I) (ha : Advancing item) (hm : Marked item) (hd : Meets delimiter D)
    (ha' : Advancing delimiter) (hm' : Marked delimiter) :
    Meets (Combinator.sepBy true item delimiter) (Peg.sepBy I D) := by
  rw [sepBy_true_eq]
  exact hi.collectAfter ha (hi.sepItem hd ha') (ha.sepItem ha') (hm.sepItem hm')

end Lists

end Repetition

end Parsing

import Parsing.Proofs.Peg.Outcomes
import Parsing.Proofs.Remainder.Parser

namespace Parsing

section Accumulators

variable {C α β : Type}

def Reply.resumed (location : C) (values : List α) : Reply C (List α) → Reply C (List α)
  | .success more _ rest => .success (values ++ more) location rest
  | .failure e => .failure e

def Reply.located (location : C) : Reply C α → Reply C α
  | .success a _ rest => .success a location rest
  | .failure e => .failure e

theorem Reply.resumed_resumed (location location' : C) (xs ys : List α) (reply : Reply C (List α)) :
    (reply.resumed location' ys).resumed location xs = reply.resumed location (xs ++ ys) := by
  cases reply <;> simp [resumed]

theorem map_resumed_resumed (location location' : C) (xs ys : List α) (x : Except Fault (Reply C (List α))) :
    (x.map (Reply.resumed location' ys)).map (Reply.resumed location xs) =
      x.map (Reply.resumed location (xs ++ ys)) := by
  cases x with
  | error fault => rfl
  | ok reply => exact congrArg Except.ok (reply.resumed_resumed location location' xs ys)

theorem exactly_resumed (p : Reader (Except Fault) C α) (location location' : C) (count : Nat) (start : C)
    (values : List α) :
    Combinator.exactly p location count start values =
      (Combinator.exactly p location' count start []).map (Reply.resumed location values.reverse) := by
  induction count generalizing location start values with
  | zero => simp [Combinator.exactly, Reply.resumed, pure, Except.pure]
  | succ count ih =>
    rw [Combinator.exactly, Combinator.exactly]
    rcases p start with fault | ⟨a, _, rest⟩ | e
    · rfl
    · simp only [ok_bind]
      rw [ih location rest (a :: values), ih location' rest [a], map_resumed_resumed]
      simp
    · rfl

theorem exactly_add (p : Reader (Except Fault) C α) (location : C) (m n : Nat) (start : C) (values : List α) :
    Combinator.exactly p location (m + n) start values = (do
      match ← Combinator.exactly p location m start values with
      | .failure e => return .failure e
      | .success more _ rest => Combinator.exactly p location n rest more.reverse) := by
  induction m generalizing start values with
  | zero => simp [Combinator.exactly]
  | succ m ih =>
    rw [Nat.succ_add, Combinator.exactly, Combinator.exactly]
    rcases p start with fault | ⟨a, _, rest⟩ | e
    · rfl
    · exact ih rest (a :: values)
    · rfl

theorem times_add (p : Reader (Except Fault) C α) {size m n : Nat}
    (h : (m + n) * size ≤ Combinator.maxSpace ∨ Combinator.maxSpace < m * size) :
    Combinator.times size (m + n) p = Combinator.map (fun x => x.1 ++ x.2)
      (Combinator.seq (Combinator.times size m p) (Combinator.times size n p)) := by
  funext input
  rw [Nat.add_mul] at h
  rw [Combinator.map, Combinator.seq]
  simp only [Combinator.times, Nat.add_mul]
  rcases h with fits | long
  · rw [if_neg (by omega), if_neg (by omega), exactly_add]
    rcases Combinator.exactly p input m input [] with fault | ⟨as, location, rest⟩ | e
    · rfl
    · simp only [ok_bind]
      rw [if_neg (by omega), exactly_resumed p input rest, List.reverse_reverse]
      rcases Combinator.exactly p rest n rest [] with fault | ⟨bs, location', rest'⟩ | e <;> rfl
    · rfl
  · rw [if_pos (by omega), if_pos long]
    rfl

variable [Cursor C]

theorem collect_resumed (step : Reader (Except Fault) C α) (location location' : C) (rounds : Nat) (start : C)
    (values : List α) :
    Combinator.collect step location rounds start values =
      (Combinator.collect step location' rounds start []).map (Reply.resumed location values.reverse) := by
  induction rounds generalizing location start values with
  | zero => rfl
  | succ rounds ih =>
    rw [Combinator.collect, Combinator.collect]
    rcases step start with fault | ⟨a, _, rest⟩ | e
    · rfl
    · simp only [ok_bind]
      split
      · cases Cursor.position start <;> rfl
      · rw [ih location rest (a :: values), ih location' rest [a], map_resumed_resumed]
        simp
    · simp only [ok_bind]
      split
      · rfl
      · simp [Reply.resumed, pure, Except.pure]

theorem collect_map (f : α → β) (step : Reader (Except Fault) C α) (location : C) (rounds : Nat)
    (start : C) (values : List α) :
    Combinator.collect (Combinator.map f step) location rounds start (values.map f) =
      (Combinator.collect step location rounds start values).map (Reply.map (List.map f)) := by
  induction rounds generalizing start values with
  | zero => rfl
  | succ rounds ih =>
    rw [Combinator.collect, Combinator.collect, Combinator.map]
    rcases step start with fault | ⟨a, _, rest⟩ | e
    · rfl
    · simp only [ok_bind, pure_bind, Reply.map]
      split
      · cases Cursor.position start <;> rfl
      · exact ih rest (a :: values)
    · simp only [ok_bind, pure_bind, Reply.map]
      split
      · rfl
      · simp [pure, Except.pure, Reply.map]

theorem collect_relocated {step step' : Reader (Except Fault) C α}
    (h : ∀ here, step' here = (step here).map (Reply.located here)) (location : C) (rounds : Nat) (start : C)
    (values : List α) :
    Combinator.collect step' location rounds start values =
      Combinator.collect step location rounds start values := by
  induction rounds generalizing start values with
  | zero => rfl
  | succ rounds ih =>
    rw [Combinator.collect, Combinator.collect, h]
    rcases step start with fault | ⟨a, _, rest⟩ | e
    · rfl
    · simp only [map_ok, ok_bind, Reply.located, ih]
    · rfl

end Accumulators

section Loops

variable {K : Type} [TokenKind K] {i : Medium} {α β : Type} {p step : Reader (Except Fault) (Input K i) α}
  {input start : Input K i}

theorem Failure.isCommitted_of_suffix {here : Input K i} {e : Failure (Input K i)} (hs : Suffix input here)
    (he : Suffix here e.remainder) (committed : e.isCommitted here = true) : e.isCommitted input = true := by
  simp only [isCommitted, isPartial, Bool.and_eq_true, Bool.or_eq_true, Bool.not_eq_true'] at committed ⊢
  refine ⟨committed.1, committed.2.imp_left fun moved => ?_⟩
  rcases (Input.leaves_of_suffix (hs.trans he)).eq_or_lt with back | ⟨moved, -⟩
  · -- A failure that is back at the input has not moved at all.
    rw [back] at he moved
    rcases (Input.leaves_of_suffix he).eq_or_lt with rfl | ⟨-, shorter⟩
    · rw [Input.same_refl] at moved
      cases moved
    · rcases (Input.leaves_of_suffix hs).eq_or_lt with rfl | ⟨-, shorter'⟩ <;> omega
  · exact moved

theorem Advancing.collect_failure (hs : Advancing step) {location : Input K i} {rounds : Nat} {values : List α}
    {e : Failure (Input K i)} (h : Combinator.collect step location rounds start values = .ok (.failure e)) :
    ∃ here, Suffix start here ∧ Suffix here e.remainder ∧ e.isCommitted here = true := by
  induction rounds generalizing start values with
  | zero => cases h
  | succ rounds ih =>
    obtain ⟨⟨a, location', rest⟩ | f, read, h⟩ := bind_eq_ok h
    · dsimp only at h
      split at h
      · obtain ⟨place, -, h⟩ := bind_eq_ok h
        cases h
      · obtain ⟨here, suffix, left⟩ := ih h
        exact ⟨here, Suffix.trans (hs start _ read) suffix, left⟩
    · dsimp only at h
      split at h
      · next committed =>
        cases h
        exact ⟨start, .refl start, hs start _ read, committed⟩
      · cases h

-- More rounds than items are left are never used.
theorem Advancing.collect_rounds (hs : Advancing step) (location : Input K i) {rounds rounds' : Nat}
    (enough : Cursor.left start < rounds) (enough' : Cursor.left start < rounds') (values : List α) :
    Combinator.collect step location rounds start values =
      Combinator.collect step location rounds' start values := by
  induction rounds generalizing start rounds' values with
  | zero => omega
  | succ rounds ih =>
    obtain ⟨rounds', rfl⟩ := Nat.exists_eq_add_one.mpr (Nat.zero_lt_of_lt enough')
    rw [Combinator.collect, Combinator.collect]
    rcases read : step start with fault | ⟨a, location', rest⟩ | e
    · rfl
    · simp only [ok_bind]
      split
      · rfl
      · next moved =>
        have suffix : Suffix start rest := hs start _ read
        rcases (Input.leaves_of_suffix suffix).eq_or_lt with rfl | ⟨-, shorter⟩
        · exact (moved (Input.same_refl _)).elim
        · exact ih (by omega) (by omega) _
    · rfl

def collectAny (p step : Reader (Except Fault) (Input K i) α) :
    Reader (Except Fault) (Input K i) (List α) := fun input => do
  match ← p input with
  | .success a _ rest => Combinator.collect step input (Combinator.rounds rest) rest [a]
  | .failure e => if e.isCommitted input then return .failure e else return .success [] input input

theorem Advancing.many_eq (hp : Advancing p) : Combinator.many p = collectAny p p := by
  funext input
  rw [Combinator.many, collectAny, Combinator.rounds, Combinator.collect]
  rcases read : p input with fault | ⟨a, location, rest⟩ | e
  · rfl
  · have suffix : Suffix input rest := hp input _ read
    simp only [ok_bind]
    rcases (Input.leaves_of_suffix suffix).eq_or_lt with rfl | ⟨moved, shorter⟩
    · -- The step stays, which the first round of the loop behind it finds as well.
      simp only [Combinator.rounds, Combinator.collect, read, ok_bind, Input.same_refl, ↓reduceIte]
    · rw [if_neg (by simp [moved])]
      exact hp.collect_rounds input shorter (Nat.lt_succ_self _) [a]
  · rfl

theorem collectAfter_eq (p step : Reader (Except Fault) (Input K i) α) :
    collectAfter p step = Combinator.map (fun x => x.1 :: x.2) (Combinator.seq p (Combinator.many step)) := by
  funext input
  rw [collectAfter, Combinator.map, Combinator.seq]
  rcases p input with fault | ⟨a, location, rest⟩ | e
  · rfl
  · simp only [ok_bind, Combinator.many]
    rw [collect_resumed step input rest]
    rcases Combinator.collect step rest (Combinator.rounds rest) rest [] with
      fault | ⟨as, location', rest'⟩ | e <;> rfl
  · rfl

theorem Advancing.collectAny_eq (hp : Advancing p) (hs : Advancing step) :
    collectAny p step = Combinator.map (·.getD []) (Combinator.optional (collectAfter p step)) := by
  funext input
  rw [collectAny, Combinator.map, Combinator.optional, collectAfter]
  rcases read : p input with fault | ⟨a, location, rest⟩ | e
  · rfl
  · simp only [ok_bind]
    rcases loop : Combinator.collect step input (Combinator.rounds rest) rest [a] with
      fault | ⟨as, location', rest'⟩ | e
    · rfl
    · rfl
    · obtain ⟨here, suffix, left, committed⟩ := hs.collect_failure loop
      have final := Failure.isCommitted_of_suffix (Suffix.trans (hp input _ read) suffix) left committed
      simp [final, Reply.map, pure, Except.pure]
  · simp only [ok_bind, pure_bind]
    split <;> rfl

theorem skipMany_eq (p : Reader (Except Fault) (Input K i) α) :
    Combinator.skipMany p = Combinator.map (fun _ => ()) (Combinator.many p) := by
  funext input
  rw [Combinator.skipMany, Combinator.map, Combinator.many]
  have mapped := collect_map (fun _ => ()) p input (Combinator.rounds input) input []
  rw [List.map_nil] at mapped
  rw [mapped]
  rcases Combinator.collect p input (Combinator.rounds input) input [] with
    fault | ⟨as, location, rest⟩ | e <;> rfl

variable (item : Reader (Except Fault) (Input K i) α) (delimiter : Reader (Except Fault) (Input K i) β)

-- A delimiter and an item in a row differ from an item of a list only by where they are said to start.
theorem many_seqRight_eq :
    Combinator.many (Combinator.map Prod.snd (Combinator.seq delimiter item)) =
      Combinator.many (Combinator.sepItem item delimiter) := by
  funext input
  apply collect_relocated
  intro here
  rw [Combinator.map, Combinator.seq, Combinator.sepItem]
  rcases delimiter here with fault | ⟨b, location, rest⟩ | e
  · rfl
  · simp only [ok_bind]
    rcases item rest with fault | ⟨a, location', rest'⟩ | e <;> rfl
  · rfl

theorem sepBy_false_eq :
    Combinator.sepBy false item delimiter = collectAny item (Combinator.sepItem item delimiter) := by
  funext input
  refine bind_congr fun reply => ?_
  cases reply with
  | success a location rest => rfl
  | failure e => simp

end Loops

section Parsers

variable {K V : Type} [DecidableEq K] [TokenKind K] {i : Medium} {α β γ : Type}

/-- Every repetition gives the same result as its recursive form. A list of fixed length is the exception where
it is too long to be reserved and its first part is not: it faults at once, and its parts are read as far as
they go. -/
theorem run_repetition (definitions : Definitions K V) (depth : Nat) (p : Parser K V i α)
    (item : Parser K V i γ) (delimiter : Parser K V i β) (size m n : Nat) (input : Input K i) :
    (Parser.many p).runDepth definitions depth input =
        (Parser.optionalOr (.map (fun x => x.1 :: x.2) (.seq p (.many p))) []).runDepth definitions depth
          input ∧
      (Parser.many1 p).runDepth definitions depth input =
        (Parser.map (fun x => x.1 :: x.2) (.seq p (.many p))).runDepth definitions depth input ∧
      (Parser.skipMany p).runDepth definitions depth input =
        (Parser.map (fun _ => ()) (.many p)).runDepth definitions depth input ∧
      (Parser.sepBy true item delimiter).runDepth definitions depth input =
        (Parser.map (fun x => x.1 :: x.2)
          (.seq item (.many (.seqRight delimiter item)))).runDepth definitions depth input ∧
      (Parser.sepBy false item delimiter).runDepth definitions depth input =
        (Parser.optionalOr (.sepBy true item delimiter) []).runDepth definitions depth input ∧
      ((m + n) * size ≤ Combinator.maxSpace ∨ Combinator.maxSpace < m * size →
        (Parser.times size (m + n) p).runDepth definitions depth input =
          (Parser.map (fun x => x.1 ++ x.2)
            (.seq (.times size m p) (.times size n p))).runDepth definitions depth input) ∧
      (Combinator.maxSpace < (m + n) * size →
        (Parser.times size (m + n) p).runDepth definitions depth input = .error .capacity) := by
  obtain ⟨refer, runs⟩ := Parser.exists_runDepth_eq definitions depth
  have advancing : ∀ {α : Type} (q : Parser K V i α), Advancing (q.denote refer) :=
    fun q => runs q ▸ (q.tracking_runDepth definitions _).advancing
  simp only [runs, Parser.optionalOr, Parser.seqRight, Parser.denote]
  refine ⟨?_, ?_, ?_, ?_, ?_, ?_, ?_⟩
  · rw [← collectAfter_eq, ← (advancing p).collectAny_eq (advancing p), ← (advancing p).many_eq]
  · rw [← collectAfter_eq, many1_eq]
  · rw [skipMany_eq]
  · rw [many_seqRight_eq, ← collectAfter_eq, sepBy_true_eq]
  · have rest := (advancing item).sepItem (advancing delimiter)
    rw [sepBy_true_eq, ← (advancing item).collectAny_eq rest, sepBy_false_eq]
  · intro h
    rw [times_add _ h]
  · intro long
    rw [Combinator.times, if_pos long]
    rfl

def oneDigit : Parser Kind Unit .text Char :=
  .digit

def digitList (count : Nat) : Parser Kind Unit .text (List Char) :=
  .times 4 count oneDigit

def digitParts (m n : Nat) : Parser Kind Unit .text (List Char) :=
  .map (fun x => x.1 ++ x.2) (.seq (digitList m) (digitList n))

def numberText : Span :=
  some (.ofSource ⟨0, ['4', '0', '7']⟩)

-- Three digits are a digit and two digits. Of `2 ^ 61` digits one is too many.
theorem run_repetition_digits :
    (digitList (1 + 2)).run .empty numberText = (digitParts 1 2).run .empty numberText ∧
      (digitList (1 + 0x1fffffffffffffff)).run .empty numberText = .error .capacity := by
  constructor
  · have equations := run_repetition .empty 0 oneDigit oneDigit oneDigit 4 1 2 numberText
    exact equations.2.2.2.2.2.1 (.inl (by decide))
  · have equations := run_repetition .empty 0 oneDigit oneDigit oneDigit 4 1 0x1fffffffffffffff numberText
    exact equations.2.2.2.2.2.2 (by decide)

-- There is no digit, which only the parts find out.
theorem run_times_ne_parts :
    (digitList (1 + 18446744073709551614)).run .empty (some (.ofSource ⟨0, ['x']⟩)) ≠
      (digitParts 1 18446744073709551614).run .empty (some (.ofSource ⟨0, ['x']⟩)) := by
  have whole : (digitList (1 + 18446744073709551614)).run .empty (some (.ofSource ⟨0, ['x']⟩)) =
      .error .capacity := rfl
  have parts : (digitParts 1 18446744073709551614).run .empty (some (.ofSource ⟨0, ['x']⟩)) =
      .ok (.failure (.expected (some (.ofSource ⟨0, ['x']⟩)) ["digit"])) := rfl
  intro same
  cases whole.symm.trans (same.trans parts)

end Parsers

end Parsing

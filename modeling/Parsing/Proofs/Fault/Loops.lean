import Parsing.Proofs.Expression.Discipline
import Parsing.Proofs.Fault.Readers

namespace Parsing

variable {K : Type} [TokenKind K] {i : Medium} {α β ω : Type} {p : Reader (Except Fault) (Input K i) α}
  {input : Input K i} {fault : Fault}

section Repetition

def Stays (step : Reader (Except Fault) (Input K i) α) (here : Input K i) : Prop :=
  ∃ a location, step here = .ok (.success a location here)

def RepeatFaults (step : Reader (Except Fault) (Input K i) α) (start : Input K i) (fault : Fault) : Prop :=
  ∃ here, Suffix start here ∧ (step here = .error fault ∨
    Stays step here ∧ ∃ place, Cursor.position here = .ok place ∧ fault = .zeroWidth place)

theorem RepeatFaults.of_suffix {start rest : Input K i} (hs : Suffix start rest)
    (h : RepeatFaults p rest fault) : RepeatFaults p start fault := by
  obtain ⟨here, suffix, reason⟩ := h
  exact ⟨here, hs.trans suffix, reason⟩

theorem collect_fault {step : Reader (Except Fault) (Input K i) α} (hs : Advancing step)
    {location start : Input K i} (readable : start.Readable) (rounds : Nat)
    (enough : Cursor.left start < rounds) (values : List α)
    (h : Combinator.collect step location rounds start values = .error fault) :
    RepeatFaults step start fault := by
  -- A step that does not stay takes an item, so that the rounds do not run out.
  induction rounds generalizing start values with
  | zero => omega
  | succ rounds ih =>
    rcases bind_eq_error h with h | ⟨⟨a, location', rest⟩ | e, read, h⟩
    · exact ⟨start, .refl start, .inl h⟩
    · have suffix := hs.suffix read
      dsimp only at h
      rcases (Input.leaves_of_suffix suffix).eq_or_lt with rfl | ⟨moved, shorter⟩
      · obtain ⟨place, hp⟩ := readable.answers.position
        simp only [Input.same_refl, ↓reduceIte, ofExcept_eq, hp, ok_bind] at h
        cases h
        exact ⟨rest, .refl rest, .inr ⟨⟨a, location', read⟩, place, hp, rfl⟩⟩
      · simp only [moved, Bool.false_eq_true, ↓reduceIte] at h
        exact .of_suffix suffix (ih (readable.suffix suffix) (by omega) _ h)
    · dsimp only at h
      split at h <;> cases h

theorem many_fault (hp : Advancing p) (readable : input.Readable)
    (h : Combinator.many p input = .error fault) : RepeatFaults p input fault :=
  collect_fault hp readable _ (Nat.lt_succ_self _) _ h

theorem many1_fault (hp : Advancing p) (readable : input.Readable)
    (h : Combinator.many1 p input = .error fault) : RepeatFaults p input fault := by
  rcases bind_eq_error h with h | ⟨⟨a, location, rest⟩ | e, read, h⟩
  · exact ⟨input, .refl input, .inl h⟩
  · have suffix := hp.suffix read
    exact .of_suffix suffix (collect_fault hp (readable.suffix suffix) _ (Nat.lt_succ_self _) _ h)
  · cases h

theorem skipMany_fault (hp : Tracking p) (readable : input.Readable)
    (h : Combinator.skipMany p input = .error fault) : RepeatFaults p input fault := by
  have h := eq_error_of_bind h fun _ => ⟨_, rfl⟩
  obtain ⟨here, suffix, h | ⟨⟨a, location, h⟩, place⟩⟩ :=
    collect_fault (hp.map fun _ => ()).advancing readable _ (Nat.lt_succ_self _) _ h
  · exact ⟨here, suffix, .inl (map_fault h)⟩
  · obtain ⟨⟨b, location', rest⟩ | e, read, h⟩ := bind_eq_ok h
    · cases h
      exact ⟨here, suffix, .inr ⟨⟨b, location, read⟩, place⟩⟩
    · cases h

theorem sepBy_fault {delimiter : Reader (Except Fault) (Input K i) β} (hp : Advancing p)
    (hd : Advancing delimiter) (readable : input.Readable) {required : Bool}
    (h : Combinator.sepBy required p delimiter input = .error fault) :
    p input = .error fault ∨ RepeatFaults (Combinator.sepItem p delimiter) input fault := by
  rcases bind_eq_error h with h | ⟨⟨a, location, rest⟩ | e, read, h⟩
  · exact .inl h
  · have suffix := hp.suffix read
    have rounds := collect_fault (hp.sepItem hd) (readable.suffix suffix) _ (Nat.lt_succ_self _) _ h
    exact .inr (.of_suffix suffix rounds)
  · dsimp only at h
    split at h <;> cases h

theorem exactly_fault (hp : Advancing p) {location start : Input K i} (count : Nat) (values : List α)
    (h : Combinator.exactly p location count start values = .error fault) :
    ∃ here, Suffix start here ∧ p here = .error fault := by
  induction count generalizing start values with
  | zero => cases h
  | succ count ih =>
    rcases bind_eq_error h with h | ⟨⟨a, location', rest⟩ | e, read, h⟩
    · exact ⟨start, .refl start, h⟩
    · obtain ⟨here, suffix, reason⟩ := ih _ h
      exact ⟨here, (hp.suffix read).trans suffix, reason⟩
    · cases h

theorem times_fault (hp : Advancing p) {size count : Nat}
    (h : Combinator.times size count p input = .error fault) :
    Combinator.maxSpace < count * size ∧ fault = .capacity ∨
      ∃ here, Suffix input here ∧ p here = .error fault := by
  unfold Combinator.times at h
  split at h
  · next long =>
    cases h
    exact .inl ⟨long, rfl⟩
  · exact .inr (exactly_fault hp _ _ h)

end Repetition

section Chain

variable {operator : Reader (Except Fault) (Input K i) ω} {operand : Reader (Except Fault) (Input K i) α}

theorem link_fault (ho : Advancing operator) (ha : Advancing operand) (readable : input.Readable)
    (h : Combinator.link operator operand input = .error fault) :
    operator input = .error fault ∨
      ∃ op location rest, operator input = .ok (.success op location rest) ∧
        (operand rest = .error fault ∨ ∃ a location' place,
          operand rest = .ok (.success a location' input) ∧ Cursor.position input = .ok place ∧
          fault = .zeroWidthLink place) := by
  rcases bind_eq_error h with h | ⟨⟨op, location, rest⟩ | e, read, h⟩
  · exact .inl h
  · refine .inr ⟨op, location, rest, read, ?_⟩
    rcases bind_eq_error h with h | ⟨⟨a, location', last⟩ | e, read', h⟩
    · exact .inl h
    · have suffix := (ho.suffix read).trans (ha.suffix read')
      dsimp only at h
      rcases (Input.leaves_of_suffix suffix).eq_or_lt with rfl | ⟨moved, -⟩
      · obtain ⟨place, hp⟩ := readable.answers.position
        simp only [Input.same_refl, ↓reduceIte, ofExcept_eq, hp, ok_bind] at h
        cases h
        exact .inr ⟨a, location', place, read', hp, rfl⟩
      · simp only [moved, Bool.false_eq_true, ↓reduceIte] at h
        cases h
    · cases h
  · dsimp only at h
    split at h <;> cases h

theorem link_linked (ho : Advancing operator) (ha : Advancing operand) {op : ω} {a : α}
    {rest : Input K i} (h : Combinator.link operator operand input = .ok (.linked op a rest)) :
    Suffix input rest ∧ Cursor.left rest < Cursor.left input := by
  obtain ⟨⟨op', location, middle⟩ | e, read, h⟩ := bind_eq_ok h
  · obtain ⟨⟨a', location', last⟩ | e, read', h⟩ := bind_eq_ok h
    · have suffix := (ho.suffix read).trans (ha.suffix read')
      dsimp only at h
      rcases (Input.leaves_of_suffix suffix).eq_or_lt with rfl | ⟨moved, shorter⟩
      · simp only [Input.same_refl, ↓reduceIte] at h
        obtain ⟨place, -, h⟩ := bind_eq_ok h
        cases h
      · simp only [moved, Bool.false_eq_true, ↓reduceIte] at h
        cases h
        exact ⟨suffix, shorter⟩
    · cases h
  · dsimp only at h
    split at h <;> cases h

section Loops

variable {next : Input K i → Except Fault (Combinator.Link (Input K i) ω α)}
  (hn : ∀ {start rest op a}, next start = .ok (.linked op a rest) →
    Suffix start rest ∧ Cursor.left rest < Cursor.left start)
  {apply : ω → α → α → α} {location start : Input K i}
include hn

theorem chainLeft_fault (rounds : Nat) (enough : Cursor.left start < rounds) (acc : α)
    (h : Combinator.chainLeft next apply location rounds start acc = .error fault) :
    ∃ here, Suffix start here ∧ next here = .error fault := by
  induction rounds generalizing start acc with
  | zero => omega
  | succ rounds ih =>
    rcases bind_eq_error h with h | ⟨⟨op, a, rest⟩ | e | _, linked, h⟩
    · exact ⟨start, .refl start, h⟩
    · obtain ⟨suffix, shorter⟩ := hn linked
      obtain ⟨here, suffix', reason⟩ := ih (by omega) _ h
      exact ⟨here, suffix.trans suffix', reason⟩
    · cases h
    · cases h

theorem chainRight_fault (rounds : Nat) (enough : Cursor.left start < rounds) (pending : List (α × ω))
    (last : α) (h : Combinator.chainRight next apply location rounds start pending last = .error fault) :
    ∃ here, Suffix start here ∧ next here = .error fault := by
  induction rounds generalizing start pending last with
  | zero => omega
  | succ rounds ih =>
    rcases bind_eq_error h with h | ⟨⟨op, a, rest⟩ | e | _, linked, h⟩
    · exact ⟨start, .refl start, h⟩
    · obtain ⟨suffix, shorter⟩ := hn linked
      obtain ⟨here, suffix', reason⟩ := ih (by omega) _ _ h
      exact ⟨here, suffix.trans suffix', reason⟩
    · cases h
    · cases h

end Loops

theorem chain_fault (ho : Advancing operator) (ha : Advancing operand) {associativity : Associativity}
    {apply : ω → α → α → α}
    (h : Combinator.chain associativity operator operand apply input = .error fault) :
    operand input = .error fault ∨
      ∃ here, Suffix input here ∧ Combinator.link operator operand here = .error fault := by
  have hn : ∀ {start rest op a}, Combinator.link operator operand start = .ok (.linked op a rest) →
      Suffix start rest ∧ Cursor.left rest < Cursor.left start := link_linked ho ha
  rcases bind_eq_error h with h | ⟨⟨a, location, rest⟩ | e, read, h⟩
  · exact .inl h
  · have enough : Cursor.left rest < Combinator.rounds rest := Nat.lt_succ_self _
    have broken : ∃ here, Suffix rest here ∧ Combinator.link operator operand here = .error fault := by
      cases associativity with
      | left => exact chainLeft_fault hn _ enough _ h
      | right => exact chainRight_fault hn _ enough _ _ h
    obtain ⟨here, suffix, reason⟩ := broken
    exact .inr ⟨here, (ha.suffix read).trans suffix, reason⟩
  · cases h

end Chain

namespace Expression

variable {K α : Type} {g : Grammar K α} [DecidableEq K] [TokenKind K]
  {operand : Reader (Except Fault) (TokenList K) α} {fault : Fault}

omit [DecidableEq K] in
theorem forwardOnly_of_advancing (h : Advancing operand) : ForwardOnly operand := by
  intro l value location rest read
  exact Input.leaves_of_suffix (K := K) (i := .tokens) (h (some l) _ read)

theorem runSteps_fault (ho : Tracking operand) {l : TokenView K} (steps : Nat) {c : Configuration g}
    (tracks : (c.machine (some l)).Tracks (some l)) (enough : c.budget ≤ steps)
    (h : (c.machine (some l)).runSteps operand steps = .error fault) :
    ∃ here, Suffix (some l : TokenList K) here ∧ operand here = .error fault := by
  -- Moves spend the budget of a configuration, so that the steps do not run out.
  induction steps generalizing c with
  | zero =>
    obtain ⟨n, hn⟩ := exists_step enough
    cases hn
  | succ steps ih =>
    rcases bind_eq_error h with h | ⟨machine | reply, step, h⟩
    · rcases step_faults (some l) h with ⟨none, -⟩ | ⟨-, read⟩
      · obtain ⟨tokens, k, some, -⟩ := Input.leaves_of_suffix (K := K) (i := .tokens) tracks.2
        cases none.symm.trans some
      · exact ⟨_, tracks.2, read⟩
    · obtain ⟨c', rfl, move⟩ := exists_transition (some l) step
      have shorter := move.budget_lt (forwardOnly_of_advancing ho.advancing)
      exact ih (tracks.step ho _ step) (by omega) h
    · cases h

theorem expression_fault (ho : Tracking operand) {l : TokenView K}
    (h : expression operand g (some l) = .error fault) :
    ∃ here, Suffix (some l : TokenList K) here ∧ operand here = .error fault :=
  runSteps_fault (c := .awaiting (some l) []) ho _ ⟨rfl, .refl _⟩ (Nat.le_refl _) h

end Expression

end Parsing

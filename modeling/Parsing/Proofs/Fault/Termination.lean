import Parsing.Proofs.Fault.Loops
import Parsing.Proofs.Fault.Settling
import Parsing.Proofs.Remainder.Parser

namespace Parsing

section Combinators

variable {K : Type} [TokenKind K] {i : Medium} {α β ω : Type} {p : Reader (Except Fault) (Input K i) α}

theorem Settling.notFollowedBy (hp : Settling p) : Settling (Combinator.notFollowedBy p) := by
  intro input
  apply (hp input).bind
  rintro (⟨a, location, rest⟩ | e) _
  · exact (settles_textTo input rest).ofExcept.bind fun _ _ => settles_ok _
  · exact settles_ok _

theorem Settling.whole (hp : Settling p) : Settling (Combinator.whole p) := by
  intro input
  apply (hp input).bind
  rintro (⟨a, location, rest⟩ | e) _
  · exact (settles_isAtEnd rest).ofExcept.bind fun _ _ => settles_ite (settles_ok _) (settles_ok _)
  · exact settles_ok _

theorem settles_drop (count : Nat) (input : Input K i) :
    Settles (Combinator.drop count input : Except Fault (Input K i)) := by
  induction count generalizing input with
  | zero => exact settles_ok _
  | succ count ih =>
    apply (settles_tail input).ofExcept.bind
    rintro (_ | rest) _
    · exact settles_ok _
    · exact ih rest

theorem settling_fail (skip : Nat) (report : Failure Unit) :
    Settling (Combinator.fail skip report : Reader (Except Fault) (Input K i) α) :=
  fun input => (settles_drop skip input).bind fun _ _ => settles_ok _

theorem Settling.inToken {tokenReader : Reader (Except Fault) (TokenList K) (Token K)}
    {textReader : Reader (Except Fault) Span α} (ht : Settling tokenReader) (hp : Settling textReader) :
    Settling (Primitive.inToken tokenReader textReader) := by
  intro input
  apply (ht input).bind
  rintro (⟨t, location, rest⟩ | e) _
  · have refused : ∀ inner, Settles (do
        return .failure (← MonadExcept.ofExcept (Primitive.refusal input t.kind inner)) :
          Except Fault (Reply (TokenList K) α)) := by
      intro inner
      exact (settles_refusal input t.kind inner).ofExcept.bind fun _ _ => settles_ok _
    apply (hp (some t.span)).bind
    rintro (⟨a, start, last⟩ | inner) _
    · apply (settles_isAtEnd (K := K) (i := .text) last).ofExcept.bind
      intro atEnd _
      exact settles_ite (settles_ok _) (refused _)
    · exact refused inner
  · exact settles_ok _

theorem Settling.collect (hp : Settling p) (advancing : Advancing p) (location : Input K i) {start : Input K i}
    (rounds : Nat) (enough : Cursor.left start < rounds) (values : List α) :
    Settles (Combinator.collect p location rounds start values) := by
  -- A step that does not stay where it is takes an item: fewer items are left than there are rounds.
  induction rounds generalizing start values with
  | zero => omega
  | succ rounds ih =>
    apply (hp start).bind
    rintro (⟨a, location', rest⟩ | e) read
    · dsimp only
      rcases (Input.leaves_of_suffix (advancing.suffix read)).eq_or_lt with rfl | ⟨moved, shorter⟩
      · rw [if_pos (Input.same_refl rest)]
        exact (settles_position rest).ofExcept.bind fun _ _ => settles_error trivial
      · rw [if_neg (by simp [moved])]
        exact ih (by omega) (a :: values)
    · exact settles_ite (settles_ok _) (settles_ok _)

theorem Settling.many (hp : Settling p) (advancing : Advancing p) : Settling (Combinator.many p) :=
  fun input => hp.collect advancing input _ (Nat.lt_succ_self _) []

theorem Settling.many1 (hp : Settling p) (advancing : Advancing p) : Settling (Combinator.many1 p) := by
  intro input
  apply (hp input).bind
  rintro (⟨a, location, rest⟩ | e) _
  · exact hp.collect advancing input _ (Nat.lt_succ_self _) [a]
  · exact settles_ok _

theorem Settling.skipMany (hp : Settling p) (tracking : Tracking p) : Settling (Combinator.skipMany p) := by
  intro input
  have step : Settling (Combinator.map (fun _ => ()) p) := fun here fault h => hp here fault (map_fault h)
  have advancing := (tracking.map fun _ => ()).advancing
  exact (step.collect advancing input _ (Nat.lt_succ_self _) []).bind fun _ _ => settles_ok _

theorem Settling.sepBy {delimiter : Reader (Except Fault) (Input K i) β} (hp : Settling p)
    (hd : Settling delimiter) (advancing : Advancing p) (advancing' : Advancing delimiter) (required : Bool) :
    Settling (Combinator.sepBy required p delimiter) := by
  intro input
  apply (hp input).bind
  rintro (⟨a, location, rest⟩ | e) _
  · exact (hp.sepItem hd).collect (advancing.sepItem advancing') input _ (Nat.lt_succ_self _) [a]
  · exact settles_ite (settles_ok _) (settles_ok _)

theorem Settling.times (hp : Settling p) (advancing : Advancing p) (size count : Nat) :
    Settling (Combinator.times size count p) := by
  intro input fault h
  rcases times_fault advancing h with ⟨-, rfl⟩ | ⟨here, -, h⟩
  · trivial
  · exact hp here fault h

variable {operator : Reader (Except Fault) (Input K i) ω} {operand : Reader (Except Fault) (Input K i) α}

theorem Settling.link (ho : Settling operator) (ha : Settling operand) (start : Input K i) :
    Settles (Combinator.link operator operand start) := by
  apply (ho start).bind
  rintro (⟨op, location, rest⟩ | e) _
  · apply (ha rest).bind
    rintro (⟨a, location', last⟩ | e) _
    · apply settles_ite
      · exact (settles_position start).ofExcept.bind fun _ _ => settles_error trivial
      · exact settles_ok _
    · exact settles_ok _
  · exact settles_ite (settles_ok _) (settles_ok _)

theorem Settling.chain (ho : Settling operator) (ha : Settling operand) (advancing : Advancing operator)
    (advancing' : Advancing operand) (associativity : Associativity) (apply : ω → α → α → α) :
    Settling (Combinator.chain associativity operator operand apply) := by
  intro input fault h
  rcases chain_fault advancing advancing' h with h | ⟨here, -, h⟩
  · exact ha input fault h
  · exact ho.link ha here fault h

end Combinators

namespace Expression

variable {K α : Type} {g : Grammar K α}

section Reductions

def Stacks.Round (continues : List (Entry g) → Bool) (s t : Stacks g) : Prop :=
  continues s.operators = true ∧ s.reduce = .ok t

theorem reduce_shortens {s t : Stacks g} (h : s.reduce = .ok t) : t.operators.length < s.operators.length := by
  unfold Stacks.reduce at h
  split at h
  · cases h
    simp
  · cases h
    simp
  · split at h <;> cases h
    simp only [List.length_cons]
    omega
  · split at h <;> cases h
    simp only [List.length_cons]
    omega
  · cases h

theorem reduce_breaks {s : Stacks g} {fault : Fault} (h : s.reduce = .error fault) : fault = .brokenStack := by
  unfold Stacks.reduce at h
  split at h
  · cases h
  · cases h
  · split at h <;> cases h
    rfl
  · split at h <;> cases h
    rfl
  · cases h
    rfl

def Stacks.Ends (continues : List (Entry g) → Bool) (s : Stacks g) (result : Except Fault (Stacks g)) : Prop :=
  ∃ t, Relation.ReflTransGen (Stacks.Round continues) s t ∧
    (continues t.operators = false ∧ result = .ok t ∨
      continues t.operators = true ∧ t.reduce = .error .brokenStack ∧ result = .error .brokenStack)

theorem reduceRounds_ends (continues : List (Entry g) → Bool) (rounds : Nat) (s : Stacks g)
    (enough : s.operators.length ≤ rounds) : s.Ends continues (s.reduceRounds continues rounds) := by
  -- Every reduction takes an entry off the operators.
  induction rounds generalizing s with
  | zero =>
    obtain ⟨ops, values⟩ := s
    obtain rfl : ops = [] := List.eq_nil_of_length_eq_zero (Nat.le_zero.mp enough)
    refine ⟨_, .refl, ?_⟩
    cases hc : continues [] with
    | false => exact .inl ⟨rfl, by simp [Stacks.reduceRounds, hc]⟩
    | true => exact .inr ⟨rfl, by simp [Stacks.reduce], by simp [Stacks.reduceRounds, hc]⟩
  | succ rounds ih =>
    cases hc : continues s.operators with
    | false => exact ⟨s, .refl, .inl ⟨hc, by simp [Stacks.reduceRounds, hc]⟩⟩
    | true =>
      cases hr : s.reduce with
      | error fault =>
        obtain rfl := reduce_breaks hr
        exact ⟨s, .refl, .inr ⟨hc, hr, by simp [Stacks.reduceRounds, hc, hr]⟩⟩
      | ok next =>
        have shorter := reduce_shortens hr
        obtain ⟨t, moves, ends⟩ := ih next (by omega)
        have goes : s.reduceRounds continues (rounds + 1) = next.reduceRounds continues rounds := by
          simp [Stacks.reduceRounds, hc, hr]
        rw [goes]
        exact ⟨t, .head ⟨hc, hr⟩ moves, ends⟩

end Reductions

variable [DecidableEq K] [TokenKind K] {operand : Reader (Except Fault) (TokenList K) α}

theorem exists_last (forward : ForwardOnly operand) (input : TokenList K) (c : Configuration g) :
    ∃ s, Machine.Reaches operand (c.machine input) s ∧ ∀ next, s.step operand ≠ .ok (.going next) := by
  induction hb : c.budget using Nat.strongRecOn generalizing c with
  | ind n ih =>
    by_cases going : ∃ next, (c.machine input).step operand = .ok (.going next)
    · obtain ⟨next, hs⟩ := going
      obtain ⟨c', rfl, move⟩ := exists_transition input hs
      have spent := move.budget_lt forward
      obtain ⟨s, reached, last⟩ := ih c'.budget (hb ▸ spent) c' rfl
      exact ⟨s, .head hs reached, last⟩
    · exact ⟨_, .refl, fun next hs => going ⟨next, hs⟩⟩

theorem exists_halt (advancing : Advancing operand) (l : TokenView K) :
    ∃ s : Machine g, Machine.Reaches operand (.start (some l)) s ∧
      ((∃ reply, s.step operand = .ok (.done reply) ∧ expression operand g (some l) = .ok reply) ∨
        ∃ fault, s.expect = .operand ∧ operand s.remainder = .error fault ∧
          expression operand g (some l) = .error fault) := by
  have forward := forwardOnly_of_advancing advancing
  obtain ⟨s, reached, last⟩ := exists_last (g := g) forward (some l) (.awaiting (some l) [])
  obtain ⟨c, rfl, moves⟩ := exists_start reached
  refine ⟨_, reached, ?_⟩
  cases hs : (c.machine (some l)).step operand with
  | error fault =>
    have raised := ((Answers.of_error hs).of_moves forward moves).expression_eq
    rcases step_faults (some l) hs with ⟨none, -⟩ | ⟨expect, read⟩
    · obtain ⟨-, k, hk, -⟩ := reads_of_moves forward rfl moves
      cases c <;> cases none.symm.trans hk
    · exact .inr ⟨fault, expect, read, raised⟩
  | ok out =>
    cases out with
    | going next => exact absurd hs (last next)
    | done reply =>
      exact .inl ⟨reply, rfl, ((Answers.of_done hs).of_moves forward moves).expression_eq⟩

theorem settling_expression (settling : Settling operand) (advancing : Advancing operand) :
    Settling (expression operand g) := by
  intro input fault h
  cases input with
  | none =>
    have unread : expression operand g none = .error .noTokens := rfl
    cases unread.symm.trans h
    trivial
  | some l =>
    obtain ⟨s, -, ⟨reply, -, returned⟩ | ⟨fault', -, read, raised⟩⟩ := exists_halt (g := g) advancing l
    · cases returned.symm.trans h
    · cases raised.symm.trans h
      exact settling _ fault read

end Expression

namespace Parser

variable {K V : Type}

def ReferenceFree : {i : Medium} → {α : Type} → Parser K V i α → Prop
  | _, _, .inToken t p => t.ReferenceFree ∧ p.ReferenceFree
  | _, _, .expression operand _ => operand.ReferenceFree
  | _, _, .map _ p => p.ReferenceFree
  | _, _, .bind p q => p.ReferenceFree ∧ ∀ a, (q a).ReferenceFree
  | _, _, .seq p q => p.ReferenceFree ∧ q.ReferenceFree
  | _, _, .or p q => p.ReferenceFree ∧ q.ReferenceFree
  | _, _, .attempt p => p.ReferenceFree
  | _, _, .labelled p _ => p.ReferenceFree
  | _, _, .reporting p _ => p.ReferenceFree
  | _, _, .guard p _ _ => p.ReferenceFree
  | _, _, .notFollowedBy p => p.ReferenceFree
  | _, _, .many p => p.ReferenceFree
  | _, _, .many1 p => p.ReferenceFree
  | _, _, .skipMany p => p.ReferenceFree
  | _, _, .optional p => p.ReferenceFree
  | _, _, .sepBy _ item delimiter => item.ReferenceFree ∧ delimiter.ReferenceFree
  | _, _, .times _ _ p => p.ReferenceFree
  | _, _, .whole p => p.ReferenceFree
  | _, _, .chain _ operator operand _ => operator.ReferenceFree ∧ operand.ReferenceFree
  | _, _, .reference _ => False
  | _, _, .one .. | _, _, .literal .. | _, _, .takeWhile .. | _, _, .token .. | _, _, .kinds _
  | _, _, .succeed _ | _, _, .fail .. => True

variable [DecidableEq K] [TokenKind K]

theorem settling_denote {refer : (i : Medium) → String → Reader (Except Fault) (Input K i) V}
    (tracks : ∀ i name, Tracking (refer i name)) {i : Medium} {α : Type} (p : Parser K V i α)
    (free : p.ReferenceFree) : Settling (p.denote refer) := by
  have tracking : ∀ {j : Medium} {β : Type} (q : Parser K V j β), Tracking (q.denote refer) :=
    fun q => tracking_denote tracks q
  have advancing : ∀ {j : Medium} {β : Type} (q : Parser K V j β), Advancing (q.denote refer) :=
    fun q => (tracking q).advancing
  induction p with
  | one accepts expectations => exact settles_one accepts expectations
  | literal text ignoreCase => exact settles_literal text ignoreCase
  | takeWhile accepts name => exact settles_takeWhile accepts name
  | token accepts expectation => exact settles_token accepts expectation
  | kinds expected => exact fun input => (settles_matchKinds input expected input []).ofExcept
  | inToken t p ht hp => exact (ht free.1).inToken (hp free.2)
  | expression operand grammar ho =>
    exact Expression.settling_expression (ho free) (advancing operand)
  | map f p hp => exact fun input fault h => hp free input fault (map_fault h)
  | bind p q hp hq => exact (hp free.1).bind fun a => hq a (free.2 a)
  | seq p q hp hq => exact (hp free.1).seq (hq free.2)
  | or p q hp hq => exact (hp free.1).or (hq free.2)
  | attempt p hp => exact fun input fault h => hp free input fault (attempt_fault h)
  | labelled p name hp => exact fun input fault h => hp free input fault (labelled_fault h)
  | reporting p text hp => exact fun input fault h => hp free input fault (reporting_fault h)
  | guard p accepts expectation hp => exact fun input fault h => hp free input fault (guard_fault h)
  | notFollowedBy p hp => exact (hp free).notFollowedBy
  | succeed a => exact fun _ => settles_ok _
  | many p hp => exact (hp free).many (advancing p)
  | many1 p hp => exact (hp free).many1 (advancing p)
  | skipMany p hp => exact (hp free).skipMany (tracking p)
  | optional p hp => exact fun input fault h => hp free input fault (optional_fault h)
  | sepBy required item delimiter hi hd =>
    exact (hi free.1).sepBy (hd free.2) (advancing item) (advancing delimiter) required
  | times size count p hp => exact (hp free).times (advancing p) size count
  | whole p hp => exact (hp free).whole
  | chain associativity operator operand f ho ha =>
    exact (ho free.1).chain (ha free.2) (advancing operator) (advancing operand) associativity f
  | reference name => exact free.elim
  | fail skip report => exact settling_fail skip report

theorem settling_runDepth (definitions : Definitions K V) (depth : Nat) {i : Medium} {α : Type}
    (p : Parser K V i α) (free : p.ReferenceFree) : Settling (p.runDepth definitions depth) := by
  cases depth with
  | zero => exact settling_denote (fun i name => tracking_runDepth definitions 0 (.reference name)) p free
  | succ depth =>
    exact settling_denote (fun i name => tracking_runDepth definitions (depth + 1) (.reference name)) p free

end Parser

variable {K V : Type} [DecidableEq K] [TokenKind K]

/-- Every loop ends: those of parsers without references, the machine that reads expressions unless an operand
faults, and the loops that reduce its stacks. -/
theorem run_ends (definitions : Definitions K V) :
    (∀ {i : Medium} {α : Type} (p : Parser K V i α), p.ReferenceFree → ∀ input : Input K i,
      (∃ reply, p.run definitions input = .ok reply) ∨
        ∃ fault, p.run definitions input = .error fault ∧ fault.Definite) ∧
    (∀ {α : Type} (g : Expression.Grammar K α) (p : Parser K V .tokens α) (l : TokenView K),
      let operand := p.runDepth definitions (definitions.depth (i := .tokens) (some l))
      ∃ s : Expression.Machine g, Expression.Machine.Reaches operand (.start (some l)) s ∧
        ((∃ reply, s.step operand = .ok (.done reply) ∧
            (Parser.expression p g).run definitions (some l) = .ok reply) ∨
          ∃ fault, s.expect = .operand ∧ operand s.remainder = .error fault ∧
            (Parser.expression p g).run definitions (some l) = .error fault)) ∧
    ∀ {α : Type} {g : Expression.Grammar K α} (continues : List (Expression.Entry g) → Bool)
      (s : Expression.Stacks g), s.Ends continues (s.reduceWhile continues) := by
  refine ⟨?_, ?_, ?_⟩
  · intro i α p free input
    exact (p.settling_runDepth definitions _ free input).returns
  · intro α g p l operand
    have same : (Parser.expression p g).run definitions (some l) =
        Expression.expression operand g (some l) := by
      simp only [Parser.run, operand]
      generalize definitions.depth (i := .tokens) (some l) = depth
      cases depth <;> rfl
    rw [same]
    exact Expression.exists_halt (p.tracking_runDepth definitions _).advancing l
  · intro α g continues s
    exact Expression.reduceRounds_ends continues _ s (Nat.le_refl _)

-- The second repetition goes on with an optional letter that is not there.
def stammer : Parser Kind Int .text (List (List Char) × List (Option Char)) :=
  .seq (.many (.many1 (.char 'a'))) (.many (.optional (.char 'b')))

-- An operand that takes nothing.
def absent : Parser Kind Int .tokens Int :=
  .succeed 1

theorem run_ends_stammer :
    (stammer.ReferenceFree ∧ ∃ fault, stammer.run .empty (some (.ofSource ⟨0, ['a', 'a', 'b']⟩)) = .error fault ∧
      fault.Definite) ∧
    absent.ReferenceFree ∧ ∃ s : Expression.Machine Expression.calculator,
      Expression.Machine.Reaches (absent.runDepth .empty 0) (.start (some (Expression.marks ["-", "-"] 0))) s ∧
        ∃ reply, s.step (absent.runDepth .empty 0) = .ok (.done reply) := by
  have free : stammer.ReferenceFree := ⟨trivial, trivial⟩
  refine ⟨⟨free, ?_⟩, trivial, ?_⟩
  · rcases (run_ends .empty).1 stammer free (some (.ofSource ⟨0, ['a', 'a', 'b']⟩)) with ⟨reply, h⟩ | raised
    · have stalls : stammer.run .empty (some (.ofSource ⟨0, ['a', 'a', 'b']⟩)) = .error (.zeroWidth ⟨3, 1, 4⟩) :=
        rfl
      cases stalls.symm.trans h
    · exact raised
  · obtain ⟨s, reached, ⟨reply, done, -⟩ | ⟨fault, -, read, -⟩⟩ :=
      (run_ends .empty).2.1 Expression.calculator absent (Expression.marks ["-", "-"] 0)
    · exact ⟨s, reached, reply, done⟩
    · cases read

end Parsing

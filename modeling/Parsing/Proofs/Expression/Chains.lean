import Parsing.Proofs.Expression.Levels
import Parsing.Proofs.Expression.Runs

/-!
A chain of operators of one level is followed by the machine, above any frames that the operators leave
alone: what a chain has folded are arms that are filled next, and what a chain to the right still holds back
are arms that its own operators do not fill.
-/

namespace Parsing.Expression

open Frames Expression.Configuration

variable {K V ω α : Type} {g : Grammar K α}

section Arms

def EndsLevels (levels : List (Level K ω α)) (k : TokenView K) : Prop :=
  ∀ token ∈ k.rest.head?, ∀ level ∈ levels, token.kind ∉ level.kinds

def ArmsOf (levels : List (Level K ω α)) (arms : List (Arm g)) : Prop :=
  ∀ a ∈ arms, ∃ level ∈ levels, ∃ op token left, a = .infixed (level.operator op) token left

def Below (F : List (Frame g)) (levels : List (Level K ω α)) : Prop :=
  ∀ level ∈ levels, Stacks.bindsTighter level.precedence (operators F) = false

variable {level : Level K ω α} {levels : List (Level K ω α)}

theorem bindsTighter_infixed (precedence : Int) (op : ω) (token : Token K) (left : Tree g) :
    Stacks.bindsTighter precedence (Arm.infixed (level.operator op) token left).entries = true ↔
      precedence < level.precedence ∨
        level.precedence = precedence ∧ level.associativity = .left := by
  simp [Arm.entries, Stacks.bindsTighter, Level.operator]

theorem ArmsOf.cons {arms : List (Arm g)} (h : ArmsOf levels arms) : ArmsOf (level :: levels) arms := by
  intro a ha
  obtain ⟨other, ho, hop⟩ := h a ha
  exact ⟨other, List.mem_cons_of_mem _ ho, hop⟩

theorem ArmsOf.tight {arms : List (Arm g)} (h : ArmsOf levels arms) {precedence : Int}
    (binds : ∀ level ∈ levels, precedence < level.precedence ∨
      level.precedence = precedence ∧ level.associativity = .left) :
    ∀ a ∈ arms, Stacks.bindsTighter precedence a.entries = true := by
  intro a ha
  obtain ⟨level, hl, op, token, left, rfl⟩ := h a ha
  rw [bindsTighter_infixed]
  exact binds level hl

theorem below_infixed (looser : ∀ other ∈ levels, level.precedence < other.precedence) (op : ω)
    (token : Token K) (left : Tree g) (F : List (Frame g)) :
    Below (.arm (.infixed (level.operator op) token left) :: F) levels := by
  intro other ho
  have hlt := looser other ho
  rw [bindsTighter_arm, Bool.eq_false_iff, Ne, bindsTighter_infixed]
  omega

theorem endsLevels_cons {k : TokenView K} (h : EndsLevels [level] k) (hs : EndsLevels levels k) :
    EndsLevels (level :: levels) k := by
  intro token ht other ho
  rcases List.mem_cons.mp ho with rfl | ho
  · exact h token ht other (by simp)
  · exact hs token ht other ho

def heldArms (level : Level K ω α) (held : List (ω × Token K × Tree g)) : List (Arm g) :=
  held.map fun item => .infixed (level.operator item.1) item.2.1 item.2.2

def heldValues (held : List (ω × Token K × Tree g)) : List (α × ω) :=
  held.map fun item => (item.2.2.value, item.1)

theorem value_plugAll_held (held : List (ω × Token K × Tree g)) (t : Tree g) :
    (Arm.plugAll (heldArms level held) t).value =
      (heldValues held).foldl (fun acc (a, op) => level.apply op a acc) t.value := by
  induction held generalizing t with
  | nil => rfl
  | cons item held ih => exact ih (.infixed (level.operator item.1) item.2.1 item.2.2 t)

end Arms

variable [DecidableEq K]

section Following

variable (operand : Reader (Except Fault) (TokenList K) α)

structure Followed (levels : List (Level K ω α)) (F : List (Frame g)) (c : Configuration g) (value : α)
    (k : TokenView K) (arms : List (Arm g)) (t : Tree g) : Prop where
  moves : Relation.ReflTransGen (Transition operand) c (.holding (some k) (onto arms F) t)
  value : (Arm.plugAll arms t).value = value
  arms : ArmsOf levels arms

variable {operand} {level : Level K ω α} {levels : List (Level K ω α)}

theorem Followed.after {c c' : Configuration g} {F : List (Frame g)} {value : α} {k : TokenView K}
    {arms : List (Arm g)} {t : Tree g} (moves : Relation.ReflTransGen (Transition operand) c c')
    (h : Followed operand levels F c' value k arms t) : Followed operand levels F c value k arms t :=
  ⟨moves.trans h.moves, h.value, h.arms⟩

theorem Followed.foldHeld (held : List (ω × Token K × Tree g)) {c : Configuration g}
    {F : List (Frame g)} {last : α} {k : TokenView K} {arms : List (Arm g)}
    {t : Tree g}
    (h : Followed operand levels (onto (heldArms level held) F) c last k arms t) :
    Followed operand (level :: levels) F c
      ((heldValues held).foldl (fun acc (a, op) => level.apply op a acc) last) k
      (arms ++ heldArms level held) t := by
  refine ⟨?_, ?_, ?_⟩
  · rw [onto_append]
    exact h.moves
  · rw [Arm.plugAll_append, value_plugAll_held, h.value]
  · intro a ha
    rcases List.mem_append.mp ha with ha | ha
    · exact h.arms.cons a ha
    · obtain ⟨item, -, rfl⟩ := List.mem_map.mp ha
      exact ⟨level, by simp, item.1, item.2.1, item.2.2, rfl⟩

theorem Followed.fold {c : Configuration g} {F : List (Frame g)} {op : ω} {token : Token K}
    {lhs : Tree g} {value : α} {k : TokenView K} {arms : List (Arm g)} {t : Tree g}
    (h : Followed operand levels (.arm (.infixed (level.operator op) token lhs) :: F) c value k arms t) :
    Followed operand (level :: levels) F c (level.apply op lhs.value value) k
      (arms ++ [.infixed (level.operator op) token lhs]) t :=
  h.foldHeld [(op, token, lhs)]

theorem halted_levels {levels : List (Level K ω α)} {k : TokenView K}
    {arms : List (Arm (levelGrammar levels))} (ended : EndsLevels levels k) :
    HaltedAt (onto arms []) k := by
  intro token ht
  refine ⟨?_, ?_, ?_, ?_⟩
  · rw [Grammar.infixOf_eq_none, infixKinds_levelGrammar, List.mem_flatMap]
    rintro ⟨level, hl, hk⟩
    exact ended token ht level hl hk
  · simp [Unclaimed, operators, innermost]
  · exact fun choice => choice.elim0
  · exact fun choice => choice.elim0

end Following

variable [TokenKind K]

section Simulation

variable (operand : Reader (Except Fault) (TokenList K) α) (input : TokenList K)

inductive Simulated (levels : List (Level K ω α)) (F : List (Frame g)) (l : TokenView K) :
    Except Fault (Reply (TokenList K) α) → Prop
  | faulted {e} (answer : Answers operand input (.awaiting (some l) F : Configuration g) (.error e)) :
      Simulated levels F l (.error e)
  | failed {e}
      (answer : Answers operand input (.awaiting (some l) F : Configuration g) (.ok (.failure e))) :
      Simulated levels F l (.ok (.failure e))
  | read {value location k arms t tokens}
      (followed : Followed operand levels F (.awaiting (some l) F) value k arms t)
      (ended : EndsLevels levels k) (reads : l.Reads tokens k)
      (start : levels ≠ [] → location = some l) :
      Simulated levels F l (.ok (.success value location (some k)))

def Simulates (g : Grammar K α) (levels : List (Level K ω α))
    (reader : Reader (Except Fault) (TokenList K) α) : Prop :=
  ∀ (F : List (Frame g)) (l : TokenView K), Below F levels →
    Simulated operand input levels F l (reader (some l))

structure Extends (g : Grammar K α) (level : Level K ω α) (levels : List (Level K ω α))
    (operator : Reader (Except Fault) (TokenList K) ω)
    (reader : Reader (Except Fault) (TokenList K) α) : Prop where
  forward : ForwardOnly operand
  base : Simulates operand input g levels reader
  looser : ∀ other ∈ levels, level.precedence < other.precedence
  found : ∀ kind op, (kind, op) ∈ level.operators → g.infixOf kind = some (level.operator op)
  takes : ∀ k, TakesOperator operator level.operators k

inductive Linked (level : Level K ω α) (levels : List (Level K ω α)) (F : List (Frame g))
    (k : TokenView K) (arms : List (Arm g)) (t : Tree g) :
    Except Fault (Combinator.Link (TokenList K) ω α) → Prop
  | faulted {e}
      (answer : Answers operand input (.holding (some k) (onto arms F) t) (.error e)) :
      Linked level levels F k arms t (.error e)
  | broken {e}
      (answer : Answers operand input (.holding (some k) (onto arms F) t) (.ok (.failure e))) :
      Linked level levels F k arms t (.ok (.broken e))
  | ended (ended : EndsLevels [level] k) : Linked level levels F k arms t (.ok .ended)
  | linked {op value token k' arms' t' tokens}
      (followed : Followed operand levels
        (.arm (.infixed (level.operator op) token (Arm.plugAll arms t)) :: F)
        (.holding (some k) (onto arms F) t) value k' arms' t')
      (ended : EndsLevels levels k') (reads : k.Reads (token :: tokens) k') :
      Linked level levels F k arms t (.ok (.linked op value (some k')))

end Simulation

section Chains

variable {operand : Reader (Except Fault) (TokenList K) α} {input : TokenList K}
  {level : Level K ω α} {levels : List (Level K ω α)}
  {operator : Reader (Except Fault) (TokenList K) ω} {reader : Reader (Except Fault) (TokenList K) α}

theorem link_outcome (h : Extends operand input g level levels operator reader) {F : List (Frame g)}
    (k : TokenView K) {arms : List (Arm g)} (t : Tree g)
    (tight : ∀ a ∈ arms, Stacks.bindsTighter level.precedence a.entries = true)
    (loose : Stacks.bindsTighter level.precedence (operators F) = false) :
    Linked operand input level levels F k arms t (Combinator.link operator reader (some k)) := by
  rcases h.takes k with ⟨token, k', op, next, hm, read⟩ | ⟨hno, e, read, hr, hw⟩
  · have move : Transition operand (.holding (some k) (onto arms F) t) _ :=
      .infixed next (h.found token.kind op hm) tight loose
    have hs := h.base _ k' (below_infixed h.looser op token (Arm.plugAll arms t) F)
    cases hr : reader (some k') with
    | error e =>
      rw [hr] at hs
      have hl : Combinator.link operator reader (some k) = .error e := by
        simp [Combinator.link, read, hr]
      cases hs with
      | faulted answer => exact hl ▸ .faulted (answer.of_moves h.forward (.single move))
    | ok reply =>
      rw [hr] at hs
      cases hs with
      | @failed e answer =>
        have hl : Combinator.link operator reader (some k) = .ok (.broken e) := by
          simp [Combinator.link, read, hr]
        exact hl ▸ .broken (answer.of_moves h.forward (.single move))
      | read followed ended reads start =>
        rw [link_read read next hr reads]
        exact .linked ⟨.head move followed.moves, followed.value, followed.arms⟩ ended
          ((TokenView.reads_next next).trans reads)
  · rw [link_ended reader read hr hw]
    refine .ended ?_
    intro token ht other ho
    obtain rfl := List.mem_singleton.mp ho
    exact hno token ht

theorem chainLeft_simulated (h : Extends operand input g level levels operator reader)
    (left : level.associativity = .left) {F : List (Frame g)} {l : TokenView K}
    (below : Below F (level :: levels)) {rounds : Nat} {k : TokenView K} {acc : α}
    {arms : List (Arm g)} {t : Tree g} {tokens : List (Token K)} (enough : k.rest.length < rounds)
    (followed : Followed operand (level :: levels) F (.awaiting (some l) F) acc k arms t)
    (ended : EndsLevels levels k) (reads : l.Reads tokens k) :
    Simulated operand input (level :: levels) F l
      (Combinator.chainLeft (Combinator.link operator reader) level.apply (some l) rounds (some k)
        acc) := by
  induction rounds generalizing k acc arms t tokens with
  | zero => omega
  | succ rounds ih =>
    -- Operators of the level itself are filled, too, because the chain goes to the left.
    have tight : ∀ a ∈ arms, Stacks.bindsTighter level.precedence a.entries = true := by
      apply followed.arms.tight
      intro other ho
      rcases List.mem_cons.mp ho with rfl | ho
      · exact .inr ⟨rfl, left⟩
      · exact .inl (h.looser other ho)
    have hl := link_outcome h k t tight (below level (by simp))
    rw [Combinator.chainLeft]
    generalize Combinator.link operator reader (some k) = result at hl
    cases hl with
    | faulted answer => exact .faulted (answer.of_moves h.forward followed.moves)
    | broken answer => exact .failed (answer.of_moves h.forward followed.moves)
    | ended last => exact .read followed (endsLevels_cons last ended) reads fun _ => rfl
    | @linked op value token k' arms' t' tokens' next ended' reads' =>
      have hlen := reads'.length_rest
      simp only [List.length_cons] at hlen
      have hnext := (next.after followed.moves).fold
      rw [followed.value] at hnext
      exact ih (by omega) hnext ended' (reads.trans reads')

theorem chainRight_simulated (h : Extends operand input g level levels operator reader)
    (right : level.associativity = .right) {F : List (Frame g)} {l : TokenView K}
    (below : Below F (level :: levels)) {rounds : Nat} {k : TokenView K}
    (held : List (ω × Token K × Tree g)) {last : α} {arms : List (Arm g)} {t : Tree g}
    {tokens : List (Token K)} (enough : k.rest.length < rounds)
    (followed : Followed operand levels (onto (heldArms level held) F) (.awaiting (some l) F) last k
      arms t)
    (ended : EndsLevels levels k) (reads : l.Reads tokens k) :
    Simulated operand input (level :: levels) F l
      (Combinator.chainRight (Combinator.link operator reader) level.apply (some l) rounds (some k)
        (heldValues held) last) := by
  induction rounds generalizing k held last arms t tokens with
  | zero => omega
  | succ rounds ih =>
    have tight : ∀ a ∈ arms, Stacks.bindsTighter level.precedence a.entries = true :=
      followed.arms.tight fun other ho => .inl (h.looser other ho)
    -- What is held back has the precedence of the level, and waits until the chain has ended.
    have loose : Stacks.bindsTighter level.precedence
        (operators (onto (heldArms level held) F)) = false := by
      cases held with
      | nil => exact below level (by simp)
      | cons item held =>
        rw [heldArms, List.map_cons, onto_cons, bindsTighter_arm, Bool.eq_false_iff, Ne,
          bindsTighter_infixed, right]
        simp
    have hl := link_outcome h k t tight loose
    rw [Combinator.chainRight]
    generalize Combinator.link operator reader (some k) = result at hl
    cases hl with
    | faulted answer => exact .faulted (answer.of_moves h.forward followed.moves)
    | broken answer => exact .failed (answer.of_moves h.forward followed.moves)
    | ended stop =>
      exact .read (followed.foldHeld held) (endsLevels_cons stop ended) reads fun _ => rfl
    | @linked op value token k' arms' t' tokens' next ended' reads' =>
      have hlen := reads'.length_rest
      simp only [List.length_cons] at hlen
      have hi := ih ((op, token, Arm.plugAll arms t) :: held) (by omega)
        (next.after followed.moves) ended' (reads.trans reads')
      rw [heldValues, List.map_cons, followed.value] at hi
      exact hi

theorem chain_simulates (h : Extends operand input g level levels operator reader) :
    Simulates operand input g (level :: levels)
      (Combinator.chain level.associativity operator reader level.apply) := by
  intro F l below
  have hs := h.base F l fun other ho => below other (List.mem_cons_of_mem _ ho)
  rw [Combinator.chain]
  generalize reader (some l) = result at hs
  cases hs with
  | faulted answer => exact .faulted answer
  | failed answer => exact .failed answer
  | @read value location k arms t tokens followed ended reads start =>
    have enough : k.rest.length < Combinator.rounds (some k : TokenList K) := Nat.lt_succ_self _
    cases ha : level.associativity with
    | left =>
      have hf : Followed operand (level :: levels) F (.awaiting (some l) F) value k arms t :=
        ⟨followed.moves, followed.value, followed.arms.cons⟩
      exact chainLeft_simulated h ha below enough hf ended reads
    | right => exact chainRight_simulated h ha below [] enough followed ended reads

end Chains

end Parsing.Expression

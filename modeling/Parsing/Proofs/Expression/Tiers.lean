import Parsing.Proofs.Expression.Acceptance
import Parsing.Proofs.Expression.Chains

namespace Parsing.Expression

open Frames Expression.Configuration

variable {K V ω α : Type} [DecidableEq K] [TokenKind K]

section Tiers

variable {operand : Reader (Except Fault) (TokenList K) α} {input : TokenList K}

theorem operand_simulates (all : List (Level K ω α)) (forward : ForwardOnly operand) :
    Simulates operand input (levelGrammar all) ([] : List (Level K ω α)) operand := by
  intro F l _
  have plain : PlainAt (levelGrammar all) l := fun _ _ => ⟨rfl, rfl, rfl⟩
  cases hr : operand (some l) with
  | error e => exact .faulted (.of_error (step_faulted input F plain hr))
  | ok reply =>
    cases reply with
    | failure e => exact .failed (.of_done (step_failed input F plain hr))
    | success value location rest =>
      obtain ⟨tokens, k, rfl, reads⟩ := forward l value location rest hr
      have followed : Followed operand ([] : List (Level K ω α)) F (.awaiting (some l) F) value k
          ([] : List (Arm (levelGrammar all))) _ :=
        ⟨.single (.operand plain hr), rfl, by simp [ArmsOf]⟩
      exact .read followed (by simp [EndsLevels]) reads (by simp)

variable (refer : (i : Medium) → String → Reader (Except Fault) (Input K i) V)

theorem tiers_simulates {all : List (Level K ω α)} (distinct : (all.flatMap Level.kinds).Nodup)
    (forward : ForwardOnly operand) (done : List (Level K ω α)) {rest : List (Level K ω α)}
    (known : ∀ level ∈ rest, level ∈ all)
    (looser : ∀ level ∈ rest, ∀ other ∈ done, level.precedence < other.precedence)
    (decreasing : rest.Pairwise fun a b => b.precedence < a.precedence) (p : Parser K V .tokens α)
    (base : Simulates operand input (levelGrammar all) done (p.denote refer)) :
    Simulates operand input (levelGrammar all) (rest.reverse ++ done)
      ((Parser.tiers p (rest.map Level.tier)).denote refer) := by
  induction rest generalizing done p with
  | nil => exact base
  | cons level rest ih =>
    have unambiguous := Grammar.unambiguous_of_definitions (ofDefinitions_levels distinct)
    obtain ⟨hlevel, hrest⟩ := List.pairwise_cons.mp decreasing
    have extended : Extends operand input (levelGrammar all) level done
        (level.tier.operator.denote refer) (p.denote refer) :=
      { forward := forward
        base := base
        looser := looser level (by simp)
        found := fun kind op h =>
          unambiguous.infixOf_of_kind (infixKind_levelGrammar (known level (by simp)) h)
        takes := takes_tier refer level }
    have hlooser : ∀ other ∈ rest, ∀ first ∈ level :: done, other.precedence < first.precedence := by
      intro other ho first hf
      rcases List.mem_cons.mp hf with rfl | hf
      · exact hlevel other ho
      · exact looser other (by simp [ho]) first hf
    rw [List.reverse_cons, List.append_assoc]
    exact ih (level :: done) (fun other ho => known other (by simp [ho])) hlooser hrest
      (.chain level.associativity level.tier.operator p level.apply) (chain_simulates extended)

/-- A grammar of infix operators and chains of chains over the same levels give the same results on every
list: values, remainders, failures and the faults of the operand parser. -/
theorem expression_eq_tiers (levels : List (Level K ω α)) (nonempty : levels ≠ [])
    (distinct : (levels.flatMap Level.kinds).Nodup)
    (decreasing : levels.Pairwise fun a b => b.precedence < a.precedence)
    (operand : Parser K V .tokens α) (forward : ForwardOnly (operand.denote refer)) :
    ∃ g, Grammar.ofDefinitions (levels.map fun level => .infixes level.group) = .ok g ∧
      ∀ l : TokenView K, (Parser.expression operand g).denote refer (some l) =
        (Parser.tiers operand (levels.map Level.tier)).denote refer (some l) := by
  refine ⟨levelGrammar levels, ofDefinitions_levels distinct, ?_⟩
  intro l
  have hsim : Simulates (operand.denote refer) (some l) (levelGrammar levels) (levels.reverse ++ [])
      ((Parser.tiers operand (levels.map Level.tier)).denote refer) :=
    tiers_simulates refer distinct forward [] (fun _ h => h) (by simp) decreasing operand
      (operand_simulates levels forward)
  have hs := hsim [] l fun _ _ => rfl
  change expression (operand.denote refer) (levelGrammar levels) (some l) = _
  generalize (Parser.tiers operand (levels.map Level.tier)).denote refer (some l) = result at hs
  cases hs with
  | faulted answer => exact answer.expression_eq
  | failed answer => exact answer.expression_eq
  | @read value location k arms t tokens followed ended reads start =>
    obtain rfl : location = some l := start (by simpa using nonempty)
    have halted : HaltedAt (onto arms []) k := halted_levels fun token ht level hl =>
      ended token ht level (by simpa using hl)
    have answer := (Answers.of_halted (some l) t halted).of_moves forward followed.moves
    rw [followed.value] at answer
    exact answer.expression_eq

def powers : Level Kind (Int → Int → Int) Int :=
  ⟨3, .right, (sign "^", fun a b => Int.pow a b.toNat), [], id⟩

def sums : Level Kind (Int → Int → Int) Int :=
  ⟨1, .left, (sign "+", fun a b => a + b), [(sign "-", fun a b => a - b)], id⟩

def digits : Parser Kind Int .tokens Int :=
  .map (fun token => if token.kind = sign "1" then 1 else 2)
    (.token (fun token => token.kind = sign "1" ∨ token.kind = sign "2") "digit")

def noReferences : (i : Medium) → String → Reader (Except Fault) (Input Kind i) Int :=
  fun _ name _ => .error (.undefined name)

theorem expression_eq_tiers_powers :
    ∃ g, Grammar.ofDefinitions ([powers, sums].map fun level => .infixes level.group) = .ok g ∧
      ∀ l : TokenView Kind, (Parser.expression digits g).denote noReferences (some l) =
        (Parser.tiers digits ([powers, sums].map Level.tier)).denote noReferences (some l) :=
  expression_eq_tiers noReferences [powers, sums] (by simp) (by decide) (by simp [powers, sums]) digits
    forwardOnly_digit

end Tiers

end Parsing.Expression

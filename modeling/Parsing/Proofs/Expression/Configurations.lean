import Parsing.Proofs.Expression.Loops

namespace Parsing.Expression

open Frames

variable {K α : Type} {g : Grammar K α}

inductive Configuration (g : Grammar K α) where
  | awaiting (remainder : TokenList K) (frames : List (Frame g))
  | holding (remainder : TokenList K) (frames : List (Frame g)) (focus : Tree g)

namespace Configuration

def remainder : Configuration g → TokenList K
  | .awaiting remainder _ => remainder
  | .holding remainder _ _ => remainder

def machine (input : TokenList K) : Configuration g → Machine g
  | .awaiting remainder F => ⟨input, remainder, .operand, ⟨operators F, operands F⟩⟩
  | .holding remainder F t => ⟨input, remainder, .operator, around F t⟩

end Configuration

section Guards

variable [DecidableEq K]

def PlainAt (g : Grammar K α) (l : TokenView K) : Prop :=
  ∀ token ∈ l.rest.head?, g.prefixOf token.kind = none ∧ g.groupingOf token.kind = none ∧
    g.ifOf token.kind = none

def Unclaimed (F : List (Frame g)) (kind : K) : Prop :=
  ∀ set, innermost (operators F) = some set → kind ≠ set.stop ∧ kind ∉ set.separators

def Branchless (F : List (Frame g)) (branch : Branch) (found : Option (Fin g.conditionals.length)) :
    Prop :=
  ∀ choice, found = some choice → belongs branch choice (operators F) = false

def HaltedAt (F : List (Frame g)) (l : TokenView K) : Prop :=
  ∀ token ∈ l.rest.head?, g.infixOf token.kind = none ∧ Unclaimed F token.kind ∧
    Branchless F .consequent (g.thenOf token.kind) ∧ Branchless F .alternative (g.elseOf token.kind)

end Guards

inductive Transition [DecidableEq K] (operand : Reader (Except Fault) (TokenList K) α) :
    Configuration g → Configuration g → Prop
  | prefixed {l k token op F} (next : l.next? = some (token, k))
      (found : g.prefixOf token.kind = some op) :
      Transition operand (.awaiting (some l) F) (.awaiting (some k) (.arm (.prefixed op token) :: F))
  | empty {l m k opening closing set F} (next : l.next? = some (opening, m))
      (other : g.prefixOf opening.kind = none) (found : g.groupingOf opening.kind = some set)
      (allowed : set.allowEmpty = true) (after : m.next? = some (closing, k))
      (stop : closing.kind = set.stop) :
      Transition operand (.awaiting (some l) F) (.holding (some k) F (.empty set opening closing))
  | opened {l m opening set F} (next : l.next? = some (opening, m))
      (other : g.prefixOf opening.kind = none) (found : g.groupingOf opening.kind = some set)
      (filled : set.allowEmpty → ∀ token ∈ m.rest.head?, token.kind ≠ set.stop) :
      Transition operand (.awaiting (some l) F) (.awaiting (some m) (.group set opening .nil :: F))
  | condition {l k token choice F} (next : l.next? = some (token, k))
      (other : g.prefixOf token.kind = none) (another : g.groupingOf token.kind = none)
      (found : g.ifOf token.kind = some choice) :
      Transition operand (.awaiting (some l) F) (.awaiting (some k) (.condition choice token :: F))
  | operand {l value location rest F} (plain : PlainAt g l)
      (read : operand (some l) = .ok (.success value location rest)) :
      Transition operand (.awaiting (some l) F)
        (.holding rest F (.operand value (l.rest.take (rest.index - l.index))))
  | infixed {l k token op arms F t} (next : l.next? = some (token, k))
      (found : g.infixOf token.kind = some op)
      (tight : ∀ a ∈ arms, Stacks.bindsTighter op.precedence a.entries = true)
      (loose : Stacks.bindsTighter op.precedence (operators F) = false) :
      Transition operand (.holding (some l) (onto arms F) t)
        (.awaiting (some k) (.arm (.infixed op token (Arm.plugAll arms t)) :: F))
  | separated {l k token arms set opening before F t} (next : l.next? = some (token, k))
      (other : g.infixOf token.kind = none) (going : token.kind ≠ set.stop)
      (found : token.kind ∈ set.separators) :
      Transition operand (.holding (some l) (onto arms (.group set opening before :: F)) t)
        (.awaiting (some k) (.group set opening (.snoc before (Arm.plugAll arms t) token) :: F))
  | closed {l k token arms set opening before F t} (next : l.next? = some (token, k))
      (other : g.infixOf token.kind = none) (stop : token.kind = set.stop)
      (checked : set.check (before.values ++ [(Arm.plugAll arms t).value]) before.separators = none) :
      Transition operand (.holding (some l) (onto arms (.group set opening before :: F)) t)
        (.holding (some k) F (.grouped set opening before (Arm.plugAll arms t) token))
  | consequent {l k token arms choice ifToken F t} (next : l.next? = some (token, k))
      (other : g.infixOf token.kind = none)
      (free : Unclaimed (onto arms (.condition choice ifToken :: F)) token.kind)
      (found : g.thenOf token.kind = some choice) :
      Transition operand (.holding (some l) (onto arms (.condition choice ifToken :: F)) t)
        (.awaiting (some k) (.arm (.consequent choice ifToken token (Arm.plugAll arms t)) :: F))
  | alternative {l k token arms choice ifToken thenToken c F t} (next : l.next? = some (token, k))
      (other : g.infixOf token.kind = none)
      (free : Unclaimed (onto arms (.arm (.consequent choice ifToken thenToken c) :: F)) token.kind)
      (another : Branchless (onto arms (.arm (.consequent choice ifToken thenToken c) :: F))
        .consequent (g.thenOf token.kind))
      (found : g.elseOf token.kind = some choice) (nearest : ∀ a ∈ arms, a.isConsequent = false) :
      Transition operand
        (.holding (some l) (onto arms (.arm (.consequent choice ifToken thenToken c) :: F)) t)
        (.awaiting (some k)
          (.arm (.alternative choice ifToken thenToken token c (Arm.plugAll arms t)) :: F))

end Parsing.Expression

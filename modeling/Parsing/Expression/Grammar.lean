import Parsing.Combinator.Chain
import Parsing.TokenList

namespace Parsing.Expression

structure InfixLevel (K α : Type) where
  precedence : Int
  associativity : Associativity
  operators : List (K × (α → α → α))

structure PrefixLevel (K α : Type) where
  precedence : Int
  operators : List (K × (α → α))

/-- Expressions between a start and a stop token, with separators between them. A check may refuse a
grouping that is not empty with a message. -/
structure Grouping (K α : Type) where
  start : K
  stop : K
  separators : List K
  allowEmpty : Bool
  build : List α → List (Token K) → α
  check : List α → List (Token K) → Option String

structure Conditional (K α : Type) where
  ifKind : K
  thenKind : K
  elseKind : K
  ifThenElse : α → α → α → α
  ifThen : α → α → α

def Conditional.kinds {K α : Type} (c : Conditional K α) : List K :=
  [c.ifKind, c.thenKind, c.elseKind]

inductive Definition (K α : Type) where
  | infixes (group : InfixLevel K α)
  | prefixes (group : PrefixLevel K α)
  | grouping (set : Grouping K α)
  | conditional (choice : Conditional K α)

inductive Role where
  | grouping
  | conditional
  | operator
deriving DecidableEq, Repr

def Role.render : Role → String
  | .grouping => "a grouping"
  | .conditional => "an if-then-else"
  | .operator => "an operator"

inductive Fixity where
  | before
  | between
deriving DecidableEq, Repr

def Fixity.render : Fixity → String
  | .before => "prefix"
  | .between => "infix"

inductive GrammarError where
  | twoRoles (token : String) (first second : Role)
  | twoOperators (token : String) (fixity : Fixity)
  | twoGroupings (token : String)
  | twoConditionals (token : String)
deriving DecidableEq, Repr

def GrammarError.message : GrammarError → String
  | .twoRoles token first second =>
      "token " ++ token ++ " is used by " ++ first.render ++ " and by " ++ second.render
  | .twoOperators token fixity =>
      "token " ++ token ++ " is defined as more than one " ++ fixity.render ++ " operator"
  | .twoGroupings token => "token " ++ token ++ " starts more than one grouping"
  | .twoConditionals token =>
      "token " ++ token ++ " is used more than once in if-then-else definitions"

structure Grammar (K α : Type) where
  infixes : List (InfixLevel K α)
  prefixes : List (PrefixLevel K α)
  groupings : List (Grouping K α)
  conditionals : List (Conditional K α)

structure InfixOperator (α : Type) where
  precedence : Int
  associativity : Associativity
  build : α → α → α

structure PrefixOperator (α : Type) where
  precedence : Int
  build : α → α

namespace Grammar

variable {K α : Type} [DecidableEq K]

def empty : Grammar K α :=
  ⟨[], [], [], []⟩

def infixOf (g : Grammar K α) (kind : K) : Option (InfixOperator α) :=
  g.infixes.findSome? fun group =>
    (group.operators.find? fun op => op.1 = kind).map fun op =>
      ⟨group.precedence, group.associativity, op.2⟩

def prefixOf (g : Grammar K α) (kind : K) : Option (PrefixOperator α) :=
  g.prefixes.findSome? fun group =>
    (group.operators.find? fun op => op.1 = kind).map fun op => ⟨group.precedence, op.2⟩

def groupingOf (g : Grammar K α) (kind : K) : Option (Grouping K α) :=
  g.groupings.find? fun set => set.start = kind

def ifOf (g : Grammar K α) (kind : K) : Option (Fin g.conditionals.length) :=
  g.conditionals.findFinIdx? fun c => c.ifKind = kind

def thenOf (g : Grammar K α) (kind : K) : Option (Fin g.conditionals.length) :=
  g.conditionals.findFinIdx? fun c => c.thenKind = kind

def elseOf (g : Grammar K α) (kind : K) : Option (Fin g.conditionals.length) :=
  g.conditionals.findFinIdx? fun c => c.elseKind = kind

variable [TokenKind K]

def assign (roles : List (K × Role)) (role : Role) (kind : K) : Except GrammarError (List (K × Role)) :=
  match roles.find? fun r => r.1 = kind with
  | none => .ok ((kind, role) :: roles)
  | some (_, first) =>
    if first = role then .ok roles
    else .error (.twoRoles (TokenKind.whenExpected kind) first role)

def assignDistinct (role : Role) (known : K → Bool) (duplicate : String → GrammarError) :
    List K → List K → List (K × Role) → Except GrammarError (List (K × Role))
  | _, [], roles => .ok roles
  | seen, kind :: kinds, roles =>
    if kind ∈ seen ∨ known kind then .error (duplicate (TokenKind.whenExpected kind))
    else do
      let roles ← assign roles role kind
      assignDistinct role known duplicate (kind :: seen) kinds roles

def extend (g : Grammar K α) (roles : List (K × Role)) :
    Definition K α → Except GrammarError (Grammar K α × List (K × Role))
  | .infixes group => do
    let roles ← assignDistinct .operator (fun k => (g.infixOf k).isSome)
      (.twoOperators · .between) [] (group.operators.map Prod.fst) roles
    return ({ g with infixes := g.infixes ++ [group] }, roles)
  | .prefixes group => do
    let roles ← assignDistinct .operator (fun k => (g.prefixOf k).isSome)
      (.twoOperators · .before) [] (group.operators.map Prod.fst) roles
    return ({ g with prefixes := g.prefixes ++ [group] }, roles)
  | .grouping set => do
    if (g.groupingOf set.start).isSome then throw (.twoGroupings (TokenKind.whenExpected set.start))
    let roles ← (set.start :: set.stop :: set.separators).foldlM (assign · .grouping ·) roles
    return ({ g with groupings := g.groupings ++ [set] }, roles)
  | .conditional choice => do
    let roles ← assignDistinct .conditional (fun k => g.conditionals.any (k ∈ ·.kinds))
      .twoConditionals [] choice.kinds roles
    return ({ g with conditionals := g.conditionals ++ [choice] }, roles)

def extendAll : List (Definition K α) → Grammar K α → List (K × Role) → Except GrammarError (Grammar K α)
  | [], g, _ => .ok g
  | definition :: definitions, g, roles => do
    let (g, roles) ← g.extend roles definition
    extendAll definitions g roles

def ofDefinitions (definitions : List (Definition K α)) : Except GrammarError (Grammar K α) :=
  extendAll definitions empty []

end Grammar

end Parsing.Expression

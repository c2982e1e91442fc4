import Parsing.Expression.Grammar
import Parsing.Kind
import Parsing.Proofs.Reading

namespace Parsing.Expression

variable {K α : Type}

mutual

inductive Tree (g : Grammar K α) where
  | operand (value : α) (tokens : List (Token K))
  | infixed (op : InfixOperator α) (token : Token K) (left right : Tree g)
  | prefixed (op : PrefixOperator α) (token : Token K) (inner : Tree g)
  | empty (set : Grouping K α) (opening closing : Token K)
  | grouped (set : Grouping K α) (opening : Token K) (before : Series g) (last : Tree g)
      (closing : Token K)
  | ifThen (choice : Fin g.conditionals.length) (ifToken thenToken : Token K) (condition yes : Tree g)
  | ifThenElse (choice : Fin g.conditionals.length) (ifToken thenToken elseToken : Token K)
      (condition yes no : Tree g)

inductive Series (g : Grammar K α) where
  | nil
  | snoc (before : Series g) (item : Tree g) (separator : Token K)

end

variable {g : Grammar K α}

def Series.separators : Series g → List (Token K)
  | .nil => []
  | .snoc before _ separator => before.separators ++ [separator]

mutual

def Tree.value : Tree g → α
  | .operand value _ => value
  | .infixed op _ left right => op.build left.value right.value
  | .prefixed op _ inner => op.build inner.value
  | .empty set _ _ => set.build [] []
  | .grouped set _ before last _ => set.build (before.values ++ [last.value]) before.separators
  | .ifThen choice _ _ condition yes => (g.conditionals.get choice).ifThen condition.value yes.value
  | .ifThenElse choice _ _ _ condition yes no =>
    (g.conditionals.get choice).ifThenElse condition.value yes.value no.value

def Series.values : Series g → List α
  | .nil => []
  | .snoc before item _ => before.values ++ [item.value]

end

mutual

def Tree.tokens : Tree g → List (Token K)
  | .operand _ tokens => tokens
  | .infixed _ token left right => left.tokens ++ [token] ++ right.tokens
  | .prefixed _ token inner => [token] ++ inner.tokens
  | .empty _ opening closing => [opening] ++ [closing]
  | .grouped _ opening before last closing =>
    [opening] ++ before.tokens ++ last.tokens ++ [closing]
  | .ifThen _ ifToken thenToken condition yes =>
    [ifToken] ++ condition.tokens ++ [thenToken] ++ yes.tokens
  | .ifThenElse _ ifToken thenToken elseToken condition yes no =>
    [ifToken] ++ condition.tokens ++ [thenToken] ++ yes.tokens ++ [elseToken] ++ no.tokens

def Series.tokens : Series g → List (Token K)
  | .nil => []
  | .snoc before item separator => before.tokens ++ item.tokens ++ [separator]

end

section Spans

namespace Grammar

def InfixKind (g : Grammar K α) (kind : K) (op : InfixOperator α) : Prop :=
  ∃ group ∈ g.infixes, ∃ build, (kind, build) ∈ group.operators ∧
    op = ⟨group.precedence, group.associativity, build⟩

def PrefixKind (g : Grammar K α) (kind : K) (op : PrefixOperator α) : Prop :=
  ∃ group ∈ g.prefixes, ∃ build, (kind, build) ∈ group.operators ∧ op = ⟨group.precedence, build⟩

def Starts (g : Grammar K α) (kind : K) : Prop :=
  (∃ op, g.PrefixKind kind op) ∨ (∃ set ∈ g.groupings, set.start = kind) ∨
    ∃ choice ∈ g.conditionals, choice.ifKind = kind

end Grammar

variable (operand : Reader (Except Fault) (TokenList K) α)

mutual

/-- The tree is read from `l` to `k`: its tokens have the kinds that its nodes ask for, its leaves are
successes of the operand parser, and the checks of its groupings have no complaint. -/
def Tree.Spans : Tree g → TokenView K → TokenView K → Prop
  | .operand value tokens, l, k =>
    (∀ token ∈ l.rest.head?, ¬ g.Starts token.kind) ∧
      (∃ location, operand (some l) = .ok (.success value location (some k))) ∧ l.Reads tokens k
  | .infixed op token left right, l, k =>
    ∃ m n, left.Spans l m ∧ m.next? = some (token, n) ∧ g.InfixKind token.kind op ∧ right.Spans n k
  | .prefixed op token inner, l, k =>
    ∃ m, l.next? = some (token, m) ∧ g.PrefixKind token.kind op ∧ inner.Spans m k
  | .empty set opening closing, l, k =>
    ∃ m, l.next? = some (opening, m) ∧ m.next? = some (closing, k) ∧ set ∈ g.groupings ∧
      set.start = opening.kind ∧ set.allowEmpty ∧ set.stop = closing.kind
  | .grouped set opening before last closing, l, k =>
    ∃ m n p, l.next? = some (opening, m) ∧ set ∈ g.groupings ∧ set.start = opening.kind ∧
      (set.allowEmpty → ∀ token ∈ m.rest.head?, token.kind ≠ set.stop) ∧ before.Spans set m n ∧
      last.Spans n p ∧ p.next? = some (closing, k) ∧ set.stop = closing.kind ∧
      set.check (before.values ++ [last.value]) before.separators = none
  | .ifThen choice ifToken thenToken condition yes, l, k =>
    ∃ m n p, l.next? = some (ifToken, m) ∧ (g.conditionals.get choice).ifKind = ifToken.kind ∧
      condition.Spans m n ∧ n.next? = some (thenToken, p) ∧
      (g.conditionals.get choice).thenKind = thenToken.kind ∧ yes.Spans p k
  | .ifThenElse choice ifToken thenToken elseToken condition yes no, l, k =>
    ∃ m n p q r, l.next? = some (ifToken, m) ∧ (g.conditionals.get choice).ifKind = ifToken.kind ∧
      condition.Spans m n ∧ n.next? = some (thenToken, p) ∧
      (g.conditionals.get choice).thenKind = thenToken.kind ∧ yes.Spans p q ∧
      q.next? = some (elseToken, r) ∧ (g.conditionals.get choice).elseKind = elseToken.kind ∧
      no.Spans r k

def Series.Spans (set : Grouping K α) : Series g → TokenView K → TokenView K → Prop
  | .nil, l, k => l = k
  | .snoc before item separator, l, k =>
    ∃ m n, before.Spans set l m ∧ item.Spans m n ∧ n.next? = some (separator, k) ∧
      separator.kind ∈ set.separators ∧ separator.kind ≠ set.stop

end

mutual

theorem Tree.Spans.reads {operand : Reader (Except Fault) (TokenList K) α} :
    ∀ {t : Tree g} {l k : TokenView K}, t.Spans operand l k → l.Reads t.tokens k
  | .operand _ _, _, _, ⟨_, _, h⟩ => h
  | .infixed _ _ _ _, _, _, ⟨_, _, hl, ht, _, hr⟩ =>
    (hl.reads.trans (TokenView.reads_next ht)).trans hr.reads
  | .prefixed _ _ _, _, _, ⟨_, ht, _, hs⟩ => (TokenView.reads_next ht).trans hs.reads
  | .empty _ _ _, _, _, ⟨_, ho, hc, _⟩ => (TokenView.reads_next ho).trans (TokenView.reads_next hc)
  | .grouped _ _ _ _ _, _, _, ⟨_, _, _, ho, _, _, _, hb, hl, hc, _⟩ =>
    (((TokenView.reads_next ho).trans hb.reads).trans hl.reads).trans (TokenView.reads_next hc)
  | .ifThen _ _ _ _ _, _, _, ⟨_, _, _, hi, _, hc, ht, _, hy⟩ =>
    (((TokenView.reads_next hi).trans hc.reads).trans (TokenView.reads_next ht)).trans hy.reads
  | .ifThenElse _ _ _ _ _ _ _, _, _, ⟨_, _, _, _, _, hi, _, hc, ht, _, hy, he, _, hn⟩ =>
    (((((TokenView.reads_next hi).trans hc.reads).trans (TokenView.reads_next ht)).trans
      hy.reads).trans (TokenView.reads_next he)).trans hn.reads

theorem Series.Spans.reads {operand : Reader (Except Fault) (TokenList K) α} {set : Grouping K α} :
    ∀ {series : Series g} {l k : TokenView K}, series.Spans operand set l k →
      l.Reads series.tokens k
  | .nil, l, _, h => h ▸ TokenView.Reads.refl l
  | .snoc _ _ _, _, _, ⟨_, _, hb, hi, hs, _⟩ =>
    (hb.reads.trans hi.reads).trans (TokenView.reads_next hs)

end

end Spans

section Canonical

def InfixOperator.Outbinds (p o : InfixOperator α) : Prop :=
  o.precedence < p.precedence ∨ p.precedence = o.precedence ∧ p.associativity = .left

inductive Node (g : Grammar K α) where
  | infixed (op : InfixOperator α)
  | prefixed (op : PrefixOperator α)
  | ifThen (choice : Fin g.conditionals.length)
  | ifThenElse (choice : Fin g.conditionals.length)

namespace Node

def Outbinds (o : InfixOperator α) : Node g → Prop
  | .infixed p => p.Outbinds o
  | .prefixed p => o.precedence < p.precedence
  | .ifThen _ | .ifThenElse _ => False

def ifThen? : Node g → Option (Fin g.conditionals.length)
  | .ifThen choice => some choice
  | _ => none

end Node

namespace Tree

def rightSpine : Tree g → List (Node g)
  | .infixed op _ _ right => .infixed op :: right.rightSpine
  | .prefixed op _ inner => .prefixed op :: inner.rightSpine
  | .ifThen choice _ _ _ yes => .ifThen choice :: yes.rightSpine
  | .ifThenElse choice _ _ _ _ _ no => .ifThenElse choice :: no.rightSpine
  | .operand _ _ | .empty _ _ _ | .grouped _ _ _ _ _ => []

def leftSpine : Tree g → List (InfixOperator α)
  | .infixed op _ left _ => op :: left.leftSpine
  | _ => []

def openBranch (t : Tree g) : Option (Fin g.conditionals.length) :=
  t.rightSpine.reverse.findSome? Node.ifThen?

def EndsAt (t : Tree g) (k : TokenView K) : Prop :=
  ∀ token ∈ k.rest.head?, (∀ op, ¬ g.InfixKind token.kind op) ∧
    ∀ choice, t.openBranch = some choice → token.kind ≠ (g.conditionals.get choice).elseKind

end Tree

mutual

/-- Operands go to the operators that bind tighter, a conditional reaches as far as it can, and an
alternative belongs to the nearest conditional. -/
def Tree.Canonical : Tree g → Prop
  | .operand _ _ | .empty _ _ _ => True
  | .infixed o _ left right => left.Canonical ∧ right.Canonical ∧
      (∀ p ∈ left.rightSpine, p.Outbinds o) ∧ ∀ p ∈ right.leftSpine, ¬ o.Outbinds p
  | .prefixed o _ inner => inner.Canonical ∧ ∀ p ∈ inner.leftSpine, o.precedence ≤ p.precedence
  | .grouped _ _ before last _ => before.Canonical ∧ last.Canonical
  | .ifThen _ _ _ condition yes => condition.Canonical ∧ yes.Canonical
  | .ifThenElse _ _ _ _ condition yes no => condition.Canonical ∧ yes.Canonical ∧ no.Canonical ∧
      ∀ choice, .ifThen choice ∉ yes.rightSpine

def Series.Canonical : Series g → Prop
  | .nil => True
  | .snoc before item _ => before.Canonical ∧ item.Canonical

end

end Canonical

section Calculator

-- A grammar that has a definition of each kind, by which the results about machines are tried.

def sign (name : String) : Kind :=
  ⟨name, ⟨none, none, none⟩⟩

def calculator : Grammar Kind Int where
  infixes :=
    [⟨1, .left, [(sign "+", fun a b => a + b), (sign "-", fun a b => a - b)]⟩,
      ⟨3, .right, [(sign "^", fun a b => Int.pow a b.toNat)]⟩]
  prefixes := [⟨2, [(sign "-", fun a => -a)]⟩]
  groupings := [⟨sign "[", sign "]", [sign ","], true, fun items _ => items.foldl Int.add 0,
    fun items _ => if 2 < items.length then some "too many items" else none⟩]
  conditionals := [⟨sign "if", sign "then", sign "else", fun c a b => if c = 0 then b else a,
    fun c a => if c = 0 then 0 else a⟩]

def calculatorDefinitions : List (Definition Kind Int) :=
  calculator.infixes.map .infixes ++ calculator.prefixes.map .prefixes ++
    calculator.groupings.map .grouping ++ calculator.conditionals.map .conditional

def digit : Reader (Except Fault) (TokenList Kind) Int :=
  Combinator.map (fun token => if token.kind = sign "1" then 1 else 2)
    (Primitive.token (fun token => token.kind = sign "1" ∨ token.kind = sign "2") "digit")

theorem forwardOnly_digit : ForwardOnly digit :=
  (forwardOnly_token _ _).map _

def mark (name : String) : Token Kind :=
  ⟨sign name, ⟨0, name.toList⟩, .zero, name.toList, byteLength name.toList, Nat.zero_add _⟩

def marks (names : List String) (index : Nat) : TokenView Kind :=
  ⟨0, index, (names.drop index).map mark, .zero⟩

end Calculator

end Parsing.Expression

import Mathlib.Data.List.Forall2
import Parsing.Proofs.Expression.Discipline
import Parsing.Proofs.Expression.Kinds

/-!
With operands of one token each, what the machine does up to a place depends on the kinds of the tokens
before it only, and of the token behind it at most where a grouping has just been opened: the moves over
one list are repeated over another that begins alike.
-/

namespace Parsing.Expression

open Frames Expression.Configuration

variable {K α : Type} {g : Grammar K α}

section Operands

/-- The reader takes one token of an accepted kind, and where there is none it fails and stays. -/
structure TakesOne (operand : Reader (Except Fault) (TokenList K) α) (accepts : K → Prop) : Prop where
  takes : ∀ {l k : TokenView K} {token : Token K}, l.next? = some (token, k) → accepts token.kind →
    ∃ value location, operand (some l) = .ok (.success value location (some k))
  fails : ∀ {l : TokenView K}, (∀ token ∈ l.rest.head?, ¬ accepts token.kind) →
    ∃ e, operand (some l) = .ok (.failure e) ∧ e.remainder = some l

variable {operand : Reader (Except Fault) (TokenList K) α} {accepts : K → Prop}

theorem TakesOne.taken (one : TakesOne operand accepts) {l : TokenView K} {value : α}
    {location rest : TokenList K} (read : operand (some l) = .ok (.success value location rest)) :
    ∃ token k, l.next? = some (token, k) ∧ accepts token.kind ∧ rest = some k := by
  by_cases ahead : ∃ token ∈ l.rest.head?, accepts token.kind
  · obtain ⟨token, head, accepted⟩ := ahead
    obtain ⟨k, next⟩ := TokenView.exists_next head
    obtain ⟨value', location', taken⟩ := one.takes next accepted
    cases taken.symm.trans read
    exact ⟨token, k, next, accepted, rfl⟩
  · obtain ⟨e, failed, -⟩ := one.fails fun token head accepted => ahead ⟨token, head, accepted⟩
    cases failed.symm.trans read

theorem TakesOne.stays (one : TakesOne operand accepts) {l : TokenView K} {e : Failure (TokenList K)}
    (read : operand (some l) = .ok (.failure e)) : e.remainder = some l := by
  by_cases ahead : ∃ token ∈ l.rest.head?, accepts token.kind
  · obtain ⟨token, head, accepted⟩ := ahead
    obtain ⟨k, next⟩ := TokenView.exists_next head
    obtain ⟨value, location, taken⟩ := one.takes next accepted
    cases taken.symm.trans read
  · obtain ⟨e', failed, stays⟩ := one.fails fun token head accepted => ahead ⟨token, head, accepted⟩
    cases failed.symm.trans read
    exact stays

theorem TakesOne.forwardOnly (one : TakesOne operand accepts) : ForwardOnly operand := by
  intro l value location rest read
  obtain ⟨token, k, next, -, rfl⟩ := one.taken read
  exact ⟨[token], k, rfl, TokenView.reads_next next⟩

theorem takesOne_token (accepts : K → Prop) [DecidablePred accepts] (expectation : String) :
    TakesOne (Primitive.token (fun token => decide (accepts token.kind)) expectation) accepts := by
  constructor
  · intro l k token next accepted
    exact ⟨token, some l, by simp [Primitive.token, next, accepted]⟩
  · intro l refused
    refine ⟨.expected (some l) [expectation], ?_, rfl⟩
    cases next : l.next? with
    | none => simp [Primitive.token, next]
    | some item =>
      obtain ⟨token, k⟩ := item
      have unaccepted := refused token (by simp [TokenView.head?_rest next])
      simp [Primitive.token, next, unaccepted]

theorem TakesOne.map {β : Type} {p : Reader (Except Fault) (TokenList K) β} (one : TakesOne p accepts)
    (f : β → α) : TakesOne (Combinator.map f p) accepts := by
  constructor
  · intro l k token next accepted
    obtain ⟨value, location, taken⟩ := one.takes next accepted
    exact ⟨f value, location, by simp [Combinator.map, taken, Reply.map]⟩
  · intro l refused
    obtain ⟨e, failed, stays⟩ := one.fails refused
    exact ⟨e, by simp [Combinator.map, failed, Reply.map], stays⟩

end Operands

section Shapes

inductive Frame.SameShape : Frame g → Frame g → Prop
  | arm {a b : Arm g} (node : a.node = b.node) : SameShape (.arm a) (.arm b)
  | group {set : Grouping K α} (known : set ∈ g.groupings) {opening opening' : Token K}
      {before before' : Series g} (separators : before.separators = before'.separators) :
      SameShape (.group set opening before) (.group set opening' before')
  | condition (choice : Fin g.conditionals.length) {token token' : Token K} :
      SameShape (.condition choice token) (.condition choice token')

def SameShapes : List (Frame g) → List (Frame g) → Prop :=
  List.Forall₂ Frame.SameShape

variable {F G : List (Frame g)}

theorem entries_of_node {a b : Arm g} (node : a.node = b.node) : a.entries = b.entries := by
  cases a <;> cases b <;> cases node <;> rfl

theorem isConsequent_of_node {a b : Arm g} (node : a.node = b.node) : a.isConsequent = b.isConsequent := by
  cases a <;> cases b <;> cases node <;> rfl

theorem SameShapes.operators_eq (shapes : SameShapes F G) : operators F = operators G := by
  induction shapes with
  | nil => rfl
  | @cons f g' F G shape _ ih =>
    have depth : (operands F).length = (operands G).length := by rw [length_operands, length_operands, ih]
    cases shape with
    | arm node => simp only [operators, Frame.entries, entries_of_node node, ih]
    | group known separators => simp only [operators, Frame.entries, separators, depth, ih]
    | condition choice => simp only [operators, Frame.entries, ih]

theorem SameShapes.exists_onto {arms : List (Arm g)} (shapes : SameShapes (onto arms F) G) :
    ∃ arms' G', G = onto arms' G' ∧ List.Forall₂ (fun a b => a.node = b.node) arms arms' ∧
      SameShapes F G' := by
  induction arms generalizing G with
  | nil => exact ⟨[], G, rfl, .nil, shapes⟩
  | cons a arms ih =>
    obtain ⟨f, rest, shape, others, rfl⟩ := List.forall₂_cons_left_iff.mp shapes
    obtain ⟨arms', G', rfl, nodes, below⟩ := ih others
    cases shape with
    | @arm _ b node => exact ⟨b :: arms', G', rfl, .cons node nodes, below⟩

theorem forall_of_nodes {arms arms' : List (Arm g)} {P : Arm g → Prop}
    (nodes : List.Forall₂ (fun a b => a.node = b.node) arms arms')
    (keeps : ∀ a b : Arm g, a.node = b.node → P a → P b) (h : ∀ a ∈ arms, P a) : ∀ b ∈ arms', P b := by
  induction nodes with
  | nil => simp
  | @cons a b arms arms' node _ ih =>
    intro c hc
    rcases List.mem_cons.mp hc with rfl | hc
    · exact keeps a c node (h a (by simp))
    · exact ih (fun a ha => h a (by simp [ha])) c hc

theorem SameShapes.unclaimed (shapes : SameShapes F G) {kind : K} (free : Unclaimed F kind) :
    Unclaimed G kind :=
  fun set inside => free set (shapes.operators_eq ▸ inside)

theorem SameShapes.branchless (shapes : SameShapes F G) {branch : Branch}
    {found : Option (Fin g.conditionals.length)} (none : Branchless F branch found) :
    Branchless G branch found :=
  fun choice belongs => shapes.operators_eq ▸ none choice belongs

end Shapes

section Views

variable {k k' l l' m : TokenView K} {token : Token K} {tokens : List (Token K)}

theorem exists_next_cons (h : l.rest = token :: tokens) :
    ∃ m, l.next? = some (token, m) ∧ m.rest = tokens := by
  have head : l.rest.head? = some token := by simp [h]
  obtain ⟨m, next⟩ := TokenView.exists_next head
  have rest := (TokenView.reads_next next).rest.symm.trans h
  exact ⟨m, next, by simpa using rest⟩

theorem next_of_reads (h : l.Reads (token :: tokens) k) :
    ∃ m, l.next? = some (token, m) ∧ m.Reads tokens k := by
  obtain ⟨m, next, rest⟩ := exists_next_cons h.rest
  have first := TokenView.reads_next next
  refine ⟨m, next, h.id.trans first.id.symm, h.stop.trans first.stop.symm, ?_, rest⟩
  rw [h.index, first.index, List.length_cons, List.length_singleton]
  omega

def Beside (k k' l l' : TokenView K) : Prop :=
  ∃ tokens, l.Reads tokens k ∧ l'.Reads tokens k'

theorem Beside.next (h : Beside k k' l l') (next : l.next? = some (token, m)) (reads : m.Reads tokens k) :
    ∃ m', l'.next? = some (token, m') ∧ Beside k k' m m' := by
  obtain ⟨all, here, there⟩ := h
  have whole := (TokenView.reads_next next).trans reads
  obtain rfl : all = token :: tokens := here.tokens_eq.symm.trans whole.tokens_eq
  obtain ⟨m', next', reads'⟩ := next_of_reads there
  exact ⟨m', next', tokens, reads, reads'⟩

theorem Beside.head? (h : Beside k k' l l') (reads : l.Reads (token :: tokens) k) :
    l'.rest.head? = some token := by
  obtain ⟨all, here, there⟩ := h
  obtain rfl : all = token :: tokens := here.tokens_eq.symm.trans reads.tokens_eq
  rw [there.rest]
  rfl

end Views

section Replay

inductive Configuration.Beside (k k' : TokenView K) : Configuration g → Configuration g → Prop
  | awaiting {l l' : TokenView K} {F G : List (Frame g)} (views : Expression.Beside k k' l l')
      (shapes : SameShapes F G) : Beside k k' (.awaiting (some l) F) (.awaiting (some l') G)
  | holding {l l' : TokenView K} {F G : List (Frame g)} {t t' : Tree g}
      (views : Expression.Beside k k' l l') (shapes : SameShapes F G) :
      Beside k k' (.holding (some l) F t) (.holding (some l') G t')

variable [DecidableEq K] {operand : Reader (Except Fault) (TokenList K) α} {accepts : K → Prop}
  {k k' m : TokenView K} {c c' d : Configuration g}

theorem Transition.reads_token (one : TakesOne operand accepts) (move : Transition operand c d) :
    ∃ l m token tokens, c.remainder = some l ∧ d.remainder = some m ∧ l.Reads (token :: tokens) m := by
  cases move with
  | operand plain read =>
    obtain ⟨token, m, next, -, rfl⟩ := one.taken read
    exact ⟨_, m, token, [], rfl, rfl, TokenView.reads_next next⟩
  | empty next other found allowed after stop =>
    exact ⟨_, _, _, _, rfl, rfl, (TokenView.reads_next next).trans (TokenView.reads_next after)⟩
  | prefixed next | opened next | condition next | infixed next | separated next | closed next
  | consequent next | alternative next => exact ⟨_, _, _, _, rfl, rfl, TokenView.reads_next next⟩

theorem plainAt_iff {l : TokenView K} {token : Token K} (next : l.next? = some (token, m)) :
    PlainAt g l ↔ g.prefixOf token.kind = none ∧ g.groupingOf token.kind = none ∧
      g.ifOf token.kind = none := by
  simp [PlainAt, TokenView.head?_rest next]

def Unstopped (g : Grammar K α) (l : TokenView K) : Prop :=
  ∀ token ∈ l.rest.head?, ∀ set ∈ g.groupings, token.kind ≠ set.stop

theorem Transition.replay (one : TakesOne operand accepts)
    (unchecked : ∀ set ∈ g.groupings, ∀ items separators, set.check items separators = none)
    (move : Transition operand c d) (hd : d.remainder = some m) {tokens : List (Token K)}
    (reads : m.Reads tokens k) (ahead : (∃ F, d = .awaiting (some m) F) → tokens = [] → Unstopped g k')
    (beside : c.Beside k k' c') : ∃ d', Transition operand c' d' ∧ d.Beside k k' d' := by
  cases move with
  | prefixed next found =>
    cases hd
    obtain ⟨views, shapes⟩ := beside
    obtain ⟨m', next', views'⟩ := views.next next reads
    exact ⟨_, .prefixed next' found, .awaiting views' (.cons (.arm rfl) shapes)⟩
  | empty next other found allowed after stop =>
    cases hd
    obtain ⟨views, shapes⟩ := beside
    obtain ⟨n', next', views'⟩ := views.next next ((TokenView.reads_next after).trans reads)
    obtain ⟨m', after', views''⟩ := views'.next after reads
    exact ⟨_, .empty next' other found allowed after' stop, .holding views'' shapes⟩
  | @opened l m opening set F next other found filled =>
    cases hd
    obtain ⟨views, shapes⟩ := beside
    obtain ⟨m', next', views'⟩ := views.next next reads
    have known := (Grammar.groupingOf_eq_some found).1
    have filled' : set.allowEmpty → ∀ token ∈ m'.rest.head?, token.kind ≠ set.stop := by
      intro allowed token head
      cases tokens with
      | nil =>
        obtain ⟨none, here, there⟩ := views'
        obtain rfl : none = [] := here.tokens_eq.symm.trans reads.tokens_eq
        have rest : m'.rest = k'.rest := there.rest
        exact ahead ⟨_, rfl⟩ rfl token (rest ▸ head) set known
      | cons first tokens =>
        obtain rfl : first = token := by simpa [views'.head? reads] using head
        exact filled allowed first (by simp [reads.rest])
    exact ⟨_, .opened next' other found filled', .awaiting views' (.cons (.group known rfl) shapes)⟩
  | condition next other another found =>
    cases hd
    obtain ⟨views, shapes⟩ := beside
    obtain ⟨m', next', views'⟩ := views.next next reads
    exact ⟨_, .condition next' other another found, .awaiting views' (.cons (.condition _) shapes)⟩
  | operand plain read =>
    obtain ⟨token, n, next, accepted, rfl⟩ := one.taken read
    cases hd
    obtain ⟨views, shapes⟩ := beside
    obtain ⟨m', next', views'⟩ := views.next next reads
    obtain ⟨value, location, read'⟩ := one.takes next' accepted
    have plain' := (plainAt_iff next').mpr ((plainAt_iff next).mp plain)
    exact ⟨_, .operand plain' read', .holding views' shapes⟩
  | infixed next found tight loose =>
    cases hd
    obtain - | ⟨views, shapes⟩ := beside
    obtain ⟨m', next', views'⟩ := views.next next reads
    obtain ⟨arms, G, rfl, nodes, below⟩ := shapes.exists_onto
    have tight' := forall_of_nodes nodes (fun a b node h => entries_of_node node ▸ h) tight
    exact ⟨_, .infixed next' found tight' (below.operators_eq ▸ loose),
      .awaiting views' (.cons (.arm rfl) below)⟩
  | separated next other going found =>
    cases hd
    obtain - | ⟨views, shapes⟩ := beside
    obtain ⟨m', next', views'⟩ := views.next next reads
    obtain ⟨arms, G, rfl, nodes, below⟩ := shapes.exists_onto
    obtain ⟨f, G', shape, others, rfl⟩ := List.forall₂_cons_left_iff.mp below
    obtain - | ⟨known, separators⟩ := shape
    refine ⟨_, .separated next' other going found, .awaiting views' (.cons (.group known ?_) others)⟩
    rw [Series.separators, Series.separators, separators]
  | closed next other stop checked =>
    cases hd
    obtain - | ⟨views, shapes⟩ := beside
    obtain ⟨m', next', views'⟩ := views.next next reads
    obtain ⟨arms, G, rfl, nodes, below⟩ := shapes.exists_onto
    obtain ⟨f, G', shape, others, rfl⟩ := List.forall₂_cons_left_iff.mp below
    obtain - | ⟨known, separators⟩ := shape
    exact ⟨_, .closed next' other stop (unchecked _ known _ _), .holding views' others⟩
  | consequent next other free found =>
    cases hd
    obtain - | ⟨views, shapes⟩ := beside
    obtain ⟨m', next', views'⟩ := views.next next reads
    have free' := shapes.unclaimed free
    obtain ⟨arms, G, rfl, nodes, below⟩ := shapes.exists_onto
    obtain ⟨f, G', shape, others, rfl⟩ := List.forall₂_cons_left_iff.mp below
    cases shape with
    | condition choice =>
      exact ⟨_, .consequent next' other free' found, .awaiting views' (.cons (.arm rfl) others)⟩
  | alternative next other free another found nearest =>
    cases hd
    obtain - | ⟨views, shapes⟩ := beside
    obtain ⟨m', next', views'⟩ := views.next next reads
    have free' := shapes.unclaimed free
    have another' := shapes.branchless another
    obtain ⟨arms, G, rfl, nodes, below⟩ := shapes.exists_onto
    obtain ⟨f, G', shape, others, rfl⟩ := List.forall₂_cons_left_iff.mp below
    have nearest' := forall_of_nodes nodes (fun a b node h => isConsequent_of_node node ▸ h) nearest
    cases shape with
    | @arm _ b node =>
      cases b with
      | consequent choice ifToken thenToken condition =>
        cases node
        exact ⟨_, .alternative next' other free' another' found nearest',
          .awaiting views' (.cons (.arm rfl) others)⟩
      | infixed => cases node
      | prefixed => cases node
      | alternative => cases node

theorem replay_moves (one : TakesOne operand accepts)
    (unchecked : ∀ set ∈ g.groupings, ∀ items separators, set.check items separators = none)
    (moves : Relation.ReflTransGen (Transition operand) c d) (hd : d.remainder = some k)
    (ahead : (∃ F, d = .awaiting (some k) F) → Unstopped g k') :
    ∃ l tokens, c.remainder = some l ∧ l.Reads tokens k ∧ (tokens = [] → c = d) ∧
      ∀ c', c.Beside k k' c' → ∃ d', Relation.ReflTransGen (Transition operand) c' d' ∧ d.Beside k k' d' := by
  induction moves using Relation.ReflTransGen.head_induction_on with
  | refl => exact ⟨k, [], hd, .refl k, fun _ => rfl, fun c' beside => ⟨c', .refl, beside⟩⟩
  | @head c e move _ ih =>
    obtain ⟨m, tokens, he, reads, last, replays⟩ := ih
    obtain ⟨l, n, token, more, hc, hn, first⟩ := move.reads_token one
    obtain rfl : n = m := Option.some.inj (hn.symm.trans he)
    refine ⟨l, token :: more ++ tokens, hc, first.trans reads, by simp, ?_⟩
    intro c' beside
    have ahead' : (∃ F, e = .awaiting (some n) F) → tokens = [] → Unstopped g k' := by
      rintro ⟨F, rfl⟩ empty
      have same := last empty
      rw [← same] at hd
      cases hd
      exact ahead ⟨F, same.symm⟩
    obtain ⟨e', move', beside'⟩ := move.replay one unchecked he reads ahead' beside
    obtain ⟨d', moves', beside''⟩ := replays e' beside'
    exact ⟨d', .head move' moves', beside''⟩

end Replay

end Parsing.Expression

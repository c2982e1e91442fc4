import Mathlib.Data.List.Forall2
import Mathlib.Data.Option.Basic
import Parsing.Kind
import Parsing.Parser.Derived
import Parsing.Parser.Reference
import Parsing.Proofs.Label.Alike
import Parsing.Proofs.Remainder.Parser

namespace Parsing

section Tokens

variable {K α : Type} [TokenKind K]

theorem exists_fragment {v : View} {e : Failure Span} (h : e.remainder = some v) :
    ∃ text, e.fragment = .ok text := by
  unfold Failure.fragment
  cases e.message with
  | some message => exact ⟨message, rfl⟩
  | none =>
    rw [h]
    exact ⟨_, rfl⟩

theorem Failure.Alike.refusal {e f : Failure Span} (h : e.Alike f) (input : TokenList K) (kind : K) :
    Agree Failure.Alike (Primitive.refusal input kind e) (Primitive.refusal input kind f) := by
  have hp : e.position = f.position := by
    rw [Failure.position, Failure.position, h.within, h.remainder]
  unfold Primitive.refusal
  rw [h.remainder, h.backtrack, hp]
  cases hr : f.remainder with
  | none => exact .fault .noSpan
  | some v =>
    obtain ⟨t, ht⟩ := exists_fragment (h.remainder.trans hr)
    obtain ⟨u, hu⟩ := exists_fragment hr
    rw [ht, hu]
    apply Agree.bind_left
    intro atEnd
    simp only [ok_bind]
    apply Agree.bind_left
    intro place
    exact .ok ⟨rfl, rfl, rfl⟩

theorem Alike.inToken {tokenReader tokenReader' : Reader (Except Fault) (TokenList K) (Token K)}
    {textReader textReader' : Reader (Except Fault) Span α} (ht : Alike tokenReader tokenReader')
    (hp : Alike textReader textReader') :
    Alike (Primitive.inToken tokenReader textReader) (Primitive.inToken tokenReader' textReader') := by
  intro input
  apply (ht input).bind
  rintro _ _ (⟨t, location, rest⟩ | ⟨he⟩)
  · apply (hp (some t.span)).bind
    rintro _ _ (⟨a, start, last⟩ | ⟨he⟩)
    · exact .refl Reply.Alike.refl _
    · simp only [ofExcept_eq]
      apply (he.refusal input t.kind).bind
      intro e f alike
      exact .ok (.failure alike)
  · exact .ok (.failure he)

end Tokens

namespace Expression

variable {K α : Type} {g : Grammar K α}

inductive Step.Alike : Step g → Step g → Prop where
  | going (s : Machine g) : Alike (.going s) (.going s)
  | done {reply reply' : Reply (TokenList K) α} (alike : reply.Alike reply') :
      Alike (.done reply) (.done reply')

theorem Step.Alike.refl (step : Step g) : step.Alike step := by
  cases step with
  | going s => exact .going s
  | done reply => exact .done (.refl reply)

variable [DecidableEq K] [TokenKind K] {operand operand' : Reader (Except Fault) (TokenList K) α}

theorem agree_step (ho : Alike operand operand') (s : Machine g) :
    Agree Step.Alike (s.step operand) (s.step operand') := by
  unfold Machine.step
  split
  · apply Agree.bind_left
    rintro (_ | step)
    · apply (ho s.remainder).bind
      rintro _ _ (⟨value, location, rest⟩ | ⟨he⟩)
      · exact .ok (.refl _)
      · exact .ok (.done (.failure he))
    · exact .ok (.refl step)
  · exact .refl Step.Alike.refl _

theorem agree_runSteps (ho : Alike operand operand') (steps : Nat) (s : Machine g) :
    Agree Reply.Alike (s.runSteps operand steps) (s.runSteps operand' steps) := by
  induction steps generalizing s with
  | zero => exact .fault .endless
  | succ steps ih =>
    apply (agree_step ho s).bind
    rintro _ _ (⟨next⟩ | ⟨alike⟩)
    · exact ih next
    · exact .ok alike

theorem alike_expression (ho : Alike operand operand') (g : Grammar K α) :
    Alike (expression operand g) (expression operand' g) :=
  fun _ => agree_runSteps ho _ _

end Expression

section Label

variable {C α : Type} [Cursor C]

def Unmarked (p : Reader (Except Fault) C α) : Prop :=
  ∀ input e, p input = .ok (.failure e) → e.isPartial input = false → e.backtrack = false

theorem Alike.label {p p' : Reader (Except Fault) C α} (hp : Alike p p') (hu : Unmarked p)
    (name : String) : Alike p (Combinator.labelled p' name) := by
  intro input
  apply (hp input).bind_right
  rintro _ _ hx (⟨a, location, rest⟩ | @⟨e, f, he⟩)
  · exact .ok (.success _ _ _)
  · dsimp only
    split
    · exact .ok (.failure he)
    · next clean =>
      rw [← he.isPartial, Bool.not_eq_true] at clean
      have hb := hu input e hx clean
      have hw : e.within = none := by
        rw [Failure.isPartial, Bool.or_eq_false_iff] at clean
        simpa using clean.2
      exact .ok (.failure ⟨he.remainder, hw, hb⟩)

end Label

variable {K V : Type}

namespace Parser

/-- The second parser is the first one with labels around some of its parts that are `steady`. -/
inductive Relabelled (steady : ⦃i : Medium⦄ → ⦃α : Type⦄ → Parser K V i α → Prop) :
    {i : Medium} → {α : Type} → Parser K V i α → Parser K V i α → Prop where
  | label {i : Medium} {α : Type} {p p' : Parser K V i α} (name : String) (hs : steady p)
      (hp : Relabelled steady p p') : Relabelled steady p (.labelled p' name)
  | one (accepts : Char → Bool) (expectations : List String) :
      Relabelled steady (.one accepts expectations) (.one accepts expectations)
  | literal (text : String) (ignoreCase : Bool) :
      Relabelled steady (.literal text ignoreCase) (.literal text ignoreCase)
  | takeWhile (accepts : Char → Bool) (name : Option String) :
      Relabelled steady (.takeWhile accepts name) (.takeWhile accepts name)
  | token (accepts : Token K → Bool) (expectation : String) :
      Relabelled steady (.token accepts expectation) (.token accepts expectation)
  | kinds (expected : List K) : Relabelled steady (.kinds expected) (.kinds expected)
  | inToken {α : Type} {t t' : Parser K V .tokens (Token K)} {p p' : Parser K V .text α}
      (ht : Relabelled steady t t') (hp : Relabelled steady p p') :
      Relabelled steady (.inToken t p) (.inToken t' p')
  | expression {α : Type} {operand operand' : Parser K V .tokens α} (grammar : Expression.Grammar K α)
      (ho : Relabelled steady operand operand') :
      Relabelled steady (.expression operand grammar) (.expression operand' grammar)
  | map {i : Medium} {α β : Type} {p p' : Parser K V i α} (f : α → β) (hp : Relabelled steady p p') :
      Relabelled steady (.map f p) (.map f p')
  | bind {i : Medium} {α β : Type} {p p' : Parser K V i α} {q q' : α → Parser K V i β}
      (hp : Relabelled steady p p') (hq : ∀ a, Relabelled steady (q a) (q' a)) :
      Relabelled steady (.bind p q) (.bind p' q')
  | seq {i : Medium} {α β : Type} {p p' : Parser K V i α} {q q' : Parser K V i β}
      (hp : Relabelled steady p p') (hq : Relabelled steady q q') :
      Relabelled steady (.seq p q) (.seq p' q')
  | or {i : Medium} {α : Type} {p p' q q' : Parser K V i α} (hp : Relabelled steady p p')
      (hq : Relabelled steady q q') : Relabelled steady (.or p q) (.or p' q')
  | attempt {i : Medium} {α : Type} {p p' : Parser K V i α} (hp : Relabelled steady p p') :
      Relabelled steady (.attempt p) (.attempt p')
  | labelled {i : Medium} {α : Type} {p p' : Parser K V i α} (name : String)
      (hp : Relabelled steady p p') : Relabelled steady (.labelled p name) (.labelled p' name)
  | reporting {i : Medium} {α : Type} {p p' : Parser K V i α} (text : String)
      (hp : Relabelled steady p p') : Relabelled steady (.reporting p text) (.reporting p' text)
  | guard {i : Medium} {α : Type} {p p' : Parser K V i α} (accepts : α → Bool) (expectation : String)
      (hp : Relabelled steady p p') :
      Relabelled steady (.guard p accepts expectation) (.guard p' accepts expectation)
  | notFollowedBy {i : Medium} {α : Type} {p p' : Parser K V i α} (hp : Relabelled steady p p') :
      Relabelled steady (.notFollowedBy p) (.notFollowedBy p')
  | succeed {i : Medium} {α : Type} (a : α) :
      Relabelled steady (.succeed a : Parser K V i α) (.succeed a)
  | many {i : Medium} {α : Type} {p p' : Parser K V i α} (hp : Relabelled steady p p') :
      Relabelled steady (.many p) (.many p')
  | many1 {i : Medium} {α : Type} {p p' : Parser K V i α} (hp : Relabelled steady p p') :
      Relabelled steady (.many1 p) (.many1 p')
  | skipMany {i : Medium} {α : Type} {p p' : Parser K V i α} (hp : Relabelled steady p p') :
      Relabelled steady (.skipMany p) (.skipMany p')
  | optional {i : Medium} {α : Type} {p p' : Parser K V i α} (hp : Relabelled steady p p') :
      Relabelled steady (.optional p) (.optional p')
  | sepBy {i : Medium} {α β : Type} {item item' : Parser K V i α} {delimiter delimiter' : Parser K V i β}
      (required : Bool) (hi : Relabelled steady item item') (hd : Relabelled steady delimiter delimiter') :
      Relabelled steady (.sepBy required item delimiter) (.sepBy required item' delimiter')
  | times {i : Medium} {α : Type} {p p' : Parser K V i α} (size count : Nat)
      (hp : Relabelled steady p p') : Relabelled steady (.times size count p) (.times size count p')
  | whole {i : Medium} {α : Type} {p p' : Parser K V i α} (hp : Relabelled steady p p') :
      Relabelled steady (.whole p) (.whole p')
  | chain {i : Medium} {α ω : Type} {operator operator' : Parser K V i ω}
      {operand operand' : Parser K V i α} (associativity : Associativity) (apply : ω → α → α → α)
      (ho : Relabelled steady operator operator') (ha : Relabelled steady operand operand') :
      Relabelled steady (.chain associativity operator operand apply)
        (.chain associativity operator' operand' apply)
  | reference {i : Medium} (name : String) :
      Relabelled steady (.reference name : Parser K V i V) (.reference name)
  | fail {i : Medium} {α : Type} (skip : Nat) (report : Failure Unit) :
      Relabelled steady (.fail skip report : Parser K V i α) (.fail skip report)

variable {steady : ⦃i : Medium⦄ → ⦃α : Type⦄ → Parser K V i α → Prop}

theorem Relabelled.refl {i : Medium} {α : Type} (p : Parser K V i α) : Relabelled steady p p := by
  induction p with
  | one accepts expectations => exact .one accepts expectations
  | literal text ignoreCase => exact .literal text ignoreCase
  | takeWhile accepts name => exact .takeWhile accepts name
  | token accepts expectation => exact .token accepts expectation
  | kinds expected => exact .kinds expected
  | inToken t p ht hp => exact .inToken ht hp
  | expression operand grammar ho => exact .expression grammar ho
  | map f p hp => exact .map f hp
  | bind p q hp hq => exact .bind hp hq
  | seq p q hp hq => exact .seq hp hq
  | or p q hp hq => exact .or hp hq
  | attempt p hp => exact .attempt hp
  | labelled p name hp => exact .labelled name hp
  | reporting p text hp => exact .reporting text hp
  | guard p accepts expectation hp => exact .guard accepts expectation hp
  | notFollowedBy p hp => exact .notFollowedBy hp
  | succeed a => exact .succeed a
  | many p hp => exact .many hp
  | many1 p hp => exact .many1 hp
  | skipMany p hp => exact .skipMany hp
  | optional p hp => exact .optional hp
  | sepBy required item delimiter hi hd => exact .sepBy required hi hd
  | times size count p hp => exact .times size count hp
  | whole p hp => exact .whole hp
  | chain associativity operator operand f ho ha => exact .chain associativity f ho ha
  | reference name => exact .reference name
  | fail skip report => exact .fail skip report

variable [DecidableEq K] [TokenKind K]

theorem Relabelled.alike_denote
    {refer refer' : (i : Medium) → String → Reader (Except Fault) (Input K i) V}
    (hr : ∀ i name, Alike (refer i name) (refer' i name))
    (hs : ∀ {i : Medium} {α : Type} (p : Parser K V i α), steady p → Unmarked (p.denote refer))
    {i : Medium} {α : Type} {p p' : Parser K V i α} (h : Relabelled steady p p') :
    Alike (p.denote refer) (p'.denote refer') := by
  induction h with
  | label name steady _ hp => exact hp.label (hs _ steady) name
  | one | literal | takeWhile | token | kinds | succeed | fail => exact .refl _
  | inToken _ _ ht hp => exact ht.inToken hp
  | expression grammar _ ho => exact Expression.alike_expression ho grammar
  | map f _ hp => exact hp.map f
  | bind _ _ hp hq => exact hp.bind hq
  | seq _ _ hp hq => exact hp.seq hq
  | or _ _ hp hq => exact hp.or hq
  | attempt _ hp => exact hp.attempt
  | labelled name _ hp => exact hp.labelled name
  | reporting text _ hp => exact hp.reporting text
  | guard accepts expectation _ hp => exact hp.guard accepts expectation
  | notFollowedBy _ hp => exact hp.notFollowedBy
  | many _ hp => exact hp.many
  | many1 _ hp => exact hp.many1
  | skipMany _ hp => exact hp.skipMany
  | optional _ hp => exact hp.optional
  | sepBy required _ _ hi hd => exact hi.sepBy hd required
  | times size count _ hp => exact hp.times size count
  | whole _ hp => exact hp.whole
  | chain associativity apply _ _ ho ha => exact ho.chain ha associativity apply
  | reference name => exact hr _ name

end Parser

namespace Definitions

structure Relabelled (steady : ⦃i : Medium⦄ → ⦃α : Type⦄ → Parser K V i α → Prop)
    (d d' : Definitions K V) : Prop where
  text : List.Forall₂ (fun x y => x.1 = y.1 ∧ Parser.Relabelled steady x.2 y.2) d.text d'.text
  tokens : List.Forall₂ (fun x y => x.1 = y.1 ∧ Parser.Relabelled steady x.2 y.2) d.tokens d'.tokens

variable {steady : ⦃i : Medium⦄ → ⦃α : Type⦄ → Parser K V i α → Prop} {d d' : Definitions K V}

theorem rel_lookup {i : Medium} {as bs : List (String × Parser K V i V)}
    (h : List.Forall₂ (fun x y => x.1 = y.1 ∧ Parser.Relabelled steady x.2 y.2) as bs) (name : String) :
    Option.Rel (Parser.Relabelled steady) (as.lookup name) (bs.lookup name) := by
  induction h with
  | nil => exact .none
  | @cons a b as bs hab _ ih =>
    obtain ⟨x, p⟩ := a
    obtain ⟨y, q⟩ := b
    obtain ⟨rfl, hp⟩ := hab
    dsimp only [List.lookup]
    cases name == x with
    | true => exact .some hp
    | false => exact ih

theorem Relabelled.find? (h : d.Relabelled steady d') (i : Medium) (name : String) :
    Option.Rel (Parser.Relabelled steady) (d.find? i name) (d'.find? i name) := by
  cases i with
  | text => exact rel_lookup h.text name
  | tokens => exact rel_lookup h.tokens name

theorem Relabelled.depth (h : d.Relabelled steady d') {i : Medium} (input : Input K i) :
    d.depth input = d'.depth input := by
  unfold Definitions.depth
  rw [h.text.length_eq, h.tokens.length_eq]

end Definitions

variable [DecidableEq K] [TokenKind K]

/-- However deep references nest, no failure that consumed nothing is marked. -/
def Parser.Steady (definitions : Definitions K V) ⦃i : Medium⦄ ⦃α : Type⦄ (p : Parser K V i α) :
    Prop :=
  ∀ depth, Unmarked (p.runDepth definitions depth)

theorem alike_runDepth {d d' : Definitions K V} (hd : d.Relabelled (Parser.Steady d) d') (depth : Nat)
    {i : Medium} {α : Type} {p p' : Parser K V i α} (h : Parser.Relabelled (Parser.Steady d) p p') :
    Alike (p.runDepth d depth) (p'.runDepth d' depth) := by
  induction depth generalizing i α with
  | zero =>
    apply h.alike_denote
    · intro i name
      exact .refl _
    · intro i α p steady
      exact steady 0
  | succ depth ih =>
    apply h.alike_denote
    · intro i name input
      have found := hd.find? i name
      dsimp only
      generalize d.find? i name = q at found ⊢
      generalize d'.find? i name = q' at found ⊢
      cases found with
      | none => exact .fault _
      | some hq => exact ih hq input
    · intro i α p steady
      exact steady (depth + 1)

/-- Labels around parts of a parser and of its definitions, none of which fails without consuming input and yet
marks its failure, change only the messages and expectations of failures. -/
theorem run_relabelled {definitions definitions' : Definitions K V}
    (hd : definitions.Relabelled (Parser.Steady definitions) definitions') {i : Medium} {α : Type}
    {p p' : Parser K V i α} (hp : Parser.Relabelled (Parser.Steady definitions) p p')
    (input : Input K i) :
    definitions.depth input = definitions'.depth input ∧ ∀ depth,
      (∀ value location rest, p.runDepth definitions depth input = .ok (.success value location rest) ↔
        p'.runDepth definitions' depth input = .ok (.success value location rest)) ∧
      (∀ fault, p.runDepth definitions depth input = .error fault ↔
        p'.runDepth definitions' depth input = .error fault) ∧
      ∀ e, p.runDepth definitions depth input = .ok (.failure e) → ∃ message expectations,
        p'.runDepth definitions' depth input =
          .ok (.failure ⟨e.remainder, e.within, message, expectations, e.backtrack⟩) := by
  refine ⟨hd.depth input, ?_⟩
  intro depth
  have agree := alike_runDepth hd depth hp input
  generalize p.runDepth definitions depth input = x at agree ⊢
  generalize p'.runDepth definitions' depth input = y at agree ⊢
  cases agree with
  | fault e => simp
  | ok related =>
    cases related with
    | success value location rest => simp
    | @failure e f alike =>
      refine ⟨by simp, by simp, ?_⟩
      rintro _ ⟨⟩
      refine ⟨f.message, f.expectations, ?_⟩
      rw [alike.remainder, alike.within, alike.backtrack]

theorem unmarked_one (accepts : Char → Bool) (expectations : List String) :
    Unmarked (Primitive.one accepts expectations) := by
  intro input e h _
  obtain ⟨item, -, h⟩ := bind_eq_ok h
  rcases item with _ | ⟨c, rest⟩
  · cases h
    rfl
  · dsimp only at h
    split at h
    · cases h
    · cases h
      rfl

-- An `x` in any number of parentheses.
def enclosed (core : Parser Kind Char .text Char) : Parser Kind Char .text Char :=
  .or core (.between (.char '(') (.reference "enclosed") (.char ')'))

def enclosedDefinition (core : Parser Kind Char .text Char) : Definitions Kind Char :=
  ⟨[("enclosed", enclosed core)], []⟩

def enclosedText : View :=
  .ofSource ⟨0, ['(', '(', 'x', ')', ')', '!']⟩

theorem run_relabelled_enclosed :
    (enclosed (.char 'x')).run (enclosedDefinition (.char 'x')) (some enclosedText) =
        .ok (.success 'x' (some enclosedText) (some (enclosedText.skip 5))) ∧
      (enclosed (.labelled (.char 'x') "core")).run (enclosedDefinition (.labelled (.char 'x') "core"))
        (some enclosedText) = .ok (.success 'x' (some enclosedText) (some (enclosedText.skip 5))) := by
  have steady : Parser.Steady (enclosedDefinition (.char 'x')) (.char 'x' : Parser Kind Char .text Char) := by
    intro depth
    cases depth with
    | zero => exact unmarked_one _ _
    | succ depth => exact unmarked_one _ _
  have relabelled : Parser.Relabelled (Parser.Steady (enclosedDefinition (.char 'x')))
      (enclosed (.char 'x')) (enclosed (.labelled (.char 'x') "core")) :=
    .or (.label "core" steady (.refl _)) (.refl _)
  have defined : (enclosedDefinition (.char 'x')).Relabelled
      (Parser.Steady (enclosedDefinition (.char 'x')))
      (enclosedDefinition (.labelled (.char 'x') "core")) :=
    ⟨.cons ⟨rfl, relabelled⟩ .nil, .nil⟩
  have plain : (enclosed (.char 'x')).run (enclosedDefinition (.char 'x')) (some enclosedText) =
      .ok (.success 'x' (some enclosedText) (some (enclosedText.skip 5))) := rfl
  exact ⟨plain, (((run_relabelled defined relabelled _).2 _).1 _ _ _).mp plain⟩

section Difference

omit [DecidableEq K] in
theorem Cursor.same_left {i : Medium} {a b : Input K i} (h : Cursor.same a b = true) (c : Input K i) :
    Cursor.same a c = Cursor.same b c := by
  cases i with
  | text =>
    rcases a with _ | v <;> rcases b with _ | w
    · rfl
    · cases h
    · cases h
    · cases c with
      | none => rfl
      | some u =>
        change v.same w = true at h
        change v.same u = w.same u
        simp only [View.same, Bool.and_eq_true, beq_iff_eq] at h ⊢
        rw [h.1.1, h.1.2, h.2]
  | tokens =>
    rcases a with _ | l <;> rcases b with _ | k
    · rfl
    · cases h
    · cases h
    · cases c with
      | none => rfl
      | some u =>
        change l.same k = true at h
        change l.same u = k.same u
        simp only [TokenView.same, Bool.and_eq_true, beq_iff_eq] at h ⊢
        rw [h.1, h.2]

theorem optional_labelled (definitions : Definitions K V) (depth : Nat) {i : Medium} {α β : Type}
    {q : Parser K V i β} {p : Parser K V i α} {input location rest : Input K i} {b : β}
    {e : Failure (Input K i)}
    (hq : q.runDepth definitions depth input = .ok (.success b location rest))
    (moved : Cursor.same rest input = false)
    (hp : p.runDepth definitions depth rest = .ok (.failure e))
    (clean : e.isPartial rest = false) (marked : e.backtrack = true) (name : String) :
    (Parser.optional (.seq q p)).runDepth definitions depth input = .ok (.success none input input) ∧
      (Parser.optional (.seq q (.labelled p name))).runDepth definitions depth input =
        .ok (.failure (.expected e.remainder [name])) := by
  obtain ⟨refer, runs⟩ := Parser.exists_runDepth_eq definitions depth
  rw [runs] at hq hp
  have stays : Cursor.same e.remainder rest = true := by
    rw [Failure.isPartial, Bool.or_eq_false_iff] at clean
    simpa using clean.1
  have committed : (Failure.expected e.remainder [name]).isCommitted input = true := by
    simp [Failure.isCommitted, Failure.isPartial, Failure.expected, Cursor.same_left stays, moved]
  constructor
  · rw [runs]
    change Combinator.optional (Combinator.seq (q.denote refer) (p.denote refer)) input = _
    simp [Combinator.optional, Combinator.seq, hq, hp, Failure.isCommitted, marked]
  · rw [runs]
    change Combinator.optional (Combinator.seq (q.denote refer)
      (Combinator.labelled (p.denote refer) name)) input = _
    simp [Combinator.optional, Combinator.seq, Combinator.labelled, hq, hp, clean, committed]

end Difference

def crossedText : View :=
  .ofSource ⟨0, ['x', 'z']⟩

theorem label_commits_crossed :
    (Parser.optional (.seq (.char 'x') (.attempt (.char 'y'))) : Parser Kind Char .text _).run .empty
        (some crossedText) = .ok (.success none (some crossedText) (some crossedText)) ∧
      (Parser.optional (.seq (.char 'x') (.labelled (.attempt (.char 'y')) "why")) :
          Parser Kind Char .text _).run .empty (some crossedText) =
        .ok (.failure (.expected (some (crossedText.skip 1)) ["why"])) := by
  have taken : (Parser.char 'x' : Parser Kind Char .text Char).runDepth .empty 0 (some crossedText) =
      .ok (.success 'x' (some crossedText) (some (crossedText.skip 1))) := rfl
  have refused : (Parser.attempt (.char 'y') : Parser Kind Char .text Char).runDepth .empty 0
      (some (crossedText.skip 1)) =
      .ok (.failure ⟨some (crossedText.skip 1), none, none, some [Wording.character 'y'], true⟩) := rfl
  exact optional_labelled _ 0 taken rfl refused rfl rfl "why"

end Parsing

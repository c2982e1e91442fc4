import Parsing.Proofs.Fault.Loops

namespace Parsing

variable {K V : Type}

namespace Parser

inductive Child : {i : Medium} → {α β : Type} → Parser K V i α → Parser K V i β → Prop where
  | inToken {α : Type} (p : Parser K V .tokens (Token K)) (q : Parser K V .text α) : Child (.inToken p q) p
  | expression {α : Type} (p : Parser K V .tokens α) (grammar : Expression.Grammar K α) :
      Child (.expression p grammar) p
  | map {i : Medium} {α β : Type} (f : α → β) (p : Parser K V i α) : Child (.map f p) p
  | bind {i : Medium} {α β : Type} (p : Parser K V i α) (q : α → Parser K V i β) : Child (.bind p q) p
  | seqLeft {i : Medium} {α β : Type} (p : Parser K V i α) (q : Parser K V i β) : Child (.seq p q) p
  | seqRight {i : Medium} {α β : Type} (p : Parser K V i α) (q : Parser K V i β) : Child (.seq p q) q
  | orLeft {i : Medium} {α : Type} (p q : Parser K V i α) : Child (.or p q) p
  | orRight {i : Medium} {α : Type} (p q : Parser K V i α) : Child (.or p q) q
  | attempt {i : Medium} {α : Type} (p : Parser K V i α) : Child (.attempt p) p
  | labelled {i : Medium} {α : Type} (p : Parser K V i α) (name : String) : Child (.labelled p name) p
  | reporting {i : Medium} {α : Type} (p : Parser K V i α) (text : String) : Child (.reporting p text) p
  | guard {i : Medium} {α : Type} (p : Parser K V i α) (accepts : α → Bool) (expectation : String) :
      Child (.guard p accepts expectation) p
  | notFollowedBy {i : Medium} {α : Type} (p : Parser K V i α) : Child (.notFollowedBy p) p
  | many {i : Medium} {α : Type} (p : Parser K V i α) : Child (.many p) p
  | many1 {i : Medium} {α : Type} (p : Parser K V i α) : Child (.many1 p) p
  | skipMany {i : Medium} {α : Type} (p : Parser K V i α) : Child (.skipMany p) p
  | optional {i : Medium} {α : Type} (p : Parser K V i α) : Child (.optional p) p
  | item {i : Medium} {α β : Type} (required : Bool) (p : Parser K V i α) (q : Parser K V i β) :
      Child (.sepBy required p q) p
  | delimiter {i : Medium} {α β : Type} (required : Bool) (p : Parser K V i α) (q : Parser K V i β) :
      Child (.sepBy required p q) q
  | times {i : Medium} {α : Type} (size count : Nat) (p : Parser K V i α) : Child (.times size count p) p
  | whole {i : Medium} {α : Type} (p : Parser K V i α) : Child (.whole p) p
  | operator {i : Medium} {α ω : Type} (associativity : Associativity) (p : Parser K V i ω)
      (q : Parser K V i α) (apply : ω → α → α → α) : Child (.chain associativity p q apply) p
  | operand {i : Medium} {α ω : Type} (associativity : Associativity) (p : Parser K V i ω)
      (q : Parser K V i α) (apply : ω → α → α → α) : Child (.chain associativity p q apply) q

variable [DecidableEq K] [TokenKind K]

/-- The parsers that a run of `p` on `input` may come to, and the inputs on which it may come to them. What is
bound to a value and the text of a token are among them only for values and tokens that are read. -/
inductive Part (definitions : Definitions K V) {i : Medium} {α : Type} (p : Parser K V i α)
    (input : Input K i) : {j : Medium} → {β : Type} → Parser K V j β → Input K j → Prop where
  | self : Part definitions p input p input
  | further {j : Medium} {β : Type} {q : Parser K V j β} {start rest : Input K j}
      (h : Part definitions p input q start) (hs : Suffix start rest) : Part definitions p input q rest
  | child {j : Medium} {β γ : Type} {q : Parser K V j β} {r : Parser K V j γ} {start : Input K j}
      (h : Part definitions p input q start) (hc : q.Child r) : Part definitions p input r start
  | bound {j : Medium} {β γ : Type} {q : Parser K V j β} {r : β → Parser K V j γ}
      {start location rest : Input K j} {b : β} {depth : Nat}
      (h : Part definitions p input (.bind q r) start)
      (read : q.runDepth definitions depth start = .ok (.success b location rest)) :
      Part definitions p input (r b) rest
  | inside {β : Type} {q : Parser K V .tokens (Token K)} {r : Parser K V .text β}
      {start location rest : Input K .tokens} {t : Token K} {depth : Nat}
      (h : Part definitions p input (.inToken q r) start)
      (read : q.runDepth definitions depth start = .ok (.success t location rest)) :
      Part definitions p input r (some t.span)
  | reference {j : Medium} {name : String} {q : Parser K V j V} {start : Input K j}
      (h : Part definitions p input (.reference name : Parser K V j V) start)
      (found : definitions.find? j name = some q) : Part definitions p input q start

inductive Stalls (definitions : Definitions K V) :
    {i : Medium} → {α : Type} → Parser K V i α → Input K i → Prop where
  | many {i : Medium} {α : Type} {p : Parser K V i α} {here : Input K i} {depth : Nat}
      (stays : Stays (p.runDepth definitions depth) here) : Stalls definitions (.many p) here
  | many1 {i : Medium} {α : Type} {p : Parser K V i α} {here : Input K i} {depth : Nat}
      (stays : Stays (p.runDepth definitions depth) here) : Stalls definitions (.many1 p) here
  | skipMany {i : Medium} {α : Type} {p : Parser K V i α} {here : Input K i} {depth : Nat}
      (stays : Stays (p.runDepth definitions depth) here) : Stalls definitions (.skipMany p) here
  | sepBy {i : Medium} {α β : Type} {required : Bool} {item : Parser K V i α} {delimiter : Parser K V i β}
      {here : Input K i} {depth : Nat}
      (stays : Stays (Combinator.sepItem (item.runDepth definitions depth)
        (delimiter.runDepth definitions depth)) here) :
      Stalls definitions (.sepBy required item delimiter) here

inductive StallsLink (definitions : Definitions K V) :
    {i : Medium} → {α : Type} → Parser K V i α → Input K i → Prop where
  | chain {i : Medium} {α ω : Type} {associativity : Associativity} {operator : Parser K V i ω}
      {operand : Parser K V i α} {apply : ω → α → α → α} {here location location' middle : Input K i}
      {op : ω} {a : α} {depth : Nat}
      (first : operator.runDepth definitions depth here = .ok (.success op location middle))
      (second : operand.runDepth definitions depth middle = .ok (.success a location' here)) :
      StallsLink definitions (.chain associativity operator operand apply) here

inductive MayRaise (definitions : Definitions K V) {i : Medium} {α : Type} (p : Parser K V i α)
    (input : Input K i) : Fault → Prop where
  | zeroWidth {j : Medium} {β : Type} {q : Parser K V j β} {here : Input K j} {place : Position}
      (part : Part definitions p input q here) (stalls : q.Stalls definitions here)
      (position : Cursor.position here = .ok place) : MayRaise definitions p input (.zeroWidth place)
  | zeroWidthLink {j : Medium} {β : Type} {q : Parser K V j β} {here : Input K j} {place : Position}
      (part : Part definitions p input q here) (stalls : q.StallsLink definitions here)
      (position : Cursor.position here = .ok place) : MayRaise definitions p input (.zeroWidthLink place)
  | capacity {j : Medium} {β : Type} {q : Parser K V j β} {size count : Nat} {here : Input K j}
      (part : Part definitions p input (.times size count q) here)
      (long : Combinator.maxSpace < count * size) :
      MayRaise definitions p input .capacity
  | undefined {j : Medium} {name : String} {here : Input K j}
      (part : Part definitions p input (.reference name : Parser K V j V) here)
      (missing : definitions.find? j name = none) : MayRaise definitions p input (.undefined name)
  | endless {j : Medium} {name : String} {here : Input K j}
      (part : Part definitions p input (.reference name : Parser K V j V) here) :
      MayRaise definitions p input .endless

section Runs

variable {definitions : Definitions K V} {i : Medium} {α : Type} {p : Parser K V i α} {input : Input K i}

theorem mayRaise_of_repeats {j : Medium} {β γ : Type} {q : Parser K V j β} {start : Input K j}
    {step : Reader (Except Fault) (Input K j) γ} {fault : Fault} (part : Part definitions p input q start)
    (readable : start.Readable) (h : RepeatFaults step start fault)
    (stalls : ∀ here, Stays step here → q.Stalls definitions here)
    (raised : ∀ here, Suffix start here → here.Readable → step here = .error fault →
      MayRaise definitions p input fault) : MayRaise definitions p input fault := by
  obtain ⟨here, suffix, h | ⟨stays, place, position, rfl⟩⟩ := h
  · exact raised here suffix (readable.suffix suffix) h
  · exact .zeroWidth (part.further suffix) (stalls here stays) position

theorem mayRaise_denote {refer : (j : Medium) → String → Reader (Except Fault) (Input K j) V} (depth : Nat)
    (runs : ∀ {j : Medium} {β : Type} (q : Parser K V j β), q.runDepth definitions depth = q.denote refer)
    (referred : ∀ {j : Medium} {name : String} {start : Input K j} {fault : Fault},
      Part definitions p input (.reference name : Parser K V j V) start → start.Readable →
        refer j name start = .error fault → MayRaise definitions p input fault)
    {j : Medium} {β : Type} (q : Parser K V j β) {start : Input K j} {fault : Fault}
    (part : Part definitions p input q start) (readable : start.Readable)
    (h : q.denote refer start = .error fault) : MayRaise definitions p input fault := by
  -- What a part leaves is a suffix of what it was given, so that the next part can read it too.
  have tracking : ∀ {j : Medium} {β : Type} (q : Parser K V j β), Tracking (q.denote refer) := by
    intro j β q
    rw [← runs q]
    exact q.tracking_runDepth definitions depth
  have advancing : ∀ {j : Medium} {β : Type} (q : Parser K V j β), Advancing (q.denote refer) :=
    fun q => (tracking q).advancing
  induction q with
  | one accepts expectations =>
    obtain ⟨v, rfl⟩ := readable
    exact absurd h (one_fault accepts expectations)
  | literal text ignoreCase =>
    obtain ⟨v, rfl⟩ := readable
    exact absurd h (literal_fault text ignoreCase)
  | takeWhile accepts name =>
    obtain ⟨v, rfl⟩ := readable
    exact absurd h (takeWhile_fault accepts name)
  | token accepts expectation =>
    obtain ⟨l, source, rfl, -⟩ := readable
    exact absurd h (token_fault accepts expectation)
  | kinds expected =>
    obtain ⟨l, source, rfl, -⟩ := readable
    exact absurd h (kinds_fault expected)
  | inToken q r hq hr =>
    rcases inToken_fault (tracking r) h with h | ⟨t, location, rest, read, h⟩
    · exact hq (part.child (.inToken q r)) readable h
    · rw [← runs q] at read
      exact hr (part.inside read) ⟨t.span, rfl⟩ h
  | expression q grammar hq =>
    obtain ⟨l, source, rfl, -⟩ := id readable
    obtain ⟨here, suffix, h⟩ := Expression.expression_fault (tracking q) h
    exact hq ((part.child (.expression q grammar)).further suffix) (readable.suffix suffix) h
  | map f q hq => exact hq (part.child (.map f q)) readable (map_fault h)
  | bind q r hq hr =>
    rcases bind_fault h with h | ⟨b, location, rest, read, h⟩
    · exact hq (part.child (.bind q r)) readable h
    · have suffix := (advancing q).suffix read
      rw [← runs q] at read
      exact hr b (part.bound read) (readable.suffix suffix) h
  | seq q r hq hr =>
    rcases seq_fault h with h | ⟨b, location, rest, read, h⟩
    · exact hq (part.child (.seqLeft q r)) readable h
    · have suffix := (advancing q).suffix read
      exact hr ((part.child (.seqRight q r)).further suffix) (readable.suffix suffix) h
  | or q r hq hr =>
    rcases or_fault h with h | h
    · exact hq (part.child (.orLeft q r)) readable h
    · exact hr (part.child (.orRight q r)) readable h
  | attempt q hq => exact hq (part.child (.attempt q)) readable (attempt_fault h)
  | labelled q name hq => exact hq (part.child (.labelled q name)) readable (labelled_fault h)
  | reporting q text hq => exact hq (part.child (.reporting q text)) readable (reporting_fault h)
  | guard q accepts expectation hq =>
    exact hq (part.child (.guard q accepts expectation)) readable (guard_fault h)
  | notFollowedBy q hq =>
    exact hq (part.child (.notFollowedBy q)) readable (notFollowedBy_fault (advancing q) readable h)
  | succeed a => cases h
  | many q hq =>
    refine mayRaise_of_repeats part readable (many_fault (advancing q) readable h) ?_ ?_
    · intro here stays
      exact .many (runs q ▸ stays)
    · intro here suffix readable h
      exact hq ((part.child (.many q)).further suffix) readable h
  | many1 q hq =>
    refine mayRaise_of_repeats part readable (many1_fault (advancing q) readable h) ?_ ?_
    · intro here stays
      exact .many1 (runs q ▸ stays)
    · intro here suffix readable h
      exact hq ((part.child (.many1 q)).further suffix) readable h
  | skipMany q hq =>
    refine mayRaise_of_repeats part readable (skipMany_fault (tracking q) readable h) ?_ ?_
    · intro here stays
      exact .skipMany (runs q ▸ stays)
    · intro here suffix readable h
      exact hq ((part.child (.skipMany q)).further suffix) readable h
  | optional q hq => exact hq (part.child (.optional q)) readable (optional_fault h)
  | sepBy required q r hq hr =>
    rcases sepBy_fault (advancing q) (advancing r) readable h with h | h
    · exact hq (part.child (.item required q r)) readable h
    · refine mayRaise_of_repeats part readable h ?_ ?_
      · intro here stays
        exact .sepBy (runs q ▸ runs r ▸ stays)
      · intro here suffix readable h
        rcases sepItem_fault h with h | ⟨b, location, rest, read, h⟩
        · exact hr ((part.child (.delimiter required q r)).further suffix) readable h
        · have suffix' := (advancing r).suffix read
          exact hq ((part.child (.item required q r)).further (suffix.trans suffix'))
            (readable.suffix suffix') h
  | times size count q hq =>
    rcases times_fault (advancing q) h with ⟨long, rfl⟩ | ⟨here, suffix, h⟩
    · exact .capacity part long
    · exact hq ((part.child (.times size count q)).further suffix) (readable.suffix suffix) h
  | whole q hq => exact hq (part.child (.whole q)) readable (whole_fault (advancing q) readable h)
  | chain associativity q r apply hq hr =>
    rcases chain_fault (advancing q) (advancing r) h with h | ⟨here, suffix, h⟩
    · exact hr (part.child (.operand associativity q r apply)) readable h
    · have readable := readable.suffix suffix
      rcases link_fault (advancing q) (advancing r) readable h with
        h | ⟨op, location, rest, read, h | ⟨a, location', place, read', position, rfl⟩⟩
      · exact hq ((part.child (.operator associativity q r apply)).further suffix) readable h
      · have suffix' := (advancing q).suffix read
        exact hr ((part.child (.operand associativity q r apply)).further (suffix.trans suffix'))
          (readable.suffix suffix') h
      · rw [← runs q] at read
        rw [← runs r] at read'
        exact .zeroWidthLink (part.further suffix) (.chain read read') position
  | reference name => exact referred part readable h
  | fail skip report => exact absurd h (fail_fault skip report readable)

theorem mayRaise_runDepth (depth : Nat) {j : Medium} {β : Type} (q : Parser K V j β) {start : Input K j}
    {fault : Fault} (part : Part definitions p input q start) (readable : start.Readable)
    (h : q.runDepth definitions depth start = .error fault) : MayRaise definitions p input fault := by
  induction depth generalizing j β fault with
  | zero =>
    refine mayRaise_denote 0 (fun _ => rfl) ?_ q part readable h
    intro j name start fault part _ h
    cases h
    exact .endless part
  | succ depth ih =>
    refine mayRaise_denote (depth + 1) (fun _ => rfl) ?_ q part readable h
    intro j name start fault part readable h
    split at h
    · next q found => exact ih q (part.reference found) readable h
    · next missing =>
      cases h
      exact .undefined part missing

end Runs

end Parser

inductive Input.Made [TokenKind K] : {i : Medium} → Input K i → Prop where
  | text {source : Source} {v : View} (h : v.Derived source) : Made (i := .text) (some v)
  | tokens {scan : Scan (Except Fault) K} (forward : scan.Forward) {source : Source} {l : TokenView K}
      (h : tokenize scan source = .ok (.ok l)) : Made (i := .tokens) (some l)
  | further {i : Medium} {input rest : Input K i} (h : Made input) (hs : Suffix input rest) : Made rest

theorem Input.Made.readable [TokenKind K] {i : Medium} {input : Input K i} (h : input.Made) :
    input.Readable := by
  induction h with
  | text _ => exact ⟨_, rfl⟩
  | tokens forward made => exact ⟨_, _, rfl, .of_tokenize forward made⟩
  | further _ hs ih => exact ih.suffix hs

/-- On a text of a source and on the tokens of a tokenization, every fault of a run is one for which a part of
the parser gives reason. Failures can be reported, and the text that a success has taken can be read. -/
theorem run_safe [DecidableEq K] [TokenKind K] (definitions : Definitions K V) (depth : Nat) {i : Medium}
    {α : Type} (p : Parser K V i α) {input : Input K i} (made : input.Made) :
    (∀ fault, p.runDepth definitions depth input = .error fault → p.MayRaise definitions input fault) ∧
      (∀ e, p.runDepth definitions depth input = .ok (.failure e) → ∃ text, e.render = .ok text) ∧
      ∀ a location rest, p.runDepth definitions depth input = .ok (.success a location rest) →
        ∃ text, Cursor.textTo location rest = .ok text := by
  have readable := made.readable
  have tracks := p.tracking_runDepth definitions depth input
  refine ⟨?_, ?_, ?_⟩
  · intro fault raised
    exact Parser.mayRaise_runDepth depth p .self readable raised
  · intro e failed
    have suffix : Suffix input e.remainder := tracks _ failed
    exact Failure.render_of_answers (readable.suffix suffix).answers
  · intro a location rest succeeded
    obtain ⟨rfl, suffix⟩ := tracks _ succeeded
    exact readable.textTo suffix

def words : Parser Kind Unit .tokens (List (Option (Token Kind))) :=
  .seqRight (.notFollowedBy (.kinds [wordKind, wordKind, wordKind])) (.many (.optional (.kind wordKind)))

theorem run_safe_words :
    words.run .empty (some twoWordTokens) = .error (.zeroWidth ⟨8, 1, 8⟩) ∧
      words.MayRaise .empty (some twoWordTokens) (.zeroWidth ⟨8, 1, 8⟩) := by
  have raised : words.run .empty (some twoWordTokens) = .error (.zeroWidth ⟨8, 1, 8⟩) := rfl
  have made : Input.Made (i := .tokens) (some twoWordTokens) :=
    .tokens (wordLexer.forward_scan .empty) (show tokenize wordScan twoWords = _ from rfl)
  exact ⟨raised, (run_safe .empty 0 words made).1 _ raised⟩

-- The last letter, and then the first: the second scan goes back behind what it was given.
def backwardScan (source : Source) : Scan (Except Fault) Kind
  | _, none =>
    .ok (some (.success wordKind (some ((View.ofSource source).skip 2)) (some ((View.ofSource source).skip 3))))
  | _, some t =>
    if t.position.offset = 0 then .ok none
    else .ok (some (.success wordKind (some (.ofSource source)) (some ((View.ofSource source).skip 1))))

-- A list that cannot be reserved, and a lookahead over the tokens of a tokenizer that does not go forward.
theorem run_unsafe :
    (Parser.times 4 18446744073709551615 .digit : Parser Kind Unit .text (List Char)).run .empty
        (some (.ofSource ⟨0, ['1', '2']⟩)) = .error .capacity ∧
      ∃ l, tokenize (backwardScan ⟨0, ['a', 'b', 'c']⟩) ⟨0, ['a', 'b', 'c']⟩ = .ok (.ok l) ∧
        (Parser.notFollowedBy (.seq .anyToken .anyToken) : Parser Kind Unit .tokens Unit).run .empty (some l) =
          .error .badSlice :=
  ⟨rfl, _, rfl, rfl⟩

end Parsing

import Parsing.Proofs.Alternation.Nesting
import Parsing.Proofs.Label.Relabelling
import Parsing.Proofs.Text.Placeless
import Parsing.Proofs.Tokenizer.Partition

namespace Parsing

section Readers

variable {C α : Type} [Cursor C]

structure Failure.Propagates (e : Failure C) (p : Reader (Except Fault) C α) (input : C) : Prop where
  or : ∀ q, Combinator.or p q input = .ok (.failure e)
  optional : Combinator.optional p input = .ok (.failure e)
  collect : ∀ location rounds values,
    Combinator.collect p location (rounds + 1) input values = .ok (.failure e)

theorem Failure.propagates_of_committed {e : Failure C} {p : Reader (Except Fault) C α} {input : C}
    (hp : p input = .ok (.failure e)) (final : e.isCommitted input = true) : e.Propagates p input := by
  refine ⟨?_, ?_, ?_⟩
  · intro q
    exact or_of_committed hp final
  · simp [Combinator.optional, hp, final]
  · intro location rounds values
    simp [Combinator.collect, hp, final]

end Readers

section Texts

variable {α : Type}

def Reply.refused : Reply Span α → Failure Span
  | .success _ _ rest => .empty rest
  | .failure e => e

theorem Reply.remainder_refused (reply : Reply Span α) : reply.refused.remainder = reply.remainder := by
  cases reply <;> rfl

theorem Reply.Placeless.refused {reply : Reply Span α} (h : reply.Placeless) :
    reply.refused.within = none := by
  cases reply with
  | success a location rest => rfl
  | failure e => exact h

theorem View.Reads.eq_finish_iff {v w : View} {cs : List Char} (h : v.Reads cs w) :
    w = v.finish ↔ w.chars = [] := by
  constructor
  · rintro rfl
    rfl
  · intro empty
    have whole : v.chars = cs := by rw [h.chars, empty, List.append_nil]
    rw [h.eq_skip, View.finish_eq_skip, whole]

theorem View.Reads.offset_eq_stop_iff {v w : View} {cs : List Char} (h : v.Reads cs w) :
    w.position.offset = v.stop ↔ w.chars = [] := by
  have covers := w.covers
  have stop := h.stop
  constructor
  · intro same
    cases hc : w.chars with
    | nil => rfl
    | cons c more =>
      have bytes : 0 < byteLength (c :: more) := byteLength_pos
      rw [hc] at covers
      omega
  · intro empty
    rw [empty, byteLength_nil] at covers
    omega

end Texts

section Tokens

variable {K α : Type} [TokenKind K]

theorem prefix_problem (atEnd : Bool) (more : List Char) :
    ("incomplete".toList <+: (if atEnd then "incomplete" else "invalid").toList ++ more ↔ atEnd = true) ∧
      ("invalid".toList <+: (if atEnd then "incomplete" else "invalid").toList ++ more ↔ atEnd = false) := by
  cases atEnd <;> simp

theorem refusal_eq (input : TokenList K) (kind : K) {inner : Failure Span} {w : View}
    (hr : inner.remainder = some w) (hw : inner.within = none) :
    ∃ text, Primitive.refusal input kind inner =
      .ok ⟨input, some w.position, some ((if w.chars.isEmpty then "incomplete" else "invalid") ++ text), none,
        inner.backtrack⟩ := by
  obtain ⟨fragment, hf⟩ := exists_fragment hr
  have position : inner.position = .ok w.position := by
    rw [Failure.position, hw, hr]
    rfl
  have atEnd : Cursor.isAtEnd inner.remainder = .ok w.chars.isEmpty := by
    rw [hr]
    rfl
  refine ⟨" " ++ TokenKind.whenExpected kind ++ ", " ++ fragment, ?_⟩
  simp [Primitive.refusal, hf, position, atEnd, String.append_assoc]

/-- The failure reports a place of the source between the ends of the token, with its line and column. The
message tells whether it is the end of the token. -/
structure Failure.PointsInto (e : Failure (TokenList K)) (source : Source) (t : Token K) (place : Position) :
    Prop where
  position : e.position = .ok place
  follows : ∃ before after, source.chars = before ++ after ∧ place.Follows before
  start : t.position.offset ≤ place.offset
  stop : place.offset ≤ t.span.stop
  message : ∃ text, e.message = some text ∧
    ("incomplete".toList <+: text.toList ↔ place.offset = t.span.stop) ∧
    ("invalid".toList <+: text.toList ↔ place.offset ≠ t.span.stop)

variable {tokenReader : Reader (Except Fault) (TokenList K) (Token K)}
  {textReader : Reader (Except Fault) Span α} {input location rest : TokenList K} {t : Token K}

theorem inToken_of_failure {e : Failure (TokenList K)} (h : tokenReader input = .ok (.failure e)) :
    Primitive.inToken tokenReader textReader input = .ok (.failure e) := by
  simp [Primitive.inToken, h]

theorem inToken_of_finish {a : α} {start : Span} (ht : tokenReader input = .ok (.success t location rest))
    (hp : textReader (some t.span) = .ok (.success a start (some t.span.finish))) :
    Primitive.inToken tokenReader textReader input = .ok (.success a location rest) := by
  have atEnd : Cursor.isAtEnd (some t.span.finish : Span) = .ok true := rfl
  simp [Primitive.inToken, ht, hp, atEnd]

theorem inToken_of_short {reply : Reply Span α} (ht : tokenReader input = .ok (.success t location rest))
    (hp : textReader (some t.span) = .ok reply) (tracks : reply.Tracks (some t.span))
    (short : ∀ a start, reply ≠ .success a start (some t.span.finish)) :
    ∃ w cs, reply.remainder = some w ∧ t.span.Reads cs w ∧
      Primitive.inToken tokenReader textReader input =
        (Primitive.refusal input t.kind reply.refused).map Reply.failure := by
  cases reply with
  | success a start last =>
    obtain ⟨cs, w, rfl, read⟩ := Input.leaves_of_suffix (K := K) (i := .text) tracks.2
    have left : Cursor.isAtEnd (some w : Span) = .ok false := by
      have apart : w ≠ t.span.finish := fun same => short a start (by rw [same])
      have some : w.chars ≠ [] := fun empty => apart (read.eq_finish_iff.mpr empty)
      simp [Cursor.isAtEnd, Span.view, some]
    refine ⟨w, cs, rfl, read, ?_⟩
    simp only [Primitive.inToken, ht, hp, left, ok_bind, ofExcept_eq]
    rfl
  | failure e =>
    obtain ⟨cs, w, remainder, read⟩ := Input.leaves_of_suffix (K := K) (i := .text) tracks
    refine ⟨w, cs, remainder, read, ?_⟩
    simp only [Primitive.inToken, ht, hp, ok_bind, ofExcept_eq]
    rfl

theorem pointsInto_of_reads {source : Source} {t : Token K} (derived : t.span.Derived source) {w : View}
    {cs : List Char} (read : t.span.Reads cs w) {e : Failure (TokenList K)} {text : String}
    (within : e.within = some w.position)
    (message : e.message = some ((if w.chars.isEmpty then "incomplete" else "invalid") ++ text)) :
    e.PointsInto source t w.position := by
  obtain ⟨before, after, located⟩ := derived.located
  have placed := located.reads read
  have offset := read.offset
  have stop := read.stop
  have covers := w.covers
  refine ⟨?_, ⟨before ++ cs, w.chars ++ after, ?_, placed.position⟩, ?_, ?_, _, message, ?_, ?_⟩
  · rw [Failure.position, within]
  · rw [placed.chars, List.append_assoc]
  · rw [Token.position]
    omega
  · omega
  · rw [String.toList_append, (prefix_problem _ _).1, read.offset_eq_stop_iff, List.isEmpty_iff]
  · rw [String.toList_append, (prefix_problem _ _).2, ne_eq, read.offset_eq_stop_iff]
    simp

end Tokens

variable {K V α : Type} [DecidableEq K] [TokenKind K]

theorem Parser.runDepth_inToken (definitions : Definitions K V) (depth : Nat)
    (token : Parser K V .tokens (Token K)) (text : Parser K V .text α) :
    (token.inToken text).runDepth definitions depth =
      Primitive.inToken (token.runDepth definitions depth) (text.runDepth definitions depth) := by
  obtain ⟨refer, runs⟩ := Parser.exists_runDepth_eq definitions depth
  rw [runs, runs, runs, Parser.denote]

section Runs

variable {definitions : Definitions K V} {depth : Nat} {token : Parser K V .tokens (Token K)}
  {text : Parser K V .text α} {input location rest : TokenList K} {t : Token K}

theorem runDepth_inToken_of_short (unplaced : definitions.Placeless) (placeless : text.Placeless)
    {reply : Reply Span α} (ht : token.runDepth definitions depth input = .ok (.success t location rest))
    (hp : text.runDepth definitions depth (some t.span) = .ok reply)
    (short : ∀ a start, reply ≠ .success a start (some t.span.finish)) :
    ∃ w cs more, reply.remainder = some w ∧ t.span.Reads cs w ∧
      (token.inToken text).runDepth definitions depth input =
        .ok (.failure ⟨input, some w.position,
          some ((if w.chars.isEmpty then "incomplete" else "invalid") ++ more), none,
          reply.refused.backtrack⟩) := by
  have tracks := text.tracking_runDepth definitions depth (some t.span) reply hp
  have refused := (Parser.placeless_runDepth unplaced depth placeless (some t.span) reply hp).refused
  obtain ⟨w, cs, remainder, read, result⟩ := inToken_of_short ht hp tracks short
  obtain ⟨more, failure⟩ := refusal_eq input t.kind (reply.remainder_refused.trans remainder) refused
  refine ⟨w, cs, more, remainder, read, ?_⟩
  rw [Parser.runDepth_inToken, result, failure, map_ok]

theorem runDepth_inToken_success_iff (unplaced : definitions.Placeless) (placeless : text.Placeless) (a : α) :
    (token.inToken text).runDepth definitions depth input = .ok (.success a location rest) ↔
      ∃ t start, token.runDepth definitions depth input = .ok (.success t location rest) ∧
        text.runDepth definitions depth (some t.span) = .ok (.success a start (some t.span.finish)) := by
  constructor
  · intro succeeds
    have read := succeeds
    rw [Parser.runDepth_inToken] at read
    obtain ⟨reply, ht, read⟩ := bind_eq_ok read
    rcases reply with ⟨t, location', rest'⟩ | e
    · obtain ⟨reply, hp, -⟩ := bind_eq_ok read
      by_cases short : ∀ b start, reply ≠ .success b start (some t.span.finish)
      · obtain ⟨_, _, _, _, _, fails⟩ := runDepth_inToken_of_short unplaced placeless ht hp short
        cases succeeds.symm.trans fails
      · push Not at short
        obtain ⟨b, start, rfl⟩ := short
        rw [Parser.runDepth_inToken, inToken_of_finish ht hp] at succeeds
        cases succeeds
        exact ⟨t, start, ht, hp⟩
    · cases read
  · rintro ⟨t, start, ht, hp⟩
    rw [Parser.runDepth_inToken]
    exact inToken_of_finish ht hp

end Runs

/-- It succeeds where the token is read and all of its text is taken. If the text is refused or not taken to its
end, the failure lies at the input and points into the token, and only a mark of the failure to read the text
allows for alternatives. -/
theorem inToken_exact {definitions : Definitions K V} (unplaced : definitions.Placeless) (depth : Nat)
    {token : Parser K V .tokens (Token K)} {text : Parser K V .text α} (placeless : text.Placeless)
    {scan : Scan (Except Fault) K} (forward : scan.Forward) {source : Source} {l : TokenView K}
    (made : tokenize scan source = .ok (.ok l)) {input : TokenList K}
    (yields : ∀ t location rest,
      token.runDepth definitions depth input = .ok (.success t location rest) → t ∈ l.rest) :
    (∀ a location rest,
      (token.inToken text).runDepth definitions depth input = .ok (.success a location rest) ↔
        ∃ t start, token.runDepth definitions depth input = .ok (.success t location rest) ∧
          text.runDepth definitions depth (some t.span) = .ok (.success a start (some t.span.finish))) ∧
    (∀ e, token.runDepth definitions depth input = .ok (.failure e) →
      (token.inToken text).runDepth definitions depth input = .ok (.failure e)) ∧
    ∀ t location rest reply, token.runDepth definitions depth input = .ok (.success t location rest) →
      text.runDepth definitions depth (some t.span) = .ok reply →
      (∀ a start, reply ≠ .success a start (some t.span.finish)) →
      ∃ e place, (token.inToken text).runDepth definitions depth input = .ok (.failure e) ∧
        e.remainder = input ∧ e.isPartial input = true ∧
        Cursor.position reply.remainder = .ok place ∧ e.PointsInto source t place ∧
        e.isCommitted input = !reply.refused.backtrack ∧
        (reply.refused.backtrack = false →
          e.Propagates ((token.inToken text).runDepth definitions depth) input) := by
  refine ⟨?_, ?_, ?_⟩
  · intro a location rest
    exact runDepth_inToken_success_iff unplaced placeless a
  · intro e failed
    rw [Parser.runDepth_inToken]
    exact inToken_of_failure failed
  · intro t location rest reply ht hp short
    have derived := (InOrder.of_tokenize forward made).derived t (yields t location rest ht)
    obtain ⟨w, cs, more, remainder, read, fails⟩ := runDepth_inToken_of_short unplaced placeless ht hp short
    refine ⟨_, w.position, fails, rfl, by simp [Failure.isPartial], ?_, ?_, ?_, ?_⟩
    · rw [remainder]
      rfl
    · exact pointsInto_of_reads derived read rfl rfl
    · simp [Failure.isCommitted, Failure.isPartial]
    · intro unmarked
      apply Failure.propagates_of_committed fails
      simp [Failure.isCommitted, Failure.isPartial, unmarked]

-- The second of two words, which is expected to be another word than it is.
def secondWord : Parser Kind Unit .tokens (Token Kind) :=
  .seqRight (.kind wordKind) (.kind wordKind)

def otherWord : Parser Kind Unit .text (Char × Char) :=
  .seq (.char 'b') (.char 'd')

theorem inToken_exact_secondWord :
    ∃ e, (secondWord.inToken otherWord).run .empty (some twoWordTokens) = .ok (.failure e) ∧
      e.remainder = some twoWordTokens ∧ e.isCommitted (some twoWordTokens) = true ∧
      e.PointsInto twoWords ⟨wordKind, ((View.ofSource twoWords).skip 4).first 2⟩ ⟨6, 1, 6⟩ := by
  have read : secondWord.runDepth .empty 0 (some twoWordTokens) = .ok (.success
      ⟨wordKind, ((View.ofSource twoWords).skip 4).first 2⟩ (some twoWordTokens) _) := rfl
  have refused : otherWord.runDepth .empty 0 (some (((View.ofSource twoWords).skip 4).first 2)) =
      .ok (.failure _) := rfl
  have yields : ∀ t location rest, secondWord.runDepth .empty 0 (some twoWordTokens) =
      .ok (.success t location rest) → t ∈ twoWordTokens.rest := by
    intro t location rest h
    cases read.symm.trans h
    simp [twoWordTokens, TokenView.ofTokens]
  have none : (.empty : Definitions Kind Unit).Placeless := fun name q found => by cases found
  have placeless : otherWord.Placeless := ⟨trivial, trivial⟩
  have made : tokenize (wordLexer.scan fun p => p.run .empty) twoWords = .ok (.ok twoWordTokens) := rfl
  obtain ⟨e, place, fails, remainder, _, position, points, committed, _⟩ :=
    (inToken_exact none 0 placeless (wordLexer.forward_scan .empty) made yields).2.2 _ _ _ _ read refused
      (by simp)
  cases position
  exact ⟨e, fails, remainder, committed, points⟩

end Parsing

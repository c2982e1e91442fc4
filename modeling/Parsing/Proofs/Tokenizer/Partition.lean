import Parsing.Kind
import Parsing.Lexer
import Parsing.Proofs.Remainder.Parser
import Parsing.Proofs.Text.Located
import Parsing.Tokenizer

namespace Parsing

variable {K : Type}

section Order

structure InOrder (source : Source) (tokens : List (Token K)) : Prop where
  derived : ∀ t ∈ tokens, t.span.Derived source
  apart : tokens.Pairwise fun t u => t.span.stop ≤ u.position.offset

theorem InOrder.of_sublist {source : Source} {tokens part : List (Token K)} (h : InOrder source tokens)
    (hp : part.Sublist tokens) : InOrder source part :=
  ⟨fun t ht => h.derived t (hp.subset ht), h.apart.sublist hp⟩

theorem View.Located.slice_through {source : Source} {v w : View} {before after before' after' : List Char}
    (h : v.Located source before after) (h' : w.Located source before' after')
    (le : v.position.offset ≤ w.stop) : ∃ text, source.slice v.position.offset w.stop = .ok text := by
  have same : before ++ (v.chars ++ after) = (before' ++ w.chars) ++ after' := by
    rw [← List.append_assoc, ← h.chars, h'.chars]
  rw [h.position.offset, h'.stop] at le ⊢
  obtain ⟨cs, split, -⟩ := eq_append_of_byteLength_le same le
  rw [split]
  exact ⟨_, Source.slice_byteLength (by rw [h'.chars, split])⟩

theorem InOrder.coveredText {source : Source} {tokens : List (Token K)} (h : InOrder source tokens)
    {first last : Token K} (hf : tokens.head? = some first) (hl : tokens.getLast? = some last) :
    ∃ text, coveredText tokens = .ok text ∧
      source.slice first.position.offset last.span.stop = .ok text := by
  have among : first ∈ tokens := List.mem_of_head? hf
  have among' : last ∈ tokens := List.mem_of_getLast? hl
  obtain ⟨before, after, located⟩ := (h.derived first among).located
  obtain ⟨before', after', located'⟩ := (h.derived last among').located
  match tokens, hf, hl with
  | [only], hf, hl =>
    cases hf
    cases hl
    exact ⟨_, rfl, located.slice⟩
  | one :: second :: more, hf, hl =>
    cases hf
    rw [List.getLast?_cons_cons] at hl
    have final : (second :: more).getLastD second = last := by
      rw [List.getLastD_eq_getLast?, hl]
      rfl
    -- The slice ends behind its start only because the last token lies behind the first.
    have behind : first.span.stop ≤ last.span.position.offset :=
      (List.pairwise_cons.mp h.apart).1 last (List.mem_of_getLast? hl)
    have hfirst := first.span.covers
    have hlast := last.span.covers
    obtain ⟨text, slice⟩ := located.slice_through located' (by omega)
    refine ⟨text, ?_, slice⟩
    have stop : last.position.offset + last.span.length = last.span.stop := by
      rw [View.length, Token.position]
      omega
    change first.span.source.slice first.position.offset (_ + _) = _
    rw [final, stop, located.source]
    exact slice

theorem InOrder.textTo [TokenKind K] {source : Source} {l k : TokenView K} {tokens : List (Token K)}
    (h : InOrder source l.rest) (hr : l.Reads tokens k) :
    (tokens = [] → Cursor.textTo (some l : TokenList K) (some k) = .ok "") ∧
      ∀ first last, tokens.head? = some first → tokens.getLast? = some last →
        ∃ text, Cursor.textTo (some l : TokenList K) (some k) = .ok text ∧
          source.slice first.position.offset last.span.stop = .ok text := by
  have hi := hr.index
  have hl := hr.length_rest
  have reads : Cursor.textTo (some l : TokenList K) (some k) = Parsing.coveredText tokens := by
    have within : ¬(k.index < l.index ∨ l.index + l.rest.length < k.index) := by omega
    change (if k.index < l.index ∨ l.index + l.rest.length < k.index then .error .badSlice
      else Parsing.coveredText (l.rest.take (k.index - l.index))) = _
    rw [if_neg within, hr.tokens_eq]
  rw [reads]
  constructor
  · rintro rfl
    rfl
  · intro first last hf hl
    apply (h.of_sublist _).coveredText hf hl
    rw [hr.rest]
    exact List.sublist_append_left _ _

end Order

section Scans

/-- A successful scan skips some of its text, and takes some of what is left then. -/
def Scan.Forward (scan : Scan (Except Fault) K) : Prop :=
  ∀ remainder previous kind location rest,
    scan remainder previous = .ok (some (.success kind location rest)) →
      Suffix remainder location ∧ Suffix location rest

inductive Scanned (scan : Scan (Except Fault) K) :
    View → Option (Token K) → List (List Char × Token K) → View → Option (Token K) → Prop where
  | done (v : View) (previous : Option (Token K)) : Scanned scan v previous [] v previous
  | piece {v start rest w : View} {previous last : Option (Token K)} {kind : K} {gap text : List Char}
      {pieces : List (List Char × Token K)}
      (scanned : scan (some v) previous = .ok (some (.success kind (some start) (some rest))))
      (skipped : v.Reads gap start) (taken : start.Reads text rest) (nonempty : text ≠ [])
      (more : Scanned scan rest (some ⟨kind, start.first text.length⟩) pieces w last) :
      Scanned scan v previous ((gap, ⟨kind, start.first text.length⟩) :: pieces) w last

variable [TokenKind K] {scan : Scan (Except Fault) K}

inductive Scan.Ends (scan : Scan (Except Fault) K) (w : View) (last : Option (Token K)) {α : Type}
    (list : α) : Except Fault (Except (Failure Span) α) → Prop where
  | exhausted (h : scan (some w) last = .ok none) : Ends scan w last list (.ok (.ok list))
  | failed {e : Failure Span} (h : scan (some w) last = .ok (some (.failure e))) :
      Ends scan w last list (.ok (.error e))
  | empty {kind : K} {start : View}
      (h : scan (some w) last = .ok (some (.success kind (some start) (some start)))) :
      Ends scan w last list (.error (.emptyToken (TokenKind.name kind) start.position))
  | fault {fault : Fault} (h : scan (some w) last = .error fault) : Ends scan w last list (.error fault)

theorem Scan.Forward.reads (forward : scan.Forward) {v : View} {previous : Option (Token K)} {kind : K}
    {location rest : Span} (h : scan (some v) previous = .ok (some (.success kind location rest))) :
    ∃ gap start text w, location = some start ∧ rest = some w ∧ v.Reads gap start ∧ start.Reads text w := by
  obtain ⟨skips, takes⟩ := forward _ _ _ _ _ h
  obtain ⟨gap, start, rfl, skipped⟩ := Input.leaves_of_suffix (K := K) (i := .text) skips
  obtain ⟨text, w, rfl, taken⟩ := Input.leaves_of_suffix (K := K) (i := .text) takes
  exact ⟨gap, start, text, w, rfl, rfl, skipped, taken⟩

theorem byteLength_pos_of_ne_nil {cs : List Char} (h : cs ≠ []) : 0 < byteLength cs := by
  obtain ⟨c, cs, rfl⟩ := List.exists_cons_of_ne_nil h
  exact byteLength_pos

theorem next_of_empty {v start : View} {previous : Option (Token K)} {kind : K}
    (h : scan (some v) previous = .ok (some (.success kind (some start) (some start)))) :
    Tokenization.next scan ⟨some v, previous, false⟩ =
      .error (.emptyToken (TokenKind.name kind) start.position) := by
  have same : Span.same (some start) (some start) = true := by simp [Span.same, View.same]
  simp only [Tokenization.next, h, Bool.false_eq_true, ↓reduceIte, ok_bind, same]
  rfl

theorem next_of_taken {v start w : View} {previous : Option (Token K)} {kind : K} {text : List Char}
    (h : scan (some v) previous = .ok (some (.success kind (some start) (some w))))
    (taken : start.Reads text w) (nonempty : text ≠ []) :
    Tokenization.next scan ⟨some v, previous, false⟩ =
      .ok (some (.ok ⟨kind, start.first text.length⟩),
        ⟨some w, some ⟨kind, start.first text.length⟩, false⟩) := by
  have moved : Span.same (some w) (some start) = false := by
    have hb := byteLength_pos_of_ne_nil nonempty
    have ho := taken.offset
    have apart : w.position.offset ≠ start.position.offset := by omega
    simp [Span.same, View.same, apart]
  have token : Span.upTo (some start) (some w) = .ok (start.first text.length) := taken.upTo
  simp [Tokenization.next, h, moved, token]

theorem Scan.Forward.collect (forward : scan.Forward) (rounds : Nat) {v : View} (fits : v.length < rounds)
    (previous : Option (Token K)) (tokens : List (Token K)) :
    ∃ pieces w last, Scanned scan v previous pieces w last ∧
      scan.Ends w last (tokens.reverse ++ pieces.map Prod.snd)
        (Tokenization.collect scan rounds ⟨some v, previous, false⟩ tokens) := by
  -- Every round but the last takes a character, so that the rounds do not run out.
  induction rounds generalizing v previous tokens with
  | zero => omega
  | succ rounds ih =>
    rw [Tokenization.collect]
    cases hs : scan (some v) previous with
    | error fault =>
      refine ⟨[], v, previous, .done v previous, ?_⟩
      simpa [Tokenization.next, hs] using Scan.Ends.fault hs
    | ok reply =>
      rcases reply with _ | ⟨kind, location, rest⟩ | e
      · refine ⟨[], v, previous, .done v previous, ?_⟩
        simpa [Tokenization.next, hs] using Scan.Ends.exhausted hs
      · obtain ⟨gap, start, text, w, rfl, rfl, skipped, taken⟩ := forward.reads hs
        by_cases nonempty : text = []
        · subst nonempty
          obtain rfl : w = start := taken.eq (.refl start)
          refine ⟨[], v, previous, .done v previous, ?_⟩
          simpa [next_of_empty hs] using Scan.Ends.empty hs
        · have shorter : w.length < rounds := by
            have hb := byteLength_pos_of_ne_nil nonempty
            have hl := skipped.length
            have hl' := taken.length
            omega
          obtain ⟨pieces, u, last, scanned, ends⟩ := ih shorter (some ⟨kind, start.first text.length⟩)
            (⟨kind, start.first text.length⟩ :: tokens)
          refine ⟨_, u, last, .piece hs skipped taken nonempty scanned, ?_⟩
          simpa [next_of_taken hs taken nonempty] using ends
      · refine ⟨[], v, previous, .done v previous, ?_⟩
        simpa [Tokenization.next, hs] using Scan.Ends.failed hs

end Scans

section Pieces

variable {scan : Scan (Except Fault) K} {source : Source} {v w : View} {previous last : Option (Token K)}
  {pieces : List (List Char × Token K)}

def covered (pieces : List (List Char × Token K)) : List Char :=
  pieces.flatMap fun piece => piece.1 ++ piece.2.span.chars

theorem View.Reads.chars_first {start rest : View} {text : List Char} (h : start.Reads text rest) :
    (start.first text.length).chars = text := by
  change start.chars.take text.length = text
  rw [h.chars, List.take_left]

theorem View.Reads.stop_first {start rest : View} {text : List Char} (h : start.Reads text rest) :
    (start.first text.length).stop = rest.position.offset := by
  rw [← (start.first text.length).covers, h.chars_first, h.offset]
  rfl

theorem Scanned.reads (h : Scanned scan v previous pieces w last) : v.Reads (covered pieces) w := by
  induction h with
  | done v _ => exact .refl v
  | piece _ skipped taken _ _ ih =>
    have all := (skipped.trans taken).trans ih
    rw [← taken.chars_first] at all
    exact all

theorem Scanned.located (h : Scanned scan v previous pieces w last) {before after : List Char}
    (hv : v.Located source before after) {front back : List (List Char × Token K)} {gap : List Char}
    {t : Token K} (split : pieces = front ++ (gap, t) :: back) :
    t.span.chars ≠ [] ∧
      t.span.Located source (before ++ covered front ++ gap) (covered back ++ w.chars ++ after) := by
  induction h generalizing before front with
  | done => simp at split
  | @piece v start rest w _ _ kind gap' text pieces _ skipped taken nonempty more ih =>
    have next := (hv.reads skipped).reads taken
    cases front with
    | nil =>
      obtain ⟨⟨rfl, rfl⟩, rfl⟩ : (gap' = gap ∧ (⟨kind, start.first text.length⟩ : Token K) = t) ∧
          pieces = back := by simpa using split
      refine ⟨by rw [taken.chars_first]; exact nonempty, ?_⟩
      have here := (hv.reads skipped).first text.length
      have follows : start.chars.drop text.length = covered pieces ++ w.chars := by
        rw [taken.chars, List.drop_left, more.reads.chars]
      rw [follows] at here
      simpa [covered] using here
    | cons head front =>
      -- The first piece goes before the token that is looked for.
      obtain ⟨rfl, rfl⟩ : (gap', (⟨kind, start.first text.length⟩ : Token K)) = head ∧
          pieces = front ++ (gap, t) :: back := by simpa using split
      have further := ih next rfl
      simpa [covered, taken.chars_first] using further

theorem Scanned.offset_le (h : Scanned scan v previous pieces w last) :
    ∀ t ∈ pieces.map Prod.snd, v.position.offset ≤ t.position.offset := by
  induction h with
  | done => simp
  | @piece v start rest w _ _ kind gap text pieces _ skipped taken _ _ ih =>
    have hs := skipped.offset
    have ht := taken.offset
    intro t among
    rcases List.mem_cons.mp among with rfl | among
    · change v.position.offset ≤ start.position.offset
      omega
    · have := ih t among
      omega

theorem Scanned.inOrder (h : Scanned scan v previous pieces w last) (hv : v.Derived source) :
    InOrder source (pieces.map Prod.snd) := by
  induction h with
  | done => exact ⟨by simp, .nil⟩
  | @piece v start rest w _ _ kind gap text pieces _ skipped taken _ more ih =>
    have order := ih ((hv.reads skipped).reads taken)
    constructor
    · intro t among
      rcases List.mem_cons.mp among with rfl | among
      · exact (hv.reads skipped).first _
      · exact order.derived t among
    · refine List.pairwise_cons.mpr ⟨fun t among => ?_, order.apart⟩
      change (start.first text.length).stop ≤ t.position.offset
      rw [taken.stop_first]
      exact more.offset_le t among

variable [TokenKind K]

theorem Scan.Forward.tokenize (forward : scan.Forward) (source : Source) :
    ∃ pieces w last, Scanned scan (.ofSource source) none pieces w last ∧
      scan.Ends w last (TokenView.ofTokens source.id (pieces.map Prod.snd) (View.ofSource source).finish.position)
        (tokenize scan source) := by
  obtain ⟨pieces, w, last, scanned, ends⟩ :=
    forward.collect ((View.ofSource source).length + 1) (Nat.lt_succ_self _) none []
  refine ⟨pieces, w, last, scanned, ?_⟩
  unfold Parsing.tokenize
  generalize collected : Tokenization.collect scan _ _ [] = result at ends
  dsimp only [Tokenization.start]
  rw [collected]
  cases ends with
  | exhausted h => exact .exhausted h
  | failed h => exact .failed h
  | empty h => exact .empty h
  | fault h => exact .fault h

theorem InOrder.of_tokenize (forward : scan.Forward) {source : Source} {l : TokenView K}
    (made : tokenize scan source = .ok (.ok l)) : InOrder source l.rest := by
  obtain ⟨pieces, w, last, scanned, ends⟩ := forward.tokenize source
  rw [made] at ends
  cases ends
  exact scanned.inOrder .whole

end Pieces

/-- The tokens of the pieces with the gaps before them, and what is left after the last, are the source. -/
structure TokenView.Partitions [TokenKind K] (l : TokenView K) (source : Source)
    (pieces : List (List Char × Token K)) (tail : List Char) : Prop where
  tokens : l.rest = pieces.map Prod.snd
  chars : source.chars = covered pieces ++ tail
  located : ∀ front gap t back, pieces = front ++ (gap, t) :: back →
    t.span.chars ≠ [] ∧ t.span.Located source (covered front ++ gap) (covered back ++ tail)
  apart : l.rest.Pairwise fun t u => t.position.offset < u.position.offset ∧ t.span.stop ≤ u.position.offset
  exhausted : ∀ k, l.Reads l.rest k → k.position.Follows source.chars
  textTo : ∀ xs ys a b, l.Reads xs a → a.Reads ys b →
    (ys = [] → Cursor.textTo (some a : TokenList K) (some b) = .ok "") ∧
      ∀ first last, ys.head? = some first → ys.getLast? = some last →
        ∃ text, Cursor.textTo (some a : TokenList K) (some b) = .ok text ∧
          source.slice first.position.offset last.span.stop = .ok text

section Results

variable [TokenKind K] {scan : Scan (Except Fault) K}

theorem Position.follows_finish (source : Source) :
    (View.ofSource source).finish.position.Follows source.chars := by
  have located := (View.located_ofSource source).reads ((View.ofSource source).reads_skip source.chars.length)
  have position := located.position
  rw [List.nil_append, View.ofSource, List.take_length] at position
  rw [View.finish_eq_skip]
  exact position

theorem Scanned.partitions {source : Source} {pieces : List (List Char × Token K)} {w : View}
    {last : Option (Token K)} (h : Scanned scan (.ofSource source) none pieces w last) (id : Nat) :
    (TokenView.ofTokens id (pieces.map Prod.snd) (View.ofSource source).finish.position).Partitions source
      pieces w.chars := by
  have order := h.inOrder .whole
  have pieceLocated : ∀ front gap t back, pieces = front ++ (gap, t) :: back →
      t.span.chars ≠ [] ∧ t.span.Located source (covered front ++ gap) (covered back ++ w.chars) := by
    intro front gap t back split
    simpa using h.located (View.located_ofSource source) split
  refine ⟨rfl, h.reads.chars, pieceLocated, ?_, ?_, ?_⟩
  · apply order.apart.imp_of_mem
    intro t u among _ behind
    obtain ⟨⟨gap, t⟩, member, rfl⟩ := List.mem_map.mp among
    obtain ⟨front, back, split⟩ := List.append_of_mem member
    have hb := byteLength_pos_of_ne_nil (pieceLocated front gap t back split).1
    have covers := t.span.covers
    have before : t.span.position.offset < u.position.offset := by
      change t.span.stop ≤ u.position.offset at behind
      omega
    exact ⟨before, behind⟩
  · intro k read
    have none : k.rest = [] := by simpa using read.rest
    rw [TokenView.position, none, read.stop]
    exact Position.follows_finish source
  · intro xs ys a b read read'
    apply InOrder.textTo _ read'
    apply order.of_sublist
    have rest : pieces.map Prod.snd = xs ++ a.rest := read.rest
    rw [rest]
    exact List.sublist_append_right _ _

theorem next_of_finished {t t' : Tokenization K} {item : Option (Except (Failure Span) (Token K))}
    (h : Tokenization.next scan t = .ok (item, t')) (stopped : ∀ token, item ≠ some (.ok token)) :
    Tokenization.next scan t' = .ok (none, t') := by
  have finished : t'.finished = true := by
    unfold Tokenization.next at h
    split at h
    · next ended =>
      cases h
      exact ended
    · obtain ⟨reply, hr, h⟩ := bind_eq_ok h
      rcases reply with _ | ⟨kind, location, rest⟩ | e
      · cases h
        rfl
      · dsimp only at h
        split at h
        · cases h
        · obtain ⟨span, -, h⟩ := bind_eq_ok h
          cases h
          exact absurd rfl (stopped _)
      · cases h
        rfl
  simp [Tokenization.next, finished]

end Results

section Lexers

variable {V : Type} [DecidableEq K] [TokenKind K]

omit [DecidableEq K] in
theorem tryRules_forward {read : Parser K V .text Unit → Reader (Except Fault) Span Unit}
    (tracking : ∀ p, Tracking (read p)) (start : Span) (previous : Option (Token K)) (failed : Failure Span)
    (rules : List (Rule K V)) {kind : K} {location rest : Span}
    (h : Lexer.tryRules read start previous failed rules = .ok (.success kind location rest)) :
    location = start ∧ Suffix start rest := by
  induction rules generalizing failed with
  | nil => cases h
  | cons rule rules ih =>
    rw [Lexer.tryRules] at h
    split at h
    · obtain ⟨reply, hr, h⟩ := bind_eq_ok h
      have tracks := tracking rule.parser start reply hr
      rcases reply with ⟨_, _, after⟩ | e
      · obtain ⟨text, -, h⟩ := bind_eq_ok h
        cases h
        exact ⟨rfl, tracks.2⟩
      · dsimp only at h
        split at h
        · cases h
        · exact ih _ h
    · exact ih _ h

theorem Lexer.forward_scan (lexer : Lexer K V) (definitions : Definitions K V) :
    (lexer.scan fun p => p.run definitions : Scan (Except Fault) K).Forward := by
  intro remainder previous kind location rest h
  obtain ⟨reply, hr, h⟩ := bind_eq_ok h
  have tracking : ∀ p : Parser K V .text Unit, Tracking (p.run definitions) := fun p input =>
    p.tracking_runDepth definitions _ input
  have skips := (tracking lexer.skip).advancing remainder reply hr
  obtain ⟨atEnd, -, h⟩ := bind_eq_ok h
  split at h
  · cases h
  · obtain ⟨found, hf, h⟩ := bind_eq_ok h
    cases h
    obtain ⟨rfl, takes⟩ := tryRules_forward tracking _ previous _ lexer.rules hf
    exact ⟨skips, takes⟩

end Lexers

/-- A tokenization ends with a list that partitions the source, with the failure of the scan that failed, or
with a fault at an empty token or of a scan; and after its end it yields nothing. -/
theorem tokenize_partitions [TokenKind K] {scan : Scan (Except Fault) K} (forward : scan.Forward) (source : Source) :
    (∃ pieces w last list, Scanned scan (.ofSource source) none pieces w last ∧
      scan.Ends w last list (tokenize scan source) ∧
      TokenView.Partitions list source pieces w.chars) ∧
    ∀ t item t', Tokenization.next scan t = .ok (item, t') → (∀ token, item ≠ some (.ok token)) →
      Tokenization.next scan t' = .ok (none, t') := by
  obtain ⟨pieces, w, last, scanned, ends⟩ := forward.tokenize source
  exact ⟨⟨pieces, w, last, _, scanned, ends, scanned.partitions _⟩, fun t item t' => next_of_finished⟩

def wordKind : Kind :=
  ⟨"Word", ⟨none, none, none⟩⟩

def wordLexer : Lexer Kind Unit :=
  ⟨[⟨wordKind, .value (.takeWhile (· ≠ ' ') (some "word")) (), [], none⟩],
    .value (.takeWhile (· == ' ') none) ()⟩

def wordScan : Scan (Except Fault) Kind :=
  wordLexer.scan fun p => p.run .empty

def twoWords : Source :=
  ⟨0, [' ', 'ü', ' ', ' ', 'b', 'c', ' ']⟩

def twoWordTokens : TokenView Kind :=
  .ofTokens 0 [⟨wordKind, ((View.ofSource twoWords).skip 1).first 1⟩,
    ⟨wordKind, ((View.ofSource twoWords).skip 4).first 2⟩] (View.ofSource twoWords).finish.position

theorem tokenize_partitions_twoWords :
    tokenize wordScan twoWords = .ok (.ok twoWordTokens) ∧
      ∃ pieces tail, twoWordTokens.Partitions twoWords pieces tail := by
  have made : tokenize wordScan twoWords = .ok (.ok twoWordTokens) := rfl
  obtain ⟨⟨pieces, w, last, list, -, ends, partitions⟩, -⟩ :=
    tokenize_partitions (wordLexer.forward_scan .empty) twoWords
  refine ⟨made, pieces, w.chars, ?_⟩
  generalize result : tokenize (wordLexer.scan fun p => p.run .empty) twoWords = r at ends
  cases result.symm.trans made
  cases ends
  exact partitions

end Parsing

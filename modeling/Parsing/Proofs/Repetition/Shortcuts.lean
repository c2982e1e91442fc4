import Parsing.Proofs.Peg.Terminals
import Parsing.Proofs.Remainder.Parser
import Parsing.Proofs.Repetition.Equations

namespace Parsing

section Characters

variable (accepts : Char → Bool) (expectations : List String)

theorem one_of_next {v w : View} {c : Char} (h : v.next? = some (c, w)) :
    (Primitive.one accepts expectations : Reader (Except Fault) Span Char) (some v) =
      .ok (Reply.ofItem accepts expectations (some v) (some (c, some w))) := by
  simp [one_eq_ofItem, Span.next?, Span.view, h]

theorem one_of_end {v : View} (h : v.chars = []) :
    (Primitive.one accepts expectations : Reader (Except Fault) Span Char) (some v) =
      .ok (.failure (.expected (some v) expectations)) := by
  have none : v.next? = none := View.next?_eq_none.mpr h
  simp [one_eq_ofItem, Span.next?, Span.view, none, Reply.ofItem]

theorem expected_isCommitted (v : View) :
    (Failure.expected (some v : Span) expectations).isCommitted (some v) = false := by
  simp [Failure.isCommitted, Failure.isPartial, Failure.expected, Cursor.same, Span.same, View.same]

theorem dropRun_of_refused {v : View} (h : v.chars.takeWhile accepts = []) :
    Primitive.dropRun accepts v = v := by
  rw [Primitive.dropRun, h, List.length_nil, View.skip_zero]

theorem dropRun_of_next {v w : View} {c : Char} (h : v.next? = some (c, w)) (accepted : accepts c = true) :
    Primitive.dropRun accepts w = Primitive.dropRun accepts v := by
  have chars := (View.reads_next h).chars
  rw [Primitive.dropRun, Primitive.dropRun, View.skip_next h, chars]
  simp [accepted]

theorem collect_one (location : Span) {v : View} {rounds : Nat} (enough : v.length < rounds)
    (values : List Char) :
    (Combinator.collect (Primitive.one accepts expectations) location rounds (some v) values :
        Except Fault _) =
      .ok (.success (values.reverse ++ v.chars.takeWhile accepts) location
        (some (Primitive.dropRun accepts v))) := by
  induction rounds generalizing v values with
  | zero => omega
  | succ rounds ih =>
    rw [Combinator.collect]
    cases hc : v.chars with
    | nil =>
      have stays := dropRun_of_refused accepts (v := v) (by simp [hc])
      simp [one_of_end accepts expectations hc, expected_isCommitted, stays]
    | cons c cs =>
      obtain ⟨w, hn, hw⟩ := View.exists_next hc
      rw [one_of_next accepts expectations hn]
      by_cases accepted : accepts c = true
      · have read := View.reads_next hn
        have bytes : 0 < byteLength [c] := byteLength_pos
        have length := read.length
        have offset := read.offset
        have moved : Cursor.same (some w : Span) (some v) = false := by
          have apart : w.position.offset ≠ v.position.offset := by omega
          simp [Cursor.same, Span.same, View.same, apart]
        have more := ih (by omega : w.length < rounds) (c :: values)
        rw [dropRun_of_next accepts hn accepted, hw] at more
        simp [Reply.ofItem, accepted, moved, more]
      · have stays := dropRun_of_refused accepts (v := v) (by simp [hc, accepted])
        simp [Reply.ofItem, accepted, expected_isCommitted, stays]

theorem many_one (v : View) :
    (Combinator.many (Primitive.one accepts expectations) (some v : Span) : Except Fault _) =
      .ok (.success (v.chars.takeWhile accepts) (some v) (some (Primitive.dropRun accepts v))) :=
  collect_one accepts expectations (some v) (Nat.lt_succ_self v.length) []

theorem many1_one (v : View) :
    (Combinator.many1 (Primitive.one accepts expectations) (some v : Span) : Except Fault _) =
      .ok (if v.chars.takeWhile accepts = [] then .failure (.expected (some v) expectations)
        else .success (v.chars.takeWhile accepts) (some v) (some (Primitive.dropRun accepts v))) := by
  rw [Combinator.many1]
  cases hc : v.chars with
  | nil => simp [one_of_end accepts expectations hc]
  | cons c cs =>
    obtain ⟨w, hn, hw⟩ := View.exists_next hc
    rw [one_of_next accepts expectations hn]
    by_cases accepted : accepts c = true
    · have more := collect_one accepts expectations (some v) (Nat.lt_succ_self w.length) [c]
      rw [dropRun_of_next accepts hn accepted, hw] at more
      simp only [Reply.ofItem, accepted, ↓reduceIte, ok_bind, List.takeWhile_cons, reduceCtorEq]
      exact more
    · simp [Reply.ofItem, accepted]

theorem text_run (v : View) :
    (v.first (v.chars.takeWhile accepts).length).text = String.ofList (v.chars.takeWhile accepts) := by
  have taken : v.chars.takeWhile accepts = v.chars.take (v.chars.takeWhile accepts).length :=
    List.prefix_iff_eq_take.mp (List.takeWhile_prefix accepts)
  exact congrArg String.ofList taken.symm

theorem takeWhile_many1 (name : String) (v : View) :
    (∃ w cs rest,
      (Primitive.takeWhile accepts (some name) : Reader (Except Fault) Span View) (some v) =
          .ok (.success w (some v) rest) ∧
        (Combinator.many1 (Primitive.one accepts [name]) (some v) : Except Fault _) =
          .ok (.success cs (some v) rest) ∧
        w.text = String.ofList cs) ∨
      ∃ e, (Primitive.takeWhile accepts (some name) : Reader (Except Fault) Span View) (some v) =
          .ok (.failure e) ∧
        (Combinator.many1 (Primitive.one accepts [name]) (some v) : Except Fault _) = .ok (.failure e) := by
  by_cases empty : v.chars.takeWhile accepts = []
  · refine .inr ⟨.expected (some v) [name], ?_, ?_⟩
    · simp [takeWhile_eq_ofRun, Reply.ofRun, empty]
    · simp [many1_one, empty]
  · refine .inl ⟨_, _, some (Primitive.dropRun accepts v), ?_, ?_, text_run accepts v⟩
    · simp [takeWhile_eq_ofRun, Reply.ofRun, empty]
    · simp [many1_one, empty]

end Characters

section Literals

-- Where two texts part after the same characters, these are all that they have in common.
theorem prefix_common_iff {common more after : List Char} (apart : ∀ c ∈ more.head?, after.head? ≠ some c)
    (p : List Char) : p <+: common ↔ p <+: common ++ more ∧ p <+: common ++ after := by
  constructor
  · intro h
    exact ⟨h.trans (List.prefix_append common more), h.trans (List.prefix_append common after)⟩
  · rintro ⟨h, h'⟩
    rcases List.prefix_or_prefix_of_prefix h (List.prefix_append common more) with short | ⟨q, rfl⟩
    · exact short
    · rw [List.prefix_append_right_inj] at h h'
      cases q with
      | nil => simp
      | cons c q =>
        obtain ⟨_, rfl⟩ := h
        obtain ⟨_, rfl⟩ := h'
        exact absurd rfl (apart c rfl)

theorem exists_common (text : List Char) (v : View) :
    ∃ common more after, text = common ++ more ∧ v.chars = common ++ after ∧
      (∀ c ∈ more.head?, after.head? ≠ some c) ∧
      Primitive.matchText false text (some v) = .ok (some (v.skip common.length), more.head?) := by
  induction text generalizing v with
  | nil => exact ⟨[], [], v.chars, rfl, rfl, by simp, by simp [Primitive.matchText]⟩
  | cons expected text ih =>
    cases hc : v.chars with
    | nil =>
      have none : v.next? = none := View.next?_eq_none.mpr hc
      refine ⟨[], expected :: text, [], rfl, rfl, by simp, ?_⟩
      simp [Primitive.matchText, Span.next?, Span.view, none]
    | cons found cs =>
      obtain ⟨w, hn, hw⟩ := View.exists_next hc
      by_cases same : found = expected
      · subst same
        obtain ⟨common, more, after, rfl, rest, apart, matched⟩ := ih w
        refine ⟨found :: common, more, after, rfl, by rw [← hw, rest]; rfl, apart, ?_⟩
        rw [List.length_cons, ← View.skip_next hn, ← matched]
        simp [Primitive.matchText, Span.next?, Span.view, hn, Primitive.agrees]
      · refine ⟨[], expected :: text, found :: cs, rfl, rfl, by simpa using same, ?_⟩
        simp [Primitive.matchText, Span.next?, Span.view, hn, Primitive.agrees, same]

theorem same_common {v : View} {common after : List Char} (h : v.chars = common ++ after) :
    Span.same (some (v.skip common.length)) (some v) = common.isEmpty := by
  rw [same_skip, h, List.take_left]

theorem literal_of_matched {text : String} {v : View} {size : Nat}
    (matched : Primitive.matchText false text.toList (some v) = .ok (some (v.skip size), none)) :
    (Primitive.literal text false : Reader (Except Fault) Span View) (some v) =
      .ok (.success (v.first size) (some v) (some (v.skip size))) := by
  have part : Span.upTo (some v) (some (v.skip size)) = .ok (v.first size) := v.upTo_skip _
  simp [Primitive.literal, matched, part]

theorem literal_of_missing {text : String} {v : View} {common after : List Char} {missing : Char}
    (h : v.chars = common ++ after)
    (matched : Primitive.matchText false text.toList (some v) =
      .ok (some (v.skip common.length), some missing)) :
    (Primitive.literal text false : Reader (Except Fault) Span View) (some v) =
      .ok (.failure (.expected (some (v.skip common.length))
        [if common = [] then Wording.quote text else Wording.character missing])) := by
  have same := same_common h
  by_cases empty : common = []
  · subst empty
    rw [List.length_nil, View.skip_zero] at same matched
    simp [Primitive.literal, matched, same]
  · simp [Primitive.literal, matched, same, empty]

theorem isPartial_common {v : View} {common after : List Char} (h : v.chars = common ++ after)
    (expectations : List String) :
    (Failure.expected (some (v.skip common.length) : Span) expectations).isPartial (some v) = true ↔
      common ≠ [] := by
  have same : Cursor.same (some (v.skip common.length) : Span) (some v) = common.isEmpty := same_common h
  simp [Failure.isPartial, Failure.expected, same]

theorem literal_common (text : String) (v : View) :
    ∃ common, (∀ p, p <+: common ↔ p <+: text.toList ∧ p <+: v.chars) ∧
      (text.toList <+: v.chars → (v.first text.length).text = text ∧
        (Primitive.literal text false : Reader (Except Fault) Span View) (some v) =
          .ok (.success (v.first text.length) (some v) (some (v.skip text.length)))) ∧
      (¬text.toList <+: v.chars → ∃ (missing : Char) (e : Failure Span),
        text.toList[common.length]? = some missing ∧
        (Primitive.literal text false : Reader (Except Fault) Span View) (some v) = .ok (.failure e) ∧
        e = .expected (some (v.skip common.length))
          [if common = [] then Wording.quote text else Wording.character missing] ∧
        (e.isPartial (some v) = true ↔ common ≠ [])) := by
  obtain ⟨common, more, after, ht, hv, apart, matched⟩ := exists_common text.toList v
  have longest : ∀ p, p <+: common ↔ p <+: text.toList ∧ p <+: v.chars := by
    rw [ht, hv]
    exact prefix_common_iff apart
  refine ⟨common, longest, ?_, ?_⟩
  · intro starts
    have whole : text.toList <+: common := (longest _).mpr ⟨List.prefix_rfl, starts⟩
    have nothing : more = [] := by
      have shorter := whole.length_le
      rw [ht, List.length_append] at shorter
      exact List.eq_nil_of_length_eq_zero (by omega)
    subst nothing
    rw [List.append_nil] at ht
    have size : text.length = common.length := by rw [← ht, String.length_toList]
    have taken : (v.first text.length).chars = text.toList := by simp [View.first, size, hv, ht]
    refine ⟨?_, ?_⟩
    · rw [View.text, taken, String.ofList_toList]
    · rw [size]
      exact literal_of_matched matched
  · intro differs
    cases more with
    | nil => exact absurd (by simp [ht, hv]) differs
    | cons missing more =>
      exact ⟨missing, _, by simp [ht], literal_of_missing hv matched, rfl, isPartial_common hv _⟩

end Literals

section Kinds

variable {K V : Type} [DecidableEq K] [TokenKind K]

theorem matchKinds_eq_sequence (refer : (i : Medium) → String → Reader (Except Fault) (Input K i) V)
    (location : TokenList K) (kinds : List K) (remainder : TokenList K) (tokens : List (Token K)) :
    Primitive.matchKinds location kinds remainder tokens =
      ((Parser.sequence (kinds.map Parser.kind) : Parser K V .tokens _).denote refer remainder).map
        (Reply.resumed location tokens.reverse) := by
  induction kinds generalizing remainder tokens with
  | nil => simp [Primitive.matchKinds, Parser.sequence, Parser.denote, Combinator.succeed, Reply.resumed]
  | cons kind kinds ih =>
    rw [Primitive.matchKinds, List.map_cons, Parser.sequence, Parser.kind]
    simp only [Parser.denote, Combinator.map, Combinator.seq, token_eq_ofItem]
    rcases TokenList.next? remainder with fault | (_ | ⟨t, rest⟩)
    · rfl
    · rfl
    · by_cases hk : t.kind = kind
      · simp only [ok_bind, map_ok, Reply.ofItem, hk, decide_true, ↓reduceIte]
        rw [ih rest (t :: tokens)]
        rcases Parser.denote refer (Parser.sequence (kinds.map Parser.kind)) rest with
          fault | ⟨more, _, last⟩ | e
        · rfl
        · simp [Reply.resumed, Reply.map]
        · rfl
      · simp [Reply.ofItem, hk, Reply.map, Reply.resumed]

theorem runDepth_kinds (definitions : Definitions K V) (depth : Nat) (kinds : List K) (l : TokenList K) :
    (Parser.kinds kinds).runDepth definitions depth l =
      (Parser.sequence (kinds.map Parser.kind)).runDepth definitions depth l := by
  obtain ⟨refer, runs⟩ := Parser.exists_runDepth_eq definitions depth
  have tracks := Parser.tracking_runDepth definitions depth (Parser.sequence (kinds.map Parser.kind)) l
  rw [runs] at tracks
  rw [runs, runs, Parser.denote, Primitive.kinds, ofExcept_eq, matchKinds_eq_sequence refer]
  rcases read : Parser.denote refer (Parser.sequence (kinds.map Parser.kind)) l with
    fault | ⟨tokens, location, rest⟩ | e
  · rfl
  · obtain ⟨rfl, _⟩ := tracks _ read
    rfl
  · rfl

end Kinds

variable {K V : Type} [DecidableEq K] [TokenKind K]

/-- A run of characters takes what the repetition of one character takes. A literal text takes itself, or it
fails behind the longest beginning that it has in common with the input. Kinds in a row are read one after the
other. -/
theorem run_shortcuts (definitions : Definitions K V) (accepts : Char → Bool) (name text : String)
    (kinds : List K) (v : View) (l : TokenView K) :
    (∃ w cs rest, (Parser.takeWhile accepts none).run definitions (some v) = .ok (.success w (some v) rest) ∧
      (Parser.many (.matching accepts name)).run definitions (some v) = .ok (.success cs (some v) rest) ∧
      w.text = String.ofList cs) ∧
    ((∃ w cs rest,
        (Parser.takeWhile accepts (some name)).run definitions (some v) = .ok (.success w (some v) rest) ∧
        (Parser.many1 (.matching accepts name)).run definitions (some v) = .ok (.success cs (some v) rest) ∧
        w.text = String.ofList cs) ∨
      ∃ e, (Parser.takeWhile accepts (some name)).run definitions (some v) = .ok (.failure e) ∧
        (Parser.many1 (.matching accepts name)).run definitions (some v) = .ok (.failure e)) ∧
    (∃ common, (∀ p, p <+: common ↔ p <+: text.toList ∧ p <+: v.chars) ∧
      (text.toList <+: v.chars → (v.first text.length).text = text ∧
        (Parser.literal text false).run definitions (some v) =
          .ok (.success (v.first text.length) (some v) (some (v.skip text.length)))) ∧
      (¬text.toList <+: v.chars → ∃ (missing : Char) (e : Failure Span),
        text.toList[common.length]? = some missing ∧
        (Parser.literal text false).run definitions (some v) = .ok (.failure e) ∧
        e = .expected (some (v.skip common.length))
          [if common = [] then Wording.quote text else Wording.character missing] ∧
        (e.isPartial (some v) = true ↔ common ≠ []))) ∧
    (Parser.kinds kinds).run definitions (some l) =
      (Parser.sequence (kinds.map Parser.kind)).run definitions (some l) := by
  obtain ⟨refer, runs⟩ := Parser.exists_runDepth_eq definitions (definitions.depth (i := .text) (some v))
  refine ⟨?_, ?_, ?_, runDepth_kinds definitions _ kinds (some l)⟩
  · simp only [Parser.run, runs, Parser.matching, Parser.denote]
    exact ⟨_, _, _, takeWhile_eq_ofRun accepts none v, many_one accepts [name] v, text_run accepts v⟩
  · simp only [Parser.run, runs, Parser.matching, Parser.denote]
    exact takeWhile_many1 accepts name v
  · simp only [Parser.run, runs, Parser.denote]
    exact literal_common text v

def twinnedText : View :=
  View.ofSource ⟨0, ['l', 'é', 'x']⟩

theorem run_shortcuts_twinned :
    ¬"lét".toList <+: twinnedText.chars ∧
      (Parser.literal "lét" false : Parser Kind Char .text View).run .empty (some twinnedText) =
        .ok (.failure (.expected (some (twinnedText.skip 2)) [Wording.character 't'])) := by
  have differs : ¬"lét".toList <+: twinnedText.chars := by decide
  obtain ⟨_, _, ⟨common, longest, _, fails⟩, _⟩ :=
    run_shortcuts (.empty : Definitions Kind Char) Char.isDigit "digit" "lét" [] twinnedText
      ⟨0, 0, [], ⟨0, 1, 1⟩⟩
  obtain ⟨missing, e, next, read, rfl, _⟩ := fails differs
  have least : ['l', 'é'] <+: common := (longest _).mpr ⟨by decide, by decide⟩
  have apart : ∀ c ∈ ['t'].head?, ['x'].head? ≠ some c := by simp
  have most : common <+: ['l', 'é'] :=
    (prefix_common_iff apart common).mpr ((longest common).mp List.prefix_rfl)
  have size : common.length = 2 := Nat.le_antisymm most.length_le least.length_le
  obtain rfl : missing = 't' := by
    rw [size] at next
    exact (Option.some.inj next).symm
  rw [size, if_neg (List.length_pos_iff.mp (by omega))] at read
  exact ⟨differs, read⟩

end Parsing

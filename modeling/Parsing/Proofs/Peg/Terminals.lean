import Parsing.Proofs.Peg.Outcomes
import Parsing.Proofs.Remainder.Primitive

namespace Parsing

open Ensuring

variable {K : Type} [TokenKind K] {α : Type}

theorem meets_of_reply {p : Reader (Except Fault) Span α} {P : Recogniser Span α}
    (unset : ∃ fault, p none = .error fault) (unread : ∀ outcome, ¬P none outcome)
    (replies : ∀ v, ∃ reply, p (some v) = .ok reply ∧
      ∀ outcome, P (some v) outcome ↔ outcome = reply.outcome) :
    Meets (K := K) (i := .text) p P := by
  constructor
  · rintro (_ | v) reply h
    · obtain ⟨fault, hf⟩ := unset
      cases h.symm.trans hf
    · obtain ⟨reply', hr, outcomes⟩ := replies v
      cases h.symm.trans hr
      exact (outcomes _).mpr rfl
  · rintro (_ | v) outcome ho
    · exact absurd ho (unread outcome)
    · obtain ⟨reply, hr, outcomes⟩ := replies v
      exact .inl ⟨reply, hr, ((outcomes outcome).mp ho).symm⟩

theorem meets_item {i : Medium} {p : Reader (Except Fault) (Input K i) α}
    {next : Input K i → Except Fault (Option (α × Input K i))} {accepts : α → Bool}
    {f : Input K i → Option (α × Input K i) → Reply (Input K i) α}
    (hp : ∀ input, p input = (next input).map (f input))
    (hf : ∀ input found, (f input found).outcome = found.filter fun x => accepts x.1) :
    Meets p (Peg.item next accepts) := by
  constructor
  · intro input reply h
    rw [hp] at h
    cases hn : next input with
    | error fault =>
      rw [hn] at h
      cases h
    | ok found =>
      rw [hn] at h
      cases h
      exact ⟨found, hn, hf input found⟩
  · rintro input _ ⟨found, hn, rfl⟩
    refine .inl ⟨f input found, ?_, hf input found⟩
    rw [hp, hn]
    rfl

def Reply.ofItem {C : Type} (accepts : α → Bool) (expectations : List String) (input : C) :
    Option (α × C) → Reply C α
  | none => .failure (.expected input expectations)
  | some (a, rest) => if accepts a then .success a input rest else .failure (.expected input expectations)

theorem Reply.outcome_ofItem {C : Type} (accepts : α → Bool) (expectations : List String) (input : C)
    (found : Option (α × C)) :
    (ofItem accepts expectations input found).outcome = found.filter fun x => accepts x.1 := by
  rcases found with _ | ⟨a, rest⟩
  · rfl
  · by_cases ha : accepts a = true
    · simp [ofItem, ha, Option.filter, outcome]
    · simp [ofItem, ha, Option.filter, outcome]

section Text

theorem one_eq_ofItem (accepts : Char → Bool) (expectations : List String) (input : Span) :
    (Primitive.one accepts expectations : Reader (Except Fault) Span Char) input =
      (Span.next? input).map (Reply.ofItem accepts expectations input) := by
  rw [Primitive.one, ofExcept_eq]
  rcases Span.next? input with fault | (_ | ⟨c, rest⟩)
  · rfl
  · rfl
  · by_cases hc : accepts c = true
    · simp [Reply.ofItem, hc]
    · simp [Reply.ofItem, hc]

theorem meets_one (accepts : Char → Bool) (expectations : List String) :
    Meets (K := K) (i := .text) (Primitive.one accepts expectations) (Peg.one accepts) :=
  meets_item (one_eq_ofItem accepts expectations) (Reply.outcome_ofItem accepts expectations)

theorem matchText_of_startsWith {ignoreCase : Bool} {text : List Char} {v : View}
    (h : Peg.startsWith ignoreCase v.chars text = true) :
    Primitive.matchText ignoreCase text (some v) = .ok (some (v.skip text.length), none) := by
  induction text generalizing v with
  | nil =>
    rw [List.length_nil, View.skip_zero]
    rfl
  | cons expected more ih =>
    cases hc : v.chars with
    | nil => simp [hc, Peg.startsWith] at h
    | cons found cs =>
      obtain ⟨w, hn, hw⟩ := View.exists_next hc
      rw [hc, Peg.startsWith, Bool.and_eq_true, ← hw] at h
      have read : Span.next? (some v) = .ok (some (found, some w)) := by
        simp [Span.next?, Span.view, hn]
      simp only [Primitive.matchText, read, ok_bind, h.1, ↓reduceIte]
      rw [ih h.2, View.skip_next hn, List.length_cons]

theorem matchText_of_not_startsWith {ignoreCase : Bool} {text : List Char} {v : View}
    (h : Peg.startsWith ignoreCase v.chars text = false) :
    ∃ rest missing, Primitive.matchText ignoreCase text (some v) = .ok (rest, some missing) := by
  induction text generalizing v with
  | nil => simp [Peg.startsWith] at h
  | cons expected more ih =>
    cases hc : v.chars with
    | nil =>
      have hn : v.next? = none := View.next?_eq_none.mpr hc
      refine ⟨some v, expected, ?_⟩
      simp [Primitive.matchText, Span.next?, Span.view, hn]
    | cons found cs =>
      obtain ⟨w, hn, hw⟩ := View.exists_next hc
      have read : Span.next? (some v) = .ok (some (found, some w)) := by
        simp [Span.next?, Span.view, hn]
      by_cases ha : Primitive.agrees ignoreCase found expected = true
      · rw [hc, Peg.startsWith, ha, Bool.true_and, ← hw] at h
        simp only [Primitive.matchText, read, ok_bind, ha, ↓reduceIte]
        exact ih h
      · exact ⟨some v, expected, by simp [Primitive.matchText, read, ha]⟩

theorem meets_literal (text : String) (ignoreCase : Bool) :
    Meets (K := K) (i := .text) (Primitive.literal text ignoreCase)
      (Peg.literal text.toList ignoreCase) := by
  apply meets_of_reply
  · refine ⟨.noSpan, ?_⟩
    cases ht : text.toList with
    | nil =>
      simp only [Primitive.literal, Primitive.matchText, ht, ofExcept_eq, ok_bind]
      rfl
    | cons expected more =>
      simp only [Primitive.literal, Primitive.matchText, ht, ofExcept_eq]
      rfl
  · exact fun outcome => id
  · intro v
    cases hs : Peg.startsWith ignoreCase v.chars text.toList with
    | true =>
      have hv : Span.upTo (some v) (some (v.skip text.toList.length)) =
          .ok (v.first text.toList.length) := v.upTo_skip _
      refine ⟨.success (v.first text.toList.length) (some v) (some (v.skip text.toList.length)), ?_, ?_⟩
      · simp only [Primitive.literal, matchText_of_startsWith hs, ofExcept_eq, ok_bind, hv]
        rfl
      · simp [Peg.literal, hs, Reply.outcome]
    | false =>
      obtain ⟨rest, missing, hm⟩ := matchText_of_not_startsWith hs
      by_cases same : Span.same rest (some v) = true
      · refine ⟨.failure (.expected (some v) [Wording.quote text]), ?_, ?_⟩
        · simp [Primitive.literal, hm, same]
        · simp [Peg.literal, hs, Reply.outcome]
      · refine ⟨.failure (.expected rest [Wording.character missing]), ?_, ?_⟩
        · simp [Primitive.literal, hm, same]
        · simp [Peg.literal, hs, Reply.outcome]

def Reply.ofRun (accepts : Char → Bool) (name : Option String) (v : View) : Reply Span View :=
  if name.isSome ∧ (v.chars.takeWhile accepts).length = 0 then .failure (.expected (some v) name.toList)
  else .success (v.first (v.chars.takeWhile accepts).length) (some v) (some (Primitive.dropRun accepts v))

theorem takeWhile_eq_ofRun (accepts : Char → Bool) (name : Option String) (v : View) :
    (Primitive.takeWhile accepts name : Reader (Except Fault) Span View) (some v) =
      .ok (Reply.ofRun accepts name v) := by
  have counted : v.chars.take (v.chars.takeWhile accepts).length = v.chars.takeWhile accepts :=
    (List.prefix_iff_eq_take.mp (List.takeWhile_prefix accepts)).symm
  have hv : Span.upTo (some v) (some (Primitive.dropRun accepts v)) =
      .ok (v.first (v.chars.takeWhile accepts).length) := v.upTo_skip _
  have same : Span.same (some (Primitive.dropRun accepts v)) (some v) =
      (v.chars.takeWhile accepts).isEmpty := by
    rw [← counted]
    exact same_skip v _
  by_cases refused : name.isSome ∧ (v.chars.takeWhile accepts).length = 0
  · rw [Reply.ofRun, if_pos refused]
    obtain ⟨⟨text, rfl⟩, empty⟩ := refused.imp_left Option.isSome_iff_exists.mp
    rw [List.eq_nil_of_length_eq_zero empty] at same
    simp [Primitive.takeWhile, Span.view, same]
  · rw [Reply.ofRun, if_neg refused]
    cases name with
    | none => simp [Primitive.takeWhile, Span.view, hv]
    | some text =>
      have nonempty : (v.chars.takeWhile accepts).isEmpty = false := by
        rw [List.isEmpty_eq_false_iff, ne_eq, ← List.length_eq_zero_iff]
        simpa using refused
      simp [Primitive.takeWhile, Span.view, same, nonempty, hv]

theorem meets_takeWhile (accepts : Char → Bool) (name : Option String) :
    Meets (K := K) (i := .text) (Primitive.takeWhile accepts name) (Peg.takeWhile accepts name) := by
  apply meets_of_reply
  · exact ⟨.noSpan, rfl⟩
  · exact fun outcome => id
  · intro v
    refine ⟨_, takeWhile_eq_ofRun accepts name v, fun outcome => ?_⟩
    by_cases refused : name.isSome ∧ (v.chars.takeWhile accepts).length = 0
    · simp only [Peg.takeWhile, Reply.ofRun, if_pos refused]
      exact Iff.rfl
    · simp only [Peg.takeWhile, Reply.ofRun, if_neg refused]
      exact Iff.rfl

end Text

section Tokens

omit [TokenKind K] in
theorem token_eq_ofItem (accepts : Token K → Bool) (expectation : String) (input : TokenList K) :
    (Primitive.token accepts expectation : Reader (Except Fault) (TokenList K) (Token K)) input =
      (TokenList.next? input).map (Reply.ofItem accepts [expectation] input) := by
  rw [Primitive.token, ofExcept_eq]
  rcases TokenList.next? input with fault | (_ | ⟨t, rest⟩)
  · rfl
  · rfl
  · by_cases ht : accepts t = true
    · simp [Reply.ofItem, ht]
    · simp [Reply.ofItem, ht]

theorem meets_token (accepts : Token K → Bool) (expectation : String) :
    Meets (i := .tokens) (Primitive.token accepts expectation) (Peg.token accepts) :=
  meets_item (token_eq_ofItem accepts expectation) (Reply.outcome_ofItem accepts [expectation])

variable [DecidableEq K]

theorem ensures_matchKinds (location : TokenList K) (kinds : List K) (remainder : TokenList K)
    (tokens : List (Token K)) :
    Ensures (Primitive.matchKinds location kinds remainder tokens) fun reply =>
      ∃ outcome, Peg.kinds kinds remainder outcome ∧
        reply.outcome = outcome.map fun x => (tokens.reverse ++ x.1, x.2) := by
  induction kinds generalizing remainder tokens with
  | nil =>
    rintro reply ⟨⟩
    exact ⟨some ([], remainder), rfl, by simp [Reply.outcome]⟩
  | cons kind kinds ih =>
    refine ensures_bind (P := fun found => TokenList.next? remainder = .ok found) (fun _ h => h) ?_
    rintro (_ | ⟨t, rest⟩) hn
    · rintro reply ⟨⟩
      exact ⟨none, .fails (.failsFirst ⟨none, hn, rfl⟩), rfl⟩
    · by_cases hk : t.kind = kind
      · have found : Peg.token (fun t => t.kind = kind) remainder (some (t, rest)) :=
          ⟨some (t, rest), hn, by simp [Option.filter, hk]⟩
        dsimp only
        rw [if_pos hk]
        refine ensures_mono (ih rest (t :: tokens)) ?_
        rintro reply ⟨_ | ⟨ts, last⟩, more, ho⟩
        · exact ⟨none, .fails (.failsSecond found more), ho⟩
        · refine ⟨some (t :: ts, last), Peg.Map.succeeds (Peg.Seq.succeeds found more), ?_⟩
          rw [ho]
          simp
      · have refused : Peg.token (fun t => t.kind = kind) remainder none :=
          ⟨some (t, rest), hn, by simp [Option.filter, hk]⟩
        dsimp only
        rw [if_neg hk]
        rintro reply ⟨⟩
        exact ⟨none, .fails (.failsFirst refused), rfl⟩

theorem matchKinds_of_token {location remainder rest : TokenList K} {kind : K} {t : Token K}
    (h : Peg.token (fun t => t.kind = kind) remainder (some (t, rest))) (kinds : List K)
    (tokens : List (Token K)) :
    Primitive.matchKinds location (kind :: kinds) remainder tokens =
      Primitive.matchKinds location kinds rest (t :: tokens) := by
  obtain ⟨found, hn, ho⟩ := h
  obtain ⟨rfl, hk⟩ := Option.filter_eq_some_iff.mp ho.symm
  rw [decide_eq_true_iff] at hk
  simp only [Primitive.matchKinds, hn, ok_bind, if_pos hk]

theorem matchKinds_of_refused {location remainder : TokenList K} {kind : K}
    (h : Peg.token (fun t => t.kind = kind) remainder none) (kinds : List K) (tokens : List (Token K)) :
    ∃ e, Primitive.matchKinds location (kind :: kinds) remainder tokens = .ok (.failure e) := by
  obtain ⟨found, hn, ho⟩ := h
  refine ⟨.expected remainder [TokenKind.whenExpected kind], ?_⟩
  rcases found with _ | ⟨t, rest⟩
  · simp [Primitive.matchKinds, hn]
  · have hk : t.kind ≠ kind := by simpa [Option.filter] using ho
    simp [Primitive.matchKinds, hn, hk]

theorem exists_matchKinds (location : TokenList K) {kinds : List K} {remainder : TokenList K}
    {outcome : Option (List (Token K) × TokenList K)} (h : Peg.kinds kinds remainder outcome)
    (tokens : List (Token K)) :
    ∃ reply, Primitive.matchKinds location kinds remainder tokens = .ok reply ∧
      reply.outcome = outcome.map fun x => (tokens.reverse ++ x.1, x.2) := by
  induction kinds generalizing remainder tokens outcome with
  | nil =>
    cases h
    exact ⟨_, rfl, by simp [Reply.outcome]⟩
  | cons kind kinds ih =>
    rcases h with (refused | ⟨found, more⟩) | ⟨_ | _ | ⟨found, more⟩⟩
    · obtain ⟨e, he⟩ := matchKinds_of_refused refused kinds tokens
      exact ⟨.failure e, he, rfl⟩
    · rw [matchKinds_of_token found]
      exact ih more _
    · rw [matchKinds_of_token found]
      obtain ⟨reply, hr, ho⟩ := ih more (_ :: tokens)
      refine ⟨reply, hr, ?_⟩
      rw [ho]
      simp

theorem meets_kinds (expected : List K) :
    Meets (i := .tokens) (Primitive.kinds expected) (Peg.kinds expected) := by
  constructor
  · intro input reply h
    rw [Primitive.kinds, ofExcept_eq] at h
    obtain ⟨outcome, peg, ho⟩ := ensures_matchKinds input expected input [] reply h
    rw [ho]
    simpa using peg
  · intro input outcome h
    obtain ⟨reply, hr, ho⟩ := exists_matchKinds input h []
    refine .inl ⟨reply, ?_, ?_⟩
    · rw [Primitive.kinds, ofExcept_eq]
      exact hr
    · rw [ho]
      simp

end Tokens

end Parsing

import Parsing.Proofs.Remainder.Repetition

namespace Parsing

open Ensuring

universe v

variable {m : Type → Type v} [Monad m] [MonadExcept Fault m] [Ensuring m]

section Text

theorem tracking_one (accepts : Char → Bool) (expectations : List String) :
    Tracking (Primitive.one accepts expectations : Reader m Span Char) := by
  intro input
  apply ensures_bind (ensures_ofExcept fun _ h => h)
  rintro (_ | ⟨c, rest⟩) h
  · exact ensures_pure (.refl input)
  · exact ensures_ite (ensures_pure ⟨rfl, suffix_of_next h⟩) (ensures_pure (.refl input))

theorem suffix_matchText {ignoreCase : Bool} {text : List Char} {s rest : Span} {missing : Option Char}
    (h : Primitive.matchText ignoreCase text s = .ok (rest, missing)) : Suffix s rest := by
  induction text generalizing s with
  | nil =>
    cases h
    exact .refl _
  | cons expected more ih =>
    obtain ⟨item, hn, hr⟩ := bind_eq_ok h
    rcases item with _ | ⟨found, next⟩
    · cases hr
      exact .refl _
    · dsimp only at hr
      split at hr
      · exact (suffix_of_next hn).trans (ih hr)
      · cases hr
        exact .refl _

theorem tracking_literal (text : String) (ignoreCase : Bool) :
    Tracking (Primitive.literal text ignoreCase : Reader m Span View) := by
  intro input
  apply ensures_bind (ensures_ofExcept fun _ h => h)
  rintro ⟨rest, _ | expected⟩ h
  · apply ensures_bind (ensures_ofExcept fun _ _ => trivial)
    intro view _
    exact ensures_pure ⟨rfl, suffix_matchText h⟩
  · exact ensures_ite (ensures_pure (.refl input)) (ensures_pure (suffix_matchText h))

theorem tracking_takeWhile (accepts : Char → Bool) (name : Option String) :
    Tracking (Primitive.takeWhile accepts name : Reader m Span View) := by
  intro input
  apply ensures_bind (ensures_ofExcept fun _ h => h)
  intro v h
  obtain rfl : input = some v := by
    cases input with
    | none => cases h
    | some w =>
      cases h
      rfl
  have hs : Suffix (some v : Span) (some (Primitive.dropRun accepts v)) :=
    suffix_of_reads (v.reads_skip _)
  dsimp only
  split
  · exact ensures_pure (.refl _)
  · apply ensures_bind (ensures_ofExcept fun _ _ => trivial)
    intro view _
    exact ensures_pure ⟨rfl, hs⟩

end Text

section Tokens

variable {K α : Type} [TokenKind K]

theorem tracking_token (accepts : Token K → Bool) (expectation : String) :
    Tracking (Primitive.token accepts expectation : Reader m (TokenList K) (Token K)) := by
  intro input
  apply ensures_bind (ensures_ofExcept fun _ h => h)
  rintro (_ | ⟨token, rest⟩) h
  · exact ensures_pure (.refl input)
  · exact ensures_ite (ensures_pure ⟨rfl, suffix_of_next_token h⟩) (ensures_pure (.refl input))

theorem tracks_matchKinds [DecidableEq K] {location remainder : TokenList K} {kinds : List K}
    {tokens : List (Token K)} {reply : Reply (TokenList K) (List (Token K))}
    (h : Suffix location remainder)
    (hm : Primitive.matchKinds location kinds remainder tokens = .ok reply) : reply.Tracks location := by
  induction kinds generalizing remainder tokens with
  | nil =>
    cases hm
    exact ⟨rfl, h⟩
  | cons kind kinds ih =>
    obtain ⟨item, hn, hr⟩ := bind_eq_ok hm
    rcases item with _ | ⟨token, rest⟩
    · cases hr
      exact h
    · dsimp only at hr
      split at hr
      · exact ih (h.trans (suffix_of_next_token hn)) hr
      · cases hr
        exact h

theorem tracking_kinds [DecidableEq K] (expected : List K) :
    Tracking (Primitive.kinds expected : Reader m (TokenList K) (List (Token K))) :=
  fun input => ensures_ofExcept fun _ h => tracks_matchKinds (.refl input) h

theorem remainder_refusal {input : TokenList K} {kind : K} {inner : Failure Span}
    {e : Failure (TokenList K)} (h : Primitive.refusal input kind inner = .ok e) :
    e.remainder = input := by
  obtain ⟨atEnd, -, h⟩ := bind_eq_ok h
  obtain ⟨fragment, -, h⟩ := bind_eq_ok h
  obtain ⟨place, -, h⟩ := bind_eq_ok h
  cases h
  rfl

theorem ensures_refusal (input : TokenList K) (kind : K) (inner : Failure Span) :
    Ensures (do return .failure (← MonadExcept.ofExcept (Primitive.refusal input kind inner)) :
      m (Reply (TokenList K) α)) (Reply.Tracks input) := by
  apply ensures_bind (ensures_ofExcept fun _ h => remainder_refusal h)
  rintro e rfl
  exact ensures_pure (.refl _)

theorem Tracking.inToken {tokenReader : Reader m (TokenList K) (Token K)} {textReader : Reader m Span α}
    (ht : Tracking tokenReader) (hp : Tracking textReader) :
    Tracking (Primitive.inToken tokenReader textReader) := by
  intro input
  apply ensures_bind (ht input)
  rintro (⟨t, location, rest⟩ | e) h
  · apply ensures_bind (hp (some t.span))
    rintro (⟨a, start, last⟩ | inner) _
    · apply ensures_bind (ensures_ofExcept fun _ _ => trivial)
      intro atEnd _
      exact ensures_ite (ensures_pure h) (ensures_refusal input t.kind _)
    · exact ensures_refusal input t.kind inner
  · exact ensures_pure h

end Tokens

end Parsing

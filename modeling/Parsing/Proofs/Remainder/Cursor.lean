import Mathlib.Logic.Relation
import Parsing.Parser.Basic
import Parsing.Proofs.Reading

namespace Parsing

@[simp] theorem map_ok {α β ε : Type} (f : α → β) (a : α) :
    (Except.ok a : Except ε α).map f = .ok (f a) := rfl

@[simp] theorem map_error {α β ε : Type} (f : α → β) (e : ε) :
    (Except.error e : Except ε α).map f = .error e := rfl

section Suffix

variable {C : Type} [Cursor C]

def Suffix : C → C → Prop :=
  Relation.ReflTransGen fun input rest => Cursor.tail? input = .ok (some rest)

theorem Suffix.refl (input : C) : Suffix input input :=
  Relation.ReflTransGen.refl

theorem Suffix.trans {input middle rest : C} (h : Suffix input middle) (h' : Suffix middle rest) :
    Suffix input rest :=
  Relation.ReflTransGen.trans h h'

theorem suffix_of_tail {input rest : C} (h : Cursor.tail? input = .ok (some rest)) :
    Suffix input rest :=
  Relation.ReflTransGen.single h

end Suffix

namespace View

structure Reads (v : View) (cs : List Char) (w : View) : Prop where
  source : w.source = v.source
  stop : w.stop = v.stop
  position : w.position = v.position.advanceAll cs
  chars : v.chars = cs ++ w.chars

theorem Reads.refl (v : View) : v.Reads [] v :=
  ⟨rfl, rfl, rfl, rfl⟩

theorem Reads.trans {v w u : View} {xs ys : List Char} (h : v.Reads xs w) (h' : w.Reads ys u) :
    v.Reads (xs ++ ys) u := by
  refine ⟨h'.source.trans h.source, h'.stop.trans h.stop, ?_, ?_⟩
  · rw [h'.position, h.position, Position.advanceAll, Position.advanceAll, Position.advanceAll,
      List.foldl_append]
  · rw [h.chars, h'.chars, List.append_assoc]

theorem Reads.offset {v w : View} {cs : List Char} (h : v.Reads cs w) :
    w.position.offset = v.position.offset + byteLength cs := by
  rw [h.position, Position.offset_advanceAll]

theorem Reads.length {v w : View} {cs : List Char} (h : v.Reads cs w) :
    v.length = byteLength cs + w.length := by
  have hv := v.covers
  have hw := w.covers
  have hs := h.stop
  have ho := h.offset
  rw [View.length, View.length]
  omega

theorem reads_next {v w : View} {c : Char} (h : v.next? = some (c, w)) : v.Reads [c] w := by
  obtain ⟨source, position, chars, stop, covers⟩ := v
  cases chars with
  | nil => cases h
  | cons d cs =>
    cases h
    exact ⟨rfl, rfl, rfl, rfl⟩

theorem exists_next {v : View} {c : Char} {cs : List Char} (h : v.chars = c :: cs) :
    ∃ w, v.next? = some (c, w) ∧ w.chars = cs := by
  obtain ⟨source, position, chars, stop, covers⟩ := v
  cases h
  exact ⟨_, rfl, rfl⟩

theorem next?_eq_none {v : View} : v.next? = none ↔ v.chars = [] := by
  obtain ⟨source, position, chars, stop, covers⟩ := v
  cases chars with
  | nil => exact ⟨fun _ => rfl, fun _ => rfl⟩
  | cons c cs => exact ⟨nofun, nofun⟩

theorem Reads.eq {v w u : View} {cs : List Char} (h : v.Reads cs w) (h' : v.Reads cs u) : w = u := by
  obtain ⟨source, position, chars, stop, covers⟩ := w
  obtain ⟨source', position', chars', stop', covers'⟩ := u
  obtain ⟨rfl, rfl, rfl, hc⟩ := h
  obtain ⟨rfl, rfl, rfl, hc'⟩ := h'
  obtain rfl : chars = chars' := List.append_cancel_left (hc.symm.trans hc')
  rfl

theorem reads_skip (v : View) (count : Nat) : v.Reads (v.chars.take count) (v.skip count) :=
  ⟨rfl, rfl, rfl, (List.take_append_drop count v.chars).symm⟩

end View

section Text

theorem tail?_span {s rest : Span} (h : Cursor.tail? s = .ok (some rest)) :
    ∃ v c w, s = some v ∧ rest = some w ∧ v.Reads [c] w := by
  cases s with
  | none => cases h
  | some v =>
    cases hn : v.next? with
    | none => simp [Cursor.tail?, Span.next?, Span.view, hn] at h
    | some item =>
      obtain ⟨c, w⟩ := item
      obtain rfl : some w = rest := by simpa [Cursor.tail?, Span.next?, Span.view, hn] using h
      exact ⟨v, c, w, rfl, rfl, View.reads_next hn⟩

theorem suffix_of_next {s rest : Span} {c : Char} (h : Span.next? s = .ok (some (c, rest))) :
    Suffix s rest :=
  suffix_of_tail (by simp [Cursor.tail?, h])

theorem suffix_of_reads {v w : View} {cs : List Char} (h : v.Reads cs w) :
    Suffix (some v : Span) (some w) := by
  induction cs generalizing v with
  | nil =>
    rw [h.eq (.refl v)]
    exact .refl _
  | cons c cs ih =>
    obtain ⟨u, hn, hu⟩ := View.exists_next h.chars
    have hfirst := View.reads_next hn
    have hrest : u.Reads cs w := by
      refine ⟨h.source.trans hfirst.source.symm, h.stop.trans hfirst.stop.symm, ?_, hu⟩
      rw [h.position, hfirst.position]
      rfl
    have hs : Span.next? (some v) = .ok (some (c, some u)) := by simp [Span.next?, Span.view, hn]
    exact (suffix_of_next hs).trans (ih hrest)

end Text

section Tokens

variable {K : Type} [TokenKind K]

theorem suffix_of_next_token {l rest : TokenList K} {token : Token K}
    (h : TokenList.next? l = .ok (some (token, rest))) : Suffix l rest :=
  suffix_of_tail (by simp [Cursor.tail?, h])

theorem tail?_tokens {l rest : TokenList K} (h : Cursor.tail? l = .ok (some rest)) :
    ∃ v token w, l = some v ∧ rest = some w ∧ v.Reads [token] w := by
  cases l with
  | none => cases h
  | some v =>
    cases hn : v.next? with
    | none => simp [Cursor.tail?, hn] at h
    | some item =>
      obtain ⟨token, w⟩ := item
      obtain rfl : some w = rest := by simpa [Cursor.tail?, hn] using h
      exact ⟨v, token, w, rfl, rfl, TokenView.reads_next hn⟩

end Tokens

namespace Input

variable {K : Type}

/-- The same text or list of tokens with the same end, after whole characters or tokens; nothing where
there is none. -/
def Leaves : {i : Medium} → Input K i → Input K i → Prop
  | .text, none, rest => rest = none
  | .text, some v, rest => ∃ cs w, rest = some w ∧ v.Reads cs w
  | .tokens, none, rest => rest = none
  | .tokens, some l, rest => ∃ tokens k, rest = some k ∧ l.Reads tokens k

variable [TokenKind K]

omit [TokenKind K] in
theorem Leaves.refl {i : Medium} (input : Input K i) : Leaves input input := by
  cases i with
  | text =>
    cases input with
    | none => rfl
    | some v => exact ⟨[], v, rfl, .refl v⟩
  | tokens =>
    cases input with
    | none => rfl
    | some l => exact ⟨[], l, rfl, .refl l⟩

omit [TokenKind K] in
theorem Leaves.trans {i : Medium} {input middle rest : Input K i} (h : Leaves input middle)
    (h' : Leaves middle rest) : Leaves input rest := by
  cases i with
  | text =>
    cases input with
    | none =>
      cases h
      exact h'
    | some v =>
      obtain ⟨xs, w, rfl, hr⟩ := h
      obtain ⟨ys, u, rfl, hr'⟩ := h'
      exact ⟨xs ++ ys, u, rfl, hr.trans hr'⟩
  | tokens =>
    cases input with
    | none =>
      cases h
      exact h'
    | some l =>
      obtain ⟨xs, k, rfl, hr⟩ := h
      obtain ⟨ys, j, rfl, hr'⟩ := h'
      exact ⟨xs ++ ys, j, rfl, hr.trans hr'⟩

theorem leaves_of_tail {i : Medium} {input rest : Input K i}
    (h : Cursor.tail? input = .ok (some rest)) : Leaves input rest := by
  cases i with
  | text =>
    obtain ⟨v, c, w, rfl, rfl, hr⟩ := tail?_span h
    exact ⟨[c], w, rfl, hr⟩
  | tokens =>
    obtain ⟨l, token, k, rfl, rfl, hr⟩ := tail?_tokens h
    exact ⟨[token], k, rfl, hr⟩

theorem leaves_of_suffix {i : Medium} {input rest : Input K i} (h : Suffix input rest) :
    Leaves input rest := by
  induction h with
  | refl => exact .refl input
  | tail _ step ih => exact ih.trans (leaves_of_tail step)

theorem Leaves.offset_le {i : Medium} {input rest : Input K i} (h : Leaves input rest) :
    Cursor.offset input ≤ Cursor.offset rest := by
  cases i with
  | text =>
    cases input with
    | none =>
      cases h
      exact Nat.le_refl _
    | some v =>
      obtain ⟨cs, w, rfl, hr⟩ := h
      change v.position.offset ≤ w.position.offset
      rw [hr.offset]
      exact Nat.le_add_right _ _
  | tokens =>
    cases input with
    | none =>
      cases h
      exact Nat.le_refl _
    | some l =>
      obtain ⟨tokens, k, rfl, hr⟩ := h
      exact hr.index_le

end Input

end Parsing

import Parsing.Proofs.Remainder.Cursor

namespace Parsing

section Bytes

theorem byteLength_pos {c : Char} {cs : List Char} : 0 < byteLength (c :: cs) := by
  have := c.utf8Size_pos
  rw [byteLength_cons]
  omega

theorem moveBytes_byteLength (before cs rest : List Char) :
    moveBytes before (byteLength cs) (cs ++ rest) = some (before.reverse ++ cs, rest) := by
  induction cs generalizing before with
  | nil => simp [moveBytes]
  | cons c cs ih =>
    obtain ⟨n, hn⟩ : ∃ n, byteLength (c :: cs) = n + 1 := Nat.exists_eq_add_one.mpr byteLength_pos
    have hc : c.utf8Size ≤ n + 1 := by
      rw [← hn, byteLength_cons]
      omega
    have hm : n + 1 - c.utf8Size = byteLength cs := by
      rw [← hn, byteLength_cons]
      omega
    rw [hn, List.cons_append, moveBytes, if_pos hc, hm, ih]
    simp

theorem splitBytes_byteLength (cs rest : List Char) :
    splitBytes (byteLength cs) (cs ++ rest) = some (cs, rest) :=
  moveBytes_byteLength [] cs rest

end Bytes

section Text

namespace View

theorem Reads.upTo {v w : View} {cs : List Char} (h : v.Reads cs w) :
    v.upTo w = .ok (v.first cs.length) := by
  have hw := w.covers
  have ho := h.offset
  have hs := h.stop
  have hb : w.position.offset - v.position.offset = byteLength cs := by omega
  have ht : v.chars.take cs.length = cs := by rw [h.chars, List.take_left]
  have divides : splitBytes (w.position.offset - v.position.offset) v.chars = some (cs, w.chars) := by
    rw [hb, h.chars]
    exact splitBytes_byteLength cs w.chars
  unfold View.upTo
  rw [if_neg (by simp [h.source]), if_neg (by omega)]
  split
  · next none => cases divides.symm.trans none
  · next chars rest found =>
    obtain ⟨rfl, -⟩ : cs = chars ∧ w.chars = rest := by simpa [divides] using found
    simp [View.first, ht, hb]

@[simp] theorem skip_zero (v : View) : v.skip 0 = v :=
  (v.reads_skip 0).eq (.refl v)

theorem skip_next {v w : View} {c : Char} (h : v.next? = some (c, w)) (count : Nat) :
    w.skip count = v.skip (count + 1) := by
  have first := reads_next h
  have hc : v.chars.take (count + 1) = [c] ++ w.chars.take count := by
    rw [first.chars]
    rfl
  have skipped := v.reads_skip (count + 1)
  rw [hc] at skipped
  exact (first.trans (w.reads_skip count)).eq skipped

theorem upTo_skip (v : View) (count : Nat) : v.upTo (v.skip count) = .ok (v.first count) := by
  have taken : v.chars.take (v.chars.take count).length = v.chars.take count := by simp
  rw [(v.reads_skip count).upTo]
  simp only [View.first, taken]

end View

theorem same_skip (v : View) (count : Nat) :
    Span.same (some (v.skip count)) (some v) = (v.chars.take count).isEmpty := by
  have read := v.reads_skip count
  cases ht : v.chars.take count with
  | nil =>
    rw [ht] at read
    rw [read.eq (.refl v)]
    simp [Span.same, View.same]
  | cons c cs =>
    rw [ht] at read
    have ho := read.offset
    have hb : 0 < byteLength (c :: cs) := byteLength_pos
    have moved : (v.skip count).position.offset ≠ v.position.offset := by omega
    simp [Span.same, View.same, moved]

end Text

section Tokens

variable {K : Type}

theorem TokenView.Reads.eq {l k j : TokenView K} {tokens : List (Token K)} (h : l.Reads tokens k)
    (h' : l.Reads tokens j) : k = j := by
  obtain ⟨id, index, rest, stop⟩ := k
  obtain ⟨id', index', rest', stop'⟩ := j
  obtain ⟨rfl, rfl, rfl, hr⟩ := h
  obtain ⟨rfl, rfl, rfl, hr'⟩ := h'
  obtain rfl : rest = rest' := List.append_cancel_left (hr.symm.trans hr')
  rfl

end Tokens

namespace Input

variable {K : Type} [TokenKind K]

theorem Leaves.eq_or_lt {i : Medium} {input rest : Input K i} (h : Leaves input rest) :
    rest = input ∨ Cursor.same rest input = false ∧ Cursor.left rest < Cursor.left input := by
  cases i with
  | text =>
    cases input with
    | none => exact .inl h
    | some v =>
      obtain ⟨cs, w, rfl, hr⟩ := h
      cases cs with
      | nil => exact .inl (congrArg some (hr.eq (.refl v)))
      | cons c cs =>
        have hl := hr.length
        have ho := hr.offset
        have hb : 0 < byteLength (c :: cs) := byteLength_pos
        refine .inr ⟨?_, ?_⟩
        · have moved : w.position.offset ≠ v.position.offset := by omega
          simp [Cursor.same, Span.same, View.same, moved]
        · change w.length < v.length
          omega
  | tokens =>
    cases input with
    | none => exact .inl h
    | some l =>
      obtain ⟨tokens, k, rfl, hr⟩ := h
      cases tokens with
      | nil => exact .inl (congrArg some (hr.eq (.refl l)))
      | cons token tokens =>
        have hl := hr.length_rest
        have hi := hr.index
        rw [List.length_cons] at hl hi
        refine .inr ⟨?_, ?_⟩
        · have moved : k.index ≠ l.index := by omega
          simp [Cursor.same, TokenList.same, TokenView.same, moved]
        · change k.rest.length < l.rest.length
          omega

theorem same_refl {i : Medium} (input : Input K i) : Cursor.same input input = true := by
  cases i with
  | text =>
    cases input with
    | none => rfl
    | some v => simp [Cursor.same, Span.same, View.same]
  | tokens =>
    cases input with
    | none => rfl
    | some l => simp [Cursor.same, TokenList.same, TokenView.same]

omit [TokenKind K] in
theorem textTo_of_leaves {v : View} {start rest : Input K .text} (hs : Leaves (i := .text) (some v) start)
    (hr : Leaves start rest) : ∃ text, Cursor.textTo start rest = .ok text := by
  obtain ⟨_, w, rfl, -⟩ := hs
  obtain ⟨cs, u, rfl, read⟩ := hr
  refine ⟨(w.first cs.length).text, ?_⟩
  change (w.upTo u).map View.text = _
  rw [read.upTo]
  rfl

end Input

end Parsing

import Parsing.TokenList
import Parsing.Proofs.Remainder.Progress

namespace Parsing

section Bytes

theorem eq_append_of_byteLength_le {xs ys xs' ys' : List Char} (h : xs ++ ys = xs' ++ ys')
    (le : byteLength xs ≤ byteLength xs') : ∃ cs, xs' = xs ++ cs ∧ ys = cs ++ ys' := by
  rcases List.append_eq_append_iff.mp h with ⟨cs, h₁, h₂⟩ | ⟨cs, h₁, h₂⟩
  · exact ⟨cs, h₁, h₂⟩
  · cases cs with
    | nil => exact ⟨[], by simpa using h₁.symm, by simpa using h₂.symm⟩
    | cons c cs =>
      have hb : 0 < byteLength (c :: cs) := byteLength_pos
      rw [h₁, byteLength_append] at le
      omega

theorem Source.slice_byteLength {source : Source} {before cs after : List Char}
    (h : source.chars = before ++ cs ++ after) :
    source.slice (byteLength before) (byteLength (before ++ cs)) = .ok (String.ofList cs) := by
  have hb : byteLength (before ++ cs) - byteLength before = byteLength cs := by
    rw [byteLength_append]
    omega
  have hf : splitBytes (byteLength before) source.chars = some (before, cs ++ after) := by
    rw [h, List.append_assoc]
    exact splitBytes_byteLength before (cs ++ after)
  unfold Source.slice
  rw [if_neg (by rw [byteLength_append]; omega), hf]
  dsimp only
  rw [hb, splitBytes_byteLength]

end Bytes

/-- The position counts the bytes, the lines and the characters of the last line of what lies before it. -/
structure Position.Follows (p : Position) (before : List Char) : Prop where
  offset : p.offset = byteLength before
  line : p.line = 1 + before.count '\n'
  column : p.column = 1 + (before.reverse.takeWhile (· ≠ '\n')).length

namespace Position

theorem follows_zero : zero.Follows [] :=
  ⟨rfl, rfl, rfl⟩

theorem Follows.advance {p : Position} {before : List Char} (h : p.Follows before) (c : Char) :
    (p.advance c).Follows (before ++ [c]) := by
  have offset : (p.advance c).offset = byteLength (before ++ [c]) := by
    rw [offset_advance, h.offset]
    simp
  by_cases hc : c = '\n'
  · subst c
    refine ⟨offset, ?_, ?_⟩
    · simp [Position.advance, h.line, Nat.add_assoc]
    · simp [Position.advance]
  · refine ⟨offset, ?_, ?_⟩
    · simp [Position.advance, hc, h.line]
    · simp [Position.advance, hc, h.column, Nat.add_assoc]

theorem Follows.advanceAll {p : Position} {before : List Char} (h : p.Follows before)
    (cs : List Char) : (p.advanceAll cs).Follows (before ++ cs) := by
  induction cs generalizing p before with
  | nil =>
    rw [List.append_nil]
    exact h
  | cons c cs ih =>
    have next := ih (h.advance c)
    rw [List.append_assoc] at next
    exact next

end Position

namespace View

theorem length_eq (v : View) : v.length = byteLength v.chars := by
  have := v.covers
  rw [View.length]
  omega

section Parts

theorem Reads.eq_skip {v w : View} {cs : List Char} (h : v.Reads cs w) : w = v.skip cs.length := by
  have skipped := v.reads_skip cs.length
  rw [h.chars, List.take_left] at skipped
  exact h.eq skipped

theorem eq_first {v w : View} {rest : List Char} (hs : w.source = v.source)
    (hp : w.position = v.position) (hc : w.chars ++ rest = v.chars) : w = v.first w.chars.length := by
  have ht : v.chars.take w.chars.length = w.chars := by rw [← hc, List.take_left]
  obtain ⟨source, position, chars, stop, covers⟩ := w
  dsimp only at hs hp ht ⊢
  subst hs hp covers
  simp only [View.first, ht]

theorem exists_first_of_firstBytes {v w : View} {bytes : Nat} (h : v.firstBytes bytes = .ok w) :
    ∃ count, w = v.first count := by
  unfold View.firstBytes at h
  split at h
  · cases h
  · next chars rest hs =>
    cases h
    exact ⟨_, eq_first rfl rfl (splitBytes_append hs)⟩

theorem exists_first_of_upTo {v next w : View} (h : v.upTo next = .ok w) :
    ∃ count, w = v.first count := by
  unfold View.upTo at h
  split at h
  · cases h
  · split at h
    · cases h
    · split at h
      · cases h
      · next chars rest hs =>
        cases h
        exact ⟨_, eq_first rfl rfl (splitBytes_append hs)⟩

theorem finish_eq_skip (v : View) : v.finish = v.skip v.chars.length := by
  simp [View.finish, View.skip]

end Parts

inductive Derived (source : Source) : View → Prop where
  | whole : Derived source (ofSource source)
  | next {v w : View} {c : Char} (h : Derived source v) (taken : v.next? = some (c, w)) :
      Derived source w
  | skip {v : View} (h : Derived source v) (count : Nat) : Derived source (v.skip count)
  | first {v : View} (h : Derived source v) (count : Nat) : Derived source (v.first count)
  | firstBytes {v w : View} (h : Derived source v) (bytes : Nat) (taken : v.firstBytes bytes = .ok w) :
      Derived source w
  | upTo {v next w : View} (h : Derived source v) (h' : Derived source next)
      (taken : v.upTo next = .ok w) : Derived source w
  | finish {v : View} (h : Derived source v) : Derived source v.finish

theorem Derived.reads {source : Source} {v w : View} {cs : List Char} (h : v.Derived source)
    (hr : v.Reads cs w) : w.Derived source := by
  rw [hr.eq_skip]
  exact h.skip _

structure Located (whole : Source) (before after : List Char) (v : View) : Prop where
  source : v.source = whole
  chars : whole.chars = before ++ v.chars ++ after
  position : v.position.Follows before

section Located

variable {source : Source} {before after : List Char} {v : View}

theorem located_ofSource (source : Source) : (ofSource source).Located source [] [] :=
  ⟨rfl, by simp [ofSource], Position.follows_zero⟩

theorem Located.stop (h : v.Located source before after) :
    v.stop = byteLength (before ++ v.chars) := by
  rw [← v.covers, h.position.offset, byteLength_append]

theorem Located.reads (h : v.Located source before after) {w : View} {cs : List Char}
    (hr : v.Reads cs w) : w.Located source (before ++ cs) after := by
  refine ⟨hr.source.trans h.source, ?_, ?_⟩
  · rw [h.chars, hr.chars]
    simp
  · rw [hr.position]
    exact h.position.advanceAll cs

theorem Located.first (h : v.Located source before after) (count : Nat) :
    (v.first count).Located source before (v.chars.drop count ++ after) := by
  refine ⟨h.source, ?_, h.position⟩
  change source.chars = before ++ v.chars.take count ++ (v.chars.drop count ++ after)
  rw [h.chars, List.append_assoc, List.append_assoc, ← List.append_assoc (v.chars.take count),
    List.take_append_drop]

theorem Located.slice (h : v.Located source before after) :
    source.slice v.position.offset v.stop = .ok v.text := by
  rw [h.position.offset, h.stop]
  exact Source.slice_byteLength h.chars

theorem Located.upTo (h : v.Located source before after) {next : View} {before' after' : List Char}
    (h' : next.Located source before' after') (le : v.position.offset ≤ next.position.offset)
    (within : next.position.offset ≤ v.stop) : ∃ w, v.upTo next = .ok w := by
  have hv := h.chars
  rw [List.append_assoc, h'.chars, List.append_assoc] at hv
  rw [h.position.offset, h'.position.offset] at le
  rw [h'.position.offset, h.stop] at within
  -- What precedes `next` is what precedes `v` and some of the characters of `v`.
  obtain ⟨cs, rfl, hcs⟩ := eq_append_of_byteLength_le hv.symm le
  have whole : before ++ cs ++ (next.chars ++ after') = before ++ v.chars ++ after := by
    rw [← List.append_assoc, ← h'.chars, h.chars]
  obtain ⟨ds, hds, -⟩ := eq_append_of_byteLength_le whole within
  rw [List.append_assoc] at hds
  have split : v.chars = cs ++ ds := List.append_cancel_left hds
  have bytes : next.position.offset - v.position.offset = byteLength cs := by
    rw [h'.position.offset, h.position.offset, byteLength_append]
    omega
  have divides : splitBytes (next.position.offset - v.position.offset) v.chars = some (cs, ds) := by
    rw [bytes, split]
    exact splitBytes_byteLength cs ds
  have hid : ¬v.source.id ≠ next.source.id := by simp [h.source, h'.source]
  have hrange : ¬(next.position.offset < v.position.offset ∨ v.stop < next.position.offset) := by
    rw [h.position.offset, h'.position.offset, h.stop]
    omega
  unfold View.upTo
  rw [if_neg hid, if_neg hrange]
  split
  · next none => cases divides.symm.trans none
  · exact ⟨_, rfl⟩

end Located

theorem Derived.located {source : Source} {v : View} (h : v.Derived source) :
    ∃ before after, v.Located source before after := by
  induction h with
  | whole => exact ⟨[], [], located_ofSource source⟩
  | next _ taken ih =>
    obtain ⟨before, after, located⟩ := ih
    exact ⟨_, _, located.reads (reads_next taken)⟩
  | @skip v _ count ih =>
    obtain ⟨before, after, located⟩ := ih
    exact ⟨_, _, located.reads (v.reads_skip count)⟩
  | first _ count ih =>
    obtain ⟨before, after, located⟩ := ih
    exact ⟨_, _, located.first count⟩
  | firstBytes _ bytes taken ih =>
    obtain ⟨before, after, located⟩ := ih
    obtain ⟨count, rfl⟩ := exists_first_of_firstBytes taken
    exact ⟨_, _, located.first count⟩
  | upTo _ _ taken ih =>
    obtain ⟨before, after, located⟩ := ih
    obtain ⟨count, rfl⟩ := exists_first_of_upTo taken
    exact ⟨_, _, located.first count⟩
  | @finish v _ ih =>
    obtain ⟨before, after, located⟩ := ih
    rw [finish_eq_skip]
    exact ⟨_, _, located.reads (v.reads_skip _)⟩

end View

end Parsing

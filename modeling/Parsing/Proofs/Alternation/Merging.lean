import Parsing.Proofs.Remainder.Combinator
import Parsing.Proofs.Remainder.Progress

namespace Parsing

section Order

variable {K : Type} [TokenKind K] {i : Medium} {input a b : Input K i}

theorem Input.Leaves.eq_or_offset_lt (h : Leaves a b) : b = a ∨ Cursor.offset a < Cursor.offset b := by
  cases i with
  | text =>
    cases a with
    | none => exact .inl h
    | some v =>
      obtain ⟨cs, w, rfl, hr⟩ := h
      cases cs with
      | nil => exact .inl (congrArg some (hr.eq (.refl v)))
      | cons c cs =>
        have ho := hr.offset
        have hb : 0 < byteLength (c :: cs) := byteLength_pos
        refine .inr ?_
        change v.position.offset < w.position.offset
        omega
  | tokens =>
    cases a with
    | none => exact .inl h
    | some l =>
      obtain ⟨tokens, k, rfl, hr⟩ := h
      cases tokens with
      | nil => exact .inl (congrArg some (hr.eq (.refl l)))
      | cons token tokens =>
        have hi := hr.index
        rw [List.length_cons] at hi
        refine .inr ?_
        change l.index < k.index
        omega

-- Items are taken one after the other, so that of two suffixes one is a suffix of the other.
theorem suffix_total (ha : Suffix input a) (hb : Suffix input b) : Suffix a b ∨ Suffix b a := by
  apply Relation.ReflTransGen.total_of_right_unique _ ha hb
  intro start rest rest' h h'
  cases h.symm.trans h'
  rfl

theorem suffix_trichotomy (ha : Suffix input a) (hb : Suffix input b) :
    a = b ∨ Cursor.offset a < Cursor.offset b ∨ Cursor.offset b < Cursor.offset a := by
  rcases suffix_total ha hb with h | h
  · rcases (Input.leaves_of_suffix h).eq_or_offset_lt with rfl | h
    · exact .inl rfl
    · exact .inr (.inl h)
  · rcases (Input.leaves_of_suffix h).eq_or_offset_lt with rfl | h
    · exact .inl rfl
    · exact .inr (.inr h)

theorem offset_of_same (h : Cursor.same a b = true) : Cursor.offset a = Cursor.offset b := by
  cases i with
  | text =>
    rcases a with _ | v <;> rcases b with _ | w
    · rfl
    · cases h
    · cases h
    · simp only [Cursor.same, Span.same, View.same, Bool.and_eq_true, beq_iff_eq] at h
      exact h.1.2
  | tokens =>
    rcases a with _ | l <;> rcases b with _ | k
    · rfl
    · cases h
    · cases h
    · simp only [Cursor.same, TokenList.same, TokenView.same, Bool.and_eq_true, beq_iff_eq] at h
      exact h.2

theorem same_eq_false (h : Cursor.offset a ≠ Cursor.offset b) : Cursor.same a b = false := by
  cases hs : Cursor.same a b with
  | false => rfl
  | true => exact (h (offset_of_same hs)).elim

end Order

namespace Failure

section Joining

variable {C : Type}

def join (e f : Failure C) : Failure C :=
  ⟨f.remainder, f.within, f.message.or e.message, joinExpectations e.expectations f.expectations,
    f.backtrack⟩

theorem joinExpectations_assoc (xs ys zs : Option (List String)) :
    joinExpectations (joinExpectations xs ys) zs = joinExpectations xs (joinExpectations ys zs) := by
  cases xs <;> cases ys <;> cases zs <;> simp [joinExpectations]

theorem join_assoc (e f g : Failure C) : (e.join f).join g = e.join (f.join g) := by
  simp [join, joinExpectations_assoc, Option.or_assoc]

end Joining

variable {K : Type} [TokenKind K] {i : Medium} {input : Input K i} {e f g : Failure (Input K i)}

theorem merge_of_eq (h : e.remainder = f.remainder) : e.merge f = e.join f := by
  rw [merge, if_pos (h ▸ Input.same_refl e.remainder)]
  rfl

theorem merge_of_lt (h : Cursor.offset e.remainder < Cursor.offset f.remainder) : e.merge f = f := by
  rw [merge, same_eq_false (Nat.ne_of_lt h)]
  simp [h]

theorem merge_of_gt (h : Cursor.offset f.remainder < Cursor.offset e.remainder) : e.merge f = e := by
  rw [merge, same_eq_false (Nat.ne_of_gt h)]
  simp [Nat.not_lt_of_gt h]

theorem merge_assoc (he : Suffix input e.remainder) (hf : Suffix input f.remainder)
    (hg : Suffix input g.remainder) : (e.merge f).merge g = e.merge (f.merge g) := by
  rcases suffix_trichotomy he hf with ef | ef | ef
  · have joined : (e.join f).remainder = f.remainder := rfl
    rw [merge_of_eq ef]
    rcases suffix_trichotomy hf hg with fg | fg | fg
    · have later : e.remainder = (f.join g).remainder := ef.trans fg
      rw [merge_of_eq (joined.trans fg), merge_of_eq fg, merge_of_eq later, join_assoc]
    · rw [merge_of_lt (joined ▸ fg), merge_of_lt fg, merge_of_lt (ef ▸ fg)]
    · rw [merge_of_gt (joined ▸ fg), merge_of_gt fg, merge_of_eq ef]
  · rw [merge_of_lt ef]
    rcases suffix_trichotomy hf hg with fg | fg | fg
    · have later : Cursor.offset e.remainder < Cursor.offset (f.join g).remainder := fg ▸ ef
      rw [merge_of_eq fg, merge_of_lt later]
    · rw [merge_of_lt fg, merge_of_lt (Nat.lt_trans ef fg)]
    · rw [merge_of_gt fg, merge_of_lt ef]
  · rw [merge_of_gt ef]
    rcases suffix_trichotomy hf hg with fg | fg | fg
    · have earlier : Cursor.offset (f.join g).remainder < Cursor.offset e.remainder := fg ▸ ef
      rw [merge_of_eq fg, merge_of_gt earlier, merge_of_gt (fg ▸ ef)]
    · rw [merge_of_lt fg]
    · rw [merge_of_gt fg, merge_of_gt ef, merge_of_gt (Nat.lt_trans fg ef)]

end Failure

end Parsing

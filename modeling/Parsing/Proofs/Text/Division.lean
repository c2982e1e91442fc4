import Parsing.Proofs.Text.Located

namespace Parsing

namespace View

theorem skip_skip (v : View) (m n : Nat) : (v.skip m).skip n = v.skip (m + n) := by
  have both := (v.reads_skip m).trans ((v.skip m).reads_skip n)
  have taken : v.chars.take m ++ (v.skip m).chars.take n = v.chars.take (m + n) := List.take_add.symm
  rw [taken] at both
  exact both.eq (v.reads_skip (m + n))

theorem text_first_append_skip (v : View) (count : Nat) :
    (v.first count).text ++ (v.skip count).text = v.text := by
  change String.ofList (v.chars.take count) ++ String.ofList (v.chars.drop count) = _
  rw [← String.ofList_append, List.take_append_drop]
  rfl

theorem length_text_first (v : View) (count : Nat) :
    (v.first count).text.length = min count v.text.length := by
  change (String.ofList (v.chars.take count)).length = min count (String.ofList v.chars).length
  rw [String.length_ofList, String.length_ofList, List.length_take]

theorem firstBytes_byteLength {v : View} {cs rest : List Char} (h : v.chars = cs ++ rest) :
    v.firstBytes (byteLength cs) = .ok (v.first cs.length) := by
  have divides : splitBytes (byteLength cs) v.chars = some (cs, rest) := by
    rw [h]
    exact splitBytes_byteLength cs rest
  have taken : v.chars.take cs.length = cs := by rw [h, List.take_left]
  unfold View.firstBytes
  split
  · next none => cases divides.symm.trans none
  · next chars after found =>
    obtain ⟨rfl, -⟩ : cs = chars ∧ rest = after := by simpa [divides] using found
    simp [View.first, taken]

theorem firstBytes_first (v : View) (count : Nat) :
    v.firstBytes (v.first count).length = .ok (v.first count) := by
  have taken : v.chars.take (v.chars.take count).length = v.chars.take count := by simp
  rw [length_eq]
  change v.firstBytes (byteLength (v.chars.take count)) = _
  rw [firstBytes_byteLength (List.take_append_drop count v.chars).symm]
  simp only [View.first, taken]

theorem next?_chars (v : View) : v.next?.map Prod.fst = v.chars.head? := by
  obtain ⟨source, position, chars, stop, covers⟩ := v
  cases chars <;> rfl

theorem next?_skip (v : View) (index : Nat) : (v.skip index).next?.map Prod.fst = v.char? index := by
  rw [next?_chars]
  exact List.head?_drop

end View

/-- Any count divides a view that was made from a source, and the ways to say where the division falls, by
characters, by bytes or by the view that is left, agree with each other. -/
theorem division_consistent {source : Source} {v : View} (derived : v.Derived source) (m n : Nat) :
    (source.slice (v.first n).position.offset (v.first n).stop = .ok (v.first n).text ∧
      source.slice (v.skip n).position.offset (v.skip n).stop = .ok (v.skip n).text ∧
      source.slice v.position.offset v.stop = .ok ((v.first n).text ++ (v.skip n).text) ∧
      (v.first n).text ++ (v.skip n).text = v.text ∧
      (v.first n).text.length = min n v.text.length) ∧
    v.upTo (v.skip n) = .ok (v.first n) ∧ v.firstBytes (v.first n).length = .ok (v.first n) ∧
    (v.skip m).skip n = v.skip (m + n) ∧
    (v.first n).finish.position = (v.skip n).position ∧
    v.char? n = (v.skip n).next?.map Prod.fst := by
  obtain ⟨before, after, located⟩ := derived.located
  have front := (located.first n).slice
  have rest := (located.reads (v.reads_skip n)).slice
  have whole := located.slice
  have joined := v.text_first_append_skip n
  rw [← joined] at whole
  exact ⟨⟨front, rest, whole, joined, v.length_text_first n⟩, v.upTo_skip n, v.firstBytes_first n,
    v.skip_skip m n, rfl, (v.next?_skip n).symm⟩

def shortLines : Source :=
  ⟨0, ['a', 'é', '\n', 'ü', 'b', '\n', 'c']⟩

def twoLineEnds : View :=
  ((View.ofSource shortLines).skip 1).first 5

theorem division_consistent_lines :
    twoLineEnds.Derived shortLines ∧
      ((twoLineEnds.skip 1).skip 2).position = ⟨6, 2, 2⟩ ∧
      (twoLineEnds.skip 1).skip 2 = twoLineEnds.skip 3 ∧
      twoLineEnds.firstBytes 5 = .ok (twoLineEnds.first 3) ∧
      twoLineEnds.char? 3 = some 'b' := by
  have derived : twoLineEnds.Derived shortLines := (View.Derived.whole.skip 1).first 5
  have division := division_consistent derived 1 2
  have further := division_consistent derived 1 3
  exact ⟨derived, rfl, division.2.2.2.1, further.2.2.1, further.2.2.2.2.2⟩

end Parsing

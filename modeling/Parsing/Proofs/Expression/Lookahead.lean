import Parsing.Proofs.Expression.Frames

namespace Parsing.Expression

open Frames

variable {K α : Type} {g : Grammar K α}

section Innermost

theorem innermost_entries (a : Arm g) (ops : List (Entry g)) :
    innermost (a.entries ++ ops) = innermost ops := by
  cases a <;> rfl

theorem innermost_separators (separators : List (Token K)) (ops : List (Entry g)) :
    innermost (separators.map .separator ++ ops) = innermost ops := by
  induction separators with
  | nil => rfl
  | cons separator separators ih => exact ih

@[simp] theorem innermost_onto (arms : List (Arm g)) (F : List (Frame g)) :
    innermost (operators (onto arms F)) = innermost (operators F) := by
  induction arms with
  | nil => rfl
  | cons a arms ih => exact (innermost_entries a _).trans ih

@[simp] theorem innermost_group (set : Grouping K α) (opening : Token K) (before : Series g)
    (F : List (Frame g)) : innermost (operators (.group set opening before :: F)) = some set := by
  simp only [operators, Frame.entries, List.append_assoc, innermost_separators]
  rfl

theorem aboveInnermost_onto (arms : List (Arm g)) (F : List (Frame g)) :
    aboveInnermost (operators (onto arms F)) =
      arms.flatMap Arm.entries ++ aboveInnermost (operators F) := by
  induction arms with
  | nil => rfl
  | cons a arms ih =>
    have ha : aboveInnermost (a.entries ++ operators (onto arms F)) =
        a.entries ++ aboveInnermost (operators (onto arms F)) := by
      cases a <;> rfl
    rw [onto_cons, operators, Frame.entries, ha, ih, List.flatMap_cons, List.append_assoc]

theorem aboveInnermost_group (set : Grouping K α) (opening : Token K) (before : Series g)
    (F : List (Frame g)) : aboveInnermost (operators (.group set opening before :: F)) =
      before.separators.reverse.map .separator := by
  simp only [operators, Frame.entries, aboveInnermost, List.append_assoc]
  rw [List.takeWhile_append_of_pos]
  · simp [Entry.isOpened]
  · simp [Entry.isOpened]

end Innermost

section Dangling

theorem isSome_danglingFrom (i : Fin g.conditionals.length) (thenAbove : Bool) (ops : List (Entry g)) :
    (danglingFrom (some i) thenAbove ops).isSome := by
  induction ops generalizing i thenAbove with
  | nil => rfl
  | cons p ops ih =>
    unfold danglingFrom
    split
    · exact ih _ _
    · exact ih _ _

theorem dangling_entries (arms : List (Arm g)) (ops : List (Entry g)) :
    dangling (arms.flatMap Arm.entries ++ ops) = dangling ops := by
  induction arms with
  | nil => rfl
  | cons a arms ih =>
    have ha : dangling (a.entries ++ (arms.flatMap Arm.entries ++ ops)) =
        dangling (arms.flatMap Arm.entries ++ ops) := by
      cases a <;> rfl
    rw [List.flatMap_cons, List.append_assoc, ha, ih]

theorem dangling_separators (separators : List (Token K)) :
    dangling (separators.map .separator : List (Entry g)) = none := by
  induction separators with
  | nil => rfl
  | cons separator separators ih => exact ih

theorem isSome_dangling (choice : Fin g.conditionals.length) (ops : List (Entry g)) :
    (dangling (.ifMark choice :: ops)).isSome :=
  isSome_danglingFrom choice false ops

end Dangling

section Belongs

theorem belongs_nil (branch : Branch) (choice : Fin g.conditionals.length) :
    belongs branch choice ([] : List (Entry g)) = false := rfl

theorem belongs_group (branch : Branch) (choice : Fin g.conditionals.length) (set : Grouping K α)
    (opening : Token K) (before : Series g) (F : List (Frame g)) :
    belongs branch choice (operators (.group set opening before :: F)) = false := by
  simp only [operators, Frame.entries]
  cases before.separators.reverse <;> rfl

theorem belongs_condition (choice i : Fin g.conditionals.length) (token : Token K)
    (F : List (Frame g)) : belongs .consequent choice (operators (.condition i token :: F)) =
      decide (i = choice) := by
  simp [operators, Frame.entries, belongs, belongsFrom]

theorem belongs_consequent_onto (choice : Fin g.conditionals.length) (arms : List (Arm g))
    (F : List (Frame g)) : belongs .consequent choice (operators (onto arms F)) =
      belongs .consequent choice (operators F) := by
  induction arms with
  | nil => rfl
  | cons a arms ih =>
    have ha : belongs .consequent choice (a.entries ++ operators (onto arms F)) =
        belongs .consequent choice (operators (onto arms F)) := by
      cases a <;> rfl
    exact ha.trans ih

def Arm.isConsequent : Arm g → Bool
  | .consequent _ _ _ _ => true
  | _ => false

theorem belongs_alternative_onto (choice : Fin g.conditionals.length) {arms : List (Arm g)}
    (h : ∀ a ∈ arms, a.isConsequent = false) (F : List (Frame g)) :
    belongs .alternative choice (operators (onto arms F)) =
      belongs .alternative choice (operators F) := by
  induction arms with
  | nil => rfl
  | cons a arms ih =>
    have ha : belongs .alternative choice (a.entries ++ operators (onto arms F)) =
        belongs .alternative choice (operators (onto arms F)) := by
      have hc := h a (by simp)
      cases a with
      | consequent => simp [Arm.isConsequent] at hc
      | infixed => rfl
      | prefixed => rfl
      | alternative => rfl
    exact ha.trans (ih fun b hb => h b (by simp [hb]))

theorem belongs_consequent_iff (choice : Fin g.conditionals.length) (F : List (Frame g)) :
    belongs .consequent choice (operators F) = true ↔
      ∃ arms token F', F = onto arms (.condition choice token :: F') := by
  constructor
  · intro h
    obtain ⟨arms, rfl | ⟨set, opening, before, F', rfl⟩ | ⟨i, token, F', rfl⟩⟩ := exists_onto F
    · simp [belongs_consequent_onto, operators, belongs_nil] at h
    · simp [belongs_consequent_onto, belongs_group] at h
    · simp only [belongs_consequent_onto, belongs_condition, decide_eq_true_eq] at h
      exact ⟨arms, token, F', by rw [h]⟩
  · rintro ⟨arms, token, F', rfl⟩
    simp [belongs_consequent_onto, belongs_condition]

theorem belongs_alternative_iff (choice : Fin g.conditionals.length) (F : List (Frame g)) :
    belongs .alternative choice (operators F) = true ↔
      ∃ arms ifToken thenToken condition F', (∀ a ∈ arms, a.isConsequent = false) ∧
        F = onto arms (.arm (.consequent choice ifToken thenToken condition) :: F') := by
  constructor
  · intro h
    obtain ⟨arms, F', rfl, hall, hstop⟩ := exists_onto_while (fun a => !a.isConsequent) F
    have hall : ∀ a ∈ arms, a.isConsequent = false := by simpa using hall
    rw [belongs_alternative_onto choice hall] at h
    cases F' with
    | nil => simp [operators, belongs_nil] at h
    | cons f F'' =>
      cases f with
      | group => simp [belongs_group] at h
      | condition i token => simp [operators, Frame.entries, belongs, belongsFrom] at h
      | arm a =>
        have ha := hstop a F'' rfl
        cases a with
        | infixed => simp [Arm.isConsequent] at ha
        | prefixed => simp [Arm.isConsequent] at ha
        | alternative => simp [Arm.isConsequent] at ha
        | consequent i ifToken thenToken condition =>
          have hi : i = choice := by
            simpa [operators, Frame.entries, Arm.entries, belongs, belongsFrom] using h
          exact ⟨arms, ifToken, thenToken, condition, F'', hall, by rw [hi]⟩
  · rintro ⟨arms, ifToken, thenToken, condition, F', hall, rfl⟩
    rw [belongs_alternative_onto choice hall]
    simp [operators, Frame.entries, Arm.entries, belongs, belongsFrom]

theorem openBranch_plugAll {t : Tree g} (ht : t.rightSpine = []) (arms : List (Arm g)) :
    (Arm.plugAll arms t).openBranch = (arms.map Arm.node).findSome? Node.ifThen? := by
  rw [Tree.openBranch, Arm.rightSpine_plugAll, ht, List.append_nil, List.reverse_reverse]

theorem belongs_iff_openBranch {t : Tree g} (ht : t.rightSpine = []) (arms : List (Arm g))
    (choice : Fin g.conditionals.length) :
    belongs .alternative choice (operators (onto arms [])) = true ↔
      (Arm.plugAll arms t).openBranch = some choice := by
  rw [openBranch_plugAll ht]
  induction arms with
  | nil => simp [operators, belongs_nil]
  | cons a arms ih =>
    rw [List.map_cons, List.findSome?_cons]
    cases a with
    | infixed op token left => exact ih
    | prefixed op token => exact ih
    | alternative i ifToken thenToken elseToken condition yes => exact ih
    | consequent i ifToken thenToken condition =>
      simp [operators, Frame.entries, Arm.entries, belongs, belongsFrom, Arm.node, Node.ifThen?]

end Belongs

end Parsing.Expression

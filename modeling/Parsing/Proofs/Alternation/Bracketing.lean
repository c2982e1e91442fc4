import Parsing.Kind
import Parsing.Proofs.Alternation.Merging

namespace Parsing

inductive Bracketing (C : Type) where
  | single (e : Failure C)
  | pair (first second : Bracketing C)

namespace Bracketing

variable {C : Type}

def leaves : Bracketing C → List (Failure C)
  | single e => [e]
  | pair first second => first.leaves ++ second.leaves

variable [Cursor C]

def merged : Bracketing C → Failure C
  | single e => e
  | pair first second => first.merged.merge second.merged

theorem suffix_merged {input : C} (t : Bracketing C) (tracks : ∀ e ∈ t.leaves, Suffix input e.remainder) :
    Suffix input t.merged.remainder := by
  induction t with
  | single e => exact tracks e (List.mem_singleton_self e)
  | pair first second ih ih' =>
    obtain ⟨left, right⟩ := List.forall_mem_append.mp tracks
    exact suffix_merge (ih left) (ih' right)

end Bracketing

namespace Failure

section Joining

variable {C : Type}

def concatenated : List (List String) → Option (List String)
  | [] => none
  | lists => some lists.flatten

theorem concatenated_append (xs ys : List (List String)) :
    concatenated (xs ++ ys) = joinExpectations (concatenated xs) (concatenated ys) := by
  cases xs <;> cases ys <;> simp [concatenated, joinExpectations]

/-- What failures at one place say together: the expectations of all of them in order, the last of their
messages, and all else as the last of them has it. -/
def joined (es : List (Failure C)) : Option (Failure C) :=
  es.getLast?.map fun last =>
    { last with
      message := (es.filterMap message).getLast?
      expectations := concatenated (es.filterMap expectations) }

theorem joined_single (e : Failure C) : joined [e] = some e := by
  obtain ⟨remainder, within, message, expectations, backtrack⟩ := e
  cases message <;> cases expectations <;> simp [joined, concatenated]

theorem joined_append {xs ys : List (Failure C)} {e f : Failure C} (hx : joined xs = some e)
    (hy : joined ys = some f) : joined (xs ++ ys) = some (e.join f) := by
  obtain ⟨x, -, rfl⟩ := Option.map_eq_some_iff.mp hx
  obtain ⟨y, last, rfl⟩ := Option.map_eq_some_iff.mp hy
  simp [joined, join, last, List.getLast?_append, concatenated_append]

end Joining

section Furthest

variable {C : Type} [Cursor C]

def furthest (es : List (Failure C)) : List (Failure C) :=
  es.filter fun e => es.all fun f => Cursor.offset f.remainder ≤ Cursor.offset e.remainder

def reaching (offset : Nat) (es : List (Failure C)) : List (Failure C) :=
  es.filter fun e => Cursor.offset e.remainder = offset

theorem reaching_append (offset : Nat) (xs ys : List (Failure C)) :
    reaching offset (xs ++ ys) = reaching offset xs ++ reaching offset ys :=
  List.filter_append xs ys

theorem reaching_eq_nil {offset : Nat} {es : List (Failure C)}
    (h : ∀ e ∈ es, Cursor.offset e.remainder < offset) : reaching offset es = [] := by
  rw [reaching, List.filter_eq_nil_iff]
  intro e he
  simpa using Nat.ne_of_lt (h e he)

theorem furthest_eq_reaching {offset : Nat} {es : List (Failure C)}
    (bound : ∀ e ∈ es, Cursor.offset e.remainder ≤ offset) (reached : reaching offset es ≠ []) :
    furthest es = reaching offset es := by
  obtain ⟨f, hf⟩ := List.exists_mem_of_ne_nil _ reached
  obtain ⟨there, rfl⟩ : f ∈ es ∧ Cursor.offset f.remainder = offset := by simpa [reaching] using hf
  apply List.filter_congr
  intro e he
  rw [Bool.eq_iff_iff]
  simp only [List.all_eq_true, decide_eq_true_eq]
  constructor
  · intro h
    exact Nat.le_antisymm (bound e he) (h f there)
  · intro h f' hf'
    rw [h]
    exact bound f' hf'

end Furthest

section Bracketings

variable {K : Type} [TokenKind K] {i : Medium} {input : Input K i}

structure Stands (e : Failure (Input K i)) (es : List (Failure (Input K i))) : Prop where
  bound : ∀ f ∈ es, Cursor.offset f.remainder ≤ Cursor.offset e.remainder
  joins : joined (reaching (Cursor.offset e.remainder) es) = some e

theorem Stands.single (e : Failure (Input K i)) : Stands e [e] := by
  refine ⟨by simp, ?_⟩
  have itself : reaching (Cursor.offset e.remainder) [e] = [e] := by simp [reaching]
  rw [itself, joined_single]

theorem Stands.merge {e f : Failure (Input K i)} {xs ys : List (Failure (Input K i))} (hx : Stands e xs)
    (hy : Stands f ys) (he : Suffix input e.remainder) (hf : Suffix input f.remainder) :
    Stands (e.merge f) (xs ++ ys) := by
  -- The place of the one that is kept is not reached by any leaf of the other, unless the two are at one place.
  rcases suffix_trichotomy he hf with same | further | nearer
  · have place : Cursor.offset e.remainder = Cursor.offset (e.join f).remainder := congrArg _ same
    rw [merge_of_eq same]
    refine ⟨List.forall_mem_append.mpr ⟨fun g hg => place ▸ hx.bound g hg, hy.bound⟩, ?_⟩
    rw [reaching_append]
    exact joined_append (place ▸ hx.joins) hy.joins
  · have behind : ∀ g ∈ xs, Cursor.offset g.remainder < Cursor.offset f.remainder :=
      fun g hg => Nat.lt_of_le_of_lt (hx.bound g hg) further
    rw [merge_of_lt further]
    refine ⟨List.forall_mem_append.mpr ⟨fun g hg => Nat.le_of_lt (behind g hg), hy.bound⟩, ?_⟩
    rw [reaching_append, reaching_eq_nil behind, List.nil_append, hy.joins]
  · have behind : ∀ g ∈ ys, Cursor.offset g.remainder < Cursor.offset e.remainder :=
      fun g hg => Nat.lt_of_le_of_lt (hy.bound g hg) nearer
    rw [merge_of_gt nearer]
    refine ⟨List.forall_mem_append.mpr ⟨hx.bound, fun g hg => Nat.le_of_lt (behind g hg)⟩, ?_⟩
    rw [reaching_append, reaching_eq_nil behind, List.append_nil, hx.joins]

theorem stands_merged (t : Bracketing (Input K i)) (tracks : ∀ e ∈ t.leaves, Suffix input e.remainder) :
    Stands t.merged t.leaves := by
  induction t with
  | single e => exact .single e
  | pair first second ih ih' =>
    obtain ⟨left, right⟩ := List.forall_mem_append.mp tracks
    exact (ih left).merge (ih' right) (first.suffix_merged left) (second.suffix_merged right)

theorem Stands.furthest {e : Failure (Input K i)} {es : List (Failure (Input K i))} (h : Stands e es) :
    furthest es = reaching (Cursor.offset e.remainder) es := by
  apply furthest_eq_reaching h.bound
  intro none
  have joins := h.joins
  rw [none] at joins
  cases joins

/-- However mergings are bracketed, the result is what the failures that came furthest say together. They are
those at its own place, and no failure is further on. -/
theorem merged_bracketing (es : List (Failure (Input K i))) (input : Input K i)
    (tracks : ∀ e ∈ es, Suffix input e.remainder) (t : Bracketing (Input K i)) (leaves : t.leaves = es) :
    joined (furthest es) = some t.merged ∧
      (∀ e ∈ es, Cursor.offset e.remainder ≤ Cursor.offset t.merged.remainder) ∧
      ∀ e ∈ es, e ∈ furthest es ↔ e.remainder = t.merged.remainder := by
  subst leaves
  have stands := stands_merged t tracks
  rw [stands.furthest]
  refine ⟨stands.joins, stands.bound, ?_⟩
  intro e he
  simp only [reaching, List.mem_filter, he, true_and, decide_eq_true_eq]
  constructor
  · intro level
    rcases suffix_trichotomy (tracks e he) (t.suffix_merged tracks) with same | further | nearer
    · exact same
    · omega
    · omega
  · exact congrArg _

-- Three ways to fail on `ab`: at its start, and twice after the `a`.

def abText : View :=
  .ofSource ⟨0, ['a', 'b']⟩

def atStart : Failure Span :=
  ⟨some abText, none, some "no digit", some ["digit"], true⟩

def afterLetter (message : Option String) (expectations : Option (List String)) : Failure Span :=
  ⟨some (abText.skip 1), none, message, expectations, false⟩

theorem merged_bracketing_letters :
    (afterLetter (some "no space") none).merge (atStart.merge (afterLetter none (some ["c"]))) =
        afterLetter (some "no space") (some ["c"]) ∧
      ((afterLetter (some "no space") none).merge atStart).merge (afterLetter none (some ["c"])) =
        afterLetter (some "no space") (some ["c"]) := by
  have tracks : ∀ e ∈ [afterLetter (some "no space") none, atStart, afterLetter none (some ["c"])],
      Suffix (some abText : Input Kind .text) e.remainder := by
    have next : Suffix (some abText : Span) (some (abText.skip 1)) := suffix_of_tail rfl
    simp only [List.forall_mem_cons]
    exact ⟨next, .refl _, next, by simp⟩
  have right := (merged_bracketing (K := Kind) (i := .text) _ _ tracks
    (.pair (.single _) (.pair (.single _) (.single _))) rfl).1
  have left := (merged_bracketing (K := Kind) (i := .text) _ _ tracks
    (.pair (.pair (.single _) (.single _)) (.single _)) rfl).1
  exact ⟨(Option.some.inj right).symm, (Option.some.inj left).symm⟩

end Bracketings

end Failure

end Parsing

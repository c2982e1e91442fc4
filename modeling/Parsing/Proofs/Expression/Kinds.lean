import Mathlib.Data.List.Nodup
import Parsing.Proofs.Expression.Tree

namespace Parsing.Expression

variable {K α : Type}

namespace Grammar

def infixKinds (g : Grammar K α) : List K :=
  g.infixes.flatMap fun group => group.operators.map Prod.fst

def prefixKinds (g : Grammar K α) : List K :=
  g.prefixes.flatMap fun group => group.operators.map Prod.fst

def groupingKinds (g : Grammar K α) : List K :=
  g.groupings.flatMap fun set => set.start :: set.stop :: set.separators

def conditionalKinds (g : Grammar K α) : List K :=
  g.conditionals.flatMap Conditional.kinds

def kindsOf (g : Grammar K α) : Role → List K
  | .operator => g.infixKinds ++ g.prefixKinds
  | .grouping => g.groupingKinds
  | .conditional => g.conditionalKinds

/-- No kind has two meanings at one place of an expression. -/
structure Unambiguous (g : Grammar K α) : Prop where
  infixes : g.infixKinds.Nodup
  prefixes : g.prefixKinds.Nodup
  starts : (g.groupings.map Grouping.start).Nodup
  conditionals : g.conditionalKinds.Nodup
  roles : ∀ kind r s, kind ∈ g.kindsOf r → kind ∈ g.kindsOf s → r = s

end Grammar

namespace Conditional

theorem ifKind_mem (c : Conditional K α) : c.ifKind ∈ c.kinds := by simp [kinds]

theorem thenKind_mem (c : Conditional K α) : c.thenKind ∈ c.kinds := by simp [kinds]

theorem elseKind_mem (c : Conditional K α) : c.elseKind ∈ c.kinds := by simp [kinds]

theorem thenKind_ne {c : Conditional K α} (h : c.kinds.Nodup) : c.thenKind ≠ c.elseKind := by
  intro he
  simp [kinds, he] at h

end Conditional

section Levels

-- Infix and prefix operators come in groups alike.
variable {γ β δ : Type} (operators : γ → List (K × β)) (make : γ → β → δ)

theorem mem_operatorKinds {groups : List γ} {kind : K} :
    (kind ∈ groups.flatMap fun group => (operators group).map Prod.fst) ↔
      ∃ d, ∃ group ∈ groups, ∃ build, (kind, build) ∈ operators group ∧ d = make group build := by
  simp only [List.mem_flatMap, List.mem_map]
  constructor
  · rintro ⟨group, hg, ⟨k, build⟩, hb, rfl⟩
    exact ⟨_, group, hg, build, hb, rfl⟩
  · rintro ⟨d, group, hg, build, hb, _⟩
    exact ⟨group, hg, (kind, build), hb, rfl⟩

variable [DecidableEq K]

def findOperator (groups : List γ) (kind : K) : Option δ :=
  groups.findSome? fun group =>
    ((operators group).find? fun op => op.1 = kind).map fun op => make group op.2

theorem findOperator_eq_some {groups : List γ} {kind : K} {d : δ}
    (h : findOperator operators make groups kind = some d) :
    ∃ group ∈ groups, ∃ build, (kind, build) ∈ operators group ∧ d = make group build := by
  obtain ⟨group, hg, hd⟩ := List.exists_of_findSome?_eq_some h
  obtain ⟨⟨k, build⟩, hf, rfl⟩ := Option.map_eq_some_iff.mp hd
  have hk : k = kind := by simpa using List.find?_some hf
  exact ⟨group, hg, build, hk ▸ List.mem_of_find?_eq_some hf, rfl⟩

theorem findOperator_eq_none {groups : List γ} {kind : K} :
    findOperator operators make groups kind = none ↔
      kind ∉ groups.flatMap fun group => (operators group).map Prod.fst := by
  simp only [findOperator, List.findSome?_eq_none_iff, Option.map_eq_none_iff, List.find?_eq_none,
    decide_eq_true_eq, List.mem_flatMap, List.mem_map, not_exists, not_and]

theorem find?_of_mem {entries : List (K × β)} (distinct : (entries.map Prod.fst).Nodup) {kind : K}
    {build : β} (h : (kind, build) ∈ entries) :
    (entries.find? fun op => op.1 = kind) = some (kind, build) := by
  induction entries with
  | nil => simp at h
  | cons entry entries ih =>
    obtain ⟨hn, hd⟩ := List.nodup_cons.mp distinct
    rcases List.mem_cons.mp h with rfl | hm
    · simp
    · have hne : ¬ entry.1 = kind := fun he => hn (List.mem_map.mpr ⟨_, hm, he.symm⟩)
      rw [List.find?_cons_of_neg (by simpa using hne)]
      exact ih hd hm

theorem findOperator_of_mem {groups : List γ}
    (distinct : (groups.flatMap fun group => (operators group).map Prod.fst).Nodup) {group : γ}
    (hg : group ∈ groups) {kind : K} {build : β} (hb : (kind, build) ∈ operators group) :
    findOperator operators make groups kind = some (make group build) := by
  induction groups with
  | nil => simp at hg
  | cons first groups ih =>
    rw [List.flatMap_cons, List.nodup_append] at distinct
    obtain ⟨hd, hr, hdisjoint⟩ := distinct
    rcases List.mem_cons.mp hg with rfl | hm
    · simp [findOperator, find?_of_mem hd hb]
    · have hk : ((operators first).find? fun op => op.1 = kind) = none := by
        simp only [List.find?_eq_none, decide_eq_true_eq]
        intro op ho he
        have h₁ : kind ∈ (operators first).map Prod.fst := List.mem_map.mpr ⟨op, ho, he⟩
        have h₂ : kind ∈ groups.flatMap fun group => (operators group).map Prod.fst :=
          List.mem_flatMap.mpr ⟨group, hm, List.mem_map.mpr ⟨_, hb, rfl⟩⟩
        exact hdisjoint kind h₁ kind h₂ rfl
      have hi := ih hr hm
      simpa [findOperator, hk] using hi

end Levels

namespace Grammar

variable {g : Grammar K α}

theorem mem_infixKinds {kind : K} : kind ∈ g.infixKinds ↔ ∃ op, g.InfixKind kind op :=
  mem_operatorKinds _ _

theorem mem_prefixKinds {kind : K} : kind ∈ g.prefixKinds ↔ ∃ op, g.PrefixKind kind op :=
  mem_operatorKinds _ _

theorem grouping_kinds_mem {set : Grouping K α} (hs : set ∈ g.groupings) {kind : K}
    (hk : kind ∈ set.start :: set.stop :: set.separators) : kind ∈ g.groupingKinds :=
  List.mem_flatMap.mpr ⟨set, hs, hk⟩

theorem conditional_kinds_mem {choice : Fin g.conditionals.length} {kind : K}
    (hk : kind ∈ (g.conditionals.get choice).kinds) : kind ∈ g.conditionalKinds :=
  List.mem_flatMap.mpr ⟨_, List.get_mem _ _, hk⟩

theorem Unambiguous.choice_eq (h : g.Unambiguous) {i j : Fin g.conditionals.length} {kind : K}
    (hi : kind ∈ (g.conditionals.get i).kinds) (hj : kind ∈ (g.conditionals.get j).kinds) : i = j := by
  have hd := List.pairwise_iff_getElem.mp (List.nodup_flatMap.mp h.conditionals).2
  rcases Nat.lt_trichotomy i j with hlt | heq | hgt
  · exact (hd i j i.isLt j.isLt hlt hi hj).elim
  · exact Fin.ext heq
  · exact (hd j i j.isLt i.isLt hgt hj hi).elim

theorem Unambiguous.kinds_nodup (h : g.Unambiguous) (choice : Fin g.conditionals.length) :
    (g.conditionals.get choice).kinds.Nodup :=
  (List.nodup_flatMap.mp h.conditionals).1 _ (List.get_mem _ _)

theorem Unambiguous.notMem (h : g.Unambiguous) {kind : K} {r s : Role} (hr : kind ∈ g.kindsOf r)
    (hne : r ≠ s) : kind ∉ g.kindsOf s :=
  fun hs => hne (h.roles kind r s hr hs)

variable [DecidableEq K]

theorem infixOf_eq_some {kind : K} {op : InfixOperator α} (h : g.infixOf kind = some op) :
    g.InfixKind kind op :=
  findOperator_eq_some _ _ h

theorem prefixOf_eq_some {kind : K} {op : PrefixOperator α} (h : g.prefixOf kind = some op) :
    g.PrefixKind kind op :=
  findOperator_eq_some _ _ h

theorem infixOf_eq_none {kind : K} : g.infixOf kind = none ↔ kind ∉ g.infixKinds :=
  findOperator_eq_none _ _

theorem prefixOf_eq_none {kind : K} : g.prefixOf kind = none ↔ kind ∉ g.prefixKinds :=
  findOperator_eq_none _ _

theorem groupingOf_eq_some {kind : K} {set : Grouping K α} (h : g.groupingOf kind = some set) :
    set ∈ g.groupings ∧ set.start = kind :=
  ⟨List.mem_of_find?_eq_some h, by simpa using List.find?_some h⟩

theorem groupingOf_eq_none {kind : K} :
    g.groupingOf kind = none ↔ ∀ set ∈ g.groupings, set.start ≠ kind := by
  simp [groupingOf, List.find?_eq_none]

theorem kind_of_findChoice {f : Conditional K α → K} {kind : K} {choice : Fin g.conditionals.length}
    (h : g.conditionals.findFinIdx? (fun c => f c = kind) = some choice) :
    f (g.conditionals.get choice) = kind := by
  simpa using (List.findFinIdx?_eq_some_iff.mp h).1

theorem ifOf_eq_none {kind : K} :
    g.ifOf kind = none ↔ ∀ choice ∈ g.conditionals, choice.ifKind ≠ kind := by
  simp [ifOf, List.findFinIdx?_eq_none_iff]

theorem not_starts_iff {kind : K} : ¬ g.Starts kind ↔
    g.prefixOf kind = none ∧ g.groupingOf kind = none ∧ g.ifOf kind = none := by
  rw [Starts, prefixOf_eq_none, mem_prefixKinds, groupingOf_eq_none, ifOf_eq_none]
  simp only [not_or, not_exists, not_and, ne_eq]

section Unambiguous

theorem Unambiguous.infixOf_of_kind (h : g.Unambiguous) {kind : K} {op : InfixOperator α}
    (hk : g.InfixKind kind op) : g.infixOf kind = some op := by
  obtain ⟨group, hg, build, hb, rfl⟩ := hk
  exact findOperator_of_mem _ _ h.infixes hg hb

theorem Unambiguous.prefixOf_of_kind (h : g.Unambiguous) {kind : K} {op : PrefixOperator α}
    (hk : g.PrefixKind kind op) : g.prefixOf kind = some op := by
  obtain ⟨group, hg, build, hb, rfl⟩ := hk
  exact findOperator_of_mem _ _ h.prefixes hg hb

theorem Unambiguous.groupingOf_start (h : g.Unambiguous) {set : Grouping K α}
    (hs : set ∈ g.groupings) : g.groupingOf set.start = some set := by
  cases hf : g.groupingOf set.start with
  | none => exact (groupingOf_eq_none.mp hf set hs rfl).elim
  | some other =>
    obtain ⟨ho, he⟩ := groupingOf_eq_some hf
    rw [List.inj_on_of_nodup_map h.starts ho hs he]

theorem Unambiguous.infixOf_eq_none (h : g.Unambiguous) {kind : K} {r : Role}
    (hr : kind ∈ g.kindsOf r) (hne : r ≠ .operator) : g.infixOf kind = none :=
  Grammar.infixOf_eq_none.mpr fun hk => h.notMem hr hne (List.mem_append_left _ hk)

theorem Unambiguous.prefixOf_eq_none (h : g.Unambiguous) {kind : K} {r : Role}
    (hr : kind ∈ g.kindsOf r) (hne : r ≠ .operator) : g.prefixOf kind = none :=
  Grammar.prefixOf_eq_none.mpr fun hk => h.notMem hr hne (List.mem_append_right _ hk)

theorem Unambiguous.groupingOf_eq_none (h : g.Unambiguous) {kind : K} {r : Role}
    (hr : kind ∈ g.kindsOf r) (hne : r ≠ .grouping) : g.groupingOf kind = none := by
  apply Grammar.groupingOf_eq_none.mpr
  rintro set hs rfl
  exact h.notMem hr hne (grouping_kinds_mem hs (by simp))

theorem Unambiguous.findChoice (h : g.Unambiguous) (f : Conditional K α → K)
    (hf : ∀ c, f c ∈ Conditional.kinds c) (choice : Fin g.conditionals.length) :
    g.conditionals.findFinIdx? (fun c => f c = f (g.conditionals.get choice)) = some choice := by
  rw [List.findFinIdx?_eq_some_iff]
  refine ⟨by simp, ?_⟩
  intro j hj he
  have hs : f (g.conditionals.get j) = f (g.conditionals.get choice) := by simpa using he
  have hm : f (g.conditionals.get choice) ∈ (g.conditionals.get j).kinds := hs ▸ hf _
  obtain rfl := h.choice_eq hm (hf _)
  exact Nat.lt_irrefl _ hj

theorem Unambiguous.ifOf_kind (h : g.Unambiguous) (choice : Fin g.conditionals.length) :
    g.ifOf (g.conditionals.get choice).ifKind = some choice :=
  h.findChoice Conditional.ifKind Conditional.ifKind_mem choice

theorem Unambiguous.thenOf_kind (h : g.Unambiguous) (choice : Fin g.conditionals.length) :
    g.thenOf (g.conditionals.get choice).thenKind = some choice :=
  h.findChoice Conditional.thenKind Conditional.thenKind_mem choice

theorem Unambiguous.elseOf_kind (h : g.Unambiguous) (choice : Fin g.conditionals.length) :
    g.elseOf (g.conditionals.get choice).elseKind = some choice :=
  h.findChoice Conditional.elseKind Conditional.elseKind_mem choice

theorem Unambiguous.thenOf_elseKind (h : g.Unambiguous) (choice : Fin g.conditionals.length) :
    g.thenOf (g.conditionals.get choice).elseKind = none := by
  cases hf : g.thenOf (g.conditionals.get choice).elseKind with
  | none => rfl
  | some other =>
    have he : (g.conditionals.get other).thenKind = (g.conditionals.get choice).elseKind :=
      kind_of_findChoice hf
    have hm : (g.conditionals.get other).thenKind ∈ (g.conditionals.get choice).kinds :=
      he ▸ Conditional.elseKind_mem _
    obtain rfl := h.choice_eq (Conditional.thenKind_mem _) hm
    exact (Conditional.thenKind_ne (h.kinds_nodup other) he).elim

end Unambiguous

end Grammar

end Parsing.Expression

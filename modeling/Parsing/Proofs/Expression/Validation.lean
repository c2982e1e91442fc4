import Mathlib.Data.List.Flatten
import Parsing.Proofs.Expression.Acceptance

namespace Parsing.Expression

variable {K α : Type}

namespace Definition

def infixes? : Definition K α → Option (InfixLevel K α)
  | .infixes group => some group
  | _ => none

def prefixes? : Definition K α → Option (PrefixLevel K α)
  | .prefixes group => some group
  | _ => none

def grouping? : Definition K α → Option (Grouping K α)
  | .grouping set => some set
  | _ => none

def conditional? : Definition K α → Option (Conditional K α)
  | .conditional choice => some choice
  | _ => none

end Definition

namespace Grammar

def gather (definitions : List (Definition K α)) : Grammar K α :=
  ⟨definitions.filterMap Definition.infixes?, definitions.filterMap Definition.prefixes?,
    definitions.filterMap Definition.grouping?, definitions.filterMap Definition.conditional?⟩

def append (g h : Grammar K α) : Grammar K α :=
  ⟨g.infixes ++ h.infixes, g.prefixes ++ h.prefixes, g.groupings ++ h.groupings,
    g.conditionals ++ h.conditionals⟩

section Gather

theorem gather_append (before after : List (Definition K α)) :
    gather (before ++ after) = (gather before).append (gather after) := by
  simp [gather, append, List.filterMap_append]

theorem append_empty (g : Grammar K α) : g.append (gather []) = g := by
  simp [append, gather]

theorem empty_append (g : Grammar K α) : (empty : Grammar K α).append g = g := by
  simp [append, empty]

theorem append_assoc (g h k : Grammar K α) : (g.append h).append k = g.append (h.append k) := by
  simp [append, List.append_assoc]

theorem append_infixes (g : Grammar K α) (group : InfixLevel K α) :
    g.append (gather [.infixes group]) = { g with infixes := g.infixes ++ [group] } := by
  simp [append, gather, Definition.infixes?, Definition.prefixes?, Definition.grouping?,
    Definition.conditional?]

theorem append_prefixes (g : Grammar K α) (group : PrefixLevel K α) :
    g.append (gather [.prefixes group]) = { g with prefixes := g.prefixes ++ [group] } := by
  simp [append, gather, Definition.infixes?, Definition.prefixes?, Definition.grouping?,
    Definition.conditional?]

theorem append_grouping (g : Grammar K α) (set : Grouping K α) :
    g.append (gather [.grouping set]) = { g with groupings := g.groupings ++ [set] } := by
  simp [append, gather, Definition.infixes?, Definition.prefixes?, Definition.grouping?,
    Definition.conditional?]

theorem append_conditional (g : Grammar K α) (choice : Conditional K α) :
    g.append (gather [.conditional choice]) = { g with conditionals := g.conditionals ++ [choice] } := by
  simp [append, gather, Definition.infixes?, Definition.prefixes?, Definition.grouping?,
    Definition.conditional?]

theorem kindsOf_infixes (group : InfixLevel K α) :
    (gather [.infixes group]).kindsOf .operator = group.operators.map Prod.fst := by
  simp [kindsOf, infixKinds, prefixKinds, gather, Definition.infixes?, Definition.prefixes?]

theorem kindsOf_prefixes (group : PrefixLevel K α) :
    (gather [.prefixes group]).kindsOf .operator = group.operators.map Prod.fst := by
  simp [kindsOf, infixKinds, prefixKinds, gather, Definition.infixes?, Definition.prefixes?]

theorem kindsOf_grouping (set : Grouping K α) :
    (gather [.grouping set]).kindsOf .grouping = set.start :: set.stop :: set.separators := by
  simp [kindsOf, groupingKinds, gather, Definition.grouping?]

theorem kindsOf_conditional (choice : Conditional K α) :
    (gather [.conditional choice]).kindsOf .conditional = choice.kinds := by
  simp [kindsOf, conditionalKinds, gather, Definition.conditional?]

theorem mem_kindsOf_append {g h : Grammar K α} {role : Role} {kind : K} :
    kind ∈ (g.append h).kindsOf role ↔ kind ∈ g.kindsOf role ∨ kind ∈ h.kindsOf role := by
  cases role with
  | grouping => simp [kindsOf, groupingKinds, append]
  | conditional => simp [kindsOf, conditionalKinds, append]
  | operator =>
    simp only [kindsOf, infixKinds, prefixKinds, append, List.flatMap_append, List.mem_append]
    constructor
    · rintro ((h | h) | (h | h)) <;> simp [h]
    · rintro ((h | h) | (h | h)) <;> simp [h]

end Gather

section Sublists

structure Within (h g : Grammar K α) : Prop where
  infixes : h.infixes.Sublist g.infixes
  prefixes : h.prefixes.Sublist g.prefixes
  groupings : h.groupings.Sublist g.groupings
  conditionals : h.conditionals.Sublist g.conditionals

theorem within_append (g h : Grammar K α) : g.Within (g.append h) :=
  ⟨List.sublist_append_left _ _, List.sublist_append_left _ _, List.sublist_append_left _ _,
    List.sublist_append_left _ _⟩

theorem within_gather {some all : List (Definition K α)} (h : some.Sublist all) :
    (gather some).Within (gather all) :=
  ⟨h.filterMap _, h.filterMap _, h.filterMap _, h.filterMap _⟩

theorem Within.kindsOf {g h : Grammar K α} (hw : h.Within g) (role : Role) {kind : K}
    (hk : kind ∈ h.kindsOf role) : kind ∈ g.kindsOf role := by
  cases role with
  | grouping => exact (hw.groupings.flatMap _).subset hk
  | conditional => exact (hw.conditionals.flatMap _).subset hk
  | operator =>
    have hi := hw.infixes.flatMap fun group => group.operators.map Prod.fst
    have hp := hw.prefixes.flatMap fun group => group.operators.map Prod.fst
    exact (hi.append hp).subset hk

theorem Unambiguous.within {g h : Grammar K α} (hg : g.Unambiguous) (hw : h.Within g) :
    h.Unambiguous := by
  refine ⟨hg.infixes.sublist (hw.infixes.flatMap _),
    hg.prefixes.sublist (hw.prefixes.flatMap _), hg.starts.sublist (hw.groupings.map _),
    hg.conditionals.sublist (hw.conditionals.flatMap _), ?_⟩
  intro kind r s hr hs
  exact hg.roles kind r s (hw.kindsOf r hr) (hw.kindsOf s hs)

end Sublists

section Orders

theorem mem_kindsOf_perm {definitions other : List (Definition K α)} (h : definitions.Perm other)
    {role : Role} {kind : K} (hk : kind ∈ (gather definitions).kindsOf role) :
    kind ∈ (gather other).kindsOf role := by
  cases role with
  | grouping => exact ((h.filterMap _).flatMap_right _).subset hk
  | conditional => exact ((h.filterMap _).flatMap_right _).subset hk
  | operator =>
    have hi := (h.filterMap Definition.infixes?).flatMap_right fun group => group.operators.map Prod.fst
    have hp := (h.filterMap Definition.prefixes?).flatMap_right fun group => group.operators.map Prod.fst
    exact (hi.append hp).subset hk

theorem Unambiguous.perm {definitions other : List (Definition K α)} (h : definitions.Perm other)
    (hd : (gather definitions).Unambiguous) : (gather other).Unambiguous := by
  refine ⟨((h.filterMap _).flatMap_right _).nodup hd.infixes,
    ((h.filterMap _).flatMap_right _).nodup hd.prefixes, ((h.filterMap _).map _).nodup hd.starts,
    ((h.filterMap _).flatMap_right _).nodup hd.conditionals, ?_⟩
  intro kind r s hr hs
  exact hd.roles kind r s (mem_kindsOf_perm h.symm hr) (mem_kindsOf_perm h.symm hs)

end Orders

section Assign

variable [DecidableEq K] [TokenKind K]

theorem assign_of_role {roles : List (K × Role)} {role : Role} {kind : K}
    (free : ∀ r, HasRole roles kind r → r = role) :
    ∃ roles', assign roles role kind = .ok roles' ∧
      ∀ k r, HasRole roles' k r → HasRole roles k r ∨ k = kind ∧ r = role := by
  unfold assign
  cases hf : roles.find? fun r => r.1 = kind with
  | none =>
    refine ⟨_, rfl, ?_⟩
    intro k r hr
    by_cases hk : kind = k
    · subst hk
      exact .inr ⟨rfl, by simpa [HasRole, eq_comm] using hr⟩
    · exact .inl (by simpa [HasRole, hk] using hr)
  | some entry =>
    obtain ⟨other, first⟩ := entry
    have he : first = role := free first (by simp [HasRole, hf])
    exact ⟨roles, by simp [he], fun k r hr => .inl hr⟩

theorem assignAll_of_role {role : Role} {kinds : List K} {roles : List (K × Role)}
    (free : ∀ kind ∈ kinds, ∀ r, HasRole roles kind r → r = role) :
    ∃ roles', kinds.foldlM (assign · role ·) roles = .ok roles' ∧
      ∀ k r, HasRole roles' k r → HasRole roles k r ∨ k ∈ kinds ∧ r = role := by
  induction kinds generalizing roles with
  | nil => exact ⟨roles, rfl, fun k r hr => .inl hr⟩
  | cons kind kinds ih =>
    obtain ⟨middle, ha, hm⟩ := assign_of_role (free kind (by simp))
    have hfree : ∀ k ∈ kinds, ∀ r, HasRole middle k r → r = role := by
      intro k hk r hr
      rcases hm k r hr with hr | ⟨-, hr⟩
      · exact free k (by simp [hk]) r hr
      · exact hr
    obtain ⟨roles', hr', hall⟩ := ih hfree
    refine ⟨roles', by rw [List.foldlM_cons, ha]; exact hr', ?_⟩
    intro k r hr
    rcases hall k r hr with hr | ⟨hk, hr⟩
    · rcases hm k r hr with hr | ⟨rfl, hr⟩
      · exact .inl hr
      · exact .inr ⟨by simp, hr⟩
    · exact .inr ⟨by simp [hk], hr⟩

theorem assignDistinct_of_role {role : Role} {known : K → Bool} {duplicate : String → GrammarError}
    {kinds seen : List K} {roles : List (K × Role)} (distinct : kinds.Nodup)
    (unseen : ∀ kind ∈ kinds, kind ∉ seen) (unknown : ∀ kind ∈ kinds, known kind = false)
    (free : ∀ kind ∈ kinds, ∀ r, HasRole roles kind r → r = role) :
    assignDistinct role known duplicate seen kinds roles = kinds.foldlM (assign · role ·) roles := by
  induction kinds generalizing seen roles with
  | nil => rfl
  | cons kind kinds ih =>
    obtain ⟨hn, hd⟩ := List.nodup_cons.mp distinct
    obtain ⟨middle, ha, hm⟩ := assign_of_role (free kind (by simp))
    have hnew : ¬ (kind ∈ seen ∨ known kind = true) := by
      simp [unseen kind (by simp), unknown kind (by simp)]
    rw [assignDistinct, if_neg hnew, List.foldlM_cons, ha]
    apply ih hd
    · intro k hk
      have hne : k ≠ kind := fun he => hn (he ▸ hk)
      simp [hne, unseen k (by simp [hk])]
    · intro k hk
      exact unknown k (by simp [hk])
    · intro k hk r hr
      rcases hm k r hr with hr | ⟨-, hr⟩
      · exact free k (by simp [hk]) r hr
      · exact hr

end Assign

section Extend

variable [DecidableEq K] {g : Grammar K α} {roles : List (K × Role)}

def Accounted (g : Grammar K α) (roles : List (K × Role)) : Prop :=
  ∀ kind role, HasRole roles kind role → kind ∈ g.kindsOf role

theorem accounted_empty : Accounted (empty : Grammar K α) [] := by
  intro kind role h
  simp [HasRole] at h

theorem Accounted.append {h : Grammar K α} {roles' : List (K × Role)} {new : Role} {kinds : List K}
    (hg : Accounted g roles) (hk : ∀ kind ∈ kinds, kind ∈ h.kindsOf new)
    (hr : ∀ kind role, HasRole roles' kind role → HasRole roles kind role ∨ kind ∈ kinds ∧ role = new) :
    Accounted (g.append h) roles' := by
  intro kind role h
  rw [mem_kindsOf_append]
  rcases hr kind role h with h | ⟨hm, rfl⟩
  · exact .inl (hg kind role h)
  · exact .inr (hk kind hm)

theorem Accounted.free {h : Grammar K α} (hg : Accounted g roles)
    (unambiguous : (g.append h).Unambiguous) {new : Role} {kind : K} (hk : kind ∈ h.kindsOf new)
    {role : Role} (hr : HasRole roles kind role) : role = new :=
  unambiguous.roles kind role new (mem_kindsOf_append.mpr (.inl (hg kind role hr)))
    (mem_kindsOf_append.mpr (.inr hk))

variable [TokenKind K]

theorem extend_eq_ok {g' : Grammar K α} {roles' : List (K × Role)} {definition : Definition K α}
    (h : g.extend roles definition = .ok (g', roles')) : g' = g.append (gather [definition]) := by
  cases definition with
  | infixes group =>
    obtain ⟨after, -, hr⟩ := bind_eq_ok h
    cases hr
    rw [append_infixes]
  | prefixes group =>
    obtain ⟨after, -, hr⟩ := bind_eq_ok h
    cases hr
    rw [append_prefixes]
  | grouping set =>
    simp only [extend] at h
    split at h
    · cases h
    · obtain ⟨after, -, hr⟩ := bind_eq_ok h
      cases hr
      rw [append_grouping]
  | conditional choice =>
    obtain ⟨after, -, hr⟩ := bind_eq_ok h
    cases hr
    rw [append_conditional]

theorem assignAll_fresh {h : Grammar K α} (hg : Accounted g roles)
    (unambiguous : (g.append h).Unambiguous) (new : Role) {kinds : List K}
    (hk : h.kindsOf new = kinds) :
    ∃ roles', kinds.foldlM (assign · new ·) roles = .ok roles' ∧ Accounted (g.append h) roles' := by
  have free : ∀ kind ∈ kinds, ∀ r, HasRole roles kind r → r = new :=
    fun kind hm r hr => hg.free unambiguous (hk ▸ hm) hr
  obtain ⟨roles', ha, hr⟩ := assignAll_of_role free
  exact ⟨roles', ha, hg.append (fun kind hm => hk ▸ hm) hr⟩

theorem assignDistinct_fresh {h : Grammar K α} (hg : Accounted g roles)
    (unambiguous : (g.append h).Unambiguous) (new : Role) {known : K → Bool}
    (duplicate : String → GrammarError) {before kinds : List K} (hk : h.kindsOf new = kinds)
    (distinct : (before ++ kinds).Nodup)
    (unknown : ∀ kind, kind ∉ before → known kind = false) :
    ∃ roles', assignDistinct new known duplicate [] kinds roles = .ok roles' ∧
      Accounted (g.append h) roles' := by
  obtain ⟨-, hd, hdisjoint⟩ := List.nodup_append.mp distinct
  have hunknown : ∀ kind ∈ kinds, known kind = false :=
    fun kind hm => unknown kind fun hb => hdisjoint kind hb kind hm rfl
  rw [assignDistinct_of_role hd (by simp) hunknown
    fun kind hm r hr => hg.free unambiguous (hk ▸ hm) hr]
  exact assignAll_fresh hg unambiguous new hk

theorem extend_of_unambiguous (hg : Accounted g roles) {definition : Definition K α}
    (unambiguous : (g.append (gather [definition])).Unambiguous) :
    ∃ roles', g.extend roles definition = .ok (g.append (gather [definition]), roles') ∧
      Accounted (g.append (gather [definition])) roles' := by
  cases definition with
  | infixes group =>
    have distinct : (g.infixKinds ++ group.operators.map Prod.fst).Nodup := by
      simpa [append_infixes, infixKinds] using unambiguous.infixes
    have unknown : ∀ kind, kind ∉ g.infixKinds → (g.infixOf kind).isSome = false := by
      intro kind hk
      rw [infixOf_eq_none.mpr hk, Option.isSome_none]
    obtain ⟨roles', ha, hr⟩ := assignDistinct_fresh hg unambiguous .operator
      (.twoOperators · .between) (kindsOf_infixes group) distinct unknown
    exact ⟨roles', by rw [append_infixes, extend, ha]; rfl, hr⟩
  | prefixes group =>
    have distinct : (g.prefixKinds ++ group.operators.map Prod.fst).Nodup := by
      simpa [append_prefixes, prefixKinds] using unambiguous.prefixes
    have unknown : ∀ kind, kind ∉ g.prefixKinds → (g.prefixOf kind).isSome = false := by
      intro kind hk
      rw [prefixOf_eq_none.mpr hk, Option.isSome_none]
    obtain ⟨roles', ha, hr⟩ := assignDistinct_fresh hg unambiguous .operator
      (.twoOperators · .before) (kindsOf_prefixes group) distinct unknown
    exact ⟨roles', by rw [append_prefixes, extend, ha]; rfl, hr⟩
  | grouping set =>
    have hnone : g.groupingOf set.start = none := by
      have hs := unambiguous.starts
      rw [append_grouping, List.map_append, List.nodup_append] at hs
      apply groupingOf_eq_none.mpr
      intro other ho he
      exact hs.2.2 _ (List.mem_map.mpr ⟨other, ho, rfl⟩) set.start (by simp) he
    obtain ⟨roles', ha, hr⟩ := assignAll_fresh hg unambiguous .grouping (kindsOf_grouping set)
    refine ⟨roles', ?_, hr⟩
    rw [append_grouping, extend, hnone]
    simp [ha]
  | conditional choice =>
    have distinct : (g.conditionalKinds ++ choice.kinds).Nodup := by
      simpa [append_conditional, conditionalKinds] using unambiguous.conditionals
    have unknown : ∀ kind, kind ∉ g.conditionalKinds → g.conditionals.any (kind ∈ ·.kinds) = false := by
      intro kind hk
      simpa [conditionalKinds] using hk
    obtain ⟨roles', ha, hr⟩ := assignDistinct_fresh hg unambiguous .conditional .twoConditionals
      (kindsOf_conditional choice) distinct unknown
    exact ⟨roles', by rw [append_conditional, extend, ha]; rfl, hr⟩

theorem extendAll_eq_ok {definitions : List (Definition K α)} {g' : Grammar K α}
    (h : extendAll definitions g roles = .ok g') : g' = g.append (gather definitions) := by
  induction definitions generalizing g roles with
  | nil =>
    cases h
    rw [append_empty]
  | cons definition definitions ih =>
    obtain ⟨⟨next, roles'⟩, he, hr⟩ := bind_eq_ok h
    rw [ih hr, extend_eq_ok he, append_assoc, ← gather_append]
    rfl

theorem extendAll_of_unambiguous {definitions : List (Definition K α)} (hg : Accounted g roles)
    (unambiguous : (g.append (gather definitions)).Unambiguous) :
    ∃ g', extendAll definitions g roles = .ok g' := by
  induction definitions generalizing g roles with
  | nil => exact ⟨g, rfl⟩
  | cons definition definitions ih =>
    have hsplit : g.append (gather (definition :: definitions)) =
        (g.append (gather [definition])).append (gather definitions) := by
      rw [append_assoc, ← gather_append]
      rfl
    rw [hsplit] at unambiguous
    obtain ⟨roles', he, hr⟩ := extend_of_unambiguous hg (unambiguous.within (within_append _ _))
    obtain ⟨g', ha⟩ := ih hr unambiguous
    exact ⟨g', by rw [extendAll, he]; exact ha⟩

theorem ofDefinitions_eq_ok_iff {definitions : List (Definition K α)} :
    ofDefinitions definitions = .ok g ↔ g = gather definitions ∧ g.Unambiguous := by
  constructor
  · intro h
    refine ⟨?_, unambiguous_of_definitions h⟩
    rw [extendAll_eq_ok h, empty_append]
  · rintro ⟨rfl, unambiguous⟩
    rw [← empty_append (gather definitions)] at unambiguous
    obtain ⟨g', h⟩ := extendAll_of_unambiguous accounted_empty unambiguous
    rw [ofDefinitions, h, extendAll_eq_ok h, empty_append]

theorem extendAll_error_append {before : List (Definition K α)} {error : GrammarError}
    (h : extendAll before g roles = .error error) (after : List (Definition K α)) :
    extendAll (before ++ after) g roles = .error error := by
  induction before generalizing g roles with
  | nil => cases h
  | cons definition before ih =>
    rw [extendAll] at h
    rw [List.cons_append, extendAll]
    cases he : g.extend roles definition with
    | error e =>
      rw [he] at h
      cases h
      rfl
    | ok next =>
      rw [he] at h
      exact ih h

theorem extendAll_eq_error {definitions : List (Definition K α)} {error : GrammarError}
    (h : extendAll definitions g roles = .error error) :
    ∃ before definition after, definitions = before ++ definition :: after ∧
      (∃ g', extendAll before g roles = .ok g') ∧
      extendAll (before ++ [definition]) g roles = .error error := by
  induction definitions generalizing g roles with
  | nil => cases h
  | cons definition definitions ih =>
    cases he : g.extend roles definition with
    | error e =>
      rw [extendAll, he] at h
      exact ⟨[], definition, definitions, rfl, ⟨g, rfl⟩, by rw [List.nil_append, extendAll, he]; exact h⟩
    | ok next =>
      rw [extendAll, he] at h
      obtain ⟨before, last, after, rfl, ⟨g', hb⟩, hl⟩ := ih h
      refine ⟨definition :: before, last, after, rfl, ⟨g', ?_⟩, ?_⟩
      · rw [extendAll, he]
        exact hb
      · rw [List.cons_append, extendAll, he]
        exact hl

theorem exists_ofDefinitions_iff {definitions : List (Definition K α)} :
    (∃ g, ofDefinitions definitions = .ok g) ↔ (gather definitions).Unambiguous := by
  constructor
  · rintro ⟨g, h⟩
    obtain ⟨rfl, unambiguous⟩ := ofDefinitions_eq_ok_iff.mp h
    exact unambiguous
  · intro unambiguous
    exact ⟨_, ofDefinitions_eq_ok_iff.mpr ⟨rfl, unambiguous⟩⟩

/-- A list of definitions is accepted exactly if no kind has two meanings, and so in every other order, and
without any of its definitions. The error is that of the shortest list of its first definitions that is refused.
-/
theorem accepted_iff_unambiguous (definitions : List (Definition K α)) :
    ((∃ g, ofDefinitions definitions = .ok g) ↔ (gather definitions).Unambiguous) ∧
      (∀ other, definitions.Perm other →
        ((∃ g, ofDefinitions definitions = .ok g) ↔ ∃ g, ofDefinitions other = .ok g)) ∧
      (∀ other, other.Sublist definitions → (∃ g, ofDefinitions definitions = .ok g) →
        ∃ g, ofDefinitions other = .ok g) ∧
      ∀ error, ofDefinitions definitions = .error error ↔
        ∃ before definition after, definitions = before ++ definition :: after ∧
          (∃ g, ofDefinitions before = .ok g) ∧
          ofDefinitions (before ++ [definition]) = .error error := by
  refine ⟨exists_ofDefinitions_iff, ?_, ?_, ?_⟩
  · intro other h
    rw [exists_ofDefinitions_iff, exists_ofDefinitions_iff]
    exact ⟨.perm h, .perm h.symm⟩
  · intro other h
    rw [exists_ofDefinitions_iff, exists_ofDefinitions_iff]
    intro unambiguous
    exact unambiguous.within (within_gather h)
  · intro error
    constructor
    · exact extendAll_eq_error
    · rintro ⟨before, definition, after, rfl, -, h⟩
      have hc : before ++ definition :: after = before ++ [definition] ++ after := by simp
      rw [hc]
      exact extendAll_error_append h after

end Extend

end Grammar

end Parsing.Expression

import Parsing.Proofs.Expression.Kinds

namespace Parsing.Expression.Grammar

variable {K α : Type} [DecidableEq K]

def HasRole (roles : List (K × Role)) (kind : K) (role : Role) : Prop :=
  (roles.find? fun r => r.1 = kind).map Prod.snd = some role

def Keeps (roles roles' : List (K × Role)) : Prop :=
  ∀ kind role, HasRole roles kind role → HasRole roles' kind role

theorem Keeps.refl (roles : List (K × Role)) : Keeps roles roles :=
  fun _ _ h => h

theorem Keeps.trans {a b c : List (K × Role)} (h : Keeps a b) (h' : Keeps b c) : Keeps a c :=
  fun kind role hr => h' kind role (h kind role hr)

section Assign

variable [TokenKind K]

theorem assign_ok {roles roles' : List (K × Role)} {role : Role} {kind : K}
    (h : assign roles role kind = .ok roles') : HasRole roles' kind role ∧ Keeps roles roles' := by
  unfold assign at h
  split at h
  · rename_i hf
    cases h
    refine ⟨by simp [HasRole], ?_⟩
    intro k r hr
    by_cases hk : kind = k
    · subst hk
      simp [HasRole, hf] at hr
    · simpa [HasRole, hk] using hr
  · rename_i other first hf
    split at h
    · rename_i he
      cases h
      exact ⟨by simp [HasRole, hf, he], Keeps.refl roles⟩
    · cases h

theorem assignDistinct_ok {role : Role} {known : K → Bool} {duplicate : String → GrammarError}
    {kinds seen : List K} {roles roles' : List (K × Role)}
    (h : assignDistinct role known duplicate seen kinds roles = .ok roles') :
    kinds.Nodup ∧ (∀ kind ∈ kinds, kind ∉ seen ∧ known kind = false ∧ HasRole roles' kind role) ∧
      Keeps roles roles' := by
  induction kinds generalizing seen roles with
  | nil =>
    cases h
    exact ⟨List.nodup_nil, by simp, Keeps.refl _⟩
  | cons kind kinds ih =>
    unfold assignDistinct at h
    split at h
    · cases h
    · rename_i hnew
      simp only [not_or, Bool.not_eq_true] at hnew
      obtain ⟨middle, ha, hr⟩ := bind_eq_ok h
      obtain ⟨hn, hall, hk⟩ := ih hr
      obtain ⟨hrole, hk'⟩ := assign_ok ha
      refine ⟨List.nodup_cons.mpr ⟨fun hm => (hall kind hm).1 (by simp), hn⟩, ?_, hk'.trans hk⟩
      intro k hm
      rcases List.mem_cons.mp hm with rfl | hm
      · exact ⟨hnew.1, hnew.2, hk k role hrole⟩
      · obtain ⟨h₁, h₂, h₃⟩ := hall k hm
        exact ⟨fun hs => h₁ (by simp [hs]), h₂, h₃⟩

theorem assignAll_ok {role : Role} {kinds : List K} {roles roles' : List (K × Role)}
    (h : kinds.foldlM (assign · role ·) roles = .ok roles') :
    (∀ kind ∈ kinds, HasRole roles' kind role) ∧ Keeps roles roles' := by
  induction kinds generalizing roles with
  | nil =>
    cases h
    exact ⟨by simp, Keeps.refl _⟩
  | cons kind kinds ih =>
    rw [List.foldlM_cons] at h
    obtain ⟨middle, ha, hr⟩ := bind_eq_ok h
    obtain ⟨hall, hk⟩ := ih hr
    obtain ⟨hrole, hk'⟩ := assign_ok ha
    refine ⟨?_, hk'.trans hk⟩
    intro k hm
    rcases List.mem_cons.mp hm with rfl | hm
    · exact hk k role hrole
    · exact hall k hm

end Assign

structure Recorded (g : Grammar K α) (roles : List (K × Role)) : Prop where
  infixes : g.infixKinds.Nodup
  prefixes : g.prefixKinds.Nodup
  starts : (g.groupings.map Grouping.start).Nodup
  conditionals : g.conditionalKinds.Nodup
  roles : ∀ role, ∀ kind ∈ g.kindsOf role, HasRole roles kind role

theorem recorded_empty : Recorded (empty : Grammar K α) [] := by
  refine ⟨List.nodup_nil, List.nodup_nil, List.nodup_nil, List.nodup_nil, ?_⟩
  intro role kind hk
  cases role <;> cases hk

theorem Recorded.unambiguous {g : Grammar K α} {roles : List (K × Role)} (h : Recorded g roles) :
    g.Unambiguous := by
  refine ⟨h.infixes, h.prefixes, h.starts, h.conditionals, ?_⟩
  intro kind r s hr hs
  have he := (h.roles r kind hr).symm.trans (h.roles s kind hs)
  exact Option.some.inj he

section Extend

variable {g g' : Grammar K α} {roles roles' : List (K × Role)}

theorem Recorded.extended (hg : Recorded g roles) (hk : Keeps roles roles') {new : Role} {kinds : List K}
    (hn : ∀ kind ∈ kinds, HasRole roles' kind new)
    (hs : ∀ role, ∀ kind ∈ g'.kindsOf role, kind ∈ g.kindsOf role ∨ role = new ∧ kind ∈ kinds) :
    ∀ role, ∀ kind ∈ g'.kindsOf role, HasRole roles' kind role := by
  intro role kind hm
  rcases hs role kind hm with ho | ⟨rfl, hm⟩
  · exact hk kind role (hg.roles role kind ho)
  · exact hn kind hm

variable [TokenKind K]

theorem extend_infixes {group : InfixLevel K α} (hg : Recorded g roles)
    (h : g.extend roles (.infixes group) = .ok (g', roles')) : Recorded g' roles' := by
  obtain ⟨after, ha, hr⟩ := bind_eq_ok h
  cases hr
  obtain ⟨hn, hall, hk⟩ := assignDistinct_ok ha
  have he : infixKinds { g with infixes := g.infixes ++ [group] } =
      g.infixKinds ++ group.operators.map Prod.fst := by simp [infixKinds]
  refine ⟨?_, hg.prefixes, hg.starts, hg.conditionals,
    hg.extended hk (fun kind hm => (hall kind hm).2.2) ?_⟩
  · rw [he, List.nodup_append]
    refine ⟨hg.infixes, hn, ?_⟩
    rintro kind h₁ _ h₂ rfl
    have hnone : g.infixOf kind = none := by simpa using (hall kind h₂).2.1
    exact infixOf_eq_none.mp hnone h₁
  · intro role kind hm
    cases role with
    | grouping => exact .inl hm
    | conditional => exact .inl hm
    | operator =>
      rw [kindsOf, he, List.mem_append, List.mem_append] at hm
      rcases hm with (hm | hm) | hm
      · exact .inl (List.mem_append_left _ hm)
      · exact .inr ⟨rfl, hm⟩
      · exact .inl (List.mem_append_right _ hm)

theorem extend_prefixes {group : PrefixLevel K α} (hg : Recorded g roles)
    (h : g.extend roles (.prefixes group) = .ok (g', roles')) : Recorded g' roles' := by
  obtain ⟨after, ha, hr⟩ := bind_eq_ok h
  cases hr
  obtain ⟨hn, hall, hk⟩ := assignDistinct_ok ha
  have he : prefixKinds { g with prefixes := g.prefixes ++ [group] } =
      g.prefixKinds ++ group.operators.map Prod.fst := by simp [prefixKinds]
  refine ⟨hg.infixes, ?_, hg.starts, hg.conditionals,
    hg.extended hk (fun kind hm => (hall kind hm).2.2) ?_⟩
  · rw [he, List.nodup_append]
    refine ⟨hg.prefixes, hn, ?_⟩
    rintro kind h₁ _ h₂ rfl
    have hnone : g.prefixOf kind = none := by simpa using (hall kind h₂).2.1
    exact prefixOf_eq_none.mp hnone h₁
  · intro role kind hm
    cases role with
    | grouping => exact .inl hm
    | conditional => exact .inl hm
    | operator =>
      rw [kindsOf, he, List.mem_append, List.mem_append] at hm
      rcases hm with hm | hm | hm
      · exact .inl (List.mem_append_left _ hm)
      · exact .inl (List.mem_append_right _ hm)
      · exact .inr ⟨rfl, hm⟩

theorem extend_grouping {set : Grouping K α} (hg : Recorded g roles)
    (h : g.extend roles (.grouping set) = .ok (g', roles')) : Recorded g' roles' := by
  have hnone : g.groupingOf set.start = none := by
    cases hs : g.groupingOf set.start with
    | none => rfl
    | some other =>
      simp only [extend, hs, Option.isSome_some, ↓reduceIte] at h
      cases h
  simp only [extend, hnone, Option.isSome_none, Bool.false_eq_true, ↓reduceIte] at h
  obtain ⟨after, ha, hr⟩ := bind_eq_ok h
  cases hr
  obtain ⟨hall, hk⟩ := assignAll_ok ha
  refine ⟨hg.infixes, hg.prefixes, ?_, hg.conditionals, hg.extended hk hall ?_⟩
  · rw [List.map_append, List.nodup_append]
    refine ⟨hg.starts, by simp, ?_⟩
    rintro kind h₁ _ h₂ rfl
    obtain ⟨other, ho, he⟩ := List.mem_map.mp h₁
    obtain rfl : kind = set.start := by simpa using h₂
    exact groupingOf_eq_none.mp hnone other ho he
  · intro role kind hm
    cases role with
    | operator => exact .inl hm
    | conditional => exact .inl hm
    | grouping =>
      rw [kindsOf, groupingKinds, List.flatMap_append, List.mem_append] at hm
      rcases hm with hm | hm
      · exact .inl hm
      · exact .inr ⟨rfl, by simpa using hm⟩

theorem extend_conditional {choice : Conditional K α} (hg : Recorded g roles)
    (h : g.extend roles (.conditional choice) = .ok (g', roles')) : Recorded g' roles' := by
  obtain ⟨after, ha, hr⟩ := bind_eq_ok h
  cases hr
  obtain ⟨hn, hall, hk⟩ := assignDistinct_ok ha
  have he : conditionalKinds { g with conditionals := g.conditionals ++ [choice] } =
      g.conditionalKinds ++ choice.kinds := by simp [conditionalKinds]
  refine ⟨hg.infixes, hg.prefixes, hg.starts, ?_,
    hg.extended hk (fun kind hm => (hall kind hm).2.2) ?_⟩
  · rw [he, List.nodup_append]
    refine ⟨hg.conditionals, hn, ?_⟩
    rintro kind h₁ _ h₂ rfl
    have hnone := (hall kind h₂).2.1
    obtain ⟨c, hc, hm⟩ := List.mem_flatMap.mp h₁
    simp only [List.any_eq_false, decide_eq_true_eq] at hnone
    exact hnone c hc hm
  · intro role kind hm
    cases role with
    | operator => exact .inl hm
    | grouping => exact .inl hm
    | conditional =>
      rw [kindsOf, he, List.mem_append] at hm
      exact hm.imp id fun hm => ⟨rfl, hm⟩

theorem extendAll_ok {definitions : List (Definition K α)} (hg : Recorded g roles)
    (h : extendAll definitions g roles = .ok g') : g'.Unambiguous := by
  induction definitions generalizing g roles with
  | nil =>
    cases h
    exact hg.unambiguous
  | cons definition definitions ih =>
    obtain ⟨⟨next, roles'⟩, he, hr⟩ := bind_eq_ok h
    refine ih ?_ hr
    cases definition with
    | infixes group => exact extend_infixes hg he
    | prefixes group => exact extend_prefixes hg he
    | grouping set => exact extend_grouping hg he
    | conditional choice => exact extend_conditional hg he

theorem unambiguous_of_definitions {definitions : List (Definition K α)}
    (h : ofDefinitions definitions = .ok g) : g.Unambiguous :=
  extendAll_ok recorded_empty h

end Extend

end Parsing.Expression.Grammar

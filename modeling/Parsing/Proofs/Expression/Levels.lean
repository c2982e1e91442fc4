import Parsing.Parser.Derived
import Parsing.Proofs.Expression.Kinds

namespace Parsing.Expression

variable {K V ω α : Type}

structure Level (K ω α : Type) where
  precedence : Int
  associativity : Associativity
  first : K × ω
  more : List (K × ω)
  apply : ω → α → α → α

namespace Level

def operators (level : Level K ω α) : List (K × ω) :=
  level.first :: level.more

def kinds (level : Level K ω α) : List K :=
  level.operators.map Prod.fst

def group (level : Level K ω α) : InfixLevel K α :=
  ⟨level.precedence, level.associativity, level.operators.map fun op => (op.1, level.apply op.2)⟩

def operator (level : Level K ω α) (op : ω) : InfixOperator α :=
  ⟨level.precedence, level.associativity, level.apply op⟩

variable [DecidableEq K] [TokenKind K]

def readOperator (op : K × ω) : Parser K V .tokens ω :=
  (Parser.kind op.1).value op.2

def tier (level : Level K ω α) : Parser.Tier K V .tokens ω α :=
  ⟨level.associativity, Parser.choices (readOperator level.first) (level.more.map readOperator),
    level.apply⟩

end Level

section Grammar

theorem map_fst_group (level : Level K ω α) : level.group.operators.map Prod.fst = level.kinds := by
  simp [Level.group, Level.kinds]

def levelGrammar (levels : List (Level K ω α)) : Grammar K α :=
  ⟨levels.map Level.group, [], [], []⟩

theorem infixKinds_levelGrammar (levels : List (Level K ω α)) :
    (levelGrammar levels).infixKinds = levels.flatMap Level.kinds := by
  simp only [Grammar.infixKinds, levelGrammar, List.flatMap_map, map_fst_group]

theorem infixKind_levelGrammar {levels : List (Level K ω α)} {level : Level K ω α}
    (hl : level ∈ levels) {kind : K} {op : ω} (h : (kind, op) ∈ level.operators) :
    (levelGrammar levels).InfixKind kind (level.operator op) := by
  refine ⟨level.group, List.mem_map_of_mem hl, level.apply op, ?_, rfl⟩
  exact List.mem_map.mpr ⟨(kind, op), h, rfl⟩

variable [DecidableEq K] [TokenKind K]

theorem assign_operator {roles : List (K × Role)} (h : ∀ r ∈ roles, r.2 = .operator) (kind : K) :
    ∃ roles', Grammar.assign roles .operator kind = .ok roles' ∧ ∀ r ∈ roles', r.2 = .operator := by
  unfold Grammar.assign
  cases hf : roles.find? fun r => r.1 = kind with
  | none => exact ⟨_, rfl, by simpa using h⟩
  | some entry =>
    obtain ⟨k, role⟩ := entry
    have hr : role = .operator := h _ (List.mem_of_find?_eq_some hf)
    exact ⟨roles, by simp [hr], h⟩

theorem assignDistinct_operator (known : K → Bool) (duplicate : String → GrammarError)
    (seen : List K) {kinds : List K} (distinct : kinds.Nodup) (unseen : ∀ kind ∈ kinds, kind ∉ seen)
    (unknown : ∀ kind ∈ kinds, known kind = false) {roles : List (K × Role)}
    (h : ∀ r ∈ roles, r.2 = .operator) :
    ∃ roles', Grammar.assignDistinct .operator known duplicate seen kinds roles = .ok roles' ∧
      ∀ r ∈ roles', r.2 = .operator := by
  induction kinds generalizing seen roles with
  | nil => exact ⟨roles, rfl, h⟩
  | cons kind kinds ih =>
    obtain ⟨hn, hd⟩ := List.nodup_cons.mp distinct
    obtain ⟨roles', hr, hr'⟩ := assign_operator h kind
    have hc : ¬ (kind ∈ seen ∨ known kind = true) := by
      simp [unseen kind (by simp), unknown kind (by simp)]
    have hseen : ∀ k ∈ kinds, k ∉ kind :: seen := by
      intro k hk hm
      rcases List.mem_cons.mp hm with rfl | hm
      · exact hn hk
      · exact unseen k (by simp [hk]) hm
    obtain ⟨roles'', he, hr''⟩ := ih (kind :: seen) hd hseen (fun k hk => unknown k (by simp [hk])) hr'
    refine ⟨roles'', ?_, hr''⟩
    rw [Grammar.assignDistinct, if_neg hc, hr]
    exact he

theorem extendAll_levels (before : List (Level K ω α)) {levels : List (Level K ω α)}
    (distinct : ((before ++ levels).flatMap Level.kinds).Nodup) {roles : List (K × Role)}
    (h : ∀ r ∈ roles, r.2 = .operator) :
    Grammar.extendAll (levels.map fun level => .infixes level.group) (levelGrammar before) roles =
      .ok (levelGrammar (before ++ levels)) := by
  induction levels generalizing before roles with
  | nil => simp [Grammar.extendAll]
  | cons level levels ih =>
    have hsplit := distinct
    rw [List.flatMap_append, List.flatMap_cons] at hsplit
    obtain ⟨-, hrest, hdisjoint⟩ := List.nodup_append.mp hsplit
    have unknown : ∀ kind ∈ level.kinds, ((levelGrammar before).infixOf kind).isSome = false := by
      intro kind hk
      have hn : kind ∉ (levelGrammar before).infixKinds := by
        rw [infixKinds_levelGrammar]
        intro hb
        exact hdisjoint kind hb kind (by simp [hk]) rfl
      simp [Grammar.infixOf_eq_none.mpr hn]
    obtain ⟨roles', hr, hr'⟩ := assignDistinct_operator _ (.twoOperators · .between) []
      (List.nodup_append.mp hrest).1 (by simp) unknown h
    have hg : ({ levelGrammar before with
        infixes := (levelGrammar before).infixes ++ [level.group] } : Grammar K α) =
          levelGrammar (before ++ [level]) := by
      simp [levelGrammar]
    have hi := ih (before ++ [level]) (by simpa using distinct) hr'
    simp only [List.map_cons, Grammar.extendAll, Grammar.extend, map_fst_group, hr, ok_bind, hg,
      pure_eq_ok, hi]
    simp

theorem ofDefinitions_levels {levels : List (Level K ω α)}
    (distinct : (levels.flatMap Level.kinds).Nodup) :
    Grammar.ofDefinitions (levels.map fun level => .infixes level.group) =
      .ok (levelGrammar levels) :=
  extendAll_levels [] distinct (by simp)

end Grammar

section Reading

/-- At `k` the reader takes a token for one of the operators, or it fails there and takes nothing. -/
def TakesOperator (reader : Reader (Except Fault) (TokenList K) ω) (operators : List (K × ω))
    (k : TokenView K) : Prop :=
  (∃ token k' op, k.next? = some (token, k') ∧ (token.kind, op) ∈ operators ∧
      reader (some k) = .ok (.success op (some k) (some k'))) ∨
    (∀ token ∈ k.rest.head?, token.kind ∉ operators.map Prod.fst) ∧
      ∃ e, reader (some k) = .ok (.failure e) ∧ e.remainder = some k ∧ e.within = none

variable [TokenKind K]

theorem isCommitted_at {e : Failure (TokenList K)} {k : TokenView K} (hr : e.remainder = some k)
    (hw : e.within = none) : e.isCommitted (some k) = false := by
  have hs : Cursor.same (some k : TokenList K) (some k) = true := by
    simp [Cursor.same, TokenList.same, TokenView.same]
  simp [Failure.isCommitted, Failure.isPartial, hr, hw, hs]

theorem takes_or {p q : Reader (Except Fault) (TokenList K) ω} {op : K × ω}
    {operators : List (K × ω)} {k : TokenView K} (hp : TakesOperator p [op] k)
    (hq : TakesOperator q operators k) :
    TakesOperator (Combinator.or p q) (op :: operators) k := by
  rcases hp with ⟨token, k', o, hn, hm, hr⟩ | ⟨hno, e, he, hrem, hwithin⟩
  · refine .inl ⟨token, k', o, hn, ?_, by simp [Combinator.or, hr]⟩
    exact List.mem_cons.mpr (.inl (List.mem_singleton.mp hm))
  · have hc := isCommitted_at hrem hwithin
    rcases hq with ⟨token, k', o, hn, hm, hr⟩ | ⟨hno', f, hf, hrem', hwithin'⟩
    · exact .inl ⟨token, k', o, hn, List.mem_cons_of_mem _ hm, by simp [Combinator.or, he, hc, hr]⟩
    · refine .inr ⟨?_, e.merge f, by simp [Combinator.or, he, hc, hf], ?_, ?_⟩
      · intro token ht hm
        rcases List.mem_cons.mp hm with hm | hm
        · exact hno token ht (by simp [hm])
        · exact hno' token ht hm
      · unfold Failure.merge
        split
        · exact hrem'
        · split
          · exact hrem'
          · exact hrem
      · unfold Failure.merge
        split
        · exact hwithin'
        · split
          · exact hwithin'
          · exact hwithin

theorem link_ended {operator : Reader (Except Fault) (TokenList K) ω}
    (reader : Reader (Except Fault) (TokenList K) α) {k : TokenView K} {e : Failure (TokenList K)}
    (read : operator (some k) = .ok (.failure e)) (hr : e.remainder = some k) (hw : e.within = none) :
    Combinator.link operator reader (some k) = .ok .ended := by
  simp [Combinator.link, read, isCommitted_at hr hw]

theorem link_read {operator : Reader (Except Fault) (TokenList K) ω}
    {reader : Reader (Except Fault) (TokenList K) α} {k k' k'' : TokenView K} {op : ω} {value : α}
    {token : Token K} {location location' : TokenList K} {tokens : List (Token K)}
    (read : operator (some k) = .ok (.success op location (some k')))
    (next : k.next? = some (token, k'))
    (read' : reader (some k') = .ok (.success value location' (some k''))) (reads : k'.Reads tokens k'') :
    Combinator.link operator reader (some k) = .ok (.linked op value (some k'')) := by
  have hs : Cursor.same (some k'' : TokenList K) (some k) = false := by
    have hi := ((TokenView.reads_next next).trans reads).index
    have hne : k''.index ≠ k.index := by
      simp only [List.length_append, List.length_singleton] at hi
      omega
    simp [Cursor.same, TokenList.same, TokenView.same, hne]
  simp [Combinator.link, read, read', hs]

variable [DecidableEq K] (refer : (i : Medium) → String → Reader (Except Fault) (Input K i) V)

theorem takes_readOperator (op : K × ω) (k : TokenView K) :
    TakesOperator ((Level.readOperator op).denote refer) [op] k := by
  have hd : (Level.readOperator op).denote refer = Combinator.map (fun _ => op.2)
      (Primitive.token (fun token => token.kind = op.1) (TokenKind.whenExpected op.1)) := rfl
  rw [hd]
  cases hn : k.next? with
  | none =>
    refine .inr ⟨by simp [TokenView.next?_eq_none.mp hn], ?_⟩
    exact ⟨.expected (some k) [TokenKind.whenExpected op.1],
      by simp [Combinator.map, Primitive.token, hn, Reply.map], rfl, rfl⟩
  | some item =>
    obtain ⟨token, k'⟩ := item
    by_cases hk : token.kind = op.1
    · refine .inl ⟨token, k', op.2, hn, by simp [hk], ?_⟩
      simp [Combinator.map, Primitive.token, hn, hk, Reply.map]
    · refine .inr ⟨by simp [TokenView.head?_rest hn, hk], ?_⟩
      exact ⟨.expected (some k) [TokenKind.whenExpected op.1],
        by simp [Combinator.map, Primitive.token, hn, hk, Reply.map], rfl, rfl⟩

theorem takes_tier (level : Level K ω α) (k : TokenView K) :
    TakesOperator (level.tier.operator.denote refer) level.operators k := by
  suffices h : ∀ first (more : List (K × ω)), TakesOperator
      ((Parser.choices (Level.readOperator first) (more.map Level.readOperator)).denote refer)
      (first :: more) k from h level.first level.more
  intro first more
  induction more generalizing first with
  | nil => exact takes_readOperator refer first k
  | cons next more ih => exact takes_or (takes_readOperator refer first k) (ih next)

end Reading

end Parsing.Expression

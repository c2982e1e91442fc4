import Mathlib.Data.List.Nodup
import Parsing.Proofs.Reference.Correspondence
import Parsing.Proofs.Remainder.Parser

/-!
A run can be traced: it gives its result together with the references that it comes to. A memoised run
gives the same result, and leaves the cells as the references of its trace fill them one by one.
-/

namespace Parsing

structure Traced (α : Type) where
  result : Except Fault α
  visits : List (Medium × String)

namespace Traced

variable {α : Type}

instance : Monad Traced where
  pure a := ⟨.ok a, []⟩
  bind x f :=
    match x.result with
    | .ok a => ⟨(f a).result, x.visits ++ (f a).visits⟩
    | .error fault => ⟨.error fault, x.visits⟩

instance : MonadExcept Fault Traced where
  throw fault := ⟨.error fault, []⟩
  tryCatch x handle :=
    match x.result with
    | .ok _ => x
    | .error fault => ⟨(handle fault).result, x.visits ++ (handle fault).visits⟩

def visiting (i : Medium) (name : String) (x : Traced α) : Traced α :=
  ⟨x.result, (i, name) :: x.visits⟩

end Traced

variable {K V : Type}

section Traces

variable [DecidableEq K] [TokenKind K]

def Parser.traceDepth (definitions : Definitions K V) :
    Nat → {i : Medium} → {α : Type} → Parser K V i α → Reader Traced (Input K i) α
  | 0, _, _, p => p.denote fun _ _ _ => throw .endless
  | depth + 1, _, _, p => p.denote fun i name input => Traced.visiting i name <|
    match definitions.find? i name with
    | some q => traceDepth definitions depth q input
    | none => throw (.undefined name)

def erasing : Correspondence Traced (Except Fault) where
  Rel x y := x.result = y
  rel_pure _ := rfl
  rel_throw _ := rfl
  rel_bind := by
    rintro α β ⟨result, visits⟩ _ f g rfl hf
    cases result with
    | error fault => rfl
    | ok a => exact hf a

theorem result_traceDepth (definitions : Definitions K V) (depth : Nat) {i : Medium} {α : Type}
    (p : Parser K V i α) (input : Input K i) :
    (p.traceDepth definitions depth input).result = p.runDepth definitions depth input := by
  induction depth generalizing i α with
  | zero => exact Correspondence.readers_denote (R := erasing) (fun _ _ _ => rfl) p input
  | succ depth ih =>
    refine Correspondence.readers_denote (R := erasing) ?_ p input
    intro j name start
    change (match definitions.find? j name with
      | some q => q.traceDepth definitions depth start
      | none => throw (.undefined name) : Traced _).result = _
    cases definitions.find? j name with
    | none => rfl
    | some q => exact ih q start

def deepening : Correspondence Traced Traced where
  Rel x y := x.result = .error .endless ∨ x = y
  rel_pure _ := .inr rfl
  rel_throw _ := .inr rfl
  rel_bind := by
    rintro α β ⟨result, visits⟩ y f g hx hf
    rcases hx with hx | rfl
    · cases hx
      exact .inl rfl
    · cases result with
      | error fault => exact .inr rfl
      | ok a =>
        rcases hf a with h | h
        · exact .inl h
        · exact .inr (by simp only [Bind.bind, h])

theorem traceDepth_deepens (definitions : Definitions K V) {depth more : Nat} (h : depth ≤ more) {i : Medium}
    {α : Type} (p : Parser K V i α) :
    deepening.Readers (p.traceDepth definitions depth) (p.traceDepth definitions more) := by
  induction depth generalizing more i α with
  | zero =>
    have endless : ∀ (j : Medium) (reader : Reader Traced (Input K j) V),
        deepening.Readers (fun _ => throw .endless) reader := fun _ _ _ => .inl rfl
    cases more <;> exact Correspondence.readers_denote (fun _ _ => endless _ _) p
  | succ depth ih =>
    obtain ⟨more, rfl⟩ : ∃ n, more = n + 1 := Nat.exists_eq_add_of_le' (Nat.le_of_add_left_le h)
    refine Correspondence.readers_denote ?_ p
    intro j name start
    dsimp only
    cases definitions.find? j name with
    | none => exact .inr rfl
    | some q =>
      rcases ih (Nat.le_of_succ_le_succ h) q start with endless | same
      · exact .inl endless
      · exact .inr (congrArg _ same)

end Traces

namespace Definitions

variable (d : Definitions K V) (i : Medium) (name : String) (p : Parser K V i V)

theorem find?_insert_self : (d.insert i name p).find? i name = some p := by
  cases i <;> simp [find?, insert, entries]

theorem find?_insert_of_ne {j : Medium} {other : String} (h : (j, other) ≠ (i, name)) :
    (d.insert i name p).find? j other = d.find? j other := by
  have differs : j = i → (other == name) = false := by
    rintro rfl
    simpa using h
  cases i <;> cases j <;> simp [find?, insert, entries, List.lookup_cons, differs]

end Definitions

namespace Cells

structure Faithful (definitions : Definitions K V) (cells : Cells K V) : Prop where
  found : ∀ {j : Medium} {name : String} {p : Parser K V j V}, cells.made.find? j name = some p →
    definitions.find? j name = some p
  called : ∀ j name, (j, name) ∈ cells.calls ↔ (cells.made.find? j name).isSome
  once : cells.calls.Nodup

variable {definitions : Definitions K V} {cells : Cells K V}

theorem faithful_empty : (empty : Cells K V).Faithful definitions := by
  refine ⟨?_, ?_, List.nodup_nil⟩
  · intro j name p h
    cases j <;> cases h
  · intro j name
    cases j <;> simp [empty, Definitions.empty, Definitions.find?, Definitions.entries]

def visit (definitions : Definitions K V) (cells : Cells K V) (call : Medium × String) : Cells K V :=
  (cells.resolve definitions call.1 call.2).2

def visitAll (definitions : Definitions K V) (cells : Cells K V) (visits : List (Medium × String)) :
    Cells K V :=
  visits.foldl (visit definitions) cells

theorem visitAll_append (visits more : List (Medium × String)) :
    cells.visitAll definitions (visits ++ more) =
      (cells.visitAll definitions visits).visitAll definitions more :=
  List.foldl_append

theorem resolve_eq (faithful : cells.Faithful definitions) (i : Medium) (name : String) :
    cells.resolve definitions i name = (definitions.find? i name, cells.visit definitions (i, name)) := by
  unfold visit resolve
  cases made : cells.made.find? i name with
  | some p => rw [faithful.found made]
  | none =>
    cases found : definitions.find? i name with
    | some p => rfl
    | none => rfl

theorem visit_of_made {i : Medium} {name : String} {p : Parser K V i V}
    (made : cells.made.find? i name = some p) : cells.visit definitions (i, name) = cells := by
  simp [visit, resolve, made]

theorem visit_of_undefined {i : Medium} {name : String} (made : cells.made.find? i name = none)
    (found : definitions.find? i name = none) : cells.visit definitions (i, name) = cells := by
  simp [visit, resolve, made, found]

theorem visit_of_found {i : Medium} {name : String} {p : Parser K V i V}
    (made : cells.made.find? i name = none) (found : definitions.find? i name = some p) :
    cells.visit definitions (i, name) = ⟨cells.made.insert i name p, (i, name) :: cells.calls⟩ := by
  simp [visit, resolve, made, found]

theorem Faithful.visit (faithful : cells.Faithful definitions) (call : Medium × String) :
    (cells.visit definitions call).Faithful definitions := by
  obtain ⟨i, name⟩ := call
  cases made : cells.made.find? i name with
  | some p => rwa [visit_of_made made]
  | none =>
    cases found : definitions.find? i name with
    | none => rwa [visit_of_undefined made found]
    | some p =>
      rw [visit_of_found made found]
      refine ⟨?_, ?_, ?_⟩
      · intro j other q h
        by_cases same : (j, other) = (i, name)
        · cases same
          rw [Definitions.find?_insert_self] at h
          exact found.trans h
        · rw [Definitions.find?_insert_of_ne _ _ _ _ same] at h
          exact faithful.found h
      · intro j other
        by_cases same : (j, other) = (i, name)
        · cases same
          simp [Definitions.find?_insert_self]
        · rw [Definitions.find?_insert_of_ne _ _ _ _ same, List.mem_cons, or_iff_right same]
          exact faithful.called j other
      · refine List.nodup_cons.mpr ⟨?_, faithful.once⟩
        rw [faithful.called, made]
        exact Bool.false_ne_true

theorem mem_calls_visit (faithful : cells.Faithful definitions) (call : Medium × String) (j : Medium)
    (other : String) : (j, other) ∈ (cells.visit definitions call).calls ↔
      (j, other) ∈ cells.calls ∨ (definitions.find? j other).isSome ∧ (j, other) = call := by
  obtain ⟨i, name⟩ := call
  cases made : cells.made.find? i name with
  | some p =>
    rw [visit_of_made made]
    refine (or_iff_left_of_imp ?_).symm
    rintro ⟨-, ⟨⟩⟩
    rw [faithful.called, made]
    rfl
  | none =>
    cases found : definitions.find? i name with
    | none =>
      rw [visit_of_undefined made found]
      refine (or_iff_left_of_imp ?_).symm
      rintro ⟨isSome, ⟨⟩⟩
      rw [found] at isSome
      cases isSome
    | some p =>
      rw [visit_of_found made found, List.mem_cons, or_comm]
      refine or_congr_right (and_iff_right_of_imp ?_).symm
      rintro ⟨⟩
      rw [found]
      rfl

theorem Faithful.visitAll (faithful : cells.Faithful definitions) (visits : List (Medium × String)) :
    (cells.visitAll definitions visits).Faithful definitions := by
  induction visits generalizing cells with
  | nil => exact faithful
  | cons call visits ih => exact ih (faithful.visit call)

theorem mem_calls_visitAll (faithful : cells.Faithful definitions) (visits : List (Medium × String))
    (j : Medium) (name : String) : (j, name) ∈ (cells.visitAll definitions visits).calls ↔
      (j, name) ∈ cells.calls ∨ (definitions.find? j name).isSome ∧ (j, name) ∈ visits := by
  induction visits generalizing cells with
  | nil => simp [visitAll]
  | cons call visits ih =>
    change _ ∈ ((cells.visit definitions call).visitAll definitions visits).calls ↔ _
    rw [ih (faithful.visit call), mem_calls_visit faithful, List.mem_cons, and_or_left, or_assoc]

end Cells

section Memoised

def replaying (definitions : Definitions K V) : Correspondence (Memo K V) Traced where
  Rel x y := ∀ cells, cells.Faithful definitions → x cells = (y.result, cells.visitAll definitions y.visits)
  rel_pure _ _ _ := rfl
  rel_throw _ _ _ := rfl
  rel_bind := by
    rintro α β x ⟨result, visits⟩ f g hx hf cells faithful
    have first := hx cells faithful
    cases result with
    | error fault => simp [Bind.bind, first]
    | ok a =>
      have second := hf a _ (faithful.visitAll visits)
      simp only [Bind.bind, first, second, Cells.visitAll_append]

def Memo.runAll {C α : Type} (p : Reader (Memo K V) C α) :
    List C → Cells K V → List (Except Fault (Reply C α)) × Cells K V
  | [], cells => ([], cells)
  | input :: inputs, cells =>
    let (result, cells) := p input cells
    let (results, cells) := runAll p inputs cells
    (result :: results, cells)

theorem runAll_replays {definitions : Definitions K V} {C α : Type} {p : Reader (Memo K V) C α}
    {q : Reader Traced C α} (hp : (replaying definitions).Readers p q) (inputs : List C)
    {cells : Cells K V} (faithful : cells.Faithful definitions) :
    Memo.runAll p inputs cells = (inputs.map fun input => (q input).result,
      cells.visitAll definitions (inputs.flatMap fun input => (q input).visits)) := by
  induction inputs generalizing cells with
  | nil => rfl
  | cons input inputs ih =>
    have rest := ih (faithful.visitAll (q input).visits)
    simp only [Memo.runAll, hp input cells faithful, rest, List.map_cons, List.flatMap_cons,
      Cells.visitAll_append]

variable [DecidableEq K] [TokenKind K]

theorem memoDepth_replays (definitions : Definitions K V) (depth : Nat) {i : Medium} {α : Type}
    (p : Parser K V i α) :
    (replaying definitions).Readers (p.memoDepth definitions depth) (p.traceDepth definitions depth) := by
  induction depth generalizing i α with
  | zero => exact Correspondence.readers_denote (fun _ _ _ => (replaying definitions).rel_throw _) p
  | succ depth ih =>
    refine Correspondence.readers_denote ?_ p
    intro j name start cells faithful
    simp only [Cells.resolve_eq faithful, Traced.visiting]
    cases definitions.find? j name with
    | none => rfl
    | some q => exact ih q start _ (faithful.visit (j, name))

/-- Over a sequence of runs that share their cells, each result is that of a run that looks every reference up
afresh, and each definition is asked for once if one of the runs comes to a reference to it, and else never. -/
theorem memo_transparent (definitions : Definitions K V) {i : Medium} {α : Type} (p : Parser K V i α)
    (depth : Input K i → Nat) (inputs : List (Input K i)) :
    let trace := fun input => p.traceDepth definitions (depth input) input
    let runs := Memo.runAll (fun input => p.memoDepth definitions (depth input) input) inputs .empty
    runs.1 = inputs.map (fun input => p.runDepth definitions (depth input) input) ∧
      (∀ j name, runs.2.calls.count (j, name) ≤ 1) ∧
      (∀ j name, (j, name) ∈ runs.2.calls ↔
        (definitions.find? j name).isSome ∧ ∃ input ∈ inputs, (j, name) ∈ (trace input).visits) ∧
      ∀ input, (trace input).result = p.runDepth definitions (depth input) input ∧
        (p.runDepth definitions (depth input) input ≠ .error .endless →
          ∀ more, depth input ≤ more → p.traceDepth definitions more input = trace input) := by
  intro trace runs
  have replays : (replaying definitions).Readers (fun input => p.memoDepth definitions (depth input) input)
      trace := fun input => memoDepth_replays definitions (depth input) p input
  have faithful : Cells.empty.Faithful definitions := Cells.faithful_empty
  have filled : runs = _ := runAll_replays replays inputs faithful
  have erased : ∀ input, (trace input).result = p.runDepth definitions (depth input) input :=
    fun input => result_traceDepth definitions (depth input) p input
  refine ⟨?_, ?_, ?_, ?_⟩
  · rw [filled]
    exact List.map_congr_left fun input _ => erased input
  · intro j name
    rw [filled]
    exact List.nodup_iff_count_le_one.mp (faithful.visitAll _).once (j, name)
  · intro j name
    rw [filled, Cells.mem_calls_visitAll faithful, List.mem_flatMap]
    exact or_iff_right List.not_mem_nil
  · intro input
    refine ⟨erased input, ?_⟩
    intro ends more deeper
    rcases traceDepth_deepens definitions deeper p input with endless | same
    · exact absurd ((erased input).symm.trans endless) ends
    · exact same.symm

example : (Memo.runAll (nested.runMemo nestedDefinition) [some bracketedText, some bracketedText] .empty).2.calls =
    [(.text, "nested")] := rfl

end Memoised

end Parsing

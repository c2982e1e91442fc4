import Parsing.Kind
import Parsing.Proofs.Remainder.Primitive
import Parsing.Proofs.Remainder.Progress

namespace Parsing

open Combinator

section Folds

variable {α ω : Type} (apply : ω → α → α → α)

def foldLeft (first : α) (links : List (ω × α)) : α :=
  links.foldl (fun acc link => apply link.1 acc link.2) first

def foldRight : α → List (ω × α) → α
  | last, [] => last
  | first, (op, a) :: links => apply op first (foldRight a links)

end Folds

variable {K α ω : Type} [TokenKind K] {i : Medium}

def Forward (p : Reader (Except Fault) (Input K i) α) : Prop :=
  ∀ input a location rest, p input = .ok (.success a location rest) → Input.Leaves input rest

theorem Tracking.forward {p : Reader (Except Fault) (Input K i) α} (hp : Tracking p) : Forward p :=
  fun input _ _ _ h => Input.leaves_of_suffix (hp input _ h).2

inductive Links (operator : Reader (Except Fault) (Input K i) ω)
    (operand : Reader (Except Fault) (Input K i) α) : Input K i → List (ω × α) → Input K i → Prop
  | nil (start : Input K i) : Links operator operand start [] start
  | cons {start middle next rest op a location location' links}
      (first : operator start = .ok (.success op location middle))
      (second : operand middle = .ok (.success a location' next)) (moved : Cursor.same next start = false)
      (more : Links operator operand next links rest) :
      Links operator operand start ((op, a) :: links) rest

def Reached (operator : Reader (Except Fault) (Input K i) ω) (operand : Reader (Except Fault) (Input K i) α)
    (input rest : Input K i) : Prop :=
  ∃ x location start links, operand input = .ok (.success x location start) ∧
    Links operator operand start links rest

section Links

variable {operator : Reader (Except Fault) (Input K i) ω} {operand : Reader (Except Fault) (Input K i) α}
  {start rest : Input K i} {links : List (ω × α)}

def LinkReads (operator : Reader (Except Fault) (Input K i) ω) (operand : Reader (Except Fault) (Input K i) α)
    (start : Input K i) : Link (Input K i) ω α → Prop
  | .linked op a next => ∃ location middle location', operator start = .ok (.success op location middle) ∧
      operand middle = .ok (.success a location' next) ∧ Cursor.same next start = false
  | .broken e => operator start = .ok (.failure e) ∧ e.isCommitted start = true ∨
      ∃ op location middle, operator start = .ok (.success op location middle) ∧
        operand middle = .ok (.failure e)
  | .ended => ∃ e, operator start = .ok (.failure e) ∧ e.isCommitted start = false

theorem linkReads_of_link {l : Link (Input K i) ω α} (h : link operator operand start = .ok l) :
    LinkReads operator operand start l := by
  obtain ⟨⟨op, location, middle⟩ | e, first, h⟩ := bind_eq_ok h
  · obtain ⟨⟨a, location', next⟩ | e, second, h⟩ := bind_eq_ok h
    · dsimp only at h
      split at h
      · obtain ⟨place, -, h⟩ := bind_eq_ok h
        cases h
      · next moved =>
        cases h
        exact ⟨location, middle, location', first, second, by simpa using moved⟩
    · cases h
      exact .inr ⟨op, location, middle, first, second⟩
  · dsimp only at h
    split at h
    · next committed =>
      cases h
      exact .inl ⟨first, committed⟩
    · next free =>
      cases h
      exact ⟨e, first, by simpa using free⟩

theorem link_eq_linked {op : ω} {a : α} {location middle location' next : Input K i}
    (first : operator start = .ok (.success op location middle))
    (second : operand middle = .ok (.success a location' next)) (moved : Cursor.same next start = false) :
    link operator operand start = .ok (.linked op a next) := by
  simp [link, first, second, moved]

def Last (operator : Reader (Except Fault) (Input K i) ω) (operand : Reader (Except Fault) (Input K i) α)
    (rest : Input K i) : Prop :=
  ∀ op a next, link operator operand rest ≠ .ok (.linked op a next)

-- Every link takes an item, so that a chain has a last one.
theorem exists_links (ho : Forward operator) (ha : Forward operand) (start : Input K i) :
    ∃ links rest, Links operator operand start links rest ∧ Last operator operand rest ∧
      links.length ≤ Cursor.left start := by
  induction hn : Cursor.left start using Nat.strongRecOn generalizing start with
  | ind n ih =>
    by_cases last : Last operator operand start
    · exact ⟨[], start, .nil start, last, Nat.zero_le _⟩
    · simp only [Last, ne_eq, Classical.not_forall, Classical.not_not] at last
      obtain ⟨op, a, next, linked⟩ := last
      obtain ⟨location, middle, location', first, second, moved⟩ := linkReads_of_link linked
      have leaves : Input.Leaves start next := (ho _ _ _ _ first).trans (ha _ _ _ _ second)
      have shorter : Cursor.left next < n := by
        rcases leaves.eq_or_lt with rfl | ⟨-, shorter⟩
        · rw [Input.same_refl] at moved
          cases moved
        · exact hn ▸ shorter
      obtain ⟨links, rest, more, last, bound⟩ := ih _ shorter next rfl
      refine ⟨(op, a) :: links, rest, .cons first second moved more, last, ?_⟩
      rw [List.length_cons]
      omega

def closing (operator : Reader (Except Fault) (Input K i) ω) (operand : Reader (Except Fault) (Input K i) α)
    (location rest : Input K i) (value : α) : Except Fault (Reply (Input K i) α) :=
  match link operator operand rest with
  | .error fault => .error fault
  | .ok (.broken e) => .ok (.failure e)
  | .ok _ => .ok (.success value location rest)

variable (apply : ω → α → α → α) (location : Input K i) (rounds : Nat)

theorem chainLeft_links (h : Links operator operand start links rest) (last : Last operator operand rest)
    (acc : α) :
    chainLeft (link operator operand) apply location (links.length + rounds + 1) start acc =
      closing operator operand location rest (foldLeft apply acc links) := by
  induction h generalizing acc with
  | nil start =>
    rw [closing, List.length_nil, Nat.zero_add, chainLeft]
    rcases ended : link operator operand start with fault | ⟨op, a, next⟩ | e | _
    · rfl
    · exact (last op a next ended).elim
    · rfl
    · rfl
  | @cons start middle next rest op a _ _ links first second moved more ih =>
    rw [List.length_cons, Nat.add_right_comm links.length 1, chainLeft, link_eq_linked first second moved]
    exact ih last _

theorem chainRight_links (h : Links operator operand start links rest) (last : Last operator operand rest)
    (pending : List (α × ω)) (x : α) :
    chainRight (link operator operand) apply location (links.length + rounds + 1) start pending x =
      closing operator operand location rest
        (pending.foldl (fun acc link => apply link.2 link.1 acc) (foldRight apply x links)) := by
  -- The operands that are held are folded behind what follows them, one more with each link.
  induction h generalizing pending x with
  | nil start =>
    rw [closing, List.length_nil, Nat.zero_add, chainRight]
    rcases ended : link operator operand start with fault | ⟨op, a, next⟩ | e | _
    · rfl
    · exact (last op a next ended).elim
    · rfl
    · rfl
  | @cons start middle next rest op a _ _ links first second moved more ih =>
    rw [List.length_cons, Nat.add_right_comm links.length 1, chainRight, link_eq_linked first second moved]
    exact ih last _ _

end Links

/-- Chains from the left and from the right fail alike or raise the same fault, or they read the same first
operand and links up to the same place, where no operator follows; each then folds its own way. -/
theorem chain_folds (operator : Reader (Except Fault) (Input K i) ω)
    (operand : Reader (Except Fault) (Input K i) α) (ho : Forward operator) (ha : Forward operand)
    (apply : ω → α → α → α) (input : Input K i) :
    (∃ e, (∀ associativity, chain associativity operator operand apply input = .ok (.failure e)) ∧
      (operand input = .ok (.failure e) ∨
        ∃ rest, Reached operator operand input rest ∧ link operator operand rest = .ok (.broken e))) ∨
    (∃ fault, (∀ associativity, chain associativity operator operand apply input = .error fault) ∧
      (operand input = .error fault ∨
        ∃ rest, Reached operator operand input rest ∧ link operator operand rest = .error fault)) ∨
    ∃ x location start links rest e,
      operand input = .ok (.success x location start) ∧ Links operator operand start links rest ∧
      operator rest = .ok (.failure e) ∧ e.isCommitted rest = false ∧
      chain .left operator operand apply input = .ok (.success (foldLeft apply x links) input rest) ∧
      chain .right operator operand apply input = .ok (.success (foldRight apply x links) input rest) := by
  rcases read : operand input with fault | ⟨x, location, start⟩ | e
  · exact .inr (.inl ⟨fault, fun _ => by simp [chain, read], .inl rfl⟩)
  · obtain ⟨links, rest, reads, last, bound⟩ := exists_links ho ha start
    have reached : Reached operator operand input rest := ⟨x, location, start, links, read, reads⟩
    have enough : rounds start = links.length + (Cursor.left start - links.length) + 1 := by
      rw [rounds]
      omega
    have left : chain .left operator operand apply input =
        closing operator operand input rest (foldLeft apply x links) := by
      rw [← chainLeft_links apply input (Cursor.left start - links.length) reads last x, ← enough]
      simp [chain, read]
    have right : chain .right operator operand apply input =
        closing operator operand input rest (foldRight apply x links) := by
      have folded := chainRight_links apply input (Cursor.left start - links.length) reads last [] x
      rw [List.foldl_nil, ← enough] at folded
      rw [← folded]
      simp [chain, read]
    rw [closing] at left right
    rcases ended : link operator operand rest with fault | ⟨op, a, next⟩ | e | _
    · rw [ended] at left right
      refine .inr (.inl ⟨fault, ?_, .inr ⟨rest, reached, ended⟩⟩)
      rintro (_ | _)
      · exact left
      · exact right
    · exact (last op a next ended).elim
    · rw [ended] at left right
      refine .inl ⟨e, ?_, .inr ⟨rest, reached, ended⟩⟩
      rintro (_ | _)
      · exact left
      · exact right
    · rw [ended] at left right
      obtain ⟨e, fails, free⟩ := linkReads_of_link ended
      exact .inr (.inr ⟨x, location, start, links, rest, e, rfl, reads, fails, free, left, right⟩)
  · exact .inl ⟨e, fun _ => by simp [chain, read], .inl rfl⟩

section Differences

def minus : Reader (Except Fault) Span Char :=
  Primitive.one (· == '-') ["minus"]

def figure : Reader (Except Fault) Span Int :=
  Combinator.map (fun c => (c.toNat : Int) - 48) (Primitive.one Char.isDigit ["digit"])

def differences : Span :=
  some (.ofSource ⟨0, ['7', '-', '2', '-', '1', '.']⟩)

-- `7-2-1` is `(7-2)-1` from the left and `7-(2-1)` from the right.
theorem chain_folds_differences :
    ∃ (x : Int) (links : List (Char × Int)) (rest : Span) (e : Failure Span),
      minus rest = .ok (.failure e) ∧ e.isCommitted rest = false ∧
      foldLeft (fun _ a b => a - b) x links = 4 ∧ foldRight (fun _ a b => a - b) x links = 6 ∧
      chain .left minus figure (fun _ a b => a - b) differences = .ok (.success 4 differences rest) ∧
      chain .right minus figure (fun _ a b => a - b) differences = .ok (.success 6 differences rest) := by
  obtain ⟨rest, left⟩ : ∃ rest, chain .left minus figure (fun _ a b => a - b) differences =
      .ok (.success 4 differences rest) := ⟨_, rfl⟩
  obtain ⟨rest', right⟩ : ∃ rest, chain .right minus figure (fun _ a b => a - b) differences =
      .ok (.success 6 differences rest) := ⟨_, rfl⟩
  have forward : Forward (K := Kind) (i := .text) minus := Tracking.forward (tracking_one _ _)
  have forward' : Forward (K := Kind) (i := .text) figure := Tracking.forward ((tracking_one _ _).map _)
  obtain ⟨e, fails, -⟩ | ⟨fault, raises, -⟩ |
      ⟨x, location, start, links, last, e, -, -, ended, free, folded, folded'⟩ :=
    chain_folds (K := Kind) (i := .text) minus figure forward forward' (fun _ a b => a - b) differences
  · cases left.symm.trans (fails .left)
  · cases left.symm.trans (raises .left)
  · obtain ⟨four, rfl⟩ : foldLeft (fun _ a b => a - b) x links = 4 ∧ last = rest := by
      simpa using folded.symm.trans left
    obtain ⟨six, rfl⟩ : foldRight (fun _ a b => a - b) x links = 6 ∧ last = rest' := by
      simpa using folded'.symm.trans right
    exact ⟨x, links, last, e, ended, free, four, six, left, right⟩

end Differences

end Parsing

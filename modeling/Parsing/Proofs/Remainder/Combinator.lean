import Parsing.Parser.Reference
import Parsing.Proofs.Remainder.Cursor

/-!
A success is located at the input that was given, and what a reply leaves is a suffix of it, if that
holds of the readers that are combined. Readers run in any monad of which it can be said what its
results satisfy.
-/

namespace Parsing

universe v

class Ensuring (m : Type → Type v) [Monad m] [MonadExcept Fault m] where
  Ensures : {α : Type} → m α → (α → Prop) → Prop
  ensures_pure : {α : Type} → {a : α} → {P : α → Prop} → P a → Ensures (pure a) P
  ensures_throw : {α : Type} → {fault : Fault} → {P : α → Prop} → Ensures (throw fault) P
  ensures_bind : {α β : Type} → {x : m α} → {f : α → m β} → {P : α → Prop} → {Q : β → Prop} →
    Ensures x P → (∀ a, P a → Ensures (f a) Q) → Ensures (x >>= f) Q
  ensures_mono : {α : Type} → {x : m α} → {P Q : α → Prop} → Ensures x P → (∀ a, P a → Q a) →
    Ensures x Q

open Ensuring

instance : Ensuring (Except Fault) where
  Ensures x P := ∀ a, x = .ok a → P a
  ensures_pure := by
    rintro α a P h b ⟨⟩
    exact h
  ensures_throw := by
    rintro α fault P a ⟨⟩
  ensures_bind := by
    intro α β x f P Q hx hf b hb
    obtain ⟨a, ha, hr⟩ := bind_eq_ok hb
    exact hf a (hx a ha) b hr
  ensures_mono := by
    intro α x P Q hx h a ha
    exact h a (hx a ha)

instance {K V : Type} : Ensuring (Memo K V) where
  Ensures x P := ∀ cells a, (x cells).1 = .ok a → P a
  ensures_pure := by
    rintro α a P h cells b ⟨⟩
    exact h
  ensures_throw := by
    rintro α fault P cells a ⟨⟩
  ensures_bind := by
    intro α β x f P Q hx hf cells b hb
    cases hr : x cells with
    | mk result after =>
      cases result with
      | ok a =>
        have hc : ((x >>= f) cells).1 = (f a after).1 := by simp [Bind.bind, hr]
        exact hf a (hx cells a (by rw [hr])) after b (hc.symm.trans hb)
      | error e =>
        have hc : ((x >>= f) cells).1 = .error e := by simp [Bind.bind, hr]
        cases hc.symm.trans hb
  ensures_mono := by
    intro α x P Q hx h cells a ha
    exact h a (hx cells a ha)

section Rules

variable {m : Type → Type v} [Monad m] [MonadExcept Fault m] [Ensuring m] {α : Type} {P : α → Prop}

theorem ensures_ite {c : Prop} [Decidable c] {x y : m α} (hx : Ensures x P) (hy : Ensures y P) :
    Ensures (if c then x else y) P := by
  split
  · exact hx
  · exact hy

theorem ensures_ofExcept {x : Except Fault α} (h : ∀ a, x = .ok a → P a) :
    Ensures (MonadExcept.ofExcept x : m α) P := by
  cases x with
  | error fault => exact ensures_throw
  | ok a => exact ensures_pure (h a rfl)

end Rules

def Reply.Tracks {C α : Type} [Cursor C] (input : C) : Reply C α → Prop
  | .success _ location rest => location = input ∧ Suffix input rest
  | .failure e => Suffix input e.remainder

section Readers

variable {m : Type → Type v} [Monad m] [MonadExcept Fault m] [Ensuring m] {C α β ω : Type} [Cursor C]

def Tracking (p : Reader m C α) : Prop :=
  ∀ input, Ensures (p input) (Reply.Tracks input)

def Advancing (p : Reader m C α) : Prop :=
  ∀ input, Ensures (p input) fun reply => Suffix input reply.remainder

theorem Tracking.advancing {p : Reader m C α} (hp : Tracking p) : Advancing p := by
  intro input
  apply ensures_mono (hp input)
  rintro (⟨a, location, rest⟩ | e) h
  · exact h.2
  · exact h

variable {p q : Reader m C α}

theorem Tracking.map (hp : Tracking p) (f : α → β) : Tracking (Combinator.map f p) := by
  intro input
  apply ensures_bind (hp input)
  rintro (⟨a, location, rest⟩ | e) h
  · exact ensures_pure h
  · exact ensures_pure h

theorem Tracking.bind {q : α → Reader m C β} (hp : Tracking p) (hq : ∀ a, Tracking (q a)) :
    Tracking (Combinator.bind p q) := by
  intro input
  apply ensures_bind (hp input)
  rintro (⟨a, location, rest⟩ | e) h
  · apply ensures_bind (hq a rest)
    rintro (⟨b, location', rest'⟩ | e) h'
    · exact ensures_pure ⟨rfl, h.2.trans h'.2⟩
    · exact ensures_pure (h.2.trans h')
  · exact ensures_pure h

theorem Tracking.seq {q : Reader m C β} (hp : Tracking p) (hq : Tracking q) :
    Tracking (Combinator.seq p q) := by
  intro input
  apply ensures_bind (hp input)
  rintro (⟨a, location, rest⟩ | e) h
  · apply ensures_bind (hq rest)
    rintro (⟨b, location', rest'⟩ | e) h'
    · exact ensures_pure ⟨rfl, h.2.trans h'.2⟩
    · exact ensures_pure (h.2.trans h')
  · exact ensures_pure h

theorem tracking_succeed (a : α) : Tracking (Combinator.succeed a : Reader m C α) :=
  fun input => ensures_pure ⟨rfl, .refl input⟩

theorem Tracking.reporting (hp : Tracking p) (text : String) :
    Tracking (Combinator.reporting p text) := by
  intro input
  apply ensures_bind (hp input)
  rintro (⟨a, location, rest⟩ | e) h
  · exact ensures_pure h
  · exact ensures_pure h

theorem suffix_merge {input : C} {e f : Failure C} (he : Suffix input e.remainder)
    (hf : Suffix input f.remainder) : Suffix input (e.merge f).remainder := by
  unfold Failure.merge
  split
  · exact hf
  · split
    · exact hf
    · exact he

theorem Tracking.or (hp : Tracking p) (hq : Tracking q) : Tracking (Combinator.or p q) := by
  intro input
  apply ensures_bind (hp input)
  rintro (⟨a, location, rest⟩ | e) h
  · exact ensures_pure h
  · apply ensures_ite (ensures_pure h)
    apply ensures_bind (hq input)
    rintro (⟨b, location', rest'⟩ | f) h'
    · exact ensures_pure h'
    · exact ensures_pure (suffix_merge h h')

theorem Tracking.attempt (hp : Tracking p) : Tracking (Combinator.attempt p) := by
  intro input
  apply ensures_bind (hp input)
  rintro (⟨a, location, rest⟩ | e) h
  · exact ensures_pure h
  · exact ensures_ite (ensures_pure (.refl input)) (ensures_pure h)

theorem Tracking.labelled (hp : Tracking p) (name : String) :
    Tracking (Combinator.labelled p name) := by
  intro input
  apply ensures_bind (hp input)
  rintro (⟨a, location, rest⟩ | e) h
  · exact ensures_pure h
  · exact ensures_ite (ensures_pure h) (ensures_pure h)

theorem Tracking.guard (hp : Tracking p) (accepts : α → Bool) (expectation : String) :
    Tracking (Combinator.guard p accepts expectation) := by
  intro input
  apply ensures_bind (hp input)
  rintro (⟨a, location, rest⟩ | e) h
  · exact ensures_ite (ensures_pure h) (ensures_pure (.refl input))
  · exact ensures_pure h

theorem Tracking.optional (hp : Tracking p) : Tracking (Combinator.optional p) := by
  intro input
  apply ensures_bind (hp input)
  rintro (⟨a, location, rest⟩ | e) h
  · exact ensures_pure h
  · exact ensures_ite (ensures_pure h) (ensures_pure ⟨rfl, .refl input⟩)

theorem Tracking.notFollowedBy (hp : Tracking p) : Tracking (Combinator.notFollowedBy p) := by
  intro input
  apply ensures_bind (hp input)
  rintro (⟨a, location, rest⟩ | e) h
  · apply ensures_bind (ensures_ofExcept fun _ _ => trivial)
    intro matched _
    exact ensures_pure (.refl input)
  · exact ensures_pure ⟨rfl, .refl input⟩

theorem Tracking.whole (hp : Tracking p) : Tracking (Combinator.whole p) := by
  intro input
  apply ensures_bind (hp input)
  rintro (⟨a, location, rest⟩ | e) h
  · apply ensures_bind (ensures_ofExcept fun _ _ => trivial)
    intro atEnd _
    exact ensures_ite (ensures_pure h) (ensures_pure h.2)
  · exact ensures_pure h

theorem ensures_drop (count : Nat) (input : C) :
    Ensures (Combinator.drop count input : m C) (Suffix input) := by
  induction count generalizing input with
  | zero => exact ensures_pure (.refl input)
  | succ count ih =>
    apply ensures_bind (ensures_ofExcept fun _ h => h)
    rintro (_ | rest) h
    · exact ensures_pure (.refl input)
    · apply ensures_mono (ih rest)
      intro last hl
      exact (suffix_of_tail h).trans hl

theorem tracking_fail (skip : Nat) (report : Failure Unit) :
    Tracking (Combinator.fail skip report : Reader m C α) := by
  intro input
  apply ensures_bind (ensures_drop skip input)
  intro rest h
  exact ensures_pure h

end Readers

end Parsing

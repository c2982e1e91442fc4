import Mathlib.Data.List.Forall2
import Mathlib.Data.Option.Basic
import Parsing.Combinator.Chain
import Parsing.Primitive.Text
import Parsing.Proofs.Text.Located

/-!
Two readers are given two views of the same text, wherever these lie; both then reply equally far on,
with related values or with the same report, or both raise the same fault. Combinators look at no more
than the distances between cursors, so they keep to this.
-/

namespace Parsing

def Fault.unplaced : Fault → Fault
  | .zeroWidth _ => .zeroWidth .zero
  | .zeroWidthLink _ => .zeroWidthLink .zero
  | fault => fault

section Results

variable {α β γ δ : Type}

inductive Concur (R : α → β → Prop) : Except Fault α → Except Fault β → Prop where
  | ok {a : α} {b : β} (related : R a b) : Concur R (.ok a) (.ok b)
  | fault {e f : Fault} (same : e.unplaced = f.unplaced) : Concur R (.error e) (.error f)

variable {R : α → β → Prop} {Q : γ → δ → Prop}

theorem Concur.bind {x : Except Fault α} {y : Except Fault β} {f : α → Except Fault γ}
    {g : β → Except Fault δ} (h : Concur R x y) (hf : ∀ a b, R a b → Concur Q (f a) (g b)) :
    Concur Q (x >>= f) (y >>= g) := by
  cases h with
  | ok related => exact hf _ _ related
  | fault same => exact .fault same

theorem Concur.mono {R' : α → β → Prop} {x : Except Fault α} {y : Except Fault β} (h : Concur R x y)
    (hr : ∀ a b, R a b → R' a b) : Concur R' x y := by
  cases h with
  | ok related => exact .ok (hr _ _ related)
  | fault same => exact .fault same

theorem Concur.ite {c d : Bool} {x x' : Except Fault α} {y y' : Except Fault β} (hc : c = d)
    (ht : Concur R x y) (he : Concur R x' y') :
    Concur R (if c = true then x else x') (if d = true then y else y') := by
  subst hc
  cases c with
  | true => exact ht
  | false => exact he

end Results

inductive Abreast (v w : View) : Span → Span → Prop where
  | after {cs : List Char} {v' w' : View} (hv : v.Reads cs v') (hw : w.Reads cs w') :
      Abreast v w (some v') (some w')

section Abreast

variable {v w v' w' : View} {cs : List Char} {s t s' t' : Span}

theorem Abreast.refl (v w : View) : Abreast v w (some v) (some w) :=
  .after (.refl v) (.refl w)

theorem Abreast.of_reads (hv : v.Reads cs v') (hw : w.Reads cs w') (h : Abreast v' w' s t) :
    Abreast v w s t := by
  obtain ⟨hv', hw'⟩ := h
  exact .after (hv.trans hv') (hw.trans hw')

theorem same_of_reads {a b : View} {xs ys : List Char} (ha : v.Reads xs a) (hb : v.Reads ys b) :
    a.same b = (byteLength xs == byteLength ys) := by
  have hoa := ha.offset
  have hob := hb.offset
  have hs : a.stop = b.stop := ha.stop.trans hb.stop.symm
  have hid : a.source.id = b.source.id := by rw [ha.source, hb.source]
  rw [View.same, hid, hs, hoa, hob, Bool.eq_iff_iff]
  simp

theorem Abreast.same (h : Abreast v w s t) (h' : Abreast v w s' t') :
    Cursor.same s s' = Cursor.same t t' := by
  obtain ⟨hv, hw⟩ := h
  obtain ⟨hv', hw'⟩ := h'
  exact (same_of_reads hv hv').trans (same_of_reads hw hw').symm

theorem Abreast.offset_lt (h : Abreast v w s t) (h' : Abreast v w s' t') :
    Cursor.offset s < Cursor.offset s' ↔ Cursor.offset t < Cursor.offset t' := by
  obtain @⟨_, a, b, hv, hw⟩ := h
  obtain @⟨_, a', b', hv', hw'⟩ := h'
  change a.position.offset < a'.position.offset ↔ b.position.offset < b'.position.offset
  rw [hv.offset, hv'.offset, hw.offset, hw'.offset]
  omega

end Abreast

structure Failure.Abreast (v w : View) (e f : Failure Span) : Prop where
  remainder : Parsing.Abreast v w e.remainder f.remainder
  within : e.within.isSome = f.within.isSome
  message : e.message = f.message
  expectations : e.expectations = f.expectations
  backtrack : e.backtrack = f.backtrack

inductive Reply.Abreast {α : Type} (R : α → α → Prop) (v w : View) : Reply Span α → Reply Span α → Prop where
  | success {a b : α} {location location' s t : Span} (related : R a b) (rest : Parsing.Abreast v w s t) :
      Abreast R v w (.success a location s) (.success b location' t)
  | failure {e f : Failure Span} (alike : e.Abreast v w f) : Abreast R v w (.failure e) (.failure f)

section Failures

variable {v w v' w' : View} {cs : List Char} {e f e' f' : Failure Span}

theorem Failure.Abreast.of_reads (hv : v.Reads cs v') (hw : w.Reads cs w')
    (h : e.Abreast v' w' f) : e.Abreast v w f :=
  ⟨h.remainder.of_reads hv hw, h.within, h.message, h.expectations, h.backtrack⟩

theorem Reply.Abreast.of_reads {α : Type} {R : α → α → Prop} {r r' : Reply Span α}
    (hv : v.Reads cs v') (hw : w.Reads cs w') (h : r.Abreast R v' w' r') : r.Abreast R v w r' := by
  cases h with
  | success related rest => exact .success related (rest.of_reads hv hw)
  | failure alike => exact .failure (alike.of_reads hv hw)

theorem abreast_expected {s t : Span} (h : Abreast v w s t) (expectations : List String) :
    (Failure.expected s expectations).Abreast v w (.expected t expectations) :=
  ⟨h, rfl, rfl, rfl, rfl⟩

theorem Failure.Abreast.isPartial (h : e.Abreast v w f) :
    e.isPartial (some v) = f.isPartial (some w) := by
  rw [Failure.isPartial, Failure.isPartial, h.remainder.same (.refl v w), h.within]

theorem Failure.Abreast.isCommitted (h : e.Abreast v w f) :
    e.isCommitted (some v) = f.isCommitted (some w) := by
  rw [Failure.isCommitted, Failure.isCommitted, h.isPartial, h.backtrack]

theorem Failure.Abreast.merge (h : e.Abreast v w f) (h' : e'.Abreast v w f') :
    (e.merge e').Abreast v w (f.merge f') := by
  unfold Failure.merge
  rw [h.remainder.same h'.remainder]
  split
  · exact ⟨h'.remainder, h'.within, by rw [h.message, h'.message],
      by rw [h.expectations, h'.expectations], h'.backtrack⟩
  · by_cases further : Cursor.offset e.remainder < Cursor.offset e'.remainder
    · rw [if_pos further, if_pos ((h.remainder.offset_lt h'.remainder).mp further)]
      exact h'
    · rw [if_neg further, if_neg (mt (h.remainder.offset_lt h'.remainder).mpr further)]
      exact h

end Failures

structure Similarity where
  Related : View → View → Prop
  chars : ∀ {v w : View}, Related v w → v.chars = w.chars
  reads : ∀ {v w v' w' : View} {cs : List Char}, Related v w → v.Reads cs v' → w.Reads cs w' →
    Related v' w'
  first : ∀ {v w : View}, Related v w → ∀ count, Related (v.first count) (w.first count)

def Paired {α : Type} (S : Similarity) (R : α → α → Prop) (p q : Reader (Except Fault) Span α) : Prop :=
  ∀ v w, S.Related v w → Concur (Reply.Abreast R v w) (p (some v)) (q (some w))

variable {S : Similarity} {α β ω : Type} {R : α → α → Prop} {Q : β → β → Prop} {W : ω → ω → Prop}
  {p p' : Reader (Except Fault) Span α}

theorem Similarity.length {v w : View} (h : S.Related v w) : v.length = w.length := by
  rw [v.length_eq, w.length_eq, S.chars h]

theorem Similarity.rounds {v w : View} (h : S.Related v w) :
    Combinator.rounds (some v : Span) = Combinator.rounds (some w : Span) := by
  change v.length + 1 = w.length + 1
  rw [S.length h]

section Primitives

theorem Similarity.next {v w : View} (h : S.Related v w) :
    (Span.next? (some v) = .ok none ∧ Span.next? (some w) = .ok none) ∨
      ∃ c v' w', Span.next? (some v) = .ok (some (c, some v')) ∧
        Span.next? (some w) = .ok (some (c, some w')) ∧ v.Reads [c] v' ∧ w.Reads [c] w' := by
  have hc := S.chars h
  cases hv : v.chars with
  | nil =>
    rw [hv] at hc
    have hn : v.next? = none := View.next?_eq_none.mpr hv
    have hn' : w.next? = none := View.next?_eq_none.mpr hc.symm
    refine .inl ⟨?_, ?_⟩
    · simp [Span.next?, Span.view, hn]
    · simp [Span.next?, Span.view, hn']
  | cons c cs =>
    rw [hv] at hc
    obtain ⟨v', hn, -⟩ := View.exists_next hv
    obtain ⟨w', hn', -⟩ := View.exists_next hc.symm
    refine .inr ⟨c, v', w', ?_, ?_, View.reads_next hn, View.reads_next hn'⟩
    · simp [Span.next?, Span.view, hn]
    · simp [Span.next?, Span.view, hn']

theorem paired_one (accepts : Char → Bool) (expectations : List String) :
    Paired S Eq (Primitive.one accepts expectations) (Primitive.one accepts expectations) := by
  intro v w h
  have refused := abreast_expected (.refl v w) expectations
  rcases S.next h with ⟨hv, hw⟩ | ⟨c, v', w', hv, hw, rv, rw'⟩
  · simp only [Primitive.one, ofExcept_eq, hv, hw, ok_bind]
    exact .ok (.failure refused)
  · simp only [Primitive.one, ofExcept_eq, hv, hw, ok_bind]
    exact .ite rfl (.ok (.success rfl (.after rv rw'))) (.ok (.failure refused))

theorem matchText_abreast (ignoreCase : Bool) (text : List Char) {v w : View} (h : S.Related v w) :
    ∃ s t missing, Primitive.matchText ignoreCase text (some v) = .ok (s, missing) ∧
      Primitive.matchText ignoreCase text (some w) = .ok (t, missing) ∧ Abreast v w s t := by
  induction text generalizing v w with
  | nil => exact ⟨_, _, none, rfl, rfl, .refl v w⟩
  | cons expected more ih =>
    rcases S.next h with ⟨hv, hw⟩ | ⟨c, v', w', hv, hw, rv, rw'⟩
    · refine ⟨some v, some w, some expected, ?_, ?_, .refl v w⟩
      · simp [Primitive.matchText, hv]
      · simp [Primitive.matchText, hw]
    · simp only [Primitive.matchText, hv, hw, ok_bind]
      split
      · obtain ⟨s, t, missing, hs, ht, abreast⟩ := ih (S.reads h rv rw')
        exact ⟨s, t, missing, hs, ht, abreast.of_reads rv rw'⟩
      · exact ⟨some v, some w, some expected, rfl, rfl, .refl v w⟩

theorem Similarity.upTo {v w : View} (h : S.Related v w) {s t : Span} (abreast : Abreast v w s t) :
    ∃ a b, Span.upTo (some v) s = .ok a ∧ Span.upTo (some w) t = .ok b ∧ S.Related a b := by
  obtain ⟨hv, hw⟩ := abreast
  exact ⟨_, _, hv.upTo, hw.upTo, S.first h _⟩

theorem paired_literal (text : String) (ignoreCase : Bool) :
    Paired S S.Related (Primitive.literal text ignoreCase) (Primitive.literal text ignoreCase) := by
  intro v w h
  obtain ⟨s, t, missing, hs, ht, abreast⟩ := matchText_abreast ignoreCase text.toList h
  simp only [Primitive.literal, ofExcept_eq, hs, ht, ok_bind]
  cases missing with
  | none =>
    obtain ⟨a, b, ha, hb, related⟩ := S.upTo h abreast
    simp only [ha, hb, ok_bind]
    exact .ok (.success related abreast)
  | some expected =>
    refine .ite (abreast.same (.refl v w)) (.ok (.failure ?_)) (.ok (.failure ?_))
    · exact abreast_expected (.refl v w) _
    · exact abreast_expected abreast _

theorem View.reads_dropRun (v : View) (accepts : Char → Bool) :
    v.Reads (v.chars.takeWhile accepts) (Primitive.dropRun accepts v) := by
  have skipped := v.reads_skip (v.chars.takeWhile accepts).length
  rwa [← List.prefix_iff_eq_take.mp (List.takeWhile_prefix accepts)] at skipped

theorem paired_takeWhile (accepts : Char → Bool) (name : Option String) :
    Paired S S.Related (Primitive.takeWhile accepts name) (Primitive.takeWhile accepts name) := by
  intro v w h
  have run := w.reads_dropRun accepts
  rw [← S.chars h] at run
  have abreast := Abreast.after (v.reads_dropRun accepts) run
  obtain ⟨a, b, ha, hb, related⟩ := S.upTo h abreast
  have stays : Span.same (some (Primitive.dropRun accepts v)) (some v) =
      Span.same (some (Primitive.dropRun accepts w)) (some w) := abreast.same (.refl v w)
  simp only [Primitive.takeWhile, ofExcept_eq, Span.view, ok_bind, stays, ha, hb]
  split
  · exact .ok (.failure (abreast_expected (.refl v w) _))
  · exact .ok (.success related abreast)

end Primitives

section Combinators

theorem Paired.map (hp : Paired S R p p') {f g : α → β} (hf : ∀ a b, R a b → Q (f a) (g b)) :
    Paired S Q (Combinator.map f p) (Combinator.map g p') := by
  intro v w h
  apply (hp v w h).bind
  rintro _ _ (⟨related, rest⟩ | ⟨he⟩)
  · exact .ok (.success (hf _ _ related) rest)
  · exact .ok (.failure he)

theorem Paired.bind {q q' : α → Reader (Except Fault) Span β} (hp : Paired S R p p')
    (hq : ∀ a b, R a b → Paired S Q (q a) (q' b)) :
    Paired S Q (Combinator.bind p q) (Combinator.bind p' q') := by
  intro v w h
  apply (hp v w h).bind
  rintro _ _ (⟨related, hv, hw⟩ | ⟨he⟩)
  · apply (hq _ _ related _ _ (S.reads h hv hw)).bind
    rintro _ _ (⟨related', rest⟩ | ⟨he⟩)
    · exact .ok (.success related' (rest.of_reads hv hw))
    · exact .ok (.failure (he.of_reads hv hw))
  · exact .ok (.failure he)

theorem Paired.seq {q q' : Reader (Except Fault) Span β} (hp : Paired S R p p') (hq : Paired S Q q q') :
    Paired S (fun x y => R x.1 y.1 ∧ Q x.2 y.2) (Combinator.seq p q) (Combinator.seq p' q') := by
  intro v w h
  apply (hp v w h).bind
  rintro _ _ (⟨related, hv, hw⟩ | ⟨he⟩)
  · apply (hq _ _ (S.reads h hv hw)).bind
    rintro _ _ (⟨related', rest⟩ | ⟨he⟩)
    · exact .ok (.success ⟨related, related'⟩ (rest.of_reads hv hw))
    · exact .ok (.failure (he.of_reads hv hw))
  · exact .ok (.failure he)

theorem paired_succeed {a b : α} (related : R a b) :
    Paired S R (Combinator.succeed a) (Combinator.succeed b) :=
  fun v w _ => .ok (.success related (.refl v w))

theorem Paired.reporting (hp : Paired S R p p') (text : String) :
    Paired S R (Combinator.reporting p text) (Combinator.reporting p' text) := by
  intro v w h
  apply (hp v w h).bind
  rintro _ _ (⟨related, rest⟩ | ⟨he⟩)
  · exact .ok (.success related rest)
  · exact .ok (.failure ⟨he.remainder, he.within, rfl, he.expectations, he.backtrack⟩)

theorem Paired.or {q q' : Reader (Except Fault) Span α} (hp : Paired S R p p') (hq : Paired S R q q') :
    Paired S R (Combinator.or p q) (Combinator.or p' q') := by
  intro v w h
  apply (hp v w h).bind
  rintro _ _ (⟨related, rest⟩ | ⟨he⟩)
  · exact .ok (.success related rest)
  · apply Concur.ite he.isCommitted (.ok (.failure he))
    apply (hq v w h).bind
    rintro _ _ (⟨related, rest⟩ | ⟨hf⟩)
    · exact .ok (.success related rest)
    · exact .ok (.failure (he.merge hf))

theorem Paired.attempt (hp : Paired S R p p') :
    Paired S R (Combinator.attempt p) (Combinator.attempt p') := by
  intro v w h
  apply (hp v w h).bind
  rintro _ _ (⟨related, rest⟩ | ⟨he⟩)
  · exact .ok (.success related rest)
  · apply Concur.ite he.isPartial
    · exact .ok (.failure ⟨.refl v w, rfl, he.message, rfl, rfl⟩)
    · exact .ok (.failure ⟨he.remainder, he.within, he.message, he.expectations, rfl⟩)

theorem Paired.labelled (hp : Paired S R p p') (name : String) :
    Paired S R (Combinator.labelled p name) (Combinator.labelled p' name) := by
  intro v w h
  apply (hp v w h).bind
  rintro _ _ (⟨related, rest⟩ | ⟨he⟩)
  · exact .ok (.success related rest)
  · exact .ite he.isPartial (.ok (.failure he)) (.ok (.failure (abreast_expected he.remainder _)))

theorem Paired.guard (hp : Paired S R p p') {accepts accepts' : α → Bool}
    (ha : ∀ a b, R a b → accepts a = accepts' b) (expectation : String) :
    Paired S R (Combinator.guard p accepts expectation) (Combinator.guard p' accepts' expectation) := by
  intro v w h
  apply (hp v w h).bind
  rintro _ _ (⟨related, rest⟩ | ⟨he⟩)
  · apply Concur.ite (ha _ _ related) (.ok (.success related rest))
    exact .ok (.failure (abreast_expected (.refl v w) _))
  · exact .ok (.failure he)

theorem Paired.optional (hp : Paired S R p p') :
    Paired S (Option.Rel R) (Combinator.optional p) (Combinator.optional p') := by
  intro v w h
  apply (hp v w h).bind
  rintro _ _ (⟨related, rest⟩ | ⟨he⟩)
  · exact .ok (.success (.some related) rest)
  · exact .ite he.isCommitted (.ok (.failure he)) (.ok (.success .none (.refl v w)))

theorem textTo_of_reads {v w : View} {cs : List Char} (h : v.Reads cs w) :
    Cursor.textTo (some v : Span) (some w) = .ok (String.ofList cs) := by
  have taken : (v.first cs.length).chars = cs := by
    change v.chars.take cs.length = cs
    rw [h.chars, List.take_left]
  change (v.upTo w).map View.text = _
  rw [h.upTo, map_ok, View.text, taken]

theorem Paired.notFollowedBy (hp : Paired S R p p') :
    Paired S Eq (Combinator.notFollowedBy p) (Combinator.notFollowedBy p') := by
  intro v w h
  apply (hp v w h).bind
  rintro _ _ (⟨related, hv, hw⟩ | ⟨he⟩)
  · simp only [textTo_of_reads hv, textTo_of_reads hw, ofExcept_eq, ok_bind]
    exact .ok (.failure ⟨.refl v w, rfl, rfl, rfl, rfl⟩)
  · exact .ok (.success rfl (.refl v w))

theorem Paired.whole (hp : Paired S R p p') :
    Paired S R (Combinator.whole p) (Combinator.whole p') := by
  intro v w h
  apply (hp v w h).bind
  rintro _ _ (@⟨_, _, _, _, _, _, related, @⟨_, v', w', hv, hw⟩⟩ | ⟨he⟩)
  · have atEnd : v'.chars.isEmpty = w'.chars.isEmpty := by rw [S.chars (S.reads h hv hw)]
    apply Concur.ite atEnd (.ok (.success related (.after hv hw)))
    exact .ok (.failure ⟨.after hv hw, rfl, rfl, rfl, rfl⟩)
  · exact .ok (.failure he)

theorem drop_abreast (count : Nat) {v w : View} (h : S.Related v w) :
    Concur (Abreast v w) (Combinator.drop count (some v)) (Combinator.drop count (some w)) := by
  induction count generalizing v w with
  | zero => exact .ok (.refl v w)
  | succ count ih =>
    rcases S.next h with ⟨hv, hw⟩ | ⟨c, v', w', hv, hw, rv, rw'⟩
    · simp only [Combinator.drop, Cursor.tail?, hv, hw, map_ok, Option.map_none, ofExcept_eq, ok_bind]
      exact .ok (.refl v w)
    · simp only [Combinator.drop, Cursor.tail?, hv, hw, map_ok, Option.map_some, ofExcept_eq, ok_bind]
      exact (ih (S.reads h rv rw')).mono fun s t abreast => abreast.of_reads rv rw'

theorem paired_fail (skip : Nat) (report : Failure Unit) :
    Paired S R (Combinator.fail skip report) (Combinator.fail skip report) := by
  intro v w h
  apply (drop_abreast skip h).bind
  intro s t abreast
  exact .ok (.failure ⟨abreast, rfl, rfl, rfl, rfl⟩)

end Combinators

section Repetition

-- Both loops have read the same characters `cs` when a round begins, and have collected related values.
theorem Paired.collect {step step' : Reader (Except Fault) Span α} (hs : Paired S R step step')
    {v w v' w' : View} (h : S.Related v w) {cs : List Char} (hv : v.Reads cs v') (hw : w.Reads cs w')
    (location location' : Span) (rounds : Nat) {values values' : List α}
    (hl : List.Forall₂ R values values') :
    Concur (Reply.Abreast (List.Forall₂ R) v w)
      (Combinator.collect step location rounds (some v') values)
      (Combinator.collect step' location' rounds (some w') values') := by
  induction rounds generalizing v' w' cs values values' with
  | zero => exact .fault rfl
  | succ rounds ih =>
    apply (hs v' w' (S.reads h hv hw)).bind
    rintro _ _ (⟨related, hv', hw'⟩ | ⟨he⟩)
    · refine .ite ((Abreast.after hv' hw').same (.refl v' w')) ?_ ?_
      · exact .fault rfl
      · exact ih (hv.trans hv') (hw.trans hw') (.cons related hl)
    · apply Concur.ite he.isCommitted (.ok (.failure (he.of_reads hv hw)))
      exact .ok (.success (List.rel_reverse hl) (.after hv hw))

theorem Paired.many (hp : Paired S R p p') :
    Paired S (List.Forall₂ R) (Combinator.many p) (Combinator.many p') := by
  intro v w h
  rw [Combinator.many, Combinator.many, S.rounds h]
  exact hp.collect h (.refl v) (.refl w) _ _ _ .nil

theorem Paired.many1 (hp : Paired S R p p') :
    Paired S (List.Forall₂ R) (Combinator.many1 p) (Combinator.many1 p') := by
  intro v w h
  apply (hp v w h).bind
  rintro _ _ (⟨related, hv, hw⟩ | ⟨he⟩)
  · dsimp only
    rw [S.rounds (S.reads h hv hw)]
    exact hp.collect h hv hw _ _ _ (.cons related .nil)
  · exact .ok (.failure he)

theorem Paired.skipMany (hp : Paired S R p p') :
    Paired S Eq (Combinator.skipMany p) (Combinator.skipMany p') := by
  intro v w h
  have units : Paired S Eq (Combinator.map (fun _ => ()) p) (Combinator.map (fun _ => ()) p') :=
    hp.map fun _ _ _ => rfl
  rw [Combinator.skipMany, Combinator.skipMany, S.rounds h]
  apply (units.collect h (.refl v) (.refl w) _ _ _ .nil).bind
  rintro _ _ (⟨-, rest⟩ | ⟨he⟩)
  · exact .ok (.success rfl rest)
  · exact .ok (.failure he)

theorem Paired.sepItem {delimiter delimiter' : Reader (Except Fault) Span β} (hp : Paired S R p p')
    (hd : Paired S Q delimiter delimiter') :
    Paired S R (Combinator.sepItem p delimiter) (Combinator.sepItem p' delimiter') := by
  intro v w h
  apply (hd v w h).bind
  rintro _ _ (⟨-, hv, hw⟩ | ⟨he⟩)
  · exact (hp _ _ (S.reads h hv hw)).mono fun _ _ reply => reply.of_reads hv hw
  · exact .ok (.failure he)

theorem Paired.sepBy {delimiter delimiter' : Reader (Except Fault) Span β} (hp : Paired S R p p')
    (hd : Paired S Q delimiter delimiter') (required : Bool) :
    Paired S (List.Forall₂ R) (Combinator.sepBy required p delimiter)
      (Combinator.sepBy required p' delimiter') := by
  intro v w h
  apply (hp v w h).bind
  rintro _ _ (⟨related, hv, hw⟩ | ⟨he⟩)
  · dsimp only
    rw [S.rounds (S.reads h hv hw)]
    exact (hp.sepItem hd).collect h hv hw _ _ _ (.cons related .nil)
  · have committed := he.isCommitted
    exact .ite (by rw [committed]) (.ok (.failure he)) (.ok (.success .nil (.refl v w)))

theorem Paired.exactly (hp : Paired S R p p') {v w v' w' : View} (h : S.Related v w) {cs : List Char}
    (hv : v.Reads cs v') (hw : w.Reads cs w') (location location' : Span) (count : Nat)
    {values values' : List α} (hl : List.Forall₂ R values values') :
    Concur (Reply.Abreast (List.Forall₂ R) v w)
      (Combinator.exactly p location count (some v') values)
      (Combinator.exactly p' location' count (some w') values') := by
  induction count generalizing v' w' cs values values' with
  | zero => exact .ok (.success (List.rel_reverse hl) (.after hv hw))
  | succ count ih =>
    apply (hp v' w' (S.reads h hv hw)).bind
    rintro _ _ (⟨related, hv', hw'⟩ | ⟨he⟩)
    · exact ih (hv.trans hv') (hw.trans hw') (.cons related hl)
    · exact .ok (.failure (he.of_reads hv hw))

theorem Paired.times (hp : Paired S R p p') (size count : Nat) :
    Paired S (List.Forall₂ R) (Combinator.times size count p) (Combinator.times size count p') := by
  intro v w h
  rw [Combinator.times, Combinator.times]
  split
  · exact .fault rfl
  · exact hp.exactly h (.refl v) (.refl w) _ _ _ .nil

end Repetition

section Chain

inductive Combinator.Link.Abreast (W : ω → ω → Prop) (R : α → α → Prop) (v w : View) :
    Link Span ω α → Link Span ω α → Prop where
  | linked {op op' : ω} {a b : α} {s t : Span} (operators : W op op') (operands : R a b)
      (rest : Parsing.Abreast v w s t) : Abreast W R v w (.linked op a s) (.linked op' b t)
  | broken {e f : Failure Span} (alike : e.Abreast v w f) : Abreast W R v w (.broken e) (.broken f)
  | ended : Abreast W R v w .ended .ended

variable {operator operator' : Reader (Except Fault) Span ω} {operand operand' : Reader (Except Fault) Span α}

theorem Paired.link (ho : Paired S W operator operator') (ha : Paired S R operand operand') {v w : View}
    (h : S.Related v w) :
    Concur (Combinator.Link.Abreast W R v w) (Combinator.link operator operand (some v))
      (Combinator.link operator' operand' (some w)) := by
  apply (ho v w h).bind
  rintro _ _ (⟨operators, hv, hw⟩ | ⟨he⟩)
  · apply (ha _ _ (S.reads h hv hw)).bind
    rintro _ _ (⟨operands, rest⟩ | ⟨he⟩)
    · have all := rest.of_reads hv hw
      refine .ite (all.same (.refl v w)) ?_ ?_
      · exact .fault rfl
      · exact .ok (.linked operators operands all)
    · exact .ok (.broken (he.of_reads hv hw))
  · exact .ite he.isCommitted (.ok (.broken he)) (.ok .ended)

variable {next next' : Span → Except Fault (Combinator.Link Span ω α)}
  (hn : ∀ v w, S.Related v w → Concur (Combinator.Link.Abreast W R v w) (next (some v)) (next' (some w)))
  {apply apply' : ω → α → α → α}
  (hf : ∀ op op' a a' b b', W op op' → R a a' → R b b' → R (apply op a b) (apply' op' a' b'))
include hn hf

theorem chainLeft_abreast {v w v' w' : View} (h : S.Related v w) {cs : List Char} (hv : v.Reads cs v')
    (hw : w.Reads cs w') (location location' : Span) (rounds : Nat) {acc acc' : α} (ha : R acc acc') :
    Concur (Reply.Abreast R v w) (Combinator.chainLeft next apply location rounds (some v') acc)
      (Combinator.chainLeft next' apply' location' rounds (some w') acc') := by
  induction rounds generalizing v' w' cs acc acc' with
  | zero => exact .fault rfl
  | succ rounds ih =>
    apply (hn v' w' (S.reads h hv hw)).bind
    rintro _ _ (⟨operators, operands, hv', hw'⟩ | ⟨he⟩ | _)
    · exact ih (hv.trans hv') (hw.trans hw') (hf _ _ _ _ _ _ operators ha operands)
    · exact .ok (.failure (he.of_reads hv hw))
    · exact .ok (.success ha (.after hv hw))

omit hn in
theorem foldl_pending {pending pending' : List (α × ω)} {last last' : α}
    (hp : List.Forall₂ (fun x y => R x.1 y.1 ∧ W x.2 y.2) pending pending') (hl : R last last') :
    R (pending.foldl (fun acc (a, op) => apply op a acc) last)
      (pending'.foldl (fun acc (a, op) => apply' op a acc) last') := by
  induction hp generalizing last last' with
  | nil => exact hl
  | cons related _ ih => exact ih (hf _ _ _ _ _ _ related.2 related.1 hl)

theorem chainRight_abreast {v w v' w' : View} (h : S.Related v w) {cs : List Char} (hv : v.Reads cs v')
    (hw : w.Reads cs w') (location location' : Span) (rounds : Nat) {pending pending' : List (α × ω)}
    (hp : List.Forall₂ (fun x y => R x.1 y.1 ∧ W x.2 y.2) pending pending') {last last' : α}
    (hl : R last last') :
    Concur (Reply.Abreast R v w)
      (Combinator.chainRight next apply location rounds (some v') pending last)
      (Combinator.chainRight next' apply' location' rounds (some w') pending' last') := by
  induction rounds generalizing v' w' cs pending pending' last last' with
  | zero => exact .fault rfl
  | succ rounds ih =>
    apply (hn v' w' (S.reads h hv hw)).bind
    rintro _ _ (⟨operators, operands, hv', hw'⟩ | ⟨he⟩ | _)
    · exact ih (hv.trans hv') (hw.trans hw') (.cons ⟨hl, operators⟩ hp) operands
    · exact .ok (.failure (he.of_reads hv hw))
    · exact .ok (.success (foldl_pending hf hp hl) (.after hv hw))

omit hn in
theorem Paired.chain (ho : Paired S W operator operator') (ha : Paired S R operand operand')
    (associativity : Associativity) :
    Paired S R (Combinator.chain associativity operator operand apply)
      (Combinator.chain associativity operator' operand' apply') := by
  intro v w h
  have hl := fun v w h => ho.link ha (v := v) (w := w) h
  apply (ha v w h).bind
  rintro _ _ (⟨related, hv, hw⟩ | ⟨he⟩)
  · dsimp only
    rw [S.rounds (S.reads h hv hw)]
    cases associativity with
    | left => exact chainLeft_abreast hl hf h hv hw _ _ _ related
    | right => exact chainRight_abreast hl hf h hv hw _ _ _ .nil related
  · exact .ok (.failure he)

end Chain

end Parsing

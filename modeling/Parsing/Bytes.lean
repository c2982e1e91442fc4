namespace Parsing

def byteLength (cs : List Char) : Nat :=
  cs.foldl (fun n c => n + c.utf8Size) 0

theorem byteLength_foldl (cs : List Char) (n : Nat) :
    cs.foldl (fun n c => n + c.utf8Size) n = n + byteLength cs := by
  induction cs generalizing n with
  | nil => rfl
  | cons c cs ih =>
    unfold byteLength
    simp only [List.foldl_cons]
    rw [ih, ih (0 + c.utf8Size)]
    omega

@[simp] theorem byteLength_nil : byteLength [] = 0 := rfl

@[simp] theorem byteLength_cons (c : Char) (cs : List Char) :
    byteLength (c :: cs) = c.utf8Size + byteLength cs := by
  rw [← Nat.zero_add c.utf8Size, ← byteLength_foldl]
  rfl

@[simp] theorem byteLength_append (as bs : List Char) :
    byteLength (as ++ bs) = byteLength as + byteLength bs := by
  induction as with
  | nil => simp
  | cons a as ih => simp [ih, Nat.add_assoc]

@[simp] theorem byteLength_reverse (cs : List Char) : byteLength cs.reverse = byteLength cs := by
  induction cs with
  | nil => rfl
  | cons c cs ih => simp [ih, Nat.add_comm]

def moveBytes : List Char → Nat → List Char → Option (List Char × List Char)
  | before, 0, rest => some (before.reverse, rest)
  | _, _ + 1, [] => none
  | before, bytes + 1, c :: rest =>
    if c.utf8Size ≤ bytes + 1 then moveBytes (c :: before) (bytes + 1 - c.utf8Size) rest else none

def splitBytes (bytes : Nat) (cs : List Char) : Option (List Char × List Char) :=
  moveBytes [] bytes cs

theorem moveBytes_eq_some {before : List Char} {bytes : Nat} {cs first rest : List Char}
    (h : moveBytes before bytes cs = some (first, rest)) :
    first ++ rest = before.reverse ++ cs ∧ byteLength first = byteLength before + bytes := by
  induction cs generalizing before bytes with
  | nil =>
    cases bytes with
    | zero =>
      simp only [moveBytes, Option.some.injEq, Prod.mk.injEq] at h
      obtain ⟨rfl, rfl⟩ := h
      simp
    | succ bytes => simp [moveBytes] at h
  | cons c cs ih =>
    cases bytes with
    | zero =>
      simp only [moveBytes, Option.some.injEq, Prod.mk.injEq] at h
      obtain ⟨rfl, rfl⟩ := h
      simp
    | succ bytes =>
      simp only [moveBytes] at h
      split at h
      · next hc =>
        obtain ⟨happ, hlen⟩ := ih h
        refine ⟨by simpa using happ, ?_⟩
        rw [hlen, byteLength_cons]
        omega
      · simp at h

theorem splitBytes_append {bytes : Nat} {cs first rest : List Char}
    (h : splitBytes bytes cs = some (first, rest)) : first ++ rest = cs := by
  simpa using (moveBytes_eq_some h).1

theorem byteLength_splitBytes {bytes : Nat} {cs first rest : List Char}
    (h : splitBytes bytes cs = some (first, rest)) : byteLength first = bytes := by
  simpa using (moveBytes_eq_some h).2

end Parsing

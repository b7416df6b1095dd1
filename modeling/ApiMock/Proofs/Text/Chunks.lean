import Mathlib.Data.List.TakeWhile

/-!
# Texts made of chunks

A chunk begins with a mark and has no other mark. Chunks that are written one behind the other can be
told apart again, since every mark in the text begins one of them.
-/

set_option autoImplicit false

namespace ApiMock

/-- A text that begins with a mark and has no other. -/
def IsChunk (isMark : Char → Bool) (text : List Char) : Prop :=
  ∃ mark rest, text = mark :: rest ∧ isMark mark = true ∧ ∀ c ∈ rest, isMark c = false

namespace IsChunk

variable {isMark : Char → Bool} {chunks others : List (List Char)} {mark : Char}
  {rest : List Char}

theorem ne_nil {text : List Char} (chunk : IsChunk isMark text) : text ≠ [] := by
  obtain ⟨mark, rest, rfl, _⟩ := chunk
  exact List.cons_ne_nil mark rest

theorem takeWhile_flatten (each : ∀ chunk ∈ chunks, IsChunk isMark chunk) :
    chunks.flatten.takeWhile (fun c => !isMark c) = [] := by
  cases chunks with
  | nil => rfl
  | cons chunk chunks =>
      obtain ⟨mark, rest, rfl, marked, _⟩ := each chunk List.mem_cons_self
      simp [marked]

/-- The unmarked text in front of chunks ends where the first of them begins. -/
theorem takeWhile_append_flatten (each : ∀ chunk ∈ chunks, IsChunk isMark chunk)
    (plain : ∀ c ∈ rest, isMark c = false) :
    (rest ++ chunks.flatten).takeWhile (fun c => !isMark c) = rest := by
  rw [List.takeWhile_append_of_pos fun c member => by simp [plain c member],
    takeWhile_flatten each, List.append_nil]

theorem append_flatten_inj {other : List Char} (plain : ∀ c ∈ rest, isMark c = false)
    (otherPlain : ∀ c ∈ other, isMark c = false)
    (each : ∀ chunk ∈ chunks, IsChunk isMark chunk)
    (otherEach : ∀ chunk ∈ others, IsChunk isMark chunk)
    (same : rest ++ chunks.flatten = other ++ others.flatten) :
    rest = other ∧ chunks.flatten = others.flatten := by
  have front : rest = other := by
    rw [← takeWhile_append_flatten each plain, same, takeWhile_append_flatten otherEach otherPlain]
  subst front
  exact ⟨rfl, List.append_cancel_left same⟩

theorem flatten_inj (each : ∀ chunk ∈ chunks, IsChunk isMark chunk)
    (otherEach : ∀ chunk ∈ others, IsChunk isMark chunk)
    (same : chunks.flatten = others.flatten) : chunks = others := by
  induction chunks generalizing others with
  | nil =>
      cases others with
      | nil => rfl
      | cons other others =>
          obtain ⟨empty, _⟩ := List.append_eq_nil_iff.mp same.symm
          exact absurd empty (otherEach other List.mem_cons_self).ne_nil
  | cons chunk chunks ih =>
      obtain ⟨marked, behind⟩ := List.forall_mem_cons.mp each
      cases others with
      | nil => exact absurd (List.append_eq_nil_iff.mp same).1 marked.ne_nil
      | cons other others =>
          obtain ⟨otherMarked, otherBehind⟩ := List.forall_mem_cons.mp otherEach
          obtain ⟨mark, rest, rfl, _, plain⟩ := marked
          obtain ⟨otherMark, otherRest, rfl, _, otherPlain⟩ := otherMarked
          obtain ⟨rfl, tails⟩ := List.cons.inj same
          obtain ⟨rfl, sameBehind⟩ := append_flatten_inj plain otherPlain behind otherBehind tails
          rw [ih behind otherBehind sameBehind]

end IsChunk

end ApiMock

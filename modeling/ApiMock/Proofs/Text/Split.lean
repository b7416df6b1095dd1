import ApiMock.Text.Split
import Mathlib.Data.List.Basic

/-!
# Splitting joined texts

What stands on the two sides of a mark is split on its own. So splitting undoes joining where no part
holds the mark.
-/

set_option autoImplicit false

namespace ApiMock.Split

variable {mark : Char} {part rest : List Char} {parts : List (List Char)}

theorem atEach_of_not_mem (free : mark ∉ part) : atEach mark part = [part] := by
  induction part with
  | nil => rfl
  | cons c part ih =>
      obtain ⟨differ, free⟩ := List.ne_and_not_mem_of_not_mem_cons free
      rw [atEach, if_neg (Ne.symm differ), ih free]

theorem atEach_ne_nil (text : List Char) : atEach mark text ≠ [] := by
  cases text with
  | nil => exact List.cons_ne_nil _ _
  | cons c rest =>
      rw [atEach]
      split
      · exact List.cons_ne_nil _ _
      · split <;> exact List.cons_ne_nil _ _

theorem atEach_cons_of_ne {c : Char} (differ : c ≠ mark) (rest : List Char) :
    atEach mark (c :: rest) = (atEach mark rest).modifyHead (c :: ·) := by
  rw [atEach, if_neg differ]
  cases parts : atEach mark rest with
  | nil => exact absurd parts (atEach_ne_nil rest)
  | cons part parts => rfl

theorem atEach_eq_splitOn (text : List Char) : atEach mark text = text.splitOn mark := by
  induction text with
  | nil => rw [atEach, List.splitOn_nil]
  | cons c rest ih =>
      rw [List.splitOn_cons_eq_if_modifyHead, ← ih]
      by_cases same : c = mark
      · rw [atEach, if_pos same, if_pos (beq_iff_eq.mpr same)]
      · rw [atEach_cons_of_ne same, if_neg (fun equal => same (beq_iff_eq.mp equal))]

theorem atEach_append_mark (front rest : List Char) :
    atEach mark (front ++ mark :: rest) = atEach mark front ++ atEach mark rest := by
  induction front with
  | nil => simp [atEach]
  | cons c front ih =>
      rw [List.cons_append]
      by_cases same : c = mark
      · rw [atEach, atEach, if_pos same, if_pos same, ih, List.cons_append]
      · rw [atEach_cons_of_ne same, atEach_cons_of_ne same, ih]
        cases parts : atEach mark front with
        | nil => exact absurd parts (atEach_ne_nil front)
        | cons part parts => rfl

theorem atEach_append_cons (free : mark ∉ part) :
    atEach mark (part ++ mark :: rest) = part :: atEach mark rest := by
  rw [atEach_append_mark, atEach_of_not_mem free]
  rfl

theorem atEach_intercalate (some : parts ≠ []) (free : ∀ part ∈ parts, mark ∉ part) :
    atEach mark ([mark].intercalate parts) = parts := by
  induction parts with
  | nil => exact absurd rfl some
  | cons part parts ih =>
      have here := free part List.mem_cons_self
      cases parts with
      | nil => rw [List.intercalate_singleton, atEach_of_not_mem here]
      | cons next parts =>
          rw [List.intercalate_cons_cons, List.append_assoc, List.singleton_append,
            atEach_append_cons here, ih (by simp) fun part member =>
              free part (List.mem_cons_of_mem _ member)]

theorem atFirst_append_cons (free : mark ∉ part) :
    atFirst mark (part ++ mark :: rest) = (part, some rest) := by
  induction part with
  | nil => rw [List.nil_append, atFirst, if_pos rfl]
  | cons c part ih =>
      obtain ⟨differ, free⟩ := List.ne_and_not_mem_of_not_mem_cons free
      rw [List.cons_append, atFirst, if_neg (Ne.symm differ), ih free]

/-- A front part without the mark is in front of the first mark. -/
theorem atFirst_append (free : mark ∉ part) :
    (atFirst mark (part ++ rest)).1 = part ++ (atFirst mark rest).1 := by
  induction part with
  | nil => rfl
  | cons c part ih =>
      obtain ⟨differ, free⟩ := List.ne_and_not_mem_of_not_mem_cons free
      rw [List.cons_append, atFirst, if_neg (Ne.symm differ), List.cons_append, ← ih free]

theorem dropWord?_eq_some_iff {word text : List Char} :
    dropWord? word text = some rest ↔ text = word ++ rest := by
  induction word generalizing text with
  | nil => rw [dropWord?, Option.some.injEq, List.nil_append]
  | cons a word ih =>
      cases text with
      | nil => exact iff_of_false nofun nofun
      | cons b text =>
          rw [dropWord?, Option.ite_none_right_eq_some, ih, List.cons_append, List.cons.injEq,
            eq_comm (a := a)]

/-- What stands behind the last mark is known by the whole. -/
theorem append_cons_inj {before others behind : List Char} (free : mark ∉ part)
    (otherFree : mark ∉ behind) (same : before ++ mark :: part = others ++ mark :: behind) :
    before = others ∧ part = behind := by
  have reversed := congrArg List.reverse same
  simp only [List.reverse_append, List.reverse_cons, List.append_assoc, List.singleton_append]
    at reversed
  have cut := congrArg (atFirst mark) reversed
  rw [atFirst_append_cons (List.mem_reverse.not.mpr free),
    atFirst_append_cons (List.mem_reverse.not.mpr otherFree), Prod.mk.injEq, Option.some.injEq,
    List.reverse_inj, List.reverse_inj] at cut
  exact cut.symm

end ApiMock.Split

import ApiMock.Http.Headers
import ApiMock.Proofs.Keyed.Lookup

/-!
# Order of header fields

Fields that are appended one after the other are in the order in which their names first occur. The
values of a name are behind each other, in the order in which they were appended.
-/

set_option autoImplicit false

namespace ApiMock.Headers

variable {name other : String} {value : Bytes} {block rest : Headers}
  {fields : List (String × Bytes)}

def grouped (fields : List (String × Bytes)) : Headers :=
  (names fields).flatMap fun name => fields.filter fun field => field.1 = name

theorem not_mem_keys_cons_iff {field : String × Bytes} :
    name ∉ Keyed.keys (field :: rest) ↔ field.1 ≠ name ∧ name ∉ Keyed.keys rest := by
  rw [Keyed.keys, List.map_cons, List.mem_cons, not_or, eq_comm]
  rfl

/-! ## Blocks of fields with one name -/

theorem append_block (same : ∀ field ∈ block, field.1 = name) (some : block ≠ [])
    (absent : name ∉ Keyed.keys rest) :
    append name value (block ++ rest) = block ++ [(name, value)] ++ rest := by
  induction block with
  | nil => exact absurd rfl some
  | cons field block ih =>
      obtain ⟨rfl, same⟩ := List.forall_mem_cons.mp same
      cases block with
      | nil =>
          have last : rest.lookup field.1 = none := Keyed.lookup_eq_none_iff.mpr absent
          simp [append, last]
      | cons next block =>
          have more : List.lookup field.1 (next :: block ++ rest) ≠ none := by
            rw [List.cons_append, List.lookup_cons, ← same next List.mem_cons_self]
            simp
          rw [List.cons_append, append, if_neg fun last => more (Option.isNone_iff_eq_none.mp last.2),
            ih same (List.cons_ne_nil _ _)]
          rfl

theorem append_behind_block (same : ∀ field ∈ block, field.1 = name) (differ : other ≠ name) :
    append other value (block ++ rest) = block ++ append other value rest := by
  induction block with
  | nil => rfl
  | cons field block ih =>
      obtain ⟨rfl, same⟩ := List.forall_mem_cons.mp same
      rw [List.cons_append, append, if_neg fun here => differ here.1.symm, ih same]
      rfl

theorem not_mem_keys_append (absent : name ∉ Keyed.keys rest) (differ : other ≠ name) :
    name ∉ Keyed.keys (append other value rest) := by
  induction rest with
  | nil => simpa [append, Keyed.keys] using differ.symm
  | cons field rest ih =>
      obtain ⟨head, absent⟩ := not_mem_keys_cons_iff.mp absent
      rw [append]
      split
      · exact not_mem_keys_cons_iff.mpr ⟨head, not_mem_keys_cons_iff.mpr ⟨differ, absent⟩⟩
      · exact not_mem_keys_cons_iff.mpr ⟨head, ih absent⟩

/-- Fields with the name of a block go to its end, and all others behind it. -/
theorem appendAll_block (same : ∀ field ∈ block, field.1 = name) (some : block ≠ [])
    (absent : name ∉ Keyed.keys rest) :
    appendAll (block ++ rest) fields =
      block ++ fields.filter (·.1 = name) ++ appendAll rest (fields.filter (·.1 ≠ name)) := by
  induction fields generalizing block rest with
  | nil => simp [appendAll]
  | cons field fields ih =>
      rw [appendAll, List.foldl_cons]
      by_cases here : field.1 = name
      · have longer : ∀ other ∈ block ++ [field], other.1 = name :=
          List.forall_mem_append.mpr ⟨same, List.forall_mem_singleton.mpr here⟩
        have appended := ih longer (by simp) absent
        rw [appendAll] at appended
        subst name
        rw [append_block same some absent, appended]
        simp
      · rw [append_behind_block same here]
        refine (ih same some (not_mem_keys_append absent here)).trans ?_
        simp [here, appendAll]

/-! ## All fields -/

theorem grouped_cons (field : String × Bytes) (fields : List (String × Bytes)) :
    grouped (field :: fields) =
      field :: fields.filter (·.1 = field.1) ++ grouped (fields.filter (·.1 ≠ field.1)) := by
  have named : names (field :: fields) = field.1 :: names (fields.filter (·.1 ≠ field.1)) := by
    rw [names, names, List.map_cons, List.eraseDups_cons, List.filter_map]
    congr 3
    refine List.filter_congr fun other _ => ?_
    by_cases same : other.1 = field.1 <;> simp [same]
  rw [grouped, named, List.flatMap_cons, grouped]
  congr 1
  · simp
  · refine List.flatMap_congr fun name listed => ?_
    rw [names, List.mem_eraseDups, List.mem_map] at listed
    obtain ⟨other, member, rfl⟩ := listed
    have differ : other.1 ≠ field.1 := by simpa using (List.mem_filter.mp member).2
    rw [List.filter_cons, if_neg (by simpa using differ.symm), List.filter_filter]
    refine List.filter_congr fun next _ => ?_
    by_cases same : next.1 = other.1 <;> simp [same, differ]

/-- Fields appended to none are those fields by their names. -/
theorem appendAll_nil (fields : List (String × Bytes)) : appendAll [] fields = grouped fields := by
  match fields with
  | [] => rfl
  | field :: fields =>
      have block : ∀ other ∈ [field], other.1 = field.1 := by simp
      have first : appendAll [] (field :: fields) = appendAll ([field] ++ []) fields := rfl
      rw [first, appendAll_block block (List.cons_ne_nil _ _) List.not_mem_nil, grouped_cons,
        appendAll_nil (fields.filter (·.1 ≠ field.1))]
      rfl
termination_by fields.length
decreasing_by exact Nat.lt_succ_of_le (List.length_filter_le _ _)

-- one name between the two values of another
example : appendAll [] [("a", [1]), ("b", [2]), ("a", [3])] = [("a", [1]), ("a", [3]), ("b", [2])] := by
  decide

end ApiMock.Headers

import ApiMock.Keyed
import Mathlib.Data.List.Nodup
import Mathlib.Data.List.Perm.Basic

/-!
# Look-up in keyed lists

An entry of a keyed list is the only one with its key, so look-up finds exactly the entries.
-/

set_option autoImplicit false

namespace ApiMock.Keyed

variable {α β : Type} {entries : List (String × α)} {key : String} {value : α}

instance : Decidable (Ascending entries) := inferInstanceAs (Decidable (List.Pairwise _ _))

theorem mem_of_lookup (found : entries.lookup key = some value) : (key, value) ∈ entries := by
  obtain ⟨before, after, rfl, _⟩ := List.lookup_eq_some_iff.mp found
  exact List.mem_append_right _ List.mem_cons_self

theorem lookup_eq_none_iff : entries.lookup key = none ↔ key ∉ keys entries := by
  rw [List.lookup_eq_none_iff, keys, List.mem_map]
  constructor
  · rintro missing ⟨entry, member, rfl⟩
    exact absurd (missing entry member) (by simp)
  · intro missing entry member
    exact bne_iff_ne.mpr fun same => missing ⟨entry, member, same.symm⟩

/-- Look-up sees every entry of a list in which keys do not repeat. -/
theorem Ascending.lookup_eq_some (ascending : Ascending entries) (member : (key, value) ∈ entries) :
    entries.lookup key = some value := by
  induction entries with
  | nil => cases member
  | cons entry rest ih =>
      obtain ⟨less, ascending⟩ := List.pairwise_cons.mp ascending
      rcases List.mem_cons.mp member with rfl | member
      · exact List.lookup_cons_self
      · have later := less key (List.mem_map.mpr ⟨_, member, rfl⟩)
        have different : (key == entry.1) = false := by
          refine beq_eq_false_iff_ne.mpr fun same => ?_
          exact String.lt_irrefl key (same ▸ later)
        rw [List.lookup_cons, different]
        exact ih ascending member

theorem lookup_map_values (f : String → α → β) :
    (entries.map fun entry => (entry.1, f entry.1 entry.2)).lookup key =
      (entries.lookup key).map (f key) := by
  induction entries with
  | nil => rfl
  | cons entry rest ih =>
      rw [List.map_cons, List.lookup_cons, List.lookup_cons, ih]
      by_cases same : key = entry.1
      · subst same
        simp
      · simp [beq_eq_false_iff_ne.mpr same]

theorem Ascending.nodup (ascending : Ascending entries) : (keys entries).Nodup := by
  refine List.Pairwise.imp (fun less => ?_) ascending
  rintro rfl
  exact String.lt_irrefl _ less

theorem keys_eq_of_perm {others : List (String × β)} (ascending : Ascending entries)
    (othersAscending : Ascending others) (perm : (keys entries).Perm (keys others)) :
    keys entries = keys others := by
  refine perm.eq_of_pairwise (fun a b _ _ less more => ?_) ascending othersAscending
  exact absurd (String.lt_trans less more) (String.lt_irrefl a)

theorem keys_eq_of_subset {others : List (String × β)} (ascending : Ascending entries)
    (othersAscending : Ascending others) (lengths : entries.length = others.length)
    (subset : keys entries ⊆ keys others) : keys entries = keys others := by
  apply keys_eq_of_perm ascending othersAscending
  refine (List.subperm_of_subset ascending.nodup subset).perm_of_length_le ?_
  simp only [keys, List.length_map, lengths, Nat.le_refl]

theorem keys_eq_of_mem_iff {others : List (String × β)} (ascending : Ascending entries)
    (othersAscending : Ascending others)
    (same : ∀ key, key ∈ keys entries ↔ key ∈ keys others) : keys entries = keys others :=
  keys_eq_of_perm ascending othersAscending
    ((List.perm_ext_iff_of_nodup ascending.nodup othersAscending.nodup).mpr same)

/-- A keyed list is known by its look-ups. -/
theorem Ascending.ext {others : List (String × α)} (ascending : Ascending entries)
    (othersAscending : Ascending others)
    (same : ∀ key, entries.lookup key = others.lookup key) : entries = others := by
  have members (entry : String × α) : entry ∈ entries ↔ entry ∈ others := by
    constructor
    · intro member
      exact mem_of_lookup ((same entry.1).symm.trans (ascending.lookup_eq_some member))
    · intro member
      exact mem_of_lookup ((same entry.1).trans (othersAscending.lookup_eq_some member))
  have once := List.Nodup.of_map Prod.fst ascending.nodup
  have othersOnce := List.Nodup.of_map Prod.fst othersAscending.nodup
  have perm := (List.perm_ext_iff_of_nodup once othersOnce).mpr members
  refine perm.eq_of_pairwise (fun a b _ _ less more => ?_) (List.pairwise_map.mp ascending)
    (List.pairwise_map.mp othersAscending)
  exact absurd (String.lt_trans less more) (String.lt_irrefl a.1)

end ApiMock.Keyed

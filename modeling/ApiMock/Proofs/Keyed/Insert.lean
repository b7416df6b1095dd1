import ApiMock.Proofs.Keyed.Lookup
import Mathlib.Algebra.BigOperators.Group.List.Lemmas
import Mathlib.Data.List.Basic
import Mathlib.Data.List.Induction

/-!
# Insertion into keyed lists

Insertion keeps the keys in ascending order, each once, so every map that is built by insertions is a
keyed list.
-/

set_option autoImplicit false

namespace ApiMock.Keyed

variable {α : Type} {entries others : List (String × α)} {key : String} {value : α}

theorem mem_insert {entry : String × α} (member : entry ∈ insert key value entries) :
    entry = (key, value) ∨ entry ∈ entries := by
  induction entries with
  | nil => exact .inl (List.mem_singleton.mp member)
  | cons first rest ih =>
      obtain ⟨name, other⟩ := first
      rw [insert] at member
      split at member
      · rcases List.mem_cons.mp member with same | behind
        · exact .inl same
        · exact .inr (List.mem_cons_of_mem _ behind)
      · split at member
        · exact List.mem_cons.mp member
        · rcases List.mem_cons.mp member with same | behind
          · exact .inr (same ▸ List.mem_cons_self)
          · exact (ih behind).imp_right (List.mem_cons_of_mem _)

theorem ascending_cons_iff {entry : String × α} :
    Ascending (entry :: entries) ↔ (∀ other ∈ entries, entry.1 < other.1) ∧ Ascending entries := by
  rw [Ascending, List.map_cons, List.pairwise_cons, List.forall_mem_map]
  rfl

theorem Ascending.insert (ascending : Ascending entries) :
    Ascending (insert key value entries) := by
  induction entries with
  | nil => exact List.pairwise_singleton _ _
  | cons first rest ih =>
      obtain ⟨name, other⟩ := first
      have ⟨less, behind⟩ := ascending_cons_iff.mp ascending
      rw [Keyed.insert]
      split
      · subst key
        exact ascending_cons_iff.mpr ⟨less, behind⟩
      · split
        · rename_i before
          refine ascending_cons_iff.mpr ⟨fun entry member => ?_, ascending⟩
          rcases List.mem_cons.mp member with rfl | member
          · exact before
          · exact String.lt_trans before (less entry member)
        · rename_i differ behindName
          refine ascending_cons_iff.mpr ⟨fun entry member => ?_, ih behind⟩
          rcases mem_insert member with rfl | member
          · by_contra notAfter
            exact differ (String.le_antisymm (String.not_lt.mp notAfter) (String.not_lt.mp behindName))
          · exact less entry member

theorem ascending_ofEntries (entries : List (String × α)) : Ascending (ofEntries entries) := by
  unfold ofEntries
  refine List.foldlRecOn entries _ .nil ?_
  exact fun _ ascending _ _ => ascending.insert

theorem ascending_collect (entries : List (String × α)) : Ascending (collect entries) := by
  unfold collect
  refine List.foldlRecOn entries _ .nil ?_
  exact fun _ ascending _ _ => ascending.insert

theorem mem_ofEntries {entry : String × α} (member : entry ∈ ofEntries entries) :
    entry ∈ entries := by
  unfold ofEntries at member
  revert member
  refine List.foldlRecOn (motive := fun map => entry ∈ map → entry ∈ entries) entries _ nofun ?_
  intro map inside added addedMember member
  rcases mem_insert member with rfl | member
  · exact addedMember
  · exact inside member

/-- Nothing is grouped under a key but values that had it. -/
theorem mem_of_mem_collect {group : String × List α} {value : α}
    (collected : group ∈ collect entries) (member : value ∈ group.2) :
    (group.1, value) ∈ entries := by
  unfold collect at collected
  revert group
  refine List.foldlRecOn (motive := fun groups => ∀ {group : String × List α}, group ∈ groups →
    value ∈ group.2 → (group.1, value) ∈ entries) entries _ ?_ ?_
  · exact fun none => absurd none List.not_mem_nil
  intro groups inside added addedMember group collected member
  rcases mem_insert collected with rfl | old
  · rcases List.mem_append.mp member with earlier | last
    · cases present : groups.lookup added.1 with
      | none => rw [present] at earlier; cases earlier
      | some values =>
          rw [present] at earlier
          exact @inside (added.1, values) (mem_of_lookup present) earlier
    · rw [List.mem_singleton.mp last]
      exact addedMember
  · exact inside old member

/-! ## Look-up behind insertions -/

theorem lookup_insert (name : String) :
    (insert key value entries).lookup name =
      if name = key then some value else entries.lookup name := by
  induction entries with
  | nil =>
      by_cases same : name = key
      · simp [insert, same]
      · simp [insert, same, List.lookup_cons, beq_eq_false_iff_ne.mpr same]
  | cons first rest ih =>
      obtain ⟨other, old⟩ := first
      rw [insert]
      by_cases same : name = key
      · subst same
        rw [if_pos rfl]
        split
        · exact List.lookup_cons_self
        · split
          · exact List.lookup_cons_self
          · rename_i differ _
            rw [List.lookup_cons, beq_eq_false_iff_ne.mpr differ, ih, if_pos rfl]
      · rw [if_neg same] at ih ⊢
        split
        · subst key
          rw [List.lookup_cons, List.lookup_cons, beq_eq_false_iff_ne.mpr same]
        · split
          · rw [List.lookup_cons, beq_eq_false_iff_ne.mpr same]
          · rw [List.lookup_cons, List.lookup_cons, ih]

/-- The last entry with a key counts. -/
theorem lookup_ofEntries (entries : List (String × α)) (key : String) :
    (ofEntries entries).lookup key = entries.reverse.lookup key := by
  induction entries using List.reverseRecOn with
  | nil => rfl
  | append_singleton entries entry ih =>
      rw [ofEntries, List.foldl_concat, ← ofEntries, lookup_insert, ih, List.reverse_concat,
        List.lookup_cons]
      by_cases same : key = entry.1
      · subst same
        simp
      · simp [same, beq_eq_false_iff_ne.mpr same]

theorem ofEntries_eq_nil_iff : ofEntries entries = [] ↔ entries = [] := by
  constructor
  · intro none
    refine List.eq_nil_iff_forall_not_mem.mpr fun entry member => ?_
    have missing := lookup_ofEntries entries entry.1
    rw [none, eq_comm, List.lookup_nil, List.lookup_eq_none_iff] at missing
    exact absurd (missing entry (List.mem_reverse.mpr member)) (by simp)
  · rintro rfl
    rfl

/-- The values of the entries with a key. -/
def valuesOf (key : String) (entries : List (String × α)) : List α :=
  (entries.filter fun entry => entry.1 = key).map Prod.snd

theorem valuesOf_concat (entry : String × α) :
    valuesOf key (entries ++ [entry]) =
      valuesOf key entries ++ if entry.1 = key then [entry.2] else [] := by
  by_cases same : entry.1 = key <;> simp [valuesOf, same]

theorem valuesOf_append (front rest : List (String × α)) :
    valuesOf key (front ++ rest) = valuesOf key front ++ valuesOf key rest := by
  rw [valuesOf, List.filter_append, List.map_append]
  rfl

theorem length_valuesOf (entries : List (String × α)) :
    (valuesOf key entries).length = (keys entries).count key := by
  rw [valuesOf, List.length_map, ← List.countP_eq_length_filter, keys, List.count, List.countP_map]
  rfl

theorem valuesOf_eq_nil (missing : key ∉ keys entries) : valuesOf key entries = [] := by
  rw [valuesOf, List.map_eq_nil_iff, List.filter_eq_nil_iff]
  intro entry member same
  exact missing (List.mem_map.mpr ⟨entry, member, of_decide_eq_true same⟩)

theorem mem_valuesOf_iff : value ∈ valuesOf key entries ↔ (key, value) ∈ entries := by
  simp only [valuesOf, List.mem_map, List.mem_filter, decide_eq_true_eq]
  constructor
  · rintro ⟨entry, ⟨member, rfl⟩, rfl⟩
    exact member
  · intro member
    exact ⟨(key, value), ⟨member, rfl⟩, rfl⟩

theorem valuesOf_eq_nil_iff : valuesOf key entries = [] ↔ key ∉ keys entries := by
  constructor
  · intro none member
    obtain ⟨⟨_, value⟩, inside, rfl⟩ := List.mem_map.mp member
    have present := mem_valuesOf_iff.mpr inside
    rw [none] at present
    cases present
  · exact valuesOf_eq_nil

theorem eq_nil_iff_valuesOf : entries = [] ↔ ∀ key, valuesOf key entries = [] := by
  simp only [valuesOf_eq_nil_iff, ← List.eq_nil_iff_forall_not_mem, keys, List.map_eq_nil_iff]

theorem eq_singleton_iff_valuesOf {entry : String × α} :
    (∀ key, valuesOf key entries = valuesOf key [entry]) ↔ entries = [entry] := by
  constructor
  · intro same
    have only (other : String × α) (member : other ∈ entries) : other = entry := by
      have found := mem_valuesOf_iff.mpr member
      rw [same] at found
      exact List.mem_singleton.mp (mem_valuesOf_iff.mp found)
    have all : entries.filter (fun other => other.1 = entry.1) = entries :=
      List.filter_eq_self.mpr fun other member => by simp [only other member]
    have lengths := congrArg List.length (same entry.1)
    simp only [valuesOf, all, List.length_map, decide_true, List.filter_cons_of_pos,
      List.filter_nil, List.length_singleton] at lengths
    obtain ⟨other, rfl⟩ := List.length_eq_one_iff.mp lengths
    rw [only other (List.mem_singleton_self other)]
  · rintro rfl key
    rfl

theorem valuesOf_perm (perm : entries.Perm others) :
    (valuesOf key entries).Perm (valuesOf key others) :=
  (perm.filter _).map _

/-- Grouping keeps all values of a key, in their order. -/
theorem lookup_collect (entries : List (String × α)) (key : String) :
    (collect entries).lookup key =
      if key ∈ keys entries then some (valuesOf key entries) else none := by
  induction entries using List.reverseRecOn with
  | nil => rfl
  | append_singleton entries entry ih =>
      have added : keys (entries ++ [entry]) = keys entries ++ [entry.1] := List.map_append
      rw [collect, List.foldl_concat, ← collect, addTo, lookup_insert, valuesOf_concat, added]
      by_cases same : key = entry.1
      · subst same
        rw [ih, if_pos rfl, if_pos (List.mem_append_right _ List.mem_cons_self), if_pos rfl]
        by_cases present : entry.1 ∈ keys entries
        · rw [if_pos present, Option.getD_some]
        · rw [if_neg present, Option.getD_none, valuesOf_eq_nil present]
      · simp [same, Ne.symm same, ih]

/-- What is grouped together can be grouped in two parts. -/
theorem lookup_collect_append (front rest : List (String × α)) (key : String) :
    (collect (front ++ rest)).lookup key =
      ((collect front).lookup key).merge (· ++ ·) ((collect rest).lookup key) := by
  have members : key ∈ keys (front ++ rest) ↔ key ∈ keys front ∨ key ∈ keys rest := by
    simp [keys]
  simp only [lookup_collect, members, valuesOf_append]
  by_cases before : key ∈ keys front
  · by_cases behind : key ∈ keys rest
    · simp [before, behind]
    · simp [before, behind, valuesOf_eq_nil behind]
  · by_cases behind : key ∈ keys rest
    · simp [before, behind, valuesOf_eq_nil before]
    · simp [before, behind]

theorem mem_keys_collect_iff : key ∈ keys (collect entries) ↔ key ∈ keys entries := by
  rw [← not_iff_not, ← lookup_eq_none_iff, lookup_collect]
  simp

theorem eq_valuesOf_of_mem_collect {group : String × List α} (member : group ∈ collect entries) :
    group.2 = valuesOf group.1 entries := by
  have found := (ascending_collect entries).lookup_eq_some member
  rw [lookup_collect] at found
  split at found
  · exact (Option.some.inj found).symm
  · cases found

theorem keys_collect_perm (entries : List (String × α)) :
    (keys (collect entries)).Perm (keys entries).dedup := by
  refine (List.perm_ext_iff_of_nodup (ascending_collect entries).nodup (List.nodup_dedup _)).mpr ?_
  intro key
  rw [mem_keys_collect_iff, List.mem_dedup]

end ApiMock.Keyed

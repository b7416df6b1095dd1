import ApiMock.Http.Query
import ApiMock.Proofs.Keyed.Insert
import ApiMock.Proofs.Text.Split
import Mathlib

/-!
# Joined queries

Two queries joined by an ampersand have the parameters of the first one and behind them those of the
second one, whatever both texts are: escapes are decoded segment by segment. Only a question mark in
front of the second query would be dropped without the first one, and then be kept.
-/

set_option autoImplicit false

namespace ApiMock.Keyed

/-- Grouping neither drops a value nor adds one. -/
theorem sum_length_collect {α : Type} (entries : List (String × α)) :
    ((collect entries).map fun group => group.2.length).sum = entries.length := by
  have counts : ((collect entries).map fun group => group.2.length) =
      (keys (collect entries)).map fun key => (keys entries).count key := by
    rw [keys, keys, List.map_map]
    refine List.map_congr_left fun group member => ?_
    rw [eq_valuesOf_of_mem_collect member, length_valuesOf]
    rfl
  rw [counts, ((keys_collect_perm entries).map _).sum_eq, List.sum_map_count_dedup_eq_length, keys,
    List.length_map]

end ApiMock.Keyed

namespace ApiMock.Query

theorem body_of_head?_ne {query : List Char} (plain : query.head? ≠ some '?') :
    body query = query := by
  unfold body
  split
  · exact absurd rfl plain
  · rfl

theorem body_append_ampersand (text rest : List Char) :
    body (text ++ '&' :: rest) = body text ++ '&' :: rest := by
  cases text with
  | nil => rfl
  | cons c text =>
      by_cases marked : c = '?'
      · subst c
        rfl
      · simp [body, marked]

theorem segments_join {query rest : String} (plain : rest.toList.head? ≠ some '?') :
    segments (query ++ "&" ++ rest) = segments query ++ segments rest := by
  have joined : (query ++ "&" ++ rest).toList = query.toList ++ '&' :: rest.toList := by
    rw [String.toList_append, String.toList_append, List.append_assoc]
    rfl
  rw [segments, joined, body_append_ampersand, Split.atEach_append_mark, List.filter_append,
    segments, segments, body_of_head?_ne plain]

theorem parameters_join {query rest : String} (plain : rest.toList.head? ≠ some '?') :
    parameters (query ++ "&" ++ rest) = parameters query ++ parameters rest := by
  rw [parameters, segments_join plain, List.map_append]
  rfl

theorem length_parameters (query : String) :
    (parameters query).length = ((body query.toList).splitOn '&').countP (· ≠ []) := by
  rw [parameters, List.length_map, segments, Split.atEach_eq_splitOn, List.countP_eq_length_filter]
  refine congrArg List.length (List.filter_congr fun segment _ => ?_)
  cases segment <;> rfl

/-- In a joined query each key has the values of both queries, those of the first one in front, and
there are no other keys. No query loses or gains a value: it has as many values as segments that are
not empty. -/
theorem grouped_join {query rest : String} (plain : rest.toList.head? ≠ some '?') :
    (Keyed.keys (grouped (query ++ "&" ++ rest))).Nodup ∧
      (∀ key, (grouped (query ++ "&" ++ rest)).lookup key =
        ((grouped query).lookup key).merge (· ++ ·) ((grouped rest).lookup key)) ∧
      ∀ text : String, ((grouped text).map fun group => group.2.length).sum =
        ((body text.toList).splitOn '&').countP (· ≠ []) := by
  refine ⟨(Keyed.ascending_collect _).nodup, fun key => ?_, fun text => ?_⟩
  · rw [grouped, parameters_join plain]
    exact Keyed.lookup_collect_append (parameters query) (parameters rest) key
  · rw [grouped, Keyed.sum_length_collect, length_parameters]

/-- Keys that are the same only when they are decoded, escapes that spell no text, and a question mark
inside. -/
theorem grouped_join_of_malformed_escapes :
    let query := "?a%20b=%FF&&c"
    let rest := "a+b=?&%zz=%C3%A9"
    rest.toList.head? ≠ some '?' ∧
      (grouped (query ++ "&" ++ rest)).lookup "a b" = some ["%FF", "?"] ∧
      (grouped (query ++ "&" ++ rest)).lookup "c" = some [""] ∧
      ((grouped (query ++ "&" ++ rest)).map fun group => group.2.length).sum = 4 := by
  intro query rest
  have plain : rest.toList.head? ≠ some '?' := by decide
  obtain ⟨-, values, total⟩ := @grouped_join query rest plain
  refine ⟨plain, ?_, ?_, ?_⟩
  · rw [values "a b"]
    decide +kernel
  · rw [values "c"]
    decide +kernel
  · rw [total]
    decide +kernel

end ApiMock.Query

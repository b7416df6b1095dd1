import ApiMock.Proofs.JsonPath.Selector
import ApiMock.Proofs.Text.Split
import ApiMock.Schema.Constraint

/-!
# Fields that dotted paths spell

A place whose steps are joined with points is the path of a field. The query that the path stands
for selects the part at that place, since the text of the query is read back step by step.
-/

set_option autoImplicit false

namespace ApiMock

namespace FieldPath

open JsonPath

/-! ## Segments in brackets -/

/-- The segment of a dotted path for a step. -/
def segment : Step → List Char
  | .member name => name.toList
  | .item index => Nat.toDigits 10 index

/-- Steps that a segment can stand for. -/
def Spellable : Step → Prop
  | .member name => '.' ∉ name.toList ∧ (name = "" ∨ ∃ c ∈ name.toList, c.isDigit = false)
  | .item index => index < 0x20000000000000

/-- Steps whose names stand in quotes as they are, but for the quotes in them. -/
def Quotable : Step → Prop
  | .member name => ∀ c ∈ name.toList, c ≠ '\\' ∧ ¬c < ' '
  | .item _ => True

instance : DecidablePred Spellable
  | .member name =>
    have : Decidable (∃ c ∈ name.toList, c.isDigit = false) := List.decidableBEx _ _
    inferInstanceAs (Decidable (_ ∧ _))
  | .item _ => inferInstanceAs (Decidable (_ < _))

instance : DecidablePred Quotable
  | .member _ => List.decidableBAll _ _
  | .item _ => inferInstanceAs (Decidable True)

theorem fitsIndex_natCast {n : Nat} (small : n < 0x20000000000000) : fitsIndex n = true := by
  have low : (-0x8000000000000000 : Int) ≤ n := by omega
  have high : (n : Int) < 0x8000000000000000 := by omega
  exact decide_eq_true ⟨low, high⟩

theorem bracketed_toDigits (n : Nat) :
    bracketed (Nat.toDigits 10 n) = '[' :: Nat.toDigits 10 n ++ [']'] := by
  obtain ⟨c, digits, written, -⟩ := exists_toDigits_eq_cons n
  apply if_pos
  have all : (Nat.toDigits 10 n).all Char.isDigit = true :=
    List.all_eq_true.mpr fun _ => isDigit_of_mem_toDigits
  rw [all, written]
  rfl

theorem bracketed_name {name : String}
    (named : name = "" ∨ ∃ c ∈ name.toList, c.isDigit = false) :
    bracketed name.toList = ['[', '\''] ++ escapeQuotes name.toList ++ ['\'', ']'] := by
  apply if_neg
  obtain rfl | ⟨c, member, other⟩ := named
  · decide
  · intro wrong
    rw [Bool.and_eq_true, List.all_eq_true] at wrong
    rw [wrong.2 c member] at other
    cases other

theorem readSelectors?_bracketed {step : Step} (fuel : Nat) (rest : List Char)
    (spellable : Spellable step) (quotable : Quotable step) :
    ∃ inside, bracketed (segment step) = '[' :: inside ∧
      readSelectors? (fuel + 2) (inside ++ rest) = some ([stepSelector step], rest) := by
  cases step with
  | item index =>
      refine ⟨Nat.toDigits 10 index ++ [']'], bracketed_toDigits index, ?_⟩
      rw [List.append_assoc]
      apply readSelectors?_of_readSelector?
      rw [skipBlanks_toDigits]
      exact readSelector?_toDigits fuel rest (fitsIndex_natCast spellable)
  | member name =>
      refine ⟨'\'' :: escapeQuotes name.toList ++ ['\'', ']'], bracketed_name spellable.2, ?_⟩
      rw [List.append_assoc]
      apply readSelectors?_of_readSelector?
      have read := readSelector?_escapeQuotes fuel (']' :: rest) quotable
      rw [String.ofList_toList] at read
      exact read

theorem readSegments?_bracketed {place : Location} {fuel : Nat}
    (spellable : ∀ step ∈ place, Spellable step) (quotable : ∀ step ∈ place, Quotable step)
    (enough : place.length + 3 ≤ fuel) :
    readSegments? fuel (place.flatMap fun step => bracketed (segment step)) =
      some (place.map fun step => .child [stepSelector step], []) := by
  induction place generalizing fuel with
  | nil =>
      obtain ⟨fuel, rfl⟩ := Nat.exists_eq_add_of_le' enough
      rfl
  | cons step rest ih =>
      obtain ⟨here, behind⟩ := List.forall_mem_cons.mp spellable
      obtain ⟨plain, quotableBehind⟩ := List.forall_mem_cons.mp quotable
      obtain ⟨fuel, rfl⟩ : ∃ less, fuel = less + 3 := Nat.exists_eq_add_of_le' (by omega)
      rw [List.length_cons] at enough
      obtain ⟨inside, opened, selectors⟩ := readSelectors?_bracketed fuel
        (rest.flatMap fun step => bracketed (segment step)) here plain
      have blank (text : List Char) : Json.skipBlanks ('[' :: text) = '[' :: text := rfl
      have next : readSegments? (fuel + 2) _ = _ := ih behind quotableBehind (by omega)
      rw [List.flatMap_cons, opened, List.cons_append, readSegments?, blank]
      · simp [selectors, next]
      all_goals simp

theorem readQuery?_dotted {place : Location} {fuel : Nat}
    (spellable : ∀ step ∈ place, Spellable step) (quotable : ∀ step ∈ place, Quotable step)
    (enough : place.length + 4 ≤ fuel) :
    readQuery? fuel ('$' :: place.flatMap fun step => bracketed (segment step)) =
      some (placeQuery place, []) := by
  obtain ⟨fuel, rfl⟩ : ∃ less, fuel = less + 1 := Nat.exists_eq_add_of_le' (by omega)
  rw [readQuery?, readSegments?_bracketed spellable quotable (by omega)]
  rfl

theorem length_le_length_bracketed (place : Location) :
    place.length ≤ (place.flatMap fun step => bracketed (segment step)).length := by
  induction place with
  | nil => exact Nat.le_refl _
  | cons step rest ih =>
      have some : 1 ≤ (bracketed (segment step)).length := by
        unfold bracketed
        split <;> simp
      rw [List.flatMap_cons, List.length_append, List.length_cons]
      omega

/-! ## Dotted paths -/

/-- The dotted path to a place. -/
def dotted (place : Location) : String := String.ofList (['.'].intercalate (place.map segment))

theorem dot_not_mem_segment {step : Step} (spellable : Spellable step) :
    '.' ∉ segment step := by
  cases step with
  | member name => exact spellable.1
  | item index =>
      intro dot
      cases isDigit_of_mem_toDigits dot

theorem head?_dotted_cons {step : Step} {rest : Location} {c : Char}
    (other : (segment step).head? ≠ some c) (mark : c ≠ '.') :
    (dotted (step :: rest)).toList.head? ≠ some c := by
  rw [dotted, String.toList_ofList, List.map_cons]
  cases rest with
  | nil => simpa using other
  | cons next rest =>
      rw [List.map_cons, List.intercalate_cons_cons, List.append_assoc]
      cases written : segment step with
      | nil => simpa using mark.symm
      | cons d behind =>
          rw [written] at other
          exact other

theorem expression_dotted {step : Step} {rest : Location}
    (first : (segment step).head? ≠ some '$') (spellable : ∀ s ∈ step :: rest, Spellable s) :
    expression (dotted (step :: rest)) =
      String.ofList ('$' :: (step :: rest).flatMap fun step => bracketed (segment step)) := by
  have parts : Split.atEach '.' (dotted (step :: rest)).toList = (step :: rest).map segment := by
    rw [dotted, String.toList_ofList]
    apply Split.atEach_intercalate
    · simp
    · intro part member
      obtain ⟨step, within, rfl⟩ := List.mem_map.mp member
      exact dot_not_mem_segment (spellable step within)
  unfold expression
  split
  next behind dollar =>
    have other : (dotted (step :: rest)).toList.head? ≠ some '$' :=
      head?_dotted_cons first (by decide)
    rw [dollar] at other
    exact absurd rfl other
  next => rw [parts, List.flatMap_map]

theorem query?_dotted {step : Step} {rest : Location} (first : (segment step).head? ≠ some '$')
    (spellable : ∀ s ∈ step :: rest, Spellable s) (quotable : ∀ s ∈ step :: rest, Quotable s) :
    query? (dotted (step :: rest)) = some (placeQuery (step :: rest)) := by
  have long := length_le_length_bracketed (step :: rest)
  rw [query?, expression_dotted first spellable, parse?, String.toList_ofList,
    readQuery?_dotted spellable quotable]
  · rfl
  · simp only [List.length_cons] at long ⊢
    omega

/-! ## The field of a constraint -/

/-- Whether a query selects the part at a place, and nothing where a document has no such part. -/
def Selects (query : Query) (place : Location) : Prop :=
  ∀ document : Value, query.nodes document document = (document.part? place).toList

/-- Joined with points, the segments for the steps of a place are the path of a query for that
place, unless a name holds a backslash or a control character. -/
theorem constraintOf_dotted {step : Step} {rest : Location}
    (first : (segment step).head? ≠ some '$')
    (spellable : ∀ s ∈ step :: rest, Spellable s) (quotable : ∀ s ∈ step :: rest, Quotable s) :
    ∃ query, query? (dotted (step :: rest)) = some query ∧ Selects query (step :: rest) ∧
      ∀ (fields : Schema.Fields) (value : String) (expected : Value) (options : CompareOptions),
        fields.text "path" = .ok (dotted (step :: rest)) → fields.text "value" = .ok value →
        Schema.compareOptions fields = .ok options → Json.read value = .ok expected →
        Schema.constraintOf fields .bodyJsonFieldMatchesJson =
          .ok (.jsonFieldMatches (dotted (step :: rest)) query expected options) := by
  have parsed := query?_dotted first spellable quotable
  refine ⟨placeQuery (step :: rest), parsed, placeQuery_nodes _, ?_⟩
  intro fields value expected options path text chosen read
  have json : Schema.jsonDocument fields value = .ok expected := by
    rw [Schema.jsonDocument, read]
    rfl
  simp only [Schema.constraintOf, path, text, chosen, json, parsed, bind, Except.bind, pure,
    Except.pure]

/-- A place with a quote in a name, an index and an empty name. -/
def quotedPlace : Location := [.member "it's", .item 0, .member ""]

/-- The keys of a constraint on the field at that place. -/
def quotedFields : Schema.Fields :=
  ⟨"$", [("path", .string "it's.0."), ("value", .string "null")]⟩

theorem constraintOf_dotted_of_quoted_name :
    ∃ query, query? "it's.0." = some query ∧ Selects query quotedPlace ∧
      Schema.constraintOf quotedFields .bodyJsonFieldMatchesJson =
        .ok (.jsonFieldMatches "it's.0." query .null .unorderedArrays) := by
  have path : dotted quotedPlace = "it's.0." := by decide
  have spellable : ∀ s ∈ quotedPlace, Spellable s := by decide
  have quotable : ∀ s ∈ quotedPlace, Quotable s := by decide
  obtain ⟨query, parsed, selects, built⟩ := constraintOf_dotted (by decide) spellable quotable
  rw [← quotedPlace, path] at parsed built
  exact ⟨query, parsed, selects, built quotedFields "null" .null .unorderedArrays rfl rfl rfl rfl⟩

/-- Quotes are escaped, but not backslashes or control characters. A backslash swallows the end of
the name or turns into another character, and a tab is refused. -/
theorem not_selects_of_backslash_or_control :
    (∀ name ∈ ["a\\", "a\tb", "a\\b"], Spellable (.member name)) ∧
      query? (dotted [.member "a\\"]) = none ∧ query? (dotted [.member "a\tb"]) = none ∧
      ∃ query, query? (dotted [.member "a\\b"]) = some query ∧
        ¬ Selects query [.member "a\\b"] := by
  let document : Value := .object [("a\\b", .null)]
  have found : (query? (dotted [.member "a\\b"])).map
      (fun query => (query.nodes document document).length) = some 0 := by decide +kernel
  obtain ⟨query, parsed, missed⟩ := Option.map_eq_some_iff.mp found
  refine ⟨by decide, by decide +kernel, by decide +kernel, query, parsed, ?_⟩
  intro selects
  rw [selects document] at missed
  cases missed

end FieldPath

end ApiMock

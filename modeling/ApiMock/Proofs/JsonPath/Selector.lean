import ApiMock.JsonPath.FieldPath
import ApiMock.Proofs.Text.Digits
import ApiMock.Proofs.Value.Place

/-!
# Queries for one place

A query whose segments have one name or one index each selects the part at a place. Written in
brackets, such segments are read back: the digits of an index, and a name in single quotes whose own
quotes are escaped.
-/

set_option autoImplicit false

namespace ApiMock

namespace JsonPath

/-! ## What such a query selects -/

/-- The selector of a single item or member. -/
def stepSelector : Step → Selector
  | .member name => .name name
  | .item index => .index index

/-- The query that goes down to a place, step by step. -/
def placeQuery (place : Location) : Query :=
  ⟨true, place.map fun step => .child [stepSelector step]⟩

theorem itemAt?_natCast (items : List Value) (index : Nat) :
    itemAt? items index = items[index]? := by
  have front : ¬ (index : Int) < 0 := Int.not_lt.mpr (Int.natCast_nonneg index)
  simp only [itemAt?, if_neg front, Int.toNat_natCast]

theorem stepSelector_nodes (root node : Value) (step : Step) :
    (stepSelector step).nodes root node = (node.child? step).toList := by
  cases step with
  | member name => cases node <;> simp [stepSelector, Selector.nodes, Value.member?, Value.child?]
  | item index =>
      cases node <;> simp [stepSelector, Selector.nodes, itemAt?_natCast, Value.child?]

theorem segmentsNodes_place (root : Value) (place : Location) (nodes : List Value) :
    segmentsNodes root (place.map fun step => .child [stepSelector step]) nodes =
      nodes.flatMap fun node => (node.part? place).toList := by
  induction place generalizing nodes with
  | nil => simp [segmentsNodes, Value.part?]
  | cons step rest ih =>
      rw [List.map_cons, segmentsNodes, ih, List.flatMap_assoc]
      apply List.flatMap_congr
      intro node _
      rw [Segment.nodes, selectorsNodes, selectorsNodes, List.append_nil, stepSelector_nodes,
        Value.part?_cons]
      cases node.child? step <;> simp

theorem placeQuery_nodes (place : Location) (document : Value) :
    (placeQuery place).nodes document document = (document.part? place).toList := by
  rw [placeQuery, Query.nodes, segmentsNodes_place]
  simp

/-! ## Reading indices -/

theorem digit?_of_isDigit {c : Char} (digit : c.isDigit = true) :
    Json.digit? c = some (c.toNat - '0'.toNat) := by
  obtain ⟨low, high⟩ := Char.isDigit_iff_toNat.mp digit
  exact if_pos ⟨low, high⟩

theorem plainDigits_append {digits : List Char} {c : Char} (rest : List Char) (value : Nat)
    (all : ∀ d ∈ digits, d.isDigit = true) (stop : Json.digit? c = none) :
    Json.plainDigits value (digits ++ c :: rest) =
      (Nat.ofDigitChars 10 digits value, c :: rest) := by
  induction digits generalizing value with
  | nil => simp [Json.plainDigits, stop]
  | cons d digits ih =>
      obtain ⟨here, behind⟩ := List.forall_mem_cons.mp all
      rw [List.cons_append, Json.plainDigits, digit?_of_isDigit here, Nat.ofDigitChars_cons,
        Nat.mul_comm 10 value]
      exact ih _ behind

theorem readDigits?_toDigits (n : Nat) (rest : List Char) :
    readDigits? (Nat.toDigits 10 n ++ ']' :: rest) = some (n, ']' :: rest) := by
  by_cases zero : n = 0
  · subst zero
    rfl
  · obtain ⟨c, digits, written, digit, plain⟩ := exists_toDigits_eq_cons n
    have other := plain (Nat.pos_of_ne_zero zero)
    have read := plainDigits_append rest 0 (fun _ => isDigit_of_mem_toDigits (n := n))
      (c := ']') (by decide)
    rw [Nat.ofDigitChars_ten_toDigits, written] at read
    rw [written]
    simp only [List.cons_append, readDigits?, digit, if_true] at read ⊢
    rw [read]

theorem readInteger?_toDigits {n : Nat} (rest : List Char) (fits : fitsIndex n = true) :
    readInteger? (Nat.toDigits 10 n ++ ']' :: rest) = some ((n : Int), ']' :: rest) := by
  have read := readDigits?_toDigits n rest
  unfold readInteger?
  -- The kernel would count down from the bounds, so the check stands for any check from here on.
  obtain ⟨inRange, same⟩ : ∃ inRange, fitsIndex = inRange := ⟨_, rfl⟩
  rw [same] at fits ⊢
  split
  rename_i negative digits halves
  split at halves
  next sign => exact absurd sign (toDigits_append_ne_cons (by decide))
  next =>
    cases halves
    simp [read, fits]

/-! ## Reading selectors in brackets -/

theorem skipBlanks_toDigits (n : Nat) (rest : List Char) :
    Json.skipBlanks (Nat.toDigits 10 n ++ rest) = Nat.toDigits 10 n ++ rest := by
  obtain ⟨first, digits, written, digit, _⟩ := exists_toDigits_eq_cons n
  have solid : Json.isBlank first = false := by
    cases blank : Json.isBlank first with
    | false => rfl
    | true =>
        simp only [Json.isBlank, Bool.or_eq_true, beq_iff_eq] at blank
        obtain ((rfl | rfl) | rfl) | rfl := blank <;> cases digit
  rw [written]
  simp [Json.skipBlanks, solid]

theorem readSlice?_toDigits {n : Nat} (rest : List Char) (fits : fitsIndex n = true) :
    readSlice? (Nat.toDigits 10 n ++ ']' :: rest) = none := by
  simp only [readSlice?, skipBlanks_toDigits, readInteger?_toDigits rest fits]
  rfl

theorem readQuoted?_escapeQuotes {name rest : List Char} (read : List Char)
    (plain : ∀ c ∈ name, c ≠ '\\' ∧ ¬c < ' ') :
    readQuoted? '\'' read (FieldPath.escapeQuotes name ++ '\'' :: rest) =
      some (String.ofList (read.reverse ++ name), rest) := by
  induction name generalizing read with
  | nil => simp [FieldPath.escapeQuotes, readQuoted?]
  | cons c name ih =>
      obtain ⟨⟨solid, visible⟩, behind⟩ := List.forall_mem_cons.mp plain
      by_cases quote : c = '\''
      · subst quote
        have next := ih ('\'' :: read) behind
        simp only [FieldPath.escapeQuotes, List.flatMap_cons, if_pos, List.cons_append,
          List.nil_append] at next ⊢
        rw [readQuoted?, next]
        · simp
        · simp
      · have next := ih (c :: read) behind
        simp only [FieldPath.escapeQuotes, List.flatMap_cons, if_neg quote, List.cons_append,
          List.nil_append] at next ⊢
        rw [readQuoted?, next]
        all_goals simp_all

theorem readSelector?_toDigits {n : Nat} (fuel : Nat) (rest : List Char)
    (fits : fitsIndex n = true) :
    readSelector? (fuel + 1) (Nat.toDigits 10 n ++ ']' :: rest) =
      some (.index n, ']' :: rest) := by
  rw [readSelector?, readSlice?_toDigits rest fits, readInteger?_toDigits rest fits]
  · intro after
    exact toDigits_append_ne_cons (by decide)
  · intro after
    exact toDigits_append_ne_cons (by decide)

theorem readSelector?_escapeQuotes {name : List Char} (fuel : Nat) (rest : List Char)
    (plain : ∀ c ∈ name, c ≠ '\\' ∧ ¬c < ' ') :
    readSelector? (fuel + 1) ('\'' :: (FieldPath.escapeQuotes name ++ '\'' :: rest)) =
      some (.name (String.ofList name), rest) := by
  have slice (text : List Char) : readSlice? ('\'' :: text) = none := rfl
  have integer (text : List Char) : readInteger? ('\'' :: text) = none := rfl
  rw [readSelector?, slice, integer, readString?, readQuoted?_escapeQuotes [] plain]
  · rfl
  · simp
  · simp

theorem readSelectors?_of_readSelector? {fuel : Nat} {text rest : List Char} {selector : Selector}
    (read : readSelector? fuel (Json.skipBlanks text) = some (selector, ']' :: rest)) :
    readSelectors? (fuel + 1) text = some ([selector], rest) := by
  have close : Json.skipBlanks (']' :: rest) = ']' :: rest := rfl
  rw [readSelectors?, read]
  simp [close]

end JsonPath

end ApiMock

import ApiMock.Constraint
import ApiMock.Proofs.Compare.Agreement
import ApiMock.Proofs.Text.Utf8
import ApiMock.Proofs.Xml.Distinction
import ApiMock.Proofs.Xml.WellFormed
import Mathlib

/-!
# Bodies that are compared as XML

A constraint compares what two documents are decoded into, so it takes a document for another one
only if they have the same value.
-/

set_option autoImplicit false

namespace ApiMock.Xml

open Element

variable {source otherSource : String} {root otherRoot : Element} {request : Request}

theorem readDocument_empty : readDocument "" = .error .noElement := rfl

theorem xmlBodyOf_of_read (read : readDocument (Utf8.decodeLossy request.body) = .ok root) :
    Constraint.xmlBodyOf request = .ok root.documentValue := by
  have some : request.body.isEmpty = false := by
    cases body : request.body with
    | nil =>
        rw [body, show [] = Utf8.encode "" from rfl, Utf8.decodeLossy_encode,
          readDocument_empty] at read
        cases read
    | cons => rfl
  simp [Constraint.xmlBodyOf, Constraint.decodeBody, some, Xml.read, read, Except.map,
    Except.mapError]

theorem exact_documentValue (literal : root.documentValue.DirectiveFree) :
    root.documentValue.Exact := by
  revert literal
  refine documentValue_induction (motive := fun value => value.DirectiveFree → value.Exact)
    (fun text literal => ?_) (fun items each literal => ?_)
    (fun members ascending each literal => ?_) root
  · exact Value.exact_string (Value.directiveFree_string_iff.mp literal)
  · have literals := Value.directiveFree_array_iff.mp literal
    exact Value.exact_array fun item member => each item member (literals item member)
  · have literals := Value.directiveFree_object_iff.mp literal
    exact Value.exact_object ascending fun name value member =>
      each name value member (literals name value member)

/-- Two documents have the same value exactly if their elements correspond to each other, and only
then a constraint that overlooks nothing takes one for the other. -/
theorem read_eq_iff_equivalent (read : readDocument source = .ok root)
    (readOther : readDocument otherSource = .ok otherRoot) :
    (Xml.read source = Xml.read otherSource ↔ EquivalentUpTo Ambiguous root otherRoot) ∧
      (root.documentValue.DirectiveFree → ∀ request : Request,
        Utf8.decodeLossy request.body = otherSource →
        ((Constraint.xmlBodyMatches root.documentValue .strict).verify request = [] ↔
          EquivalentUpTo Ambiguous root otherRoot)) := by
  have same := documentValue_eq_iff (plainNames_of_readDocument read)
    (plainNames_of_readDocument readOther)
  constructor
  · rw [Xml.read, Xml.read, read, readOther, Except.map, Except.map, Except.ok.injEq, same]
  · rintro literal request rfl
    rw [Constraint.verify, xmlBodyOf_of_read readOther, Constraint.documentViolations,
      List.map_eq_nil_iff, exact_documentValue literal _ (wellFormed_documentValue otherRoot), same]

/-- Child elements of different names may pass each other, and a text next to attributes may be
written as a child element. -/
theorem read_eq_iff_equivalent_of_moved_elements :
    ∃ root otherRoot,
      readDocument "<r><b>1</b><c k=\"1\">t</c></r>" = .ok root ∧
      readDocument "<r><c k=\"1\"><content>t</content></c><b>1</b></r>" = .ok otherRoot ∧
      root.documentValue.DirectiveFree ∧ EquivalentUpTo Ambiguous root otherRoot ∧
      (Constraint.xmlBodyMatches root.documentValue .strict).verify
        { body := Utf8.encode "<r><c k=\"1\"><content>t</content></c><b>1</b></r>" } = [] := by
  let leaf (localName text : String) : Element := ⟨⟨"", localName⟩, [], [.text text]⟩
  let attributed (nodes : List Node) : Element := ⟨⟨"", "c"⟩, [(⟨"", "k"⟩, "1")], nodes⟩
  let root : Element :=
    ⟨⟨"", "r"⟩, [], [.element (leaf "b" "1"), .element (attributed [.text "t"])]⟩
  let otherRoot : Element :=
    ⟨⟨"", "r"⟩, [],
      [.element (attributed [.element (leaf "content" "t")]), .element (leaf "b" "1")]⟩
  have read : readDocument "<r><b>1</b><c k=\"1\">t</c></r>" = .ok root := by cbv
  have readOther :
      readDocument "<r><c k=\"1\"><content>t</content></c><b>1</b></r>" = .ok otherRoot := by cbv
  have document : root.documentValue = .object [("r", .object [("b", .string "1"),
      ("c", .object [("-attrs", .object [("k", .string "1")]), ("content", .string "t")])])] := by
    cbv
  have values : root.documentValue = otherRoot.documentValue := by cbv
  have literal : root.documentValue.DirectiveFree := by
    have plain : Directive.pattern? "1" = none ∧ Directive.pattern? "t" = none := by decide
    simp [document, or_imp, forall_and, Value.directiveFree_object_iff,
      Value.directiveFree_string_iff, plain]
  have same := read_eq_iff_equivalent read readOther
  have equivalent : EquivalentUpTo Ambiguous root otherRoot := by
    refine same.1.mp ?_
    rw [Xml.read, Xml.read, read, readOther, Except.map, Except.map, values]
  exact ⟨root, otherRoot, read, readOther, literal, equivalent,
    (same.2 literal _ (Utf8.decodeLossy_encode _)).mpr equivalent⟩

/-- A text next to attributes is not told from a child element of the reserved name. -/
theorem exists_read_eq_not_equivalent :
    ∃ root otherRoot, readDocument "<r k=\"1\">t</r>" = .ok root ∧
      readDocument "<r k=\"1\"><content>t</content></r>" = .ok otherRoot ∧
      root.documentValue = otherRoot.documentValue ∧ ¬root.Equivalent otherRoot := by
  let root : Element := ⟨⟨"", "r"⟩, [(⟨"", "k"⟩, "1")], [.text "t"]⟩
  let otherRoot : Element :=
    ⟨⟨"", "r"⟩, [(⟨"", "k"⟩, "1")], [.element ⟨⟨"", "content"⟩, [], [.text "t"]⟩]⟩
  have read : readDocument "<r k=\"1\">t</r>" = .ok root := by cbv
  have readOther : readDocument "<r k=\"1\"><content>t</content></r>" = .ok otherRoot := by cbv
  have values : root.documentValue = otherRoot.documentValue := by cbv
  refine ⟨root, otherRoot, read, readOther, values, fun equivalent => ?_⟩
  cases equivalent with
  | text _ _ _ none => cases none
  | children _ _ some => exact some rfl
  | confused _ _ wrong => exact wrong

end ApiMock.Xml

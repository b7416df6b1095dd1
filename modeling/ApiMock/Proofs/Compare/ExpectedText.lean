import ApiMock.Compare.Query
import ApiMock.Proofs.Text.Split

/-!
# What an expected text asks for

A directive asks for texts in which its pattern occurs, and any other text for itself. A directive
with a pattern that does not compile is malformed: it asks for nothing that a text could fulfil.
-/

set_option autoImplicit false

namespace ApiMock

/-- A directive is the source of a pattern between its opening and a closing parenthesis. The source
is not empty and lies on one line. -/
theorem Directive.pattern?_eq_some_iff {text source : String} :
    Directive.pattern? text = some source ↔
      text = "$matchRegexp(" ++ source ++ ")" ∧ source ≠ "" ∧ '\n' ∉ source.toList := by
  have opened : text = "$matchRegexp(" ++ source ++ ")" ↔
      Split.dropWord? opening text.toList = some (source.toList ++ [')']) := by
    rw [Split.dropWord?_eq_some_iff, ← String.toList_inj, String.toList_append, String.toList_append,
      List.append_assoc]
    rfl
  rw [opened, pattern?]
  cases Split.dropWord? opening text.toList with
  | none => exact iff_of_false nofun fun ⟨none_cut, _⟩ => nomatch none_cut
  | some body =>
      dsimp only
      rw [Option.ite_none_right_eq_some, Option.some.injEq, Option.some.injEq]
      constructor
      · rintro ⟨⟨closed, written, oneLine⟩, rfl⟩
        obtain ⟨front, rfl⟩ := List.getLast?_eq_some_iff.mp closed
        rw [List.dropLast_concat] at written oneLine ⊢
        rw [String.toList_ofList]
        exact ⟨rfl, fun empty => written (String.ofList_eq_empty_iff.mp empty), oneLine⟩
      · rintro ⟨rfl, written, oneLine⟩
        rw [List.dropLast_concat, List.getLast?_concat, String.ofList_toList]
        exact ⟨⟨rfl, fun empty => written (String.toList_eq_nil_iff.mp empty), oneLine⟩, rfl⟩

/-- A directive whose pattern does not compile. -/
def Directive.IsMalformed (text : String) : Prop :=
  ∃ source fault, Directive.pattern? text = some source ∧ Pattern.compile source = .error fault

/-- An expected text accepts an actual one: the same text, or one in which its pattern occurs. -/
def Accepts (expected actual : String) : Prop :=
  match Directive.pattern? expected with
  | none => expected = actual
  | some source => ∃ pattern, Pattern.compile source = .ok pattern ∧ pattern.occursIn actual = true

theorem accepts_of_literal {expected : String} (literal : Directive.pattern? expected = none)
    (actual : String) : Accepts expected actual ↔ expected = actual := by
  rw [Accepts, literal]

theorem accepts_iff_of_valueTest {expected : String} {test : String → Bool}
    (read : valueTest expected = .ok test) (actual : String) :
    Accepts expected actual ↔ test actual = true := by
  unfold valueTest at read
  unfold Accepts
  cases asked : Directive.pattern? expected with
  | none =>
      rw [asked] at read
      cases read
      exact beq_iff_eq.symm
  | some source =>
      rw [asked] at read
      dsimp only at read ⊢
      cases compiled : Pattern.compile source with
      | error fault => rw [compiled] at read; cases read
      | ok pattern =>
          rw [compiled] at read
          cases read
          simp

theorem valueTest_eq_error_iff {expected : String} {fault : Pattern.Fault} :
    valueTest expected = .error fault ↔
      ∃ source, Directive.pattern? expected = some source ∧
        Pattern.compile source = .error fault := by
  unfold valueTest
  cases Directive.pattern? expected with
  | none => simp
  | some source =>
      dsimp only
      cases compiled : Pattern.compile source <;> simp [compiled]

theorem isMalformed_iff {text : String} :
    Directive.IsMalformed text ↔ ∃ fault, valueTest text = .error fault := by
  simp only [valueTest_eq_error_iff]
  exact exists_comm

theorem not_isMalformed_of_valueTest {text : String} {test : String → Bool}
    (read : valueTest text = .ok test) : ¬ Directive.IsMalformed text := by
  intro malformed
  obtain ⟨fault, failed⟩ := isMalformed_iff.mp malformed
  cases failed.symm.trans read

theorem not_isMalformed_of_literal {text : String} (literal : Directive.pattern? text = none) :
    ¬ Directive.IsMalformed text := by
  rintro ⟨source, _, asked, _⟩
  cases literal.symm.trans asked

/-- A malformed directive accepts nothing. -/
theorem not_isMalformed_of_accepts {expected actual : String} (accepts : Accepts expected actual) :
    ¬ Directive.IsMalformed expected := by
  rintro ⟨source, fault, asked, failed⟩
  rw [Accepts, asked] at accepts
  obtain ⟨pattern, compiled, _⟩ := accepts
  cases failed.symm.trans compiled

instance (text : String) : Decidable (Directive.IsMalformed text) :=
  match read : valueTest text with
  | .error fault => isTrue (isMalformed_iff.mpr ⟨fault, read⟩)
  | .ok _ => isFalse (not_isMalformed_of_valueTest read)

instance (expected actual : String) : Decidable (Accepts expected actual) :=
  match read : valueTest expected with
  | .error fault => isFalse fun accepts =>
      not_isMalformed_of_accepts accepts (isMalformed_iff.mpr ⟨fault, read⟩)
  | .ok test => decidable_of_iff (test actual = true) (accepts_iff_of_valueTest read actual).symm

end ApiMock

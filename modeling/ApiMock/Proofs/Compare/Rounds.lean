import ApiMock.Proofs.Compare.ExpectedText
import Mathlib.Data.Multiset.ZeroCons

/-!
# Rounds of pairing

Each round of the matching of query values takes one pair of texts from the two lists. The order in
which the others are left is of no concern, so that a round is one on multisets: nothing is expected
any more, a directive turns out to be malformed, no pair is left, or a pair is taken and the rounds
go on. A malformed directive is in no pair, so that no other end can come before it is found.
-/

set_option autoImplicit false

namespace ApiMock

/-! ## Taking a pair -/

section

variable {α : Type} {items : List α} {index : Nat}

theorem cons_perm_cons_set {old : α} (new : α) (found : items[index]? = some old) :
    (new :: items).Perm (old :: items.set index new) := by
  induction items generalizing index with
  | nil => cases found
  | cons first rest ih =>
      cases index with
      | zero => cases found; exact .swap old new rest
      | succ index =>
          exact (List.Perm.swap first new rest).trans
            (((ih found).cons first).trans (.swap old first _))

/-- Removing an item loses that item only, wherever the last one goes. -/
theorem perm_cons_swapRemove {item : α} (found : items[index]? = some item) :
    items.Perm (item :: swapRemove items index) := by
  have inside := (List.getElem?_eq_some_iff.mp found).1
  obtain rfl | ⟨front, last, rfl⟩ := List.eq_nil_or_concat' items
  · cases found
  rw [swapRemove, List.getLast?_concat]
  dsimp only
  refine (List.perm_append_singleton last front).trans ?_
  by_cases isLast : index = front.length
  · subst isLast
    rw [List.getElem?_concat_length] at found
    cases found
    rw [List.set_append_right _ _ (Nat.le_refl _), Nat.sub_self, List.set_cons_zero,
      List.dropLast_concat]
  · rw [List.length_append, List.length_singleton] at inside
    have before : index < front.length := by omega
    rw [List.getElem?_append_left before] at found
    rw [List.set_append_left _ _ before, List.dropLast_concat]
    exact cons_perm_cons_set last found

end

/-- What a scan for the first pair finds, where positions of expected texts count from an index. -/
inductive Scan (actual : List String) (index : Nat) (expected : List String) :
    Except Pattern.Fault (Option (Nat × Nat)) → Prop where
  | malformed {text fault} : text ∈ expected → valueTest text = .error fault →
      Scan actual index expected (.error fault)
  | unpaired : (∀ text ∈ expected, ¬ Directive.IsMalformed text) →
      (∀ text ∈ expected, ∀ other ∈ actual, ¬ Accepts text other) →
      Scan actual index expected (.ok none)
  | pair {i j text other} : expected[i]? = some text → actual[j]? = some other →
      Accepts text other → Scan actual index expected (.ok (some (index + i, j)))

theorem scan_firstPair (actual : List String) (index : Nat) (expected : List String) :
    Scan actual index expected (firstPair actual index expected) := by
  induction expected generalizing index with
  | nil => exact .unpaired nofun nofun
  | cons first rest ih =>
      rw [firstPair]
      cases read : valueTest first with
      | error fault => exact .malformed List.mem_cons_self read
      | ok test =>
          have accepts := accepts_iff_of_valueTest read
          have wellFormed := not_isMalformed_of_valueTest read
          dsimp only
          cases search : actual.findIdx? test with
          | some found =>
              obtain ⟨inside, passed, _⟩ := List.findIdx?_eq_some_iff_getElem.mp search
              have here := List.getElem?_eq_getElem inside
              exact Scan.pair (i := 0) rfl here ((accepts _).mpr passed)
          | none =>
              have refused := List.findIdx?_eq_none_iff.mp search
              -- the first text is in no pair, so the scan of the rest decides
              have scan := ih (index + 1)
              dsimp only
              generalize firstPair actual (index + 1) rest = outcome at scan ⊢
              cases scan with
              | malformed member failed => exact .malformed (List.mem_cons_of_mem _ member) failed
              | unpaired wellFormedRest refusedRest =>
                  refine .unpaired (List.forall_mem_cons.mpr ⟨wellFormed, wellFormedRest⟩)
                    (List.forall_mem_cons.mpr ⟨fun other member accepted => ?_, refusedRest⟩)
                  rw [accepts, refused other member] at accepted
                  cases accepted
              | @pair i j text other left right accepted =>
                  rw [Nat.add_assoc, Nat.add_comm 1 i]
                  exact .pair left right accepted

/-! ## All rounds -/

/-- What the rounds of a matching lead to. -/
inductive Rounds : Multiset String → Multiset String → Except Pattern.Fault Bool → Prop where
  | done {actual} : Rounds 0 actual (.ok true)
  | malformed {expected actual text fault} : text ∈ expected → valueTest text = .error fault →
      Rounds expected actual (.error fault)
  | unpaired {expected actual} : expected ≠ 0 →
      (∀ text ∈ expected, ¬ Directive.IsMalformed text) →
      (∀ text ∈ expected, ∀ other ∈ actual, ¬ Accepts text other) →
      Rounds expected actual (.ok false)
  | pair {expected actual text other result} : Accepts text other →
      Rounds expected actual result → Rounds (text ::ₘ expected) (other ::ₘ actual) result

theorem rounds_matchValues {bound : Nat} {expected : List String} (actual : List String)
    (bounded : expected.length ≤ bound) :
    Rounds expected actual (matchValues bound expected actual) := by
  induction bound generalizing expected actual with
  | zero =>
      cases List.length_eq_zero_iff.mp (Nat.le_zero.mp bounded)
      exact .done
  | succ bound ih =>
      cases expected with
      | nil => exact .done
      | cons first rest =>
          have scan := scan_firstPair actual 0 (first :: rest)
          simp only [matchValues]
          generalize firstPair actual 0 (first :: rest) = outcome at scan ⊢
          cases scan with
          | malformed member failed => exact .malformed member failed
          | unpaired wellFormed refused =>
              refine .unpaired ?_ wellFormed refused
              exact (Multiset.coe_eq_zero _).not.mpr (List.cons_ne_nil first rest)
          | @pair i j text other left right accepts =>
              rw [Nat.zero_add]
              have expectedPerm := perm_cons_swapRemove left
              have shorter := expectedPerm.length_eq
              rw [Multiset.coe_eq_coe.mpr expectedPerm,
                Multiset.coe_eq_coe.mpr (perm_cons_swapRemove right)]
              refine .pair accepts (ih _ ?_)
              simp only [List.length_cons] at shorter bounded
              omega

theorem compareQuery_of_length_ne {expected actual : List String}
    (differ : expected.length ≠ actual.length) : compareQuery expected actual = .ok false :=
  if_pos differ

theorem rounds_compareQuery {expected actual : List String}
    (same : expected.length = actual.length) :
    Rounds expected actual (compareQuery expected actual) := by
  rw [compareQuery, if_neg (not_not_intro same)]
  exact rounds_matchValues actual (Nat.le_refl _)

/-! ## Malformed directives -/

namespace Rounds

variable {expected actual : Multiset String} {result : Except Pattern.Fault Bool}

/-- While a malformed directive is expected, the rounds can end with a fault only. -/
theorem exists_error (rounds : Rounds expected actual result) {text : String}
    (member : text ∈ expected) (malformed : Directive.IsMalformed text) :
    ∃ fault, result = .error fault := by
  induction rounds with
  | done => exact absurd member (Multiset.notMem_zero text)
  | malformed => exact ⟨_, rfl⟩
  | unpaired _ wellFormed => exact absurd malformed (wellFormed text member)
  | pair accepts _ ih =>
      -- the malformed directive is not the one that was taken
      rcases Multiset.mem_cons.mp member with rfl | member
      · exact absurd malformed (not_isMalformed_of_accepts accepts)
      · exact ih member

/-- A fault is that of an expected text. -/
theorem exists_valueTest_eq_error {fault : Pattern.Fault}
    (rounds : Rounds expected actual (.error fault)) :
    ∃ text ∈ expected, valueTest text = .error fault := by
  generalize failed : Except.error fault = result at rounds
  induction rounds with
  | done => cases failed
  | malformed member read => cases failed; exact ⟨_, member, read⟩
  | unpaired => cases failed
  | pair _ _ ih =>
      obtain ⟨text, member, read⟩ := ih failed
      exact ⟨text, Multiset.mem_cons_of_mem member, read⟩

end Rounds

/-- A matching fails exactly if the lists have the same length and a malformed directive is
expected, wherever it stands and whatever is paired before it is found. The fault is that of such a
directive. -/
theorem compareQuery_eq_error_iff (expected actual : List String) :
    ((∃ fault, compareQuery expected actual = .error fault) ↔
      expected.length = actual.length ∧ ∃ text ∈ expected, Directive.IsMalformed text) ∧
    ((∃ same, compareQuery expected actual = .ok same) ↔
      ¬ (expected.length = actual.length ∧ ∃ text ∈ expected, Directive.IsMalformed text)) ∧
    ∀ fault, compareQuery expected actual = .error fault →
      ∃ text ∈ expected, ∃ source, Directive.pattern? text = some source ∧
        Pattern.compile source = .error fault := by
  have origin : ∀ fault, compareQuery expected actual = .error fault →
      expected.length = actual.length ∧ ∃ text ∈ expected, valueTest text = .error fault := by
    intro fault failed
    by_cases lengths : expected.length = actual.length
    · exact ⟨lengths, (failed ▸ rounds_compareQuery lengths).exists_valueTest_eq_error⟩
    · cases (compareQuery_of_length_ne lengths).symm.trans failed
  have fails_iff : (∃ fault, compareQuery expected actual = .error fault) ↔
      expected.length = actual.length ∧ ∃ text ∈ expected, Directive.IsMalformed text := by
    constructor
    · rintro ⟨fault, failed⟩
      obtain ⟨lengths, text, member, read⟩ := origin fault failed
      exact ⟨lengths, text, member, isMalformed_iff.mpr ⟨fault, read⟩⟩
    · rintro ⟨lengths, text, member, malformed⟩
      exact (rounds_compareQuery lengths).exists_error member malformed
  refine ⟨fails_iff, ?_, fun fault failed => ?_⟩
  · rw [← fails_iff]
    cases compareQuery expected actual <;> simp
  · obtain ⟨_, text, member, read⟩ := origin fault failed
    exact ⟨text, member, valueTest_eq_error_iff.mp read⟩

end ApiMock

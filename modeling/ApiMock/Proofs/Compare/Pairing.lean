import ApiMock.Proofs.Compare.Rounds
import Mathlib.Data.Fintype.Basic
import Mathlib.Data.List.Forall2

/-!
# Pairings of query values

What a matching passes can be paired text by text. The other way round a greedy matching may take
the only partner of a later text; it does not if expected texts that have an actual text in common
accept the same ones: then the text that loses its partner can take the one that was left over.
Literals have this property, and for them the matching decides whether one list is a permutation of
the other.
-/

set_option autoImplicit false

namespace ApiMock

open List (Forall₂)

/-! ## Pairings of positions -/

section

variable {α β : Type} {relation : α → β → Prop} {xs : List α} {ys : List β}

theorem exists_forall₂_of_rel {others : Multiset β} (related : Multiset.Rel relation xs others) :
    ∃ partners : List β, Forall₂ relation xs partners ∧ partners = others := by
  induction xs generalizing others with
  | nil => exact ⟨[], .nil, (Multiset.rel_zero_left.mp related).symm⟩
  | cons first rest ih =>
      rw [← Multiset.cons_coe] at related
      obtain ⟨partner, left, holds, relatedRest, rfl⟩ := Multiset.rel_cons_left.mp related
      obtain ⟨partners, holdRest, rfl⟩ := ih relatedRest
      exact ⟨partner :: partners, .cons holds holdRest, rfl⟩

/-- A permutation moves every position to one with the same item. -/
theorem exists_equiv_of_perm [DecidableEq β] {zs : List β} (perm : ys.Perm zs) :
    ∃ moved : Fin ys.length ≃ Fin zs.length, ∀ i, zs.get (moved i) = ys.get i :=
  ⟨{ toFun := perm.idxBij
     invFun := perm.symm.idxBij
     left_inv := perm.idxBij_rightInverse_idxBij_symm
     right_inv := perm.idxBij_leftInverse_idxBij_symm }, perm.getElem_idxBij_eq_getElem⟩

/-- Lists are related as multisets if their positions can be paired so that items are related. -/
theorem rel_iff_exists_equiv [DecidableEq β] :
    Multiset.Rel relation xs ys ↔
      ∃ pairing : Fin xs.length ≃ Fin ys.length, ∀ i, relation (xs.get i) (ys.get (pairing i)) := by
  constructor
  · intro related
    obtain ⟨partners, holds, same⟩ := exists_forall₂_of_rel related
    obtain ⟨moved, stays⟩ := exists_equiv_of_perm (Multiset.coe_eq_coe.mp same)
    refine ⟨(finCongr holds.length_eq).trans moved, fun i => ?_⟩
    rw [Equiv.trans_apply, stays]
    exact holds.get i.isLt (holds.length_eq ▸ i.isLt)
  · rintro ⟨pairing, holds⟩
    have left : (xs : Multiset α) = Finset.univ.val.map xs.get := by
      rw [Fin.univ_val_map, List.ofFn_get]
    have right : (ys : Multiset β) = Finset.univ.val.map (ys.get ∘ pairing) := by
      rw [← Multiset.map_map, Multiset.map_univ_val_equiv, Fin.univ_val_map, List.ofFn_get]
    rw [left, right, Multiset.rel_map]
    exact Multiset.rel_refl_of_refl_on fun i _ => holds i

end

/-! ## Soundness -/

variable {expected actual : List String}

theorem Rounds.rel {expected actual : Multiset String}
    (rounds : Rounds expected actual (.ok true)) (same : expected.card = actual.card) :
    Multiset.Rel Accepts expected actual := by
  generalize passed : Except.ok true = result at rounds
  induction rounds with
  | done =>
      rw [Multiset.card_eq_zero.mp (same.symm.trans Multiset.card_zero)]
      exact .zero
  | malformed => cases passed
  | unpaired => cases passed
  | pair accepts _ ih =>
      rw [Multiset.card_cons, Multiset.card_cons] at same
      exact .cons accepts (ih (Nat.succ.inj same) passed)

theorem rel_of_compareQuery (passed : compareQuery expected actual = .ok true) :
    Multiset.Rel Accepts expected actual := by
  by_cases same : expected.length = actual.length
  · exact (passed ▸ rounds_compareQuery same).rel same
  · cases (compareQuery_of_length_ne same).symm.trans passed

/-! ## Completeness -/

/-- Any two expected texts accept the same actual texts or none in common. -/
def EqualOrDisjoint (expected actual : List String) : Prop :=
  ∀ first ∈ expected, ∀ second ∈ expected,
    (∀ text ∈ actual, (Accepts first text ↔ Accepts second text)) ∨
      ∀ text ∈ actual, ¬ (Accepts first text ∧ Accepts second text)

instance : Decidable (EqualOrDisjoint expected actual) :=
  inferInstanceAs (Decidable (∀ first ∈ expected, ∀ second ∈ expected, _ ∨ _))

/-- Expected texts that accept one actual text accept each other's. -/
def Exchangeable (expected actual : Multiset String) : Prop :=
  ∀ first ∈ expected, ∀ second ∈ expected, ∀ text ∈ actual, ∀ other ∈ actual,
    Accepts first text → Accepts second text → Accepts first other → Accepts second other

theorem EqualOrDisjoint.exchangeable (separate : EqualOrDisjoint expected actual) :
    Exchangeable expected actual := by
  intro first firstMember second secondMember text inside other otherInside one two further
  rcases separate first firstMember second secondMember with equal | disjoint
  · exact (equal other otherInside).mp further
  · exact absurd ⟨one, two⟩ (disjoint text inside)

theorem equalOrDisjoint_of_literals
    (literal : ∀ text ∈ expected, Directive.pattern? text = none) :
    EqualOrDisjoint expected actual := by
  intro first firstMember second secondMember
  by_cases same : first = second
  · exact .inl fun text _ => same ▸ Iff.rfl
  · refine .inr fun text _ ⟨one, two⟩ => same ?_
    rw [accepts_of_literal (literal first firstMember)] at one
    rw [accepts_of_literal (literal second secondMember)] at two
    exact one.trans two.symm

section

variable {expected actual : Multiset String} {text other : String}

theorem Exchangeable.tail (exchangeable : Exchangeable (text ::ₘ expected) (other ::ₘ actual)) :
    Exchangeable expected actual :=
  fun first firstMember second secondMember shared sharedMember further furtherMember =>
    exchangeable first (Multiset.mem_cons_of_mem firstMember) second
      (Multiset.mem_cons_of_mem secondMember) shared (Multiset.mem_cons_of_mem sharedMember) further
      (Multiset.mem_cons_of_mem furtherMember)

/-- Whichever pair is taken, the others can still be paired. -/
theorem Exchangeable.rel_tail (exchangeable : Exchangeable (text ::ₘ expected) (other ::ₘ actual))
    (accepts : Accepts text other)
    (paired : Multiset.Rel Accepts (text ::ₘ expected) (other ::ₘ actual)) :
    Multiset.Rel Accepts expected actual := by
  obtain ⟨partner, others, partnerAccepted, pairedOthers, same⟩ := Multiset.rel_cons_left.mp paired
  rcases Multiset.cons_eq_cons.mp same with ⟨-, rfl⟩ | ⟨-, rest, rfl, rfl⟩
  · exact pairedOthers
  · -- the text that was paired with the one taken gets the partner that is left over
    obtain ⟨rival, left, rivalAccepts, pairedRest, rfl⟩ := Multiset.rel_cons_right.mp pairedOthers
    refine .cons ?_ pairedRest
    exact exchangeable text (Multiset.mem_cons_self _ _) rival
      (Multiset.mem_cons_of_mem (Multiset.mem_cons_self _ _)) other (Multiset.mem_cons_self _ _)
      partner (Multiset.mem_cons_of_mem (Multiset.mem_cons_self _ _)) accepts rivalAccepts
      partnerAccepted

theorem Rounds.eq_true_of_rel {result : Except Pattern.Fault Bool}
    (rounds : Rounds expected actual result)
    (wellFormed : ∀ text ∈ expected, ¬ Directive.IsMalformed text)
    (exchangeable : Exchangeable expected actual)
    (paired : Multiset.Rel Accepts expected actual) : result = .ok true := by
  induction rounds with
  | done => rfl
  | malformed member read => exact absurd (isMalformed_iff.mpr ⟨_, read⟩) (wellFormed _ member)
  | unpaired left _ refused =>
      obtain ⟨text, member⟩ := Multiset.exists_mem_of_ne_zero left
      obtain ⟨partner, inside, accepts⟩ := Multiset.exists_mem_of_rel_of_mem paired member
      exact absurd accepts (refused text member partner inside)
  | pair accepts _ ih =>
      exact ih (fun text member => wellFormed text (Multiset.mem_cons_of_mem member))
        exchangeable.tail (exchangeable.rel_tail accepts paired)

end

theorem compareQuery_of_rel (wellFormed : ∀ text ∈ expected, ¬ Directive.IsMalformed text)
    (exchangeable : Exchangeable expected actual)
    (paired : Multiset.Rel Accepts expected actual) : compareQuery expected actual = .ok true := by
  have same : expected.length = actual.length := Multiset.card_eq_card_of_rel paired
  exact (rounds_compareQuery same).eq_true_of_rel wellFormed exchangeable paired

/-- A matching that passes pairs the positions of both lists, each expected text with an actual one
that it accepts. It passes, in whatever order the lists are, if there is such a pairing, all
directives are well-formed and any two expected texts accept the same actual texts or none in
common, as literals always do. -/
theorem compareQuery_pairing (expected actual : List String) :
    (compareQuery expected actual = .ok true →
      ∃ pairing : Fin expected.length ≃ Fin actual.length,
        ∀ i, Accepts (expected.get i) (actual.get (pairing i))) ∧
    ((∀ text ∈ expected, ¬ Directive.IsMalformed text) → EqualOrDisjoint expected actual →
      (∃ pairing : Fin expected.length ≃ Fin actual.length,
        ∀ i, Accepts (expected.get i) (actual.get (pairing i))) →
      ∀ expected' actual' : List String, expected.Perm expected' → actual.Perm actual' →
        compareQuery expected' actual' = .ok true) ∧
    ((∀ text ∈ expected, Directive.pattern? text = none) → EqualOrDisjoint expected actual) := by
  rw [← rel_iff_exists_equiv]
  refine ⟨rel_of_compareQuery, ?_, equalOrDisjoint_of_literals⟩
  intro wellFormed separate paired expected' actual' expectedPerm actualPerm
  have exchangeable := separate.exchangeable
  rw [Multiset.coe_eq_coe.mpr expectedPerm, Multiset.coe_eq_coe.mpr actualPerm]
    at exchangeable paired
  exact compareQuery_of_rel (fun text member => wellFormed text (expectedPerm.mem_iff.mpr member))
    exchangeable paired

theorem compareQuery_pairing_of_pattern :
    let expected := ["$matchRegexp(^c)", "tea", "tea"]
    let actual := ["tea", "cake", "tea"]
    EqualOrDisjoint expected actual ∧ compareQuery expected actual = .ok true ∧
      compareQuery ["tea", "$matchRegexp(^c)", "tea"] ["cake", "tea", "tea"] = .ok true := by
  intro expected actual
  have passed : compareQuery expected actual = .ok true := rfl
  have separate : EqualOrDisjoint expected actual := by decide +kernel
  have wellFormed : ∀ text ∈ expected, ¬ Directive.IsMalformed text := by decide +kernel
  obtain ⟨sound, complete, _⟩ := compareQuery_pairing expected actual
  exact ⟨separate, passed,
    complete wellFormed separate (sound passed) _ _ (by decide) (by decide)⟩

/-- A pattern that accepts what a literal accepts, and more, may take its partner. -/
example : compareQuery ["$matchRegexp(^a)", "ab"] ["ab", "a"] = .ok false := rfl

/-! ## Literals -/

/-- Literals are matched exactly by their permutations. -/
theorem compareQuery_literals_iff_perm
    (literal : ∀ text ∈ expected, Directive.pattern? text = none) :
    compareQuery expected actual = .ok true ↔ actual.Perm expected := by
  constructor
  · intro passed
    have same : Multiset.Rel (· = ·) (expected : Multiset String) actual :=
      (rel_of_compareQuery passed).mono fun text member other _ accepts =>
        (accepts_of_literal (literal text member) other).mp accepts
    exact (Multiset.coe_eq_coe.mp (Multiset.rel_eq.mp same)).symm
  · intro perm
    refine compareQuery_of_rel (fun text member => not_isMalformed_of_literal (literal text member))
      (equalOrDisjoint_of_literals literal).exchangeable ?_
    rw [Multiset.coe_eq_coe.mpr perm]
    exact Multiset.rel_refl_of_refl_on fun text member =>
      (accepts_of_literal (literal text member) text).mpr rfl

end ApiMock

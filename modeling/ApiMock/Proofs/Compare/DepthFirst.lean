import ApiMock.Proofs.Compare.Report

/-!
# The order of mismatches

Mismatches come in depth-first order: items by index, members by name, and a missing member in the
turn of its name. No turn comes twice, so that the mismatches there are and their order make up the
report of a comparison.
-/

set_option autoImplicit false

namespace ApiMock

/-- Steps from one value, in the order in which they are taken. -/
inductive Step.Before : Step → Step → Prop where
  | members {first second : String} : first < second → Before (.member first) (.member second)
  | items {first second : Nat} : first < second → Before (.item first) (.item second)

/-- Depth-first order: a place comes before what is inside, and after all that is in front. -/
def Location.Before (first second : Location) : Prop := List.Lex Step.Before first second

/-- The place at whose turn a mismatch is found, which for a missing member is where it would be. -/
def Mismatch.turn : Mismatch → Location
  | ⟨location, .missingKey name⟩ => location ++ [.member name]
  | ⟨location, _⟩ => location

theorem Step.Before.irrefl (step : Step) : ¬ step.Before step := by
  rintro (less | less)
  · exact String.lt_irrefl _ less
  · exact Nat.lt_irrefl _ less

theorem Location.Before.irrefl (location : Location) : ¬ location.Before location :=
  List.lex_irrefl Step.Before.irrefl location

theorem Mismatch.turn_within (outer : Location) (mismatch : Mismatch) :
    (mismatch.within outer).turn = outer ++ mismatch.turn := by
  obtain ⟨location, difference⟩ := mismatch
  cases difference with
  | missingKey name => exact List.append_assoc outer location _
  | _ => rfl

theorem pairwise_map_within {mismatches : List Mismatch}
    (sorted : mismatches.Pairwise fun m n => m.turn.Before n.turn) (step : Step) :
    (mismatches.map (Mismatch.within [step])).Pairwise fun m n => m.turn.Before n.turn := by
  refine List.pairwise_map.mpr (sorted.imp fun before => ?_)
  rw [Mismatch.turn_within, Mismatch.turn_within]
  exact .cons before

/-- All mismatches of a list are found behind one step. -/
def AllBehind (step : Step) (mismatches : List Mismatch) : Prop :=
  ∀ mismatch ∈ mismatches, ∃ rest, mismatch.turn = step :: rest

theorem allBehind_map_within (step : Step) (mismatches : List Mismatch) :
    AllBehind step (mismatches.map (Mismatch.within [step])) := by
  intro mismatch member
  obtain ⟨inner, _, rfl⟩ := List.mem_map.mp member
  exact ⟨inner.turn, Mismatch.turn_within [step] inner⟩

/-- Reports from behind steps that are taken one after the other are in order if each of them is. -/
theorem pairwise_flatMap_of_allBehind {α : Type} {branches : List α} (step : α → Step)
    (report : α → List Mismatch)
    (each : ∀ branch ∈ branches, (report branch).Pairwise fun m n => m.turn.Before n.turn)
    (behind : ∀ branch ∈ branches, AllBehind (step branch) (report branch))
    (steps : branches.Pairwise fun first second => (step first).Before (step second)) :
    (branches.flatMap report).Pairwise fun m n => m.turn.Before n.turn := by
  refine List.pairwise_flatMap.mpr ⟨each, ?_⟩
  refine List.Pairwise.imp_of_mem (fun first second before m mMember n nMember => ?_) steps
  obtain ⟨mRest, mTurn⟩ := behind _ first m mMember
  obtain ⟨nRest, nTurn⟩ := behind _ second n nMember
  rw [mTurn, nTurn]
  exact .rel before

variable {options : CompareOptions}

theorem pairwise_zipIdx_before {α : Type} (items : List α) :
    items.zipIdx.Pairwise fun first second => (Step.item first.2).Before (.item second.2) := by
  have indices : (items.zipIdx.map Prod.snd).Pairwise (· < ·) := by
    rw [List.zipIdx_map_snd]
    exact List.pairwise_lt_range'
  exact (List.pairwise_map.mp indices).imp fun less => .items less

theorem allBehind_compareMember (found : List (String × Value)) (member : String × Value) :
    AllBehind (.member member.1) (compareMember options [] found member) := by
  obtain ⟨name, x⟩ := member
  cases present : found.lookup name with
  | none =>
      rw [compareMember_of_lookup_eq_none x present]
      intro mismatch inside
      cases List.mem_singleton.mp inside
      exact ⟨[], rfl⟩
  | some y =>
      rw [compareMember_of_lookup_eq_some x present]
      exact allBehind_map_within _ _

theorem pairwise_singleton_turn (mismatch : Mismatch) :
    [mismatch].Pairwise fun m n => m.turn.Before n.turn :=
  List.pairwise_singleton _ _

theorem pairwise_compareMember {found : List (String × Value)} {name : String} {x : Value}
    (inner : ∀ y, (compare options x y).Pairwise fun m n => m.turn.Before n.turn) :
    (compareMember options [] found (name, x)).Pairwise fun m n => m.turn.Before n.turn := by
  cases present : found.lookup name with
  | none =>
      rw [compareMember_of_lookup_eq_none x present]
      exact pairwise_singleton_turn _
  | some y =>
      rw [compareMember_of_lookup_eq_some x present]
      exact pairwise_map_within (inner y) _

theorem pairwise_compare_of_kind_ne {expected actual : Value}
    (differ : expected.kind ≠ actual.kind) :
    (compare options expected actual).Pairwise fun m n => m.turn.Before n.turn := by
  rw [compare_of_kind_ne differ]
  exact pairwise_singleton_turn _

theorem pairwise_compare_scalar {expected actual : Value} (scalar : expected.IsScalar) :
    (compare options expected actual).Pairwise fun m n => m.turn.Before n.turn := by
  by_cases kinds : expected.kind = actual.kind
  · rw [compare_scalar scalar kinds]
    split
    · exact .nil
    · cases scalarDifference? expected actual with
      | none => exact .nil
      | some => exact pairwise_singleton_turn _
  · exact pairwise_compare_of_kind_ne kinds

/-- Mismatches are reported in depth-first order, whether or not the order of arrays counts. -/
theorem pairwise_compare {expected actual : Value} (wellFormed : expected.WellFormed) :
    (compare options expected actual).Pairwise fun m n => m.turn.Before n.turn := by
  induction expected generalizing actual with
  | array items ih =>
      cases actual with
      | array found =>
          by_cases lengths : items.length = found.length
          · rw [compare_array lengths]
            refine pairwise_flatMap_of_allBehind (fun pair => .item pair.2) _ ?_ ?_
              (pairwise_zipIdx_before _)
            · intro pair member
              have sorted := (List.of_mem_zip (List.fst_mem_of_mem_zipIdx member)).1
              have inside := (options.arrange_perm items).mem_iff.mp sorted
              exact pairwise_map_within (ih _ inside (wellFormed.item inside)) _
            · exact fun pair _ => allBehind_map_within _ _
          · rw [compare_array_of_length_ne lengths]
            exact pairwise_singleton_turn _
      | _ => exact pairwise_compare_of_kind_ne nofun
  | object members ih =>
      cases actual with
      | object found =>
          by_cases counted : options.disallowExtraFields = true → members.length = found.length
          · rw [compare_object counted]
            refine pairwise_flatMap_of_allBehind (fun member => .member member.1) _ ?_ ?_ ?_
            · exact fun ⟨name, x⟩ inside => pairwise_compareMember fun y =>
                ih name x inside (wellFormed.value inside)
            · exact fun member _ => allBehind_compareMember found member
            · exact (List.pairwise_map.mp wellFormed.names).imp fun less => .members less
          · obtain ⟨strict, differ⟩ := Classical.not_imp.mp counted
            rw [compare_object_of_length_ne strict differ]
            exact pairwise_singleton_turn _
      | _ => exact pairwise_compare_of_kind_ne nofun
  | _ => exact pairwise_compare_scalar (by trivial)

/-- No turn comes twice. -/
theorem nodup_turns {expected actual : Value} (wellFormed : expected.WellFormed) :
    ((compare options expected actual).map Mismatch.turn).Nodup := by
  refine List.pairwise_map.mpr ((pairwise_compare wellFormed).imp fun {m n} before => ?_)
  intro same
  exact Location.Before.irrefl _ (same ▸ before)

/-! ## Texts of places -/

theorem Location.text_nil : Location.text [] = "$" := by
  decide +kernel

theorem Location.text_concat (location : Location) (step : Step) :
    Location.text (location ++ [step]) = location.text ++ step.text := by
  simp only [Location.text, List.map_append, List.map_cons, List.map_nil, String.join_append,
    String.join_cons, String.join_nil, String.append_empty, String.append_assoc]

/-- A comparison in order reports exactly the mismatches that there are, each once and in
depth-first order, at places that are written as their steps. -/
theorem compare_reports {expected actual : Value} (ordered : options.ignoreArrayOrder = false)
    (wellFormed : expected.WellFormed) :
    (∀ mismatch, mismatch ∈ compare options expected actual ↔
        Reported options expected actual mismatch) ∧
      (compare options expected actual).Pairwise (fun m n => m.turn.Before n.turn) ∧
      ((compare options expected actual).map Mismatch.turn).Nodup ∧
      Location.text [] = "$" ∧
      ∀ place : Location,
        (∀ name, Location.text (place ++ [.member name]) = place.text ++ ("." ++ name)) ∧
          ∀ index, Location.text (place ++ [.item index]) =
            place.text ++ ("[" ++ toString index ++ "]") := by
  refine ⟨fun _ => mem_compare_iff ordered wellFormed, pairwise_compare wellFormed,
    nodup_turns wellFormed, Location.text_nil, fun place => ⟨fun name => ?_, fun index => ?_⟩⟩
  · exact Location.text_concat place (.member name)
  · exact Location.text_concat place (.item index)

theorem compare_reports_item_and_missing_member :
    let expected : Value :=
      .object [("a", .array [.string "x", .string "y"]), ("b", .null)]
    let actual : Value :=
      .object [("a", .array [.string "x", .string "z"]), ("c", .null)]
    let item : Mismatch := ⟨[.member "a", .item 1], .values (.string "y") (.string "z")⟩
    let missing : Mismatch := ⟨[], .missingKey "b"⟩
    Reported {} expected actual item ∧ Reported {} expected actual missing ∧
      item.turn.Before missing.turn := by
  intro expected actual item missing
  have report : compare {} expected actual = [item, missing] := rfl
  obtain ⟨reported, before, _⟩ := @compare_reports {} expected actual rfl (by decide)
  rw [report] at reported before
  refine ⟨(reported item).mp ?_, (reported missing).mp ?_, ?_⟩
  · exact List.mem_cons_self
  · exact List.mem_cons_of_mem _ (List.mem_singleton_self _)
  · exact List.rel_of_pairwise_cons before (List.mem_singleton_self _)

end ApiMock

import ApiMock.Proofs.Schema.Loading
import ApiMock.Registry.Load
import Mathlib.Data.List.Forall2

/-!
# Loading is all or nothing

All entries are loaded before the first definition is installed. So either the first entry that does
not load gives the fault and no service changes, or every service that has an entry answers with the
definition of its entry and no other service changes.
-/

set_option autoImplicit false

namespace ApiMock.Registry

variable {registry : Registry} {files : Files} {members : List (String × Value)}
  {entry : String × Value} {definition : Definition} {fault : LoadFault}

def Knows (registry : Registry) (name : String) : Prop :=
  ∃ service ∈ registry.services, service.name = name

structure EntryLoads (registry : Registry) (files : Files) (entry : String × Value)
    (definition : Definition) : Prop where
  known : registry.Knows entry.1
  loads : Schema.loadDefinition files "$" entry.2 = .ok definition

inductive EntryFails (registry : Registry) (files : Files) (entry : String × Value) :
    LoadFault → Prop where
  | unknown : ¬ registry.Knows entry.1 → EntryFails registry files entry (.unknownService entry.1)
  | definition {fault : Schema.Fault} : registry.Knows entry.1 →
      Schema.loadDefinition files "$" entry.2 = .error fault →
      EntryFails registry files entry (.definition entry.1 fault)

/-- How one service comes out when all entries load. -/
inductive Treated (files : Files) (members : List (String × Value)) (before after : Service) :
    Prop where
  | unnamed : before.name ∉ Keyed.keys members → after = before → Treated files members before after
  | named (raw : Value) : (before.name, raw) ∈ members →
      Schema.loadDefinition files "$" raw = .ok after.active → after.active.Fresh →
      -- the default definition, the failures and the listener are those of before
      after = { before with replacement := some after.active } →
      Treated files members before after

/-- The registry and the fault that loading gives. The members of a map are in the order of their
keys, so the entry that is at fault is the first in this order. -/
inductive AllOrNothing (registry : Registry) (files : Files) :
    Value → Registry × Option LoadFault → Prop where
  | notMap {raw : Value} : (∀ members, raw ≠ .object members) →
      AllOrNothing registry files raw (registry, some .servicesNotMap)
  | failed {before after : List (String × Value)} {entry : String × Value} {fault : LoadFault} :
      (∀ other ∈ before, ∃ definition, EntryLoads registry files other definition) →
      EntryFails registry files entry fault →
      AllOrNothing registry files (.object (before ++ entry :: after)) (registry, some fault)
  | loaded {members : List (String × Value)} {services : List Service} :
      (∀ entry ∈ members, ∃ definition, EntryLoads registry files entry definition) →
      List.Forall₂ (Treated files members) registry.services services →
      AllOrNothing registry files (.object members) (⟨services⟩, none)

/-! ## Entries -/

theorem service?_eq_none_iff {name : String} : registry.service? name = none ↔
    ¬ registry.Knows name := by
  simp [service?, Knows]

theorem service?_isSome_iff {name : String} : (registry.service? name).isSome ↔
    registry.Knows name := by
  rw [Option.isSome_iff_ne_none, ne_eq, service?_eq_none_iff, not_not]

theorem loadDefinitions_cons (registry : Registry) (files : Files) (entry : String × Value)
    (rest : List (String × Value)) :
    registry.loadDefinitions files (entry :: rest) =
      match registry.service? entry.1 with
      | none => .error (.unknownService entry.1)
      | some _ => do
        let definition ←
          (Schema.loadDefinition files "$" entry.2).mapError (.definition entry.1)
        return (entry.1, definition) :: (← registry.loadDefinitions files rest) := rfl

theorem EntryFails.loadDefinitions_cons (fails : EntryFails registry files entry fault)
    (rest : List (String × Value)) :
    registry.loadDefinitions files (entry :: rest) = .error fault := by
  rw [Registry.loadDefinitions_cons]
  cases fails with
  | unknown unknown => rw [service?_eq_none_iff.mpr unknown]
  | definition known fails =>
      obtain ⟨service, found⟩ := Option.isSome_iff_exists.mp (service?_isSome_iff.mpr known)
      rw [found, fails]
      rfl

theorem EntryLoads.loadDefinitions_cons (loads : EntryLoads registry files entry definition)
    (rest : List (String × Value)) :
    registry.loadDefinitions files (entry :: rest) =
      (registry.loadDefinitions files rest).map ((entry.1, definition) :: ·) := by
  obtain ⟨service, found⟩ := Option.isSome_iff_exists.mp (service?_isSome_iff.mpr loads.known)
  rw [Registry.loadDefinitions_cons, found, loads.loads]
  cases registry.loadDefinitions files rest <;> rfl

theorem entryLoads_or_entryFails (registry : Registry) (files : Files) (entry : String × Value) :
    (∃ definition, EntryLoads registry files entry definition) ∨
      ∃ fault, EntryFails registry files entry fault := by
  by_cases known : registry.Knows entry.1
  · cases loads : Schema.loadDefinition files "$" entry.2 with
    | ok definition => exact .inl ⟨definition, known, loads⟩
    | error fault => exact .inr ⟨_, .definition known loads⟩
  · exact .inr ⟨_, .unknown known⟩

structure DefinitionsOf (registry : Registry) (files : Files) (members : List (String × Value))
    (definitions : List (String × Definition)) : Prop where
  entries : ∀ entry ∈ members, ∃ definition, EntryLoads registry files entry definition
  keys : Keyed.keys definitions = Keyed.keys members
  loaded : ∀ loaded ∈ definitions, ∃ raw, (loaded.1, raw) ∈ members ∧
    Schema.loadDefinition files "$" raw = .ok loaded.2

theorem DefinitionsOf.cons {definitions : List (String × Definition)}
    (first : EntryLoads registry files entry definition)
    (rest : DefinitionsOf registry files members definitions) :
    DefinitionsOf registry files (entry :: members) ((entry.1, definition) :: definitions) := by
  refine ⟨List.forall_mem_cons.mpr ⟨⟨definition, first⟩, rest.entries⟩,
    congrArg (entry.1 :: ·) rest.keys, List.forall_mem_cons.mpr ⟨?_, fun loaded member => ?_⟩⟩
  · exact ⟨entry.2, List.mem_cons_self, first.loads⟩
  · obtain ⟨raw, listed, loads⟩ := rest.loaded loaded member
    exact ⟨raw, List.mem_cons_of_mem _ listed, loads⟩

theorem loadDefinitions_spec (registry : Registry) (files : Files)
    (members : List (String × Value)) :
    (∃ definitions, registry.loadDefinitions files members = .ok definitions ∧
      DefinitionsOf registry files members definitions) ∨
      ∃ before entry after fault, members = before ++ entry :: after ∧
        (∀ other ∈ before, ∃ definition, EntryLoads registry files other definition) ∧
        EntryFails registry files entry fault ∧
        registry.loadDefinitions files members = .error fault := by
  -- the entries before the failing one load, so each step puts one more in front of them
  induction members with
  | nil => exact .inl ⟨[], rfl, List.forall_mem_nil _, rfl, List.forall_mem_nil _⟩
  | cons entry rest ih =>
      obtain ⟨definition, loads⟩ | ⟨fault, fails⟩ := entryLoads_or_entryFails registry files entry
      · rw [loads.loadDefinitions_cons]
        rcases ih with ⟨definitions, behind, all⟩ |
          ⟨before, failing, after, fault, rfl, each, fails, behind⟩
        · exact .inl ⟨(entry.1, definition) :: definitions, by rw [behind]; rfl, all.cons loads⟩
        · exact .inr ⟨entry :: before, failing, after, fault, rfl,
            List.forall_mem_cons.mpr ⟨⟨definition, loads⟩, each⟩, fails, by rw [behind]; rfl⟩
      · exact .inr ⟨[], entry, rest, fault, rfl, List.forall_mem_nil _, fails,
          fails.loadDefinitions_cons rest⟩

/-! ## Installing -/

theorem forall₂_install (registry : Registry) (definitions : List (String × Definition)) :
    List.Forall₂ (fun before after =>
        (before.name ∉ Keyed.keys definitions ∧ after = before) ∨
          ∃ definition, (before.name, definition) ∈ definitions ∧
            after = before.setDefinition definition)
      registry.services (registry.install definitions).services := by
  induction definitions generalizing registry with
  | nil => exact List.forall₂_same.mpr fun service _ => .inl ⟨List.not_mem_nil, rfl⟩
  | cons entry rest ih =>
      obtain ⟨name, definition⟩ := entry
      have behind := ih (registry.modify name fun service => service.setDefinition definition)
      rw [modify, List.forall₂_map_left_iff] at behind
      refine behind.imp fun before after outcome => ?_
      by_cases here : before.name = name
      · -- a definition further behind for the same service counts, and forgets this one
        subst here
        simp only [↓reduceIte] at outcome
        obtain ⟨_, rfl⟩ | ⟨later, member, rfl⟩ := outcome
        · exact .inr ⟨definition, List.mem_cons_self, rfl⟩
        · exact .inr ⟨later, List.mem_cons_of_mem _ member, rfl⟩
      · simp only [if_neg here] at outcome
        obtain ⟨absent, rfl⟩ | ⟨later, member, rfl⟩ := outcome
        · exact .inl ⟨fun member => (List.mem_cons.mp member).elim here absent, rfl⟩
        · exact .inr ⟨later, List.mem_cons_of_mem _ member, rfl⟩

theorem DefinitionsOf.forall₂_treated {definitions : List (String × Definition)}
    (all : DefinitionsOf registry files members definitions) :
    List.Forall₂ (Treated files members) registry.services
      (registry.install definitions).services := by
  refine (forall₂_install registry definitions).imp fun before after outcome => ?_
  obtain ⟨absent, same⟩ | ⟨definition, member, rfl⟩ := outcome
  · exact .unnamed (all.keys ▸ absent) same
  · obtain ⟨raw, listed, loads⟩ := all.loaded _ member
    exact .named raw listed loads (Schema.fresh_of_loadDefinition loads) rfl

theorem allOrNothing_load (registry : Registry) (files : Files) (raw : Value) :
    AllOrNothing registry files raw (registry.load files raw) := by
  cases raw with
  | object members =>
      rw [load]
      obtain ⟨definitions, loads, all⟩ | ⟨before, entry, after, fault, rfl, each, fails, stops⟩ :=
        loadDefinitions_spec registry files members
      · rw [loads]
        exact .loaded all.entries all.forall₂_treated
      · rw [stops]
        exact .failed each fails
  | _ => exact .notMap (by simp)

/-- Loading definitions is all or nothing, whether they are given as a value or as a document that
is decoded first. -/
theorem load_all_or_nothing (registry : Registry) (files : Files) :
    (∀ raw, AllOrNothing registry files raw (registry.load files raw)) ∧
      ∀ source, match Yaml.read source with
        | .ok raw => AllOrNothing registry files raw (registry.loadYaml files source)
        | .error fault =>
          registry.loadYaml files source = (registry, some (.malformedYaml fault)) := by
  refine ⟨allOrNothing_load registry files, fun source => ?_⟩
  rw [loadYaml]
  cases Yaml.read source with
  | ok raw => exact allOrNothing_load registry files raw
  | error fault => rfl

end ApiMock.Registry

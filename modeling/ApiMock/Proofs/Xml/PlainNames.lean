import ApiMock.Proofs.Schema.Outcome
import ApiMock.Proofs.Text.Split
import ApiMock.Proofs.Xml.Grouping
import ApiMock.Xml.Reader
import Mathlib.Data.List.TakeWhile

/-!
# Names in documents

A local name that is read from a document has no colon and does not start with a hyphen. So joined
names tell the names apart, and none of them is the key of the attributes.
-/

set_option autoImplicit false

namespace ApiMock.Xml

open Schema (bind_eq_ok_iff pure_eq_ok_iff)

/-- A text without a colon that does not start with a hyphen. -/
def IsPlain (localName : String) : Prop :=
  ':' ∉ localName.toList ∧ localName.toList.head? ≠ some '-'

/-- All elements and attributes have local names without a colon that do not start with a hyphen. -/
inductive Element.PlainNames : Element → Prop where
  | intro {element : Element} :
      IsPlain element.name.localName →
      (∀ entry ∈ element.attributes, IsPlain entry.1.localName) →
      (∀ child ∈ element.elements, child.PlainNames) →
      element.PlainNames

variable {text rest : List Char} {name : String} {tag : Tag}

/-! ## Reading -/

theorem isPlain_of_readPlainName (read : readPlainName text = .ok (name, rest)) : IsPlain name := by
  cases text with
  | nil => cases read
  | cons c text =>
      rw [readPlainName] at read
      split at read
      · rename_i start
        cases read
        rw [IsPlain, String.toList_ofList]
        constructor
        · rw [List.mem_cons, not_or]
          constructor
          · rintro rfl
            exact absurd start (by decide)
          · intro member
            exact absurd (List.mem_takeWhile_imp member) (by decide)
        · rw [List.head?_cons]
          rintro ⟨⟩
          exact absurd start (by decide)
      · cases read

theorem isPlain_of_readTag (read : readTag text = .ok (tag, rest)) : IsPlain tag.localName := by
  unfold readTag at read
  split at read
  · cases read
  · rename_i first behind readFirst
    split at read
    · rename_i second after readSecond
      cases read
      exact isPlain_of_readPlainName readSecond
    · cases read
  · rename_i first behind _ readFirst
    cases read
    exact isPlain_of_readPlainName readFirst

theorem isPlain_of_readAttributes {fuel : Nat} {attributes : List (Tag × String)}
    (read : readAttributes fuel text = .ok (attributes, rest)) :
    ∀ entry ∈ attributes, IsPlain entry.1.localName := by
  induction fuel generalizing text attributes rest with
  | zero => cases read
  | succ fuel ih =>
      unfold readAttributes at read
      split at read
      · cases read
      · split at read
        · cases read
          nofun
        · split at read
          · cases read
          · simp only [bind_eq_ok_iff, pure_eq_ok_iff, Prod.exists] at read
            obtain ⟨tag, _, readTag, value, _, _, behind, _, readBehind, same⟩ := read
            cases same
            rw [List.forall_mem_cons]
            exact ⟨isPlain_of_readTag readTag, ih readBehind⟩

theorem Scope.localName_eq_of_resolve {scope : Scope} {default : String} {name : Name}
    (resolved : scope.resolve default tag = .ok name) : name.localName = tag.localName := by
  unfold resolve at resolved
  split at resolved
  · cases resolved
    rfl
  · split at resolved
    · cases resolved
      rfl
    · cases resolved

theorem Scope.isPlain_of_resolveAll {scope : Scope} {written : List (Tag × String)}
    {attributes : List (Name × String)}
    (plain : ∀ entry ∈ written, IsPlain entry.1.localName)
    (resolved : scope.resolveAll written = .ok attributes) :
    ∀ entry ∈ attributes, IsPlain entry.1.localName := by
  induction written generalizing attributes with
  | nil =>
      cases resolved
      nofun
  | cons first written ih =>
      obtain ⟨tag, value⟩ := first
      obtain ⟨here, behind⟩ := List.forall_mem_cons.mp plain
      rw [resolveAll] at resolved
      split at resolved
      · exact ih behind resolved
      · simp only [bind_eq_ok_iff, pure_eq_ok_iff] at resolved
        obtain ⟨name, resolvedName, others, resolvedOthers, rfl⟩ := resolved
        rw [List.forall_mem_cons]
        exact ⟨localName_eq_of_resolve resolvedName ▸ here, ih behind resolvedOthers⟩

theorem element?_of_readInstruction {node : Node}
    (read : readInstruction text = .ok (node, rest)) : node.element? = none := by
  rw [readInstruction.eq_def] at read
  dsimp only at read
  split at read
  · cases read
  split at read
  · cases read
  split at read
  · cases read
  split at read
  · cases read
    rfl
  · split at read
    · cases read
    · obtain ⟨_, _, same⟩ := bind_eq_ok_iff.mp read
      cases same
      rfl
  · cases read

theorem element?_of_readAside? {node : Node}
    (read : readAside? text = some (.ok (node, rest))) : node.element? = none := by
  unfold readAside? at read
  split at read
  · rw [Option.some.injEq, readComment, bind_eq_ok_iff] at read
    obtain ⟨_, _, read⟩ := read
    split at read
    · cases read
      rfl
    · cases read
  · exact element?_of_readInstruction (Option.some.inj read)
  · cases read

theorem element?_of_readCharacters {behind : List Char} {node : Node}
    (read : readCharacters behind text = .ok (node, rest)) : node.element? = none := by
  induction text generalizing behind with
  | nil =>
      cases read
      rfl
  | cons c text ih =>
      unfold readCharacters at read
      split at read
      · cases read
        rfl
      · cases read
      · rename_i same
        cases same
        split at read
        · cases read
          rfl
        · exact ih read

theorem plainNames_of_mem_cons_aside {node : Node} {others : List Node}
    (aside : node.element? = none)
    (behind : ∀ child ∈ others.filterMap Node.element?, child.PlainNames) :
    ∀ child ∈ (node :: others).filterMap Node.element?, child.PlainNames := by
  rwa [List.filterMap_cons_none aside]

/-- The readers of elements and of contents find plain names only, within a bound on their calls. -/
structure ReadsPlain (fuel : Nat) : Prop where
  element {scope : Scope} {text rest : List Char} {element : Element} :
    readElement fuel scope text = .ok (element, rest) → element.PlainNames
  content {scope : Scope} {text rest : List Char} {nodes : List Node} :
    readContent fuel scope text = .ok (nodes, rest) →
      ∀ child ∈ nodes.filterMap Node.element?, child.PlainNames

namespace ReadsPlain

variable {fuel : Nat} {scope : Scope}

theorem element_succ {element : Element} (plain : ReadsPlain fuel)
    (read : readElement (fuel + 1) scope text = .ok (element, rest)) : element.PlainNames := by
  simp only [readElement, bind_eq_ok_iff, Prod.exists] at read
  obtain ⟨tag, afterTag, readTag, written, afterAttributes, readWritten, read⟩ := read
  split at read
  · cases read
  · simp only [bind_eq_ok_iff] at read
    obtain ⟨default?, _, declared, _, name, resolved, attributes, resolvedAll, read⟩ := read
    have namePlain : IsPlain name.localName := by
      rw [Scope.localName_eq_of_resolve resolved]
      exact isPlain_of_readTag readTag
    have attributesPlain :=
      Scope.isPlain_of_resolveAll (isPlain_of_readAttributes readWritten) resolvedAll
    split at read
    · cases read
      exact .intro namePlain attributesPlain nofun
    · simp only [bind_eq_ok_iff, Prod.exists] at read
      obtain ⟨children, afterChildren, readChildren, closing, afterClosing, _, read⟩ := read
      have found : Element.PlainNames ⟨name, attributes, children⟩ :=
        .intro namePlain attributesPlain (plain.content readChildren)
      split at read
      · cases read
      · split at read
        · cases read
          exact found
        · cases read
        · cases read
    · cases read

theorem content_succ {nodes : List Node} (plain : ReadsPlain fuel)
    (read : readContent (fuel + 1) scope text = .ok (nodes, rest)) :
    ∀ child ∈ nodes.filterMap Node.element?, child.PlainNames := by
  unfold readContent at read
  simp only at read
  split at read
  · cases read
  · cases read
    nofun
  · simp only [bind_eq_ok_iff, Prod.exists] at read
    obtain ⟨_, _, _, others, _, readOthers, same⟩ := read
    cases same
    exact plainNames_of_mem_cons_aside rfl (plain.content readOthers)
  · split at read
    · rename_i aside _ isAside
      simp only [bind_eq_ok_iff, Prod.exists] at read
      obtain ⟨node, _, rfl, others, _, readOthers, same⟩ := read
      cases same
      exact plainNames_of_mem_cons_aside (element?_of_readAside? isAside) (plain.content readOthers)
    · simp only [bind_eq_ok_iff, Prod.exists] at read
      obtain ⟨_, _, _, others, _, readOthers, same⟩ := read
      cases same
      exact plainNames_of_mem_cons_aside rfl (plain.content readOthers)
    · simp only [bind_eq_ok_iff, Prod.exists] at read
      obtain ⟨child, _, readChild, others, _, readOthers, same⟩ := read
      cases same
      -- the only branch that adds an element; all others go on with the names of the rest
      rw [List.filterMap_cons_some (show (Node.element child).element? = some child from rfl),
        List.forall_mem_cons]
      exact ⟨plain.element readChild, plain.content readOthers⟩
  · simp only [bind_eq_ok_iff, Prod.exists] at read
    obtain ⟨node, _, readNode, others, _, readOthers, same⟩ := read
    cases same
    exact plainNames_of_mem_cons_aside (element?_of_readCharacters readNode)
      (plain.content readOthers)

end ReadsPlain

theorem readsPlain (fuel : Nat) : ReadsPlain fuel := by
  -- the readers call each other, each time with one call less for both
  induction fuel with
  | zero =>
      constructor
      · intro scope text rest element read
        rw [readElement] at read
        cases read
      · intro scope text rest nodes read
        rw [readContent] at read
        cases read
  | succ fuel ih => exact ⟨ih.element_succ, ih.content_succ⟩

theorem plainNames_of_readDocument {source : String} {root : Element}
    (read : readDocument source = .ok root) : root.PlainNames := by
  simp only [readDocument, bind_eq_ok_iff] at read
  obtain ⟨_, _, _, _, read⟩ := read
  split at read
  · simp only [bind_eq_ok_iff, Prod.exists] at read
    obtain ⟨root, _, readRoot, _, _, read⟩ := read
    split at read
    · cases read
      exact (readsPlain _).element readRoot
    · cases read
  · cases read

/-! ## Joined names -/

theorem joined_ne_attributesKey {name : Name} (plain : IsPlain name.localName) :
    name.joined ≠ attributesKey := by
  unfold Name.joined
  split
  · intro same
    exact plain.2 (same ▸ rfl)
  · intro same
    have colon : ':' ∈ attributesKey.toList := by
      simp [← same]
    exact absurd colon (by decide)

/-- Joining a name with its namespace loses nothing. -/
theorem eq_of_joined_eq {name other : Name} (plain : IsPlain name.localName)
    (otherPlain : IsPlain other.localName) (same : name.joined = other.joined) : name = other := by
  obtain ⟨space, localName⟩ := name
  obtain ⟨otherSpace, otherName⟩ := other
  have texts := congrArg String.toList same
  have colon : ":".toList = [':'] := rfl
  simp only [Name.joined] at texts
  by_cases bare : space = ""
  · by_cases otherBare : otherSpace = ""
    · rw [if_pos bare, if_pos otherBare, String.toList_inj] at texts
      rw [bare, otherBare, texts]
    · rw [if_pos bare, if_neg otherBare] at texts
      exact absurd plain.1 (by simp [texts])
  · by_cases otherBare : otherSpace = ""
    · rw [if_neg bare, if_pos otherBare] at texts
      exact absurd otherPlain.1 (by simp [← texts])
    · rw [if_neg bare, if_neg otherBare] at texts
      simp only [String.toList_append, colon, List.append_assoc, List.singleton_append] at texts
      obtain ⟨spaces, names⟩ := Split.append_cons_inj plain.1 otherPlain.1 texts
      exact congr (congrArg Name.mk (String.toList_inj.mp spaces)) (String.toList_inj.mp names)

end ApiMock.Xml

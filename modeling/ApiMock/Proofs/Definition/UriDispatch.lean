import ApiMock.Proofs.Definition.Reply
import ApiMock.Proofs.Http.PathEncoding
import ApiMock.Proofs.Value.DeepPerm

/-!
# Dispatch by paths

A strategy that dispatches by paths below a base path executes the child whose joined path is the
path of the request, and no other child.
-/

set_option autoImplicit false

namespace ApiMock

namespace Strategy

/-- The child at a position is executed: its response and its failures are those of the strategy,
and nothing but this child is changed. -/
def ExecutesAt (request : Request) (position : Nat) : Strategy → Prop
  | .dispatch .uri children =>
      ∃ key child, children[position]? = some (key, child) ∧
        (dispatch .uri children).reply request =
          (child.execute request).map fun child =>
            .dispatch .uri (children.set position (key, child))
  | _ => False

variable {request : Request} {children : List (String × Definition)} {position : Nat}
  {base uri key : String} {child : Definition}

theorem executesAt_of_chosen (chosen : Dispatcher.uri.choose? request children = some position) :
    ExecutesAt request position (dispatch .uri children) := by
  obtain ⟨key, child, found⟩ := Dispatcher.exists_child_of_choose? chosen
  refine ⟨key, child, found, ?_⟩
  rw [reply_of_chosen chosen found]
  rfl

theorem execute_after_ne (request : Request) (child : Definition) :
    (child.execute request).after ≠ child := by
  intro same
  have calls := congrArg Definition.calls same
  rw [Definition.execute_after, Definition.reply_after_calls] at calls
  omega

/-- A child that is executed counts the call, so no other one can have been chosen. -/
theorem chosen_of_executesAt (executed : ExecutesAt request position (dispatch .uri children)) :
    Dispatcher.uri.choose? request children = some position := by
  obtain ⟨key, child, found, same⟩ := executed
  obtain ⟨inside, _⟩ := List.getElem?_eq_some_iff.mp found
  have after := congrArg (fun execution => execution.after.children[position]?) same
  simp only [Execution.map, children_dispatch, List.getElem?_set_self inside] at after
  cases choice : Dispatcher.uri.choose? request children with
  | none =>
      rw [reply_of_unchosen choice, children_dispatch, found] at after
      simp only [Option.some.injEq, Prod.mk.injEq, true_and] at after
      exact absurd after.symm (execute_after_ne request child)
  | some other =>
      obtain ⟨otherKey, otherChild, otherFound⟩ := Dispatcher.exists_child_of_choose? choice
      by_cases here : other = position
      · rw [here]
      · rw [reply_of_chosen choice otherFound, children_dispatch, List.getElem?_set_ne here,
          found] at after
        simp only [Option.some.injEq, Prod.mk.injEq, true_and] at after
        exact absurd after.symm (execute_after_ne request child)

/-! ## Joined paths -/

theorem joinPath_slashes (front back : List Char) (trailing leading : Nat) :
    joinPath (String.ofList (front ++ List.replicate trailing '/'))
        (String.ofList (List.replicate leading '/' ++ back)) =
      joinPath (String.ofList front) (String.ofList back) := by
  have slashes (count : Nat) : ∀ c ∈ List.replicate count '/', decide (c = '/') = true := by
    intro c member
    exact decide_eq_true (List.eq_of_mem_replicate member)
  simp only [joinPath, String.toList_ofList, List.reverse_append, List.reverse_replicate]
  rw [List.dropWhile_append_of_pos (slashes trailing),
    List.dropWhile_append_of_pos (slashes leading)]

/-- Two base paths that differ in the slashes at their ends. -/
def SameBase (base other : String) : Prop :=
  ∃ front more less, base = String.ofList (front ++ List.replicate more '/') ∧
    other = String.ofList (front ++ List.replicate less '/')

/-- The same child with other slashes at the front of its path. -/
def SameChild (child other : String × Definition) : Prop :=
  other.2 = child.2 ∧ ∃ back more less, child.1 = String.ofList (List.replicate more '/' ++ back) ∧
    other.1 = String.ofList (List.replicate less '/' ++ back)

theorem byUri_of_same {other : String} {others : List (String × Definition)}
    (sameBase : SameBase base other) (sameChildren : List.Forall₂ SameChild children others) :
    byUri other others = byUri base children := by
  obtain ⟨front, more, less, rfl, rfl⟩ := sameBase
  refine congrArg (dispatch .uri) (Value.map_eq_of_forall₂ sameChildren ?_)
  rintro ⟨uri, child⟩ _ ⟨other, _⟩ ⟨rfl, back, leading, fewer, rfl, rfl⟩
  simp only [joinPath_slashes]

/-! ## The child of a path -/

theorem choose?_byUri_iff (distinct : (children.map fun child => joinPath base child.1).Nodup)
    (found : children[position]? = some (uri, child)) :
    Dispatcher.uri.choose? request
        (children.map fun child => (joinPath base child.1, child.2)) = some position ↔
      request.decodedPath = joinPath base uri := by
  rw [Dispatcher.choose?_eq_some_iff]
  constructor
  · rintro ⟨⟨item, here, same⟩, _⟩
    rw [List.getElem?_map, found] at here
    cases here
    exact same.symm
  · intro same
    refine ⟨⟨_, by rw [List.getElem?_map, found]; rfl, same.symm⟩, ?_⟩
    intro earlier less item here again
    -- an earlier child with the same path would repeat a joined path
    have inside : position < (children.map fun child => joinPath base child.1).length := by
      rw [List.length_map]
      exact (List.getElem?_eq_some_iff.mp found).1
    obtain ⟨first, there, rfl⟩ := Option.map_eq_some_iff.mp (List.getElem?_map.symm.trans here)
    refine Nat.ne_of_gt less ((List.getElem?_inj inside distinct).mp ?_)
    rw [List.getElem?_map, List.getElem?_map, found, there]
    exact congrArg some (again.trans same).symm

theorem executesAt_byUri_iff (distinct : (children.map fun child => joinPath base child.1).Nodup)
    (found : children[position]? = some (uri, child)) :
    ExecutesAt request position (byUri base children) ↔
      request.decodedPath = joinPath base uri :=
  ⟨fun executed => (choose?_byUri_iff distinct found).mp (chosen_of_executesAt executed),
    fun same => executesAt_of_chosen ((choose?_byUri_iff distinct found).mpr same)⟩

end Strategy

open Strategy PathEncoding

/-- Of children with distinct joined paths, the one whose joined path is the decoded path of a
request is executed, and without such a child nothing is. Slashes at the end of the base path and
at the front of the paths below it make no difference, nor does it matter which characters of the
path are escaped in the request. -/
theorem byUri_dispatch (base : String) (children : List (String × Definition))
    (distinct : (children.map fun child => joinPath base child.1).Nodup) :
    (∀ request position uri child, children[position]? = some (uri, child) →
      (ExecutesAt request position (byUri base children) ↔
        request.decodedPath = joinPath base uri)) ∧
    (∀ request, (∀ child ∈ children, request.decodedPath ≠ joinPath base child.1) →
      (byUri base children).reply request =
        { after := byUri base children
          response := { status := .notFound }
          failures := [.unhandled request.dump] }) ∧
    (∀ other others, SameBase base other → List.Forall₂ SameChild children others →
      byUri other others = byUri base children) ∧
    ∀ position uri child raw, children[position]? = some (uri, child) →
      Written (joinPath base uri).toList raw → ∀ request : Request, HasPath request.target raw →
      ExecutesAt request position (byUri base children) := by
  refine ⟨?_, ?_, ?_, ?_⟩
  · intro request position uri child found
    exact executesAt_byUri_iff distinct found
  · intro request unmatched
    have unchosen : Dispatcher.uri.choose? request
        (children.map fun child => (joinPath base child.1, child.2)) = none := by
      rw [Dispatcher.choose?, List.findIdx?_eq_none_iff]
      intro item member
      obtain ⟨child, inside, rfl⟩ := List.mem_map.mp member
      exact decide_eq_false fun same => unmatched child inside same.symm
    exact reply_of_unchosen unchosen
  · intro other others sameBase sameChildren
    exact byUri_of_same sameBase sameChildren
  · intro position uri child raw found written request has
    exact (executesAt_byUri_iff distinct found).mpr (written.decodedPath_eq has)

theorem byUri_dispatch_of_escaped_path :
    let children := [("users", Definition.nop), ("//né?", Definition.nop)]
    let request : Request := { target := ⟨none, some "/api/n%C3%A9%3f?x=1"⟩ }
    (children.map fun child => joinPath "/api/" child.1).Nodup ∧
      Target.ofString? "/api/n%C3%A9%3f?x=1" = some request.target ∧
      ExecutesAt request 1 (byUri "/api/" children) := by
  intro children request
  have distinct : (children.map fun child => joinPath "/api/" child.1).Nodup := by decide +kernel
  have read : Target.ofString? "/api/n%C3%A9%3f?x=1" = some request.target := by decide +kernel
  have joined : (joinPath "/api/" "//né?").toList = ['/', 'a', 'p', 'i', '/', 'n', 'é', '?'] := by
    decide +kernel
  have letter : Escapes (String.utf8EncodeChar 'é') ['%', 'C', '3', '%', 'A', '9'] :=
    .cons (by decide) (by decide) (.cons (by decide) (by decide) .nil)
  have mark : Escapes (String.utf8EncodeChar '?') ['%', '3', 'f'] :=
    .cons (by decide) (by decide) .nil
  have written : Written (joinPath "/api/" "//né?").toList "/api/n%C3%A9%3f".toList := by
    rw [joined, show "/api/n%C3%A9%3f".toList = ['/', 'a', 'p', 'i', '/', 'n'] ++
      (['%', 'C', '3', '%', 'A', '9'] ++ (['%', '3', 'f'] ++ [])) by decide +kernel]
    have last := Written.escaped letter (.escaped mark .nil)
    exact .plain (by decide) <| .plain (by decide) <| .plain (by decide) <| .plain (by decide) <|
      .plain (by decide) <| .plain (by decide) last
  have has : HasPath request.target "/api/n%C3%A9%3f".toList :=
    .inr ⟨by decide +kernel, "?x=1".toList, by decide +kernel, read⟩
  obtain ⟨_, _, _, reached⟩ := byUri_dispatch "/api/" children distinct
  exact ⟨distinct, read, reached 1 _ _ _ rfl written request has⟩

end ApiMock

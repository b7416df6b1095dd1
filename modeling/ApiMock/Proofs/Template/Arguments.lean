import ApiMock.Proofs.Schema.Outcome
import ApiMock.Proofs.Template.Sight

/-!
# Arguments in two renderings

If two scopes differ in the decoded body at most, an argument that has a view gives values in both
that are alike, and a helper that looks away gives the same result.
-/

set_option autoImplicit false

namespace ApiMock.Template

/-- Three lists of the same length, item by item. -/
inductive Matched {α β γ : Type} (R : α → β → γ → Prop) : List α → List β → List γ → Prop where
  | nil : Matched R [] [] []
  | cons {a : α} {b : β} {c : γ} {as : List α} {bs : List β} {cs : List γ} :
      R a b c → Matched R as bs cs → Matched R (a :: as) (b :: bs) (c :: cs)

/-- Two values that are alike as far as they are seen. -/
def SeenAlike (view : Option View) (a b : Value) : Prop :=
  ∀ inner, view = some inner → Alike inner a b

/-- Values of the same name, in a relation that depends on what is known of them. -/
structure NamedAlike {σ : Type} (R : σ → Value → Value → Prop) (view : String × σ)
    (a b : String × Value) : Prop where
  left : a.1 = view.1
  right : b.1 = view.1
  value : R view.2 a.2 b.2

structure FrameAlike (view : FrameView) (a b : Frame) : Prop where
  value : SeenAlike view.value a.value b.value
  names : Matched (NamedAlike SeenAlike) view.names a.names b.names
  locals : a.locals = b.locals

/-- Two scopes as a sight has them. The decoded body is not known to blocks of which nothing else is
known. -/
structure ScopesAlike (sight : Sight) (a b : Scope) : Prop where
  data : Alike .data a.data b.data
  frames : ∃ unseen, (sight.isOpen = false → unseen = []) ∧ (∀ frame ∈ unseen, frame.IsClear) ∧
    Matched FrameAlike (sight.frames ++ unseen) a.frames b.frames
  whole : a.whole = b.whole
  recursive : sight.isRecursive = true → OverlooksAll sight.unknown a.whole
  bodies : a.bodies = b.bodies
  indent : a.indent = b.indent

/-- What is known of two values that may not be there. -/
inductive Found {σ : Type} (R : σ → Value → Value → Prop) :
    Option σ → Option Value → Option Value → Prop where
  | none : Found R none none none
  | some {view : σ} {value other : Value} :
      R view value other → Found R (some view) (some value) (some other)

theorem Alike.seen {view : View} {a b : Value} (alike : Alike view a b) :
    SeenAlike (some view) a b := by
  rintro _ ⟨⟩
  exact alike

theorem SeenAlike.any {view : Option View} {a b : Value} (alike : SeenAlike view a b)
    (clear : view.isSome = true) : Alike .any a b := by
  obtain ⟨inner, rfl⟩ := Option.isSome_iff_exists.mp clear
  exact (alike inner rfl).any

namespace Matched

variable {α β γ : Type} {R : α → β → γ → Prop} {as : List α} {bs : List β} {cs : List γ}

theorem length_eq (matched : Matched R as bs cs) : bs.length = cs.length := by
  induction matched with
  | nil => rfl
  | cons _ _ ih => exact congrArg (· + 1) ih

theorem of_getElem? (matched : Matched R as bs cs) (index : Nat) :
    (as[index]? = none ∧ bs[index]? = none ∧ cs[index]? = none) ∨
      ∃ a b c, as[index]? = some a ∧ bs[index]? = some b ∧ cs[index]? = some c ∧ R a b c := by
  induction matched generalizing index with
  | nil => exact .inl ⟨rfl, rfl, rfl⟩
  | cons here _ ih =>
      cases index with
      | zero => exact .inr ⟨_, _, _, rfl, rfl, rfl, here⟩
      | succ index => exact ih index

end Matched

theorem found_lookup {σ : Type} {R : σ → Value → Value → Prop} {views : List (String × σ)}
    {as bs : List (String × Value)} (matched : Matched (NamedAlike R) views as bs) (name : String) :
    Found R (views.lookup name) (as.lookup name) (bs.lookup name) := by
  induction matched with
  | nil => exact .none
  | @cons view a b _ _ _ here _ ih =>
      obtain ⟨_, left⟩ := a
      obtain ⟨_, right⟩ := b
      obtain ⟨rfl, rfl, alike⟩ := here
      rw [List.lookup_cons, List.lookup_cons, List.lookup_cons]
      split
      · exact .some alike
      · exact ih

/-- What a helper reads of a named argument without looking into it. -/
theorem lookup_bind_eq {views : List (String × View)} {as bs : List (String × Value)} {γ : Type}
    {read : Value → Option γ} (matched : Matched (NamedAlike Alike) views as bs) (name : String)
    (blind : ∀ {view a b}, Alike view a b → read a = read b) :
    (as.lookup name).bind read = (bs.lookup name).bind read := by
  have found := found_lookup matched name
  generalize views.lookup name = view at found
  generalize as.lookup name = value at found ⊢
  generalize bs.lookup name = other at found ⊢
  cases found with
  | none => rfl
  | some alike => exact blind alike

theorem found_frames {views : List FrameView} {as bs : List Frame}
    (matched : Matched FrameAlike views as bs) (name : String) :
    Found SeenAlike (views.findSome? fun frame => frame.names.lookup name)
      (as.findSome? fun frame => frame.names.lookup name)
      (bs.findSome? fun frame => frame.names.lookup name) := by
  induction matched with
  | nil => exact .none
  | @cons view first second _ _ _ here _ ih =>
      have found := found_lookup here.names name
      rw [List.findSome?_cons, List.findSome?_cons, List.findSome?_cons]
      generalize view.names.lookup name = seen at found ⊢
      generalize first.names.lookup name = value at found ⊢
      generalize second.names.lookup name = other at found ⊢
      cases found with
      | none => exact ih
      | some alike => exact .some alike

theorem Matched.map_locals {views : List FrameView} {as bs : List Frame}
    (matched : Matched FrameAlike views as bs) :
    as.map Frame.locals = bs.map Frame.locals := by
  induction matched with
  | nil => rfl
  | cons here _ ih => rw [List.map_cons, List.map_cons, here.locals, ih]

namespace ScopesAlike

variable {sight : Sight} {a b : Scope}

theorem unknown (scopes : ScopesAlike sight a b) (clear : sight.IsClear) :
    ScopesAlike sight.unknown a b where
  data := scopes.data
  frames := by
    obtain ⟨unseen, _, unseenClear, matched⟩ := scopes.frames
    exact ⟨sight.frames ++ unseen, nofun, List.forall_mem_append.mpr ⟨clear, unseenClear⟩, matched⟩
  whole := scopes.whole
  recursive := scopes.recursive
  bodies := scopes.bodies
  indent := scopes.indent

theorem enter {view : FrameView} {first second : Frame} (scopes : ScopesAlike sight a b)
    (frames : FrameAlike view first second) :
    ScopesAlike (sight.enter view) (a.enter first) (b.enter second) where
  data := scopes.data
  frames := by
    obtain ⟨unseen, closed, unseenClear, matched⟩ := scopes.frames
    exact ⟨unseen, closed, unseenClear, .cons frames matched⟩
  whole := scopes.whole
  recursive := scopes.recursive
  bodies := scopes.bodies
  indent := scopes.indent

theorem local?_eq (scopes : ScopesAlike sight a b) (outwards : Nat) (name : String) :
    a.local? outwards name = b.local? outwards name := by
  have locals (scope : Scope) : scope.local? outwards name =
      ((scope.frames.map Frame.locals).drop outwards).findSome? (List.lookup name) := by
    rw [Scope.local?, ← List.map_drop, List.findSome?_map]
    rfl
  obtain ⟨_, _, _, matched⟩ := scopes.frames
  rw [locals, locals, matched.map_locals]

theorem innermost (scopes : ScopesAlike sight a b)
    (clear : sight.frames.head?.any (·.value.isNone) = false) :
    Alike .any a.frame.value b.frame.value := by
  obtain ⟨unseen, _, unseenClear, matched⟩ := scopes.frames
  change Matched FrameAlike _ (a.frame :: a.outer) (b.frame :: b.outer) at matched
  cases known : sight.frames with
  | nil =>
      rw [known, List.nil_append] at matched
      cases matched with
      | @cons view _ _ _ _ _ alike _ =>
          exact alike.value.any (unseenClear view List.mem_cons_self).1
  | cons view rest =>
      rw [known] at clear matched
      cases matched with
      | cons alike _ => exact alike.value.any (by simpa using clear)

/-- The value of a block, or of the innermost one if there are not so many. -/
theorem here (scopes : ScopesAlike sight a b) (outwards : Nat) :
    SeenAlike (sight.here outwards) (a.frames[outwards]?.getD a.frame).value
      (b.frames[outwards]?.getD b.frame).value := by
  obtain ⟨unseen, _, unseenClear, matched⟩ := scopes.frames
  rw [Sight.here]
  cases seen : sight.frames[outwards]? with
  | some view =>
      obtain ⟨missing, _⟩ | ⟨own, first, second, reached, left, right, alike⟩ :=
        matched.of_getElem? outwards
      · rw [List.getElem?_append_left (List.getElem?_eq_some_iff.mp seen).1, seen] at missing
        cases missing
      · rw [List.getElem?_append_left (List.getElem?_eq_some_iff.mp seen).1, seen] at reached
        cases reached
        rw [left, right]
        exact alike.value
  | none =>
      dsimp only
      split
      · exact nofun
      · rename_i clear
        rintro _ ⟨⟩
        obtain ⟨_, left, right⟩ | ⟨own, first, second, reached, left, right, alike⟩ :=
          matched.of_getElem? outwards
        · rw [left, right]
          exact scopes.innermost (eq_false_of_ne_true clear)
        · rw [List.getElem?_append_right (List.getElem?_eq_none_iff.mp seen)] at reached
          rw [left, right]
          exact alike.value.any (unseenClear own (List.mem_of_getElem? reached)).1

/-- A name is given by a block that is known, or else by one of which nothing is known. -/
theorem named (scopes : ScopesAlike sight a b) (name : String) :
    Found SeenAlike (sight.named? name) (a.named? name) (b.named? name) ∨
      sight.named? name = none ∧ sight.isOpen = true ∧
        Found Alike (some .any) (a.named? name) (b.named? name) := by
  obtain ⟨unseen, closed, unseenClear, matched⟩ := scopes.frames
  have found : Found SeenAlike _ (a.named? name) (b.named? name) := found_frames matched name
  rw [List.findSome?_append] at found
  change Found SeenAlike ((sight.named? name).or _) _ _ at found
  cases known : sight.named? name with
  | some view =>
      rw [known, Option.some_or] at found
      exact .inl found
  | none =>
      rw [known, Option.none_or] at found
      cases given : unseen.findSome? fun frame => frame.names.lookup name with
      | none => exact .inl (given ▸ found)
      | some view =>
          have isOpen : sight.isOpen = true := by
            by_contra isClosed
            rw [closed (eq_false_of_ne_true isClosed)] at given
            cases given
          obtain ⟨frame, member, listed⟩ := List.exists_of_findSome?_eq_some given
          have clear := (unseenClear frame member).2 _ (Keyed.mem_of_lookup listed)
          rw [given] at found
          refine .inr ⟨rfl, isOpen, ?_⟩
          generalize a.named? name = value at found ⊢
          generalize b.named? name = other at found ⊢
          cases found with
          | some alike => exact .some (alike.any clear)

end ScopesAlike

theorem Path.find_alike {sight : Sight} {a b : Scope} {view : View}
    (scopes : ScopesAlike sight a b) (path : Path) (seen : path.view sight = some view) :
    Outcomes (Option.Rel (Alike view)) (path.find a) (path.find b) := by
  obtain ⟨_, origin, names⟩ := path
  match origin, names with
  | .root, names => exact navigate_alike (.some scopes.data) seen
  | .variable outwards name, _ =>
      rw [Path.find, Path.find]
      dsimp only
      rw [scopes.local?_eq]
      exact .ok (rel_refl _ _)
  | .block outwards, [] => exact .ok (.some (scopes.here outwards view seen))
  | .block outwards, name :: rest =>
      have around {own inner : View} (here : sight.here outwards = some own)
          (reached : own.reach (name :: rest) = some inner) :=
        navigate_alike (.some (scopes.here outwards own here)) reached
      rw [Path.find, Path.find]
      dsimp only [List.head?_cons, Option.bind_some, List.tail_cons]
      rw [Path.view] at seen
      dsimp only at seen
      obtain found | ⟨notKnown, isOpen, found⟩ := scopes.named name
      · generalize sight.named? name = given at found seen
        generalize a.named? name = value at found ⊢
        generalize b.named? name = other at found ⊢
        cases found with
        | some alike =>
            obtain ⟨own, rfl, seen⟩ := Option.bind_eq_some_iff.mp seen
            exact navigate_alike (.some (alike own rfl)) seen
        | none =>
            obtain ⟨inner, reached, seen⟩ := Option.bind_eq_some_iff.mp seen
            obtain ⟨own, here, reached⟩ := Option.bind_eq_some_iff.mp reached
            split at seen
            · obtain ⟨given, _, joined⟩ := Option.bind_eq_some_iff.mp seen
              obtain rfl := Option.some.inj joined
              exact (around here reached).imp fun _ _ => rel_imp .join_left
            · obtain rfl := Option.some.inj seen
              exact around here reached
      · rw [notKnown] at seen
        obtain ⟨inner, _, seen⟩ := Option.bind_eq_some_iff.mp seen
        rw [if_pos isOpen] at seen
        obtain ⟨given, givenSeen, joined⟩ := Option.bind_eq_some_iff.mp seen
        obtain rfl := Option.some.inj joined
        generalize a.named? name = value at found ⊢
        generalize b.named? name = other at found ⊢
        cases found with
        | some alike =>
          exact (navigate_alike (.some alike) givenSeen).imp fun _ _ => rel_imp .join_right

/-! ## Helpers -/

namespace Matched

variable {views : List View} {as bs : List Value}

theorem argument (matched : Matched Alike views as bs) (name : String)
    (position : Nat) :
    Outcomes (Alike .any) (argument name as position) (argument name bs position) := by
  rw [Template.argument, Template.argument]
  obtain ⟨_, left, right⟩ | ⟨_, _, _, _, left, right, alike⟩ := matched.of_getElem? position
  · rw [left, right]
    exact .error _
  · rw [left, right]
    exact .ok alike.any

theorem argument_head (matched : Matched Alike views as bs) (name : String) :
    Outcomes (Alike (views.headD .same)) (Template.argument name as 0)
      (Template.argument name bs 0) := by
  cases matched with
  | nil => exact .error _
  | cons alike _ => exact .ok alike

theorem textArgument_eq (matched : Matched Alike views as bs) (position : Nat) :
    textArgument as position = textArgument bs position := by
  rw [textArgument, textArgument]
  obtain ⟨_, left, right⟩ | ⟨_, _, _, _, left, right, alike⟩ := matched.of_getElem? position
  · rw [left, right]
  · rw [left, right, Option.bind_some, Option.bind_some, alike.string?_eq]

/-- What a helper looks into is the same if it looks away from all else. -/
theorem getElem?_eq {name : String} {position : Nat} (matched : Matched Alike views as bs)
    (away : looksAway name views = true) (looks : position < examined name) :
    as[position]? = bs[position]? := by
  obtain ⟨_, left, right⟩ | ⟨view, _, _, seen, left, right, alike⟩ := matched.of_getElem? position
  · rw [left, right]
  · have taken : (views.take (examined name))[position]? = some view := by
      rw [List.getElem?_take, if_pos looks, seen]
    obtain rfl := of_decide_eq_true (List.all_eq_true.mp away view (List.mem_of_getElem? taken))
    rw [left, right, alike.eq]

theorem map_eq {γ : Type} {test : Value → γ} (matched : Matched Alike views as bs)
    (blind : ∀ {a b}, Alike .any a b → test a = test b) : as.map test = bs.map test := by
  induction matched with
  | nil => rfl
  | cons alike _ ih => rw [List.map_cons, List.map_cons, blind alike.any, ih]

/-- A helper that cannot tell an argument from another. -/
theorem with_argument {γ : Type} {name : String} {result : Value → γ}
    (matched : Matched Alike views as bs) (position : Nat)
    (blind : ∀ {a b}, Alike .any a b → result a = result b) :
    (do return result (← Template.argument name as position) : Except RenderError γ) =
      (do return result (← Template.argument name bs position)) := by
  refine Outcomes.eq ((matched.argument name position).bind fun a b alike => ?_)
  exact .ok (blind alike)

theorem with_arguments {γ : Type} {name : String} {result : Value → Value → γ}
    (matched : Matched Alike views as bs)
    (blind : ∀ {a b c d}, Alike .any a b → Alike .any c d → result a c = result b d) :
    (do
      let left ← Template.argument name as 0
      let right ← Template.argument name as 1
      return result left right : Except RenderError γ) =
    (do
      let left ← Template.argument name bs 0
      let right ← Template.argument name bs 1
      return result left right) := by
  refine Outcomes.eq ((matched.argument name 0).bind fun a b first => ?_)
  refine (matched.argument name 1).bind fun c d second => ?_
  exact .ok (blind first second)

end Matched

theorem query_alike {data other : Value} (alike : Alike .data data other) :
    (data.member? "request").bind (Value.member? "query") =
      (other.member? "request").bind (Value.member? "query") := by
  have requests := alike.member? (rfl : View.data.member "request" = some .request)
  generalize data.member? "request" = first at requests ⊢
  generalize other.member? "request" = second at requests ⊢
  cases requests with
  | none => rfl
  | some alike =>
      have queries := alike.member? (rfl : View.request.member "query" = some .same)
      rw [Option.bind_some, Option.bind_some]
      exact rel_same queries

theorem callHelper_eq {data other : Value} {name : String} {views : List View}
    {others : List (String × View)} {as bs : List Value} {named renamed : List (String × Value)}
    (alike : Alike .data data other) (args : Matched Alike views as bs)
    (namedArgs : Matched (NamedAlike Alike) others named renamed) (away : looksAway name views = true) :
    callHelper data name as named = callHelper other name bs renamed := by
  unfold callHelper
  split
  all_goals dsimp only
  case h_1 => rw [query_alike alike, args.textArgument_eq]
  case h_2 => rw [List.head?_eq_getElem?, List.head?_eq_getElem?, args.getElem?_eq away Nat.one_pos]
  case h_3 =>
    rw [orDefault, orDefault, args.textArgument_eq, List.head?_eq_getElem?,
      List.head?_eq_getElem?, args.getElem?_eq away Nat.one_pos]
  case h_4 | h_5 => rw [args.textArgument_eq]
  case h_6 | h_7 | h_8 | h_9 => rw [args.length_eq]
  case h_11 => rw [lookup_bind_eq namedArgs "level" Alike.string?_eq]
  case h_12 =>
    have collection : argument "lookup" as 0 = argument "lookup" bs 0 := by
      rw [argument, argument, args.getElem?_eq away Nat.one_pos]
    rw [collection]
    cases argument "lookup" bs 0 with
    | error fault => rfl
    | ok collection => exact args.with_argument 1 fun alike => alike.lookUp_eq collection
  case h_13 | h_14 =>
    rw [argument, argument, args.getElem?_eq away Nat.two_pos, args.getElem?_eq away Nat.one_lt_two]
    rfl
  case h_15 | h_16 | h_17 | h_18 =>
    exact args.with_arguments fun first second => by rw [first.order?_eq second]
  case h_19 =>
    have truths := args.map_eq fun alike => alike.isTruthy_eq false
    rw [← Function.id_comp (isTruthy false), ← List.all_map, ← List.all_map, truths]
  case h_20 =>
    have truths := args.map_eq fun alike => alike.isTruthy_eq false
    rw [← Function.id_comp (isTruthy false), ← List.any_map, ← List.any_map, truths]
  case h_21 => exact args.with_argument 0 fun alike => by rw [alike.isTruthy_eq]
  case h_22 => exact args.with_argument 0 fun alike => by rw [alike.lengthOf_eq]

theorem getElem?_of_literal {scope : Scope} {first : Param} {index : Value} {rest : List Param}
    {args : List Value}
    (evaluated : paramValues scope (first :: .literal index :: rest) = .ok args) :
    args[1]? = some index := by
  rw [paramValues, paramValues, Param.find] at evaluated
  obtain ⟨_, _, evaluated⟩ := Schema.bind_eq_ok_iff.mp evaluated
  obtain ⟨_, behind, evaluated⟩ := Schema.bind_eq_ok_iff.mp evaluated
  obtain ⟨_, literal, behind⟩ := Schema.bind_eq_ok_iff.mp behind
  obtain ⟨_, _, behind⟩ := Schema.bind_eq_ok_iff.mp behind
  cases literal
  cases behind
  cases evaluated
  rfl

theorem callHelper_alike {data other : Value} {name : String} {params : List Param}
    {views : List View} {view : View} {others : List (String × View)} {a b : Scope}
    {as bs : List Value} {named renamed : List (String × Value)} (alike : Alike .data data other)
    (left : paramValues a params = .ok as) (right : paramValues b params = .ok bs)
    (args : Matched Alike views as bs) (namedArgs : Matched (NamedAlike Alike) others named renamed)
    (seen : resultView name params views = some view) :
    Outcomes (Option.Rel (Alike view)) (callHelper data name as named)
      (callHelper other name bs renamed) := by
  unfold resultView at seen
  split at seen
  · rename_i away
    rw [callHelper_eq alike args namedArgs away]
    exact .refl (rel_refl view) _
  · split at seen
    · rename_i first index rest
      refine (args.argument_head _).bind fun collection another collections => ?_
      rw [argument, argument, getElem?_of_literal left, getElem?_of_literal right]
      exact .ok (collections.lookUp_alike seen)
    · cases seen

/-! ## Arguments -/

section

variable {sight : Sight} {a b : Scope}

mutual

theorem Param.find_alike (scopes : ScopesAlike sight a b) (param : Param) {view : View}
    (seen : param.view sight = some view) :
    Outcomes (Option.Rel (Alike view)) (param.find a) (param.find b) := by
  cases param with
  | literal value =>
      rw [Param.find, Param.find]
      exact .ok (rel_refl _ _)
  | path path => exact path.find_alike scopes seen
  | call call => exact call.find_alike scopes seen

theorem paramValues_alike (scopes : ScopesAlike sight a b) (params : List Param)
    {views : List View} (seen : paramViews sight params = some views) :
    Outcomes (Matched Alike views) (paramValues a params) (paramValues b params) := by
  cases params with
  | nil =>
      obtain rfl := Option.some.inj seen
      exact .ok .nil
  | cons param rest =>
      obtain ⟨view, here, seen⟩ := Option.bind_eq_some_iff.mp seen
      obtain ⟨views, behind, seen⟩ := Option.bind_eq_some_iff.mp seen
      obtain rfl := Option.some.inj seen
      refine (param.find_alike scopes here).bind fun _ _ alike => ?_
      refine (paramValues_alike scopes rest behind).bind fun _ _ matched => ?_
      exact .ok (.cons (rel_getD alike) matched)

theorem namedValues_alike (scopes : ScopesAlike sight a b) (params : List (String × Param))
    {views : List (String × View)} (seen : namedViews sight params = some views) :
    Outcomes (Matched (NamedAlike Alike) views) (namedValues a params) (namedValues b params) := by
  cases params with
  | nil =>
      obtain rfl := Option.some.inj seen
      exact .ok .nil
  | cons entry rest =>
      obtain ⟨name, param⟩ := entry
      obtain ⟨view, here, seen⟩ := Option.bind_eq_some_iff.mp seen
      obtain ⟨views, behind, seen⟩ := Option.bind_eq_some_iff.mp seen
      obtain rfl := Option.some.inj seen
      refine (param.find_alike scopes here).bind fun _ _ alike => ?_
      refine (namedValues_alike scopes rest behind).bind fun _ _ matched => ?_
      exact .ok (.cons ⟨rfl, rfl, rel_getD alike⟩ matched)

theorem Call.find_alike (scopes : ScopesAlike sight a b) (call : Call) {view : View}
    (seen : call.view sight = some view) :
    Outcomes (Option.Rel (Alike view)) (call.find a) (call.find b) := by
  obtain ⟨name, params, named⟩ := call
  obtain ⟨views, args, seen⟩ := Option.bind_eq_some_iff.mp seen
  obtain ⟨others, namedArgs, seen⟩ := Option.bind_eq_some_iff.mp seen
  rw [Call.find, Call.find]
  refine (paramValues_alike scopes params args).bind_of_eq fun _ _ left right args => ?_
  refine (namedValues_alike scopes named namedArgs).bind fun _ _ namedArgs => ?_
  exact callHelper_alike scopes.data left right args namedArgs seen

end

end

end ApiMock.Template

import ApiMock.Proofs.Template.Arguments

/-!
# Two renderings of parts that overlook the decoded body

Rendering walks over the parts in both scopes at once. What is rendered and what is left behind is
the same, and all partials that become known overlook the decoded body as well.
-/

set_option autoImplicit false

namespace ApiMock.Template

variable {sight : Sight} {a b : Scope}

theorem shown_find {view : View} {x y : Except RenderError (Option Value)}
    (found : Outcomes (Option.Rel (Alike view)) x y) :
    shownOrNothing <$> x = shownOrNothing <$> y := by
  cases found with
  | error => rfl
  | ok alike => exact congrArg Except.ok (rel_getD alike).shown_eq

theorem Param.written_eq (scopes : ScopesAlike sight a b) {source : Param} {view : View}
    (seen : source.view sight = some view) : source.written a = source.written b := by
  have shown := shown_find (source.find_alike scopes seen)
  cases source with
  | path target => rw [Param.written, Param.written]
  | literal | call => exact shown

theorem Param.output_eq (scopes : ScopesAlike sight a b) {source : Param} {view : View}
    (seen : source.view sight = some view) : source.output a = source.output b := by
  have found := source.find_alike scopes seen
  have helper (name : String) : callHelper a.data name [] [] = callHelper b.data name [] [] :=
    callHelper_eq scopes.data .nil .nil (by rw [looksAway, List.take_nil]; rfl)
  have value : (do return (shownOrNothing (← source.find a), false)) =
      (do return (shownOrNothing (← source.find b), false) : Except RenderError _) :=
    Outcomes.eq (found.bind fun _ _ alike => .ok (congrArg (·, false) (rel_getD alike).shown_eq))
  rw [Param.output, Param.output, source.written_eq scopes seen]
  simp only [helper, value]

/-! ## Blocks -/

/-- Two blocks in which a body is rendered. -/
inductive EnteredAlike : Option FrameView → Option Frame → Option Frame → Prop where
  | same : EnteredAlike none none none
  | own {view : FrameView} {first second : Frame} :
      FrameAlike view first second → EnteredAlike (some view) (some first) (some second)

inductive CoursesAlike (entered : Option FrameView) : Course → Course → Prop where
  | body {first second : List (Option Frame)} :
      List.Forall₂ (EnteredAlike entered) first second →
      CoursesAlike entered (.body first) (.body second)
  | otherwise : CoursesAlike entered .otherwise .otherwise
  | value {first second : Option Value} : shownOrNothing first = shownOrNothing second →
      CoursesAlike entered (.value first) (.value second)

theorem itemNames_alike {view : Option View} {value other : Value} (binders : List String)
    (alike : SeenAlike view value other) (key : Value) :
    Matched (NamedAlike SeenAlike) (itemViews binders view) (itemNames binders value key)
      (itemNames binders other key) := by
  match binders with
  | [] => exact .nil
  | [_] => exact .cons ⟨rfl, rfl, alike⟩ .nil
  | _ :: _ :: _ =>
      exact .cons ⟨rfl, rfl, fun inner _ => .refl inner key⟩ (.cons ⟨rfl, rfl, alike⟩ .nil)

theorem arrayFrames_alike {view : Option View} (binders : List String) (items : List Value) :
    List.Forall₂ (EnteredAlike (some ⟨view, itemViews binders view⟩))
      ((arrayFrames binders items).map some) ((arrayFrames binders items).map some) := by
  rw [arrayFrames, List.map_map]
  refine List.forall₂_same.mpr fun frame listed => ?_
  obtain ⟨item, _, rfl⟩ := List.mem_map.mp listed
  have same : SeenAlike view item.1 item.1 := fun inner _ => .refl inner item.1
  exact .own ⟨same, itemNames_alike binders same _, rfl⟩

/-- Of members without a common view only the names are the same. -/
theorem objectFrames_alike {view : View} {members others : List (String × Value)}
    (binders : List String) (alike : MembersAlike view members others) :
    List.Forall₂ (EnteredAlike (some ⟨view.items, itemViews binders view.items⟩))
      ((objectFrames binders members).map some) ((objectFrames binders others).map some) := by
  rw [objectFrames, objectFrames, alike.length_eq, List.map_map, List.map_map]
  generalize others.length = count
  generalize 0 = start
  induction members generalizing others start with
  | nil => cases alike; exact .nil
  | cons member rest ih =>
      cases alike with
      | @cons _ name value other _ others here behind =>
          have value : SeenAlike view.items value other := by
            intro item all
            obtain ⟨own, seen, less⟩ := View.member_of_items all name
            exact (here own seen).mono less
          rw [List.zipIdx_cons, List.zipIdx_cons, List.map_cons, List.map_cons]
          exact .cons (.own ⟨value, itemNames_alike binders value _, rfl⟩) (ih behind (start + 1))

theorem each_members {view : View} {members others : List (String × Value)}
    {binders : List String} (alike : MembersAlike view members others) (hasOtherwise : Bool) :
    CoursesAlike (some ⟨view.items, itemViews binders view.items⟩)
      (if members.isEmpty && hasOtherwise then .otherwise
        else .body ((objectFrames binders members).map some))
      (if others.isEmpty && hasOtherwise then .otherwise
        else .body ((objectFrames binders others).map some)) := by
  rw [alike.isEmpty_eq]
  split
  · exact .otherwise
  · exact .body (objectFrames_alike binders alike)

theorem with_value {view : View} {value other : Value} (binders : List String)
    (alike : Alike view value other) :
    CoursesAlike (some ⟨view, if binders.length = 1 then itemViews binders view else []⟩)
      (if isTruthy false value then
        .body [some ⟨value, if binders.length = 1 then itemNames binders value .null else [], []⟩]
        else .otherwise)
      (if isTruthy false other then
        .body [some ⟨other, if binders.length = 1 then itemNames binders other .null else [], []⟩]
        else .otherwise) := by
  rw [alike.isTruthy_eq]
  by_cases truthy : isTruthy false other = true
  · rw [if_pos truthy, if_pos truthy]
    refine .body (.cons (.own ⟨alike.seen, ?_, rfl⟩) .nil)
    dsimp only
    split
    · exact itemNames_alike binders alike.seen .null
    · exact .nil
  · rw [if_neg truthy, if_neg truthy]
    exact .otherwise

theorem courseOf_alike {name : String} {params : List Param} {views : List View}
    {others : List (String × View)} {as bs : List Value} {named renamed : List (String × Value)}
    {binders : List String} {entered : Option FrameView} (scopes : ScopesAlike sight a b)
    (left : paramValues a params = .ok as) (right : paramValues b params = .ok bs)
    (args : Matched Alike views as bs) (namedArgs : Matched (NamedAlike Alike) others named renamed)
    (seen : enteredView name params views binders = some entered) (hasOtherwise : Bool) :
    Outcomes (CoursesAlike entered) (courseOf a name as named binders hasOtherwise)
      (courseOf b name bs renamed binders hasOtherwise) := by
  have zero := lookup_bind_eq namedArgs "includeZero" Alike.bool?_eq
  unfold courseOf
  dsimp only
  split
  case h_1 =>
    obtain rfl : none = entered := Option.some.inj seen
    refine (args.argument _ 0).bind fun first second alike => .ok ?_
    rw [zero, alike.isTruthy_eq]
    split
    · exact .body (.cons .same .nil)
    · exact .otherwise
  case h_2 =>
    obtain rfl : none = entered := Option.some.inj seen
    refine (args.argument _ 0).bind fun first second alike => .ok ?_
    rw [zero, alike.isTruthy_eq]
    split
    · exact .otherwise
    · exact .body (.cons .same .nil)
  case h_3 =>
    obtain rfl := Option.some.inj seen
    exact (args.argument_head _).bind fun first second alike => .ok (with_value binders alike)
  case h_4 =>
    obtain rfl := Option.some.inj seen
    refine (args.argument_head _).bind fun first second alike => ?_
    cases alike with
    | refl =>
        cases first with
        | array items =>
            refine .ok ?_
            split
            · exact .otherwise
            · exact .body (arrayFrames_alike binders items)
        | object members => exact .ok (each_members (.refl _ members) hasOtherwise)
        | _ => exact .ok .otherwise
    | object _ members => exact .ok (each_members members hasOtherwise)
  case h_5 =>
    obtain rfl : none = entered := Option.some.inj seen
    exact .ok (.body (.cons .same .nil))
  case h_6 notIf notUnless notWith notEach notRaw =>
    unfold enteredView at seen
    split at seen
    · exact absurd rfl notWith
    · exact absurd rfl notEach
    · obtain ⟨view, result, rfl⟩ := Option.map_eq_some_iff.mp seen
      refine (callHelper_alike scopes.data left right args namedArgs result).bind
        fun first second alike => ?_
      have shown : shownOrNothing first = shownOrNothing second := (rel_getD alike).shown_eq
      have truth : (first.map (isTruthy false)).getD false =
          (second.map (isTruthy false)).getD false := by
        cases alike with
        | none => rfl
        | some alike => exact alike.isTruthy_eq false
      rw [truth]
      split
      · exact .ok (.value shown)
      · split
        · exact .ok (.body (.cons .same .nil))
        · exact .ok .otherwise

/-! ## Partials -/

/-- Partials that overlook the decoded body from wherever they are included. -/
def Known (sight : Sight) (progress : Progress) : Prop :=
  ∀ entry ∈ progress.partials, OverlooksAll sight.unknown entry.2

theorem named_eq {views : List (String × View)} {as bs : List (String × Value)}
    (matched : Matched (NamedAlike Alike) views as bs) (same : ∀ other ∈ views, other.2 = .same) :
    as = bs := by
  induction matched with
  | nil => rfl
  | @cons view a b _ _ _ here _ ih =>
      obtain ⟨isSame, behind⟩ := List.forall_mem_cons.mp same
      obtain ⟨left, right, value⟩ := here
      rw [isSame] at value
      rw [Prod.ext (left.trans right.symm) value.eq, ih behind]

theorem Matched.names_seen {views : List (String × View)} {as bs : List (String × Value)}
    (matched : Matched (NamedAlike Alike) views as bs) :
    Matched (NamedAlike SeenAlike) (views.map (Prod.map id some)) as bs := by
  induction matched with
  | nil => exact .nil
  | cons here _ ih => exact .cons ⟨here.left, here.right, here.value.seen⟩ ih

theorem enterPartial_alike {views : List View} {others : List (String × View)} {as bs : List Value}
    {named renamed : List (String × Value)} (scopes : ScopesAlike sight a b)
    (args : Matched Alike views as bs) (namedArgs : Matched (NamedAlike Alike) others named renamed)
    (same : ∀ other ∈ others, other.2 = .same) (indent : String) :
    ScopesAlike (sight.enter (partialView sight views others)) (a.enterPartial as named indent)
      (b.enterPartial bs renamed indent) := by
  obtain rfl := named_eq namedArgs same
  have base : SeenAlike (views.head?.or (sight.here 0)) (as.headD a.frame.value)
      (bs.headD b.frame.value) := by
    cases args with
    | nil => exact scopes.here 0
    | cons alike _ => exact alike.seen
  let merged (base : Value) : Value := if named.isEmpty then base
    else .object (named.foldl (fun members entry => Keyed.insert entry.1 entry.2 members)
      (membersOf base))
  have value : SeenAlike (views.head?.or (sight.here 0)) (merged (as.headD a.frame.value))
      (merged (bs.headD b.frame.value)) := by
    intro inner seen
    dsimp only [merged]
    split
    · exact base inner seen
    · exact ((MembersAlike.refl _ named).foldl_insert (base inner seen).membersOf).object
  have frame : FrameAlike (partialView sight views others)
      ⟨merged (as.headD a.frame.value), named, []⟩ ⟨merged (bs.headD b.frame.value), named, []⟩ :=
    ⟨value, namedArgs.names_seen, rfl⟩
  exact { scopes.enter frame with indent := congrArg (· ++ indent) scopes.indent }

theorem isSome_here_of_isClear (clear : sight.IsClear) : (sight.here 0).isSome = true := by
  rw [Sight.here]
  cases known : sight.frames with
  | nil => rfl
  | cons frame rest => exact (clear frame (known ▸ List.mem_cons_self)).1

theorem isClear_enter_partialView (clear : sight.IsClear) (views : List View)
    (others : List (String × View)) : (sight.enter (partialView sight views others)).IsClear := by
  refine List.forall_mem_cons.mpr ⟨⟨?_, fun named member => ?_⟩, clear⟩
  · cases views with
    | nil => exact isSome_here_of_isClear clear
    | cons view rest => rfl
  · obtain ⟨other, _, rfl⟩ := List.mem_map.mp member
    rfl

theorem definition_eq {call : Call} {views : List View} {others : List (String × View)}
    (scopes : ScopesAlike sight a b) (args : paramViews sight call.params = some views)
    (namedArgs : namedViews sight call.named = some others) (body : Option (List Element)) :
    definition a call body = definition b call body := by
  refine Outcomes.eq ((paramValues_alike scopes _ args).bind fun as bs args => ?_)
  refine (namedValues_alike scopes _ namedArgs).bind fun _ _ _ => ?_
  dsimp only
  split
  · exact .error _
  · cases args with
    | nil => exact .refl (fun _ => rfl) _
    | cons alike _ =>
        dsimp only [List.head?_cons]
        cases alike with
        | refl => exact .refl (fun _ => rfl) _
        | object => exact .error _

/-- A directive makes its own body known. -/
theorem definition_body {call : Call} {body : Option (List Element)}
    {entry : String × List Element} (defined : definition a call body = .ok entry) :
    body = some entry.2 := by
  unfold definition at defined
  obtain ⟨_, _, defined⟩ := Schema.bind_eq_ok_iff.mp defined
  obtain ⟨_, _, defined⟩ := Schema.bind_eq_ok_iff.mp defined
  dsimp only at defined
  split at defined
  · cases defined
  · split at defined
    · obtain rfl := Except.ok.inj defined
      rfl
    · cases defined

/-! ## Parts -/

theorem write_eq (scopes : ScopesAlike sight a b) : a.write = b.write := by
  funext text progress
  rw [Scope.write.eq_def, Scope.write.eq_def, scopes.indent]

theorem writeResult_eq (scopes : ScopesAlike sight a b) : a.writeResult = b.writeResult := by
  funext text unindented progress
  rw [Scope.writeResult, Scope.writeResult, write_eq scopes]

theorem partials_write (scope : Scope) (text : String) (progress : Progress) :
    (scope.write text progress).2.partials = progress.partials := by
  unfold Scope.write
  split <;> rfl

theorem Known.write {progress : Progress} (known : Known sight progress) (scope : Scope)
    (text : String) : Known sight (scope.write text progress).2 := by
  rw [Known, partials_write]
  exact known

theorem Known.writeResult {progress : Progress} (known : Known sight progress) (scope : Scope)
    (text : String) (unindented : Bool) :
    Known sight (scope.writeResult text unindented progress).2 := by
  rw [Scope.writeResult]
  split
  · exact known
  · exact known.write scope text

/-- The same rendering, after which all partials still overlook the decoded body. -/
def Agree (sight : Sight) : Rendered → Rendered → Prop :=
  Outcomes fun first second => first = second ∧ Known sight first.2

/-- A way to render partials that does not tell scopes from each other that are alike. -/
def Overlooking (sight : Sight) (includer : Includer) : Prop :=
  ∀ a b elements progress, ScopesAlike sight.unknown a b → OverlooksAll sight.unknown elements →
    Known sight progress → includer a elements progress = includer b elements progress

/-- What is included is known, or it is the whole template. -/
theorem included?_overlooks {partials : Partials} {name : String} {elements : List Element}
    (scopes : ScopesAlike sight a b)
    (known : ∀ entry ∈ partials, OverlooksAll sight.unknown entry.2)
    (other : sight.isRecursive = true ∨ name ≠ ownName)
    (included : a.included? partials name = some elements) :
    OverlooksAll sight.unknown elements := by
  rw [Scope.included?] at included
  cases found : partials.lookup name with
  | some own =>
      rw [found, Option.some_or] at included
      obtain rfl := Option.some.inj included
      exact known _ (Keyed.mem_of_lookup found)
  | none =>
      rw [found, Option.none_or] at included
      split at included
      · rename_i isOwn
        obtain rfl := Option.some.inj included
        exact scopes.recursive (other.resolve_right (not_not.mpr isOwn))
      · cases included

theorem include_eq {includer : Includer} {name : String} {progress done : Progress}
    (overlooking : Overlooking sight includer) (scopes : ScopesAlike sight a b)
    (clear : sight.IsClear) (other : sight.isRecursive = true ∨ name ≠ ownName)
    (body : Option String) (known : Known sight done) :
    a.include includer name body progress done = b.include includer name body progress done := by
  have included : a.included? done.partials name = b.included? done.partials name := by
    rw [Scope.included?, Scope.included?, scopes.whole]
  have inside : ScopesAlike sight { a with bodies := body.toList ++ a.bodies }
      { b with bodies := body.toList ++ b.bodies } :=
    { scopes with bodies := congrArg (body.toList ++ ·) scopes.bodies }
  rw [scopes.bodies] at inside
  rw [Scope.include.eq_def, Scope.include.eq_def, scopes.bodies, ← included]
  split
  · rfl
  · cases found : a.included? done.partials name with
    | none => cases body <;> rfl
    | some elements =>
        have overlooked := included?_overlooks scopes known other found
        have same (atTop : Bool) := overlooking _ _ elements
          ⟨done.partials, progress.atLineStart, atTop⟩ (inside.unknown clear) overlooked known
        dsimp only
        rw [same]

theorem included_agree {includer : Includer} {name : String} {progress done : Progress}
    (overlooking : Overlooking sight includer) (scopes : ScopesAlike sight a b)
    (clear : sight.IsClear) (other : sight.isRecursive = true ∨ name ≠ ownName)
    (body : Option String) (before : Known sight progress) (known : Known sight done) :
    Agree sight
      (do
        let (text, atLineStart) ← a.include includer name body progress done
        return (text, { progress with atLineStart }))
      (do
        let (text, atLineStart) ← b.include includer name body progress done
        return (text, { progress with atLineStart })) := by
  rw [include_eq overlooking scopes clear other body known]
  cases b.include includer name body progress done with
  | error fault => exact .error fault
  | ok result => exact .ok ⟨rfl, before⟩

theorem written_of_fixedName {source : Param} {name : String} (scope : Scope)
    (fixed : source.fixedName = some name) : source.written scope = .ok name := by
  cases source with
  | literal | path =>
      obtain rfl := Option.some.inj fixed
      rfl
  | call => cases fixed

theorem written_agree {source : Param} {view : View} (scopes : ScopesAlike sight a b)
    (seen : source.view sight = some view)
    (other : sight.isRecursive = true ∨ ∃ name, source.fixedName = some name ∧ name ≠ ownName) :
    Outcomes (fun x y => x = y ∧ (sight.isRecursive = true ∨ x ≠ ownName))
      (source.written a) (source.written b) := by
  rw [source.written_eq scopes seen]
  obtain isRecursive | ⟨name, fixed, notOwn⟩ := other
  · exact .refl (fun _ => ⟨rfl, .inl isRecursive⟩) _
  · rw [written_of_fixedName b fixed]
    exact .ok ⟨rfl, .inr notOwn⟩

theorem any_isSome_eq {entered : Option FrameView} {first second : List (Option Frame)}
    (frames : List.Forall₂ (EnteredAlike entered) first second) :
    first.any Option.isSome = second.any Option.isSome := by
  induction frames with
  | nil => rfl
  | cons here _ ih =>
      rw [List.any_cons, List.any_cons, ih]
      cases here <;> rfl

theorem foldlM_agree {α β : Type} {R : α → α → Prop} (invariant : β → Prop)
    {f g : β → α → Except RenderError β} {as bs : List α} (matched : List.Forall₂ R as bs)
    (step : ∀ done {first second}, R first second → invariant done →
      Outcomes (fun x y => x = y ∧ invariant x) (f done first) (g done second))
    {start : β} (holds : invariant start) :
    Outcomes (fun x y => x = y ∧ invariant x) (as.foldlM f start) (bs.foldlM g start) := by
  induction matched generalizing start with
  | nil => exact .ok ⟨rfl, holds⟩
  | cons related _ ih =>
      rw [List.foldlM_cons, List.foldlM_cons]
      refine (step start related holds).bind fun done _ agreed => ?_
      obtain ⟨rfl, holds⟩ := agreed
      exact ih holds

theorem renderEach_agree {entered : Option FrameView} {body : Scope → Progress → Rendered}
    {first second : List (Option Frame)} {progress : Progress}
    (frames : List.Forall₂ (EnteredAlike entered) first second)
    (inside : ∀ progress {own other}, EnteredAlike entered own other → Known sight progress →
      Agree sight (body (a.inside own) progress) (body (b.inside other) progress))
    (known : Known sight progress) :
    Agree sight (a.renderEach body first progress) (b.renderEach body second progress) := by
  rw [Scope.renderEach, Scope.renderEach, any_isSome_eq frames]
  refine (foldlM_agree (fun done => Known sight done.2) frames (fun done _ _ entering before => ?_)
    known).bind fun done _ agreed => ?_
  · refine (inside { done.2 with atTop := false } entering before).bind fun rendered _ agreed => ?_
    obtain ⟨rfl, after⟩ := agreed
    exact .ok ⟨rfl, after⟩
  · obtain ⟨rfl, after⟩ := agreed
    refine .ok ⟨rfl, fun entry listed => ?_⟩
    dsimp only at listed
    split at listed
    · exact known entry listed
    · exact after entry listed

section

variable {includer : Includer} {progress : Progress} {indent : String} {call : Call}
  {source : Param} {params : List Param} {named : List (String × Param)} {views : List View}
  {others : List (String × View)} {body otherwise : Option (List Element)}

theorem block_agree {binders : List String} {body : List Element} {entered : Option FrameView}
    (scopes : ScopesAlike sight a b) (args : paramViews sight call.params = some views)
    (namedArgs : namedViews sight call.named = some others)
    (seen : enteredView call.name call.params views binders = some entered)
    (known : Known sight progress)
    (inside : ∀ progress {own other}, EnteredAlike entered own other → Known sight progress →
      Agree sight (renderAll includer (a.inside own) body progress)
        (renderAll includer (b.inside other) body progress))
    (instead : ∀ elements, otherwise = some elements →
      Agree sight (renderAll includer a elements { progress with atTop := false })
        (renderAll includer b elements { progress with atTop := false })) :
    Agree sight ((Element.block call binders body otherwise).render includer a progress)
      ((Element.block call binders body otherwise).render includer b progress) := by
  obtain ⟨name, params, named⟩ := call
  rw [Element.render.eq_def, Element.render.eq_def]
  dsimp only
  refine (paramValues_alike scopes params args).bind_of_eq fun _ _ left right args => ?_
  refine (namedValues_alike scopes named namedArgs).bind fun _ _ namedArgs => ?_
  refine (courseOf_alike scopes left right args namedArgs seen _).bind fun _ _ courses => ?_
  cases courses with
  | body frames => exact renderEach_agree frames inside known
  | otherwise =>
      cases otherwise with
      | none => exact .ok ⟨rfl, known⟩
      | some elements => exact instead elements rfl
  | value shown =>
      dsimp only
      rw [writeResult_eq scopes, shown]
      exact .ok ⟨rfl, known.writeResult b _ _⟩

theorem inclusion_agree {view : View} (overlooking : Overlooking sight includer)
    (scopes : ScopesAlike sight a b) (seen : source.view sight = some view)
    (other : sight.isRecursive = true ∨ ∃ name, source.fixedName = some name ∧ name ≠ ownName)
    (clear : sight.IsClear) (args : paramViews sight params = some views)
    (namedArgs : namedViews sight named = some others) (same : ∀ other ∈ others, other.2 = .same)
    (known : Known sight progress)
    (inside : ∀ elements {a b}, body = some elements →
      ScopesAlike (sight.enter (partialView sight views others)) a b →
      Agree sight (renderAll includer a elements { progress with atTop := false })
        (renderAll includer b elements { progress with atTop := false })) :
    Agree sight ((Element.inclusion source params named indent body).render includer a progress)
      ((Element.inclusion source params named indent body).render includer b progress) := by
  rw [Element.render, Element.render]
  refine (written_agree scopes seen other).bind fun name _ agreed => ?_
  obtain ⟨rfl, other⟩ := agreed
  refine (paramValues_alike scopes params args).bind fun _ _ args => ?_
  refine (namedValues_alike scopes named namedArgs).bind fun _ _ namedArgs => ?_
  have overlooking : Overlooking (sight.enter (partialView sight views others)) includer :=
    overlooking
  have scopes := enterPartial_alike scopes args namedArgs same indent
  have clear := isClear_enter_partialView clear views others
  dsimp only
  split
  · exact .error _
  · cases body with
    | none => exact included_agree overlooking scopes clear other none known known
    | some elements =>
        refine (inside elements rfl scopes).bind fun result _ agreed => ?_
        obtain ⟨rfl, after⟩ := agreed
        exact included_agree overlooking scopes clear other (some result.1) known after

theorem directive_agree (scopes : ScopesAlike sight a b)
    (args : paramViews sight call.params = some views)
    (namedArgs : namedViews sight call.named = some others)
    (inside : ∀ elements, body = some elements → OverlooksAll sight.unknown elements)
    (known : Known sight progress) :
    Agree sight ((Element.directive call body).render includer a progress)
      ((Element.directive call body).render includer b progress) := by
  rw [Element.render, Element.render, definition_eq scopes args namedArgs]
  cases defined : definition b call body with
  | error fault => exact .error fault
  | ok entry =>
      have new := inside entry.2 (definition_body defined)
      exact .ok ⟨rfl, List.forall_mem_cons.mpr ⟨new, known⟩⟩

end

mutual

theorem renderAll_agree {includer : Includer} {sight : Sight} {a b : Scope}
    (overlooking : Overlooking sight includer) (scopes : ScopesAlike sight a b)
    (elements : List Element) (overlooked : OverlooksAll sight elements) (progress : Progress)
    (known : Known sight progress) :
    Agree sight (renderAll includer a elements progress)
      (renderAll includer b elements progress) := by
  cases elements with
  | nil => exact .ok ⟨rfl, known⟩
  | cons element rest =>
      cases overlooked with
      | cons here behind =>
          rw [renderAll, renderAll]
          refine (element.render_agree overlooking scopes here known).bind fun first _ agreed => ?_
          obtain ⟨rfl, known⟩ := agreed
          refine (renderAll_agree overlooking scopes rest behind first.2 known).bind
            fun second _ agreed => ?_
          obtain ⟨rfl, known⟩ := agreed
          exact .ok ⟨rfl, known⟩
  termination_by sizeOf elements

theorem Element.render_agree {includer : Includer} {sight : Sight} {a b : Scope}
    {progress : Progress} (overlooking : Overlooking sight includer)
    (scopes : ScopesAlike sight a b)
    (element : Element) (overlooked : Overlooks sight element) (known : Known sight progress) :
    Agree sight (element.render includer a progress) (element.render includer b progress) := by
  cases overlooked with
  | @text _ content =>
      rw [Element.render, Element.render, write_eq scopes]
      exact .ok ⟨rfl, known.write b content⟩
  | @output _ source _ seen =>
      rw [Element.render, Element.render, source.output_eq scopes seen, writeResult_eq scopes]
      refine (Outcomes.refl (fun _ => rfl) _ : Outcomes Eq _ _).bind fun result _ same => ?_
      obtain rfl := same
      exact .ok ⟨rfl, known.writeResult b result.1 result.2⟩
  | @call _ call _ seen =>
      rw [Element.render, Element.render, writeResult_eq scopes]
      refine (call.find_alike scopes seen).bind fun first second alike => ?_
      rw [shownOrNothing, shownOrNothing, (rel_getD alike).shown_eq]
      exact .ok ⟨rfl, known.writeResult b _ _⟩
  | @block _ name params named binders body otherwise _ _ entered args namedArgs seen inside
      instead =>
      refine block_agree scopes args namedArgs seen known
        (fun progress own other entering known => ?_) fun elements given => ?_
      · cases entering with
        | same => exact renderAll_agree overlooking scopes body inside progress known
        | @own view _ _ alike =>
            have overlooking : Overlooking (sight.enter view) includer := overlooking
            exact renderAll_agree overlooking (scopes.enter alike) body inside progress known
      · subst given
        exact renderAll_agree overlooking scopes elements (instead elements rfl) _ known
  | @inclusion _ source params named indent body _ views others seen other clear args namedArgs
      same inside =>
      refine inclusion_agree overlooking scopes seen other clear args namedArgs same known
        fun elements a b given scopes => ?_
      subst given
      have overlooking : Overlooking (sight.enter (partialView sight views others)) includer :=
        overlooking
      exact renderAll_agree overlooking scopes elements (inside elements rfl) _ known
  | directive args namedArgs inside => exact directive_agree scopes args namedArgs inside known
  termination_by sizeOf element

end

end ApiMock.Template

import ApiMock.Proofs.Definition.Chain
import ApiMock.Proofs.Http.HeaderFields

/-!
# Responses and failures of a chain

The definition at the end of a chain decides on the response. The failures are those at the
constraints of the definitions along the chain, from the root on, and then those of the last one.
-/

set_option autoImplicit false

namespace ApiMock

namespace Definition

/-- The definitions along a place, from the root to the one that is there. -/
def along : Place → Definition → List Definition
  | [], definition => [definition]
  | position :: rest, definition =>
    definition :: (definition.child? position).elim [] (along rest)

/-- At a place is a child that was chosen by its constraints. -/
def IsVariantAt (place : Place) (definition : Definition) : Prop :=
  ∃ front position parent children, place = front ++ [position] ∧
    definition.node? front = some parent ∧ parent.strategy = .dispatch .request children

/-- The response and the failures of its own that the last definition of a chain answers with. One
that was chosen by its constraints needs a strategy. -/
inductive Answers (request : Request) (isVariant : Prop) :
    Definition → Response → List Failure → Prop where
  | unset {definition} : definition.strategy = .unset → ¬ isVariant →
      Answers request isVariant definition {} []
  | missingStrategy {definition} : definition.strategy = .unset → isVariant →
      Answers request isVariant definition {} [.missingStrategy definition.path]
  | nop {definition} : definition.strategy = .nop →
      Answers request isVariant definition { status := .noContent } []
  | dropRequest {definition} : definition.strategy = .dropRequest →
      Answers request isVariant definition { dropped := true } []
  | constant {definition head body} : definition.strategy = .constant head body →
      Answers request isVariant definition
        { status := head.status, headers := .grouped head.fields, body := .bytes body } []
  | rendered {definition head template text} : definition.strategy = .template head template →
      template.render request = .ok text →
      Answers request isVariant definition
        { status := head.status, headers := .grouped head.fields
          body := .bytes (Utf8.encode text) } []
  | renderFailed {definition head template failure} :
      definition.strategy = .template head template → template.render request = .error failure →
      Answers request isVariant definition
        { status := .internalServerError, body := .report failure.report } [.template failure]
  | unmatched {definition dispatcher children} :
      definition.strategy = .dispatch dispatcher children → dispatcher ≠ .request →
      (∀ position, ¬ dispatcher.Chooses request children position) →
      Answers request isVariant definition
        { status := if dispatcher = .method then .methodNotAllowed else .notFound }
        [.unhandled request.dump]
  | rejected {definition children} : definition.strategy = .dispatch .request children →
      (∀ position, ¬ Dispatcher.request.Chooses request children position) →
      Answers request isVariant definition { status := .notFound }
        (children.flatMap (fun child => child.2.verify request) ++ [.unhandled request.dump])

variable {request : Request} {definition node child : Definition} {dispatcher : Dispatcher}
  {children : List (String × Definition)} {position : Nat} {key : String} {place : Place}

theorem along_eq_cons (place : Place) (definition : Definition) :
    definition.along place = definition :: (definition.along place).tail := by
  cases place <;> rfl

theorem along_cons (found : definition.child? position = some child) :
    definition.along (position :: place) = definition :: child.along place := by
  rw [along, found]
  rfl

theorem not_isVariantAt_nil : ¬ definition.IsVariantAt [] := by
  rintro ⟨front, _, _, _, same, _⟩
  cases front <;> cases same

theorem isVariantAt_cons_iff (found : definition.child? position = some child)
    (strategy : definition.strategy = .dispatch dispatcher children) :
    definition.IsVariantAt (position :: place) ↔
      (place = [] ∧ dispatcher = .request) ∨ child.IsVariantAt place := by
  constructor
  · rintro ⟨front, _, parent, others, same, here, variants⟩
    cases front with
    | nil =>
        cases same
        cases here
        cases strategy.symm.trans variants
        exact .inl ⟨rfl, rfl⟩
    | cons first front =>
        cases same
        rw [node?_cons, found] at here
        exact .inr ⟨front, _, parent, others, rfl, here, variants⟩
  · rintro (⟨rfl, rfl⟩ | ⟨front, last, parent, others, rfl, here, variants⟩)
    · exact ⟨[], position, definition, children, rfl, rfl, strategy⟩
    · refine ⟨position :: front, last, parent, others, rfl, ?_, variants⟩
      rw [node?_cons, found]
      exact here

/-! ## The last definition -/

theorem strategyFailures_of_ne_unset (strategy : definition.strategy ≠ .unset) :
    definition.strategyFailures = [] := by
  unfold strategyFailures
  split
  · contradiction
  · rfl

/-- A definition that leaves the reply to no child answers itself. -/
theorem answers_of_unchosen (isVariant : Prop) [Decidable isVariant]
    (unchosen : definition.choice? request = none) :
    Answers request isVariant definition (definition.reply request).response
      ((if isVariant then definition.strategyFailures else []) ++
        (definition.reply request).failures) := by
  have replies := congrArg Execution.response (reply_eq request definition)
  have fails := congrArg Execution.failures (reply_eq request definition)
  rw [replies, fails]
  by_cases isUnset : definition.strategy = .unset
  · rw [isUnset, strategyFailures, isUnset, Strategy.reply]
    by_cases variant : isVariant
    · rw [if_pos variant]
      exact .missingStrategy isUnset variant
    · rw [if_neg variant]
      exact .unset isUnset variant
  rw [strategyFailures_of_ne_unset isUnset, ite_self, List.nil_append]
  cases strategy : definition.strategy with
  | unset => exact absurd strategy isUnset
  | nop =>
      rw [Strategy.reply]
      exact .nop strategy
  | dropRequest =>
      rw [Strategy.reply]
      exact .dropRequest strategy
  | constant =>
      rw [Strategy.reply, ReplyHead.respond, Headers.appendAll_nil]
      exact .constant strategy
  | template head template =>
      rw [Strategy.reply, ReplyHead.respondWith]
      cases rendering : template.render request with
      | ok =>
          dsimp only [ReplyHead.respond]
          rw [Headers.appendAll_nil]
          exact .rendered strategy rendering
      | error => exact .renderFailed strategy rendering
  | dispatch dispatcher children =>
      have unchosen := (choice?_of_dispatch strategy).symm.trans unchosen
      have none_fits := Dispatcher.choose?_eq_none_iff.mp unchosen
      rw [Strategy.reply_of_unchosen unchosen]
      cases dispatcher with
      | request => exact .rejected strategy none_fits
      | _ => exact .unmatched strategy Dispatcher.noConfusion none_fits

/-! ## The chain -/

/-- What fails when a child is entered: its constraints, and a strategy that a chosen one lacks. The
constraints of a chosen one were checked and passed. -/
theorem childFailures_eq (chosen : dispatcher.choose? request children = some position)
    (found : children[position]? = some (key, child)) :
    dispatcher.childFailures request child = child.verify request ++
      if dispatcher = .request then child.strategyFailures else [] := by
  cases dispatcher with
  | request => rw [Dispatcher.verify_of_chosen chosen found]; rfl
  | _ => exact (List.append_nil _).symm

/-- The reply of a definition is the answer of the last one on the chain, behind the failures at the
constraints of those in between. -/
theorem reply_answers (request : Request) (definition : Definition) (isVariant : Prop)
    [Decidable isVariant] :
    ∃ last own, definition.node? (definition.route request) = some last ∧
      Answers request
        ((definition.route request = [] ∧ isVariant) ∨
          definition.IsVariantAt (definition.route request))
        last (definition.reply request).response own ∧
      (if isVariant then definition.strategyFailures else []) ++
          (definition.reply request).failures =
        (definition.along (definition.route request)).tail.flatMap (·.verify request) ++ own := by
  -- Whether the root is a variant is up to what is above it, and so is the check of its constraints.
  induction definition using inductionOnChoice request generalizing isVariant with
  | unchosen definition choice =>
      rw [route_of_unchosen choice]
      refine ⟨definition, _, rfl, ?_, rfl⟩
      rw [eq_self, true_and, or_iff_left not_isVariantAt_nil]
      exact answers_of_unchosen isVariant choice
  | chosen definition dispatcher children position key child strategy chosen found ih =>
      have here := child?_of_dispatch strategy found
      obtain ⟨last, own, reached, answers, failures⟩ := ih (dispatcher = .request)
      rw [route_of_chosen ((choice?_of_dispatch strategy).trans chosen) here,
        reply_of_chosen strategy chosen found]
      refine ⟨last, own, ?_, ?_, ?_⟩
      · rw [node?_cons, here]
        exact reached
      · rw [isVariantAt_cons_iff here strategy, eq_false (List.cons_ne_nil _ _), false_and,
          false_or]
        exact answers
      · have noFailure : definition.strategyFailures = [] :=
          strategyFailures_of_ne_unset (by rw [strategy]; nofun)
        rw [noFailure, ite_self, List.nil_append, along_cons here, List.tail_cons, along_eq_cons,
          List.flatMap_cons, childFailures_eq chosen found, List.append_assoc, List.append_assoc,
          failures]

theorem exists_answers (request : Request) (definition : Definition) :
    ∃ last own, definition.node? (definition.route request) = some last ∧
      Answers request (definition.IsVariantAt (definition.route request)) last
        (definition.reply request).response own ∧
      (definition.reply request).failures =
        (definition.along (definition.route request)).tail.flatMap (·.verify request) ++ own := by
  obtain ⟨last, own, reached, answers, failures⟩ := reply_answers request definition False
  rw [and_false, false_or] at answers
  rw [if_neg id, List.nil_append] at failures
  exact ⟨last, own, reached, answers, failures⟩

/-- A child that was chosen by its constraints and has a strategy replies as if it were executed
with its constraints. -/
theorem execute_of_variant (strategy : definition.strategy = .dispatch .request children)
    (chosen : Dispatcher.request.Chooses request children position)
    (found : children[position]? = some (key, child)) (hasStrategy : child.strategy ≠ .unset) :
    child.executeUnverified request = child.execute request ∧
      definition.execute request =
        { after :=
            { definition with
              strategy := .dispatch .request
                (children.set position (key, (child.execute request).after))
              calls := definition.calls + 1 }
          response := (child.execute request).response
          failures := definition.verify request ++ (child.execute request).failures } := by
  have chosen := Dispatcher.choose?_eq_some_iff.mpr chosen
  have passed := Dispatcher.verify_of_chosen chosen found
  have same : child.executeUnverified request = child.execute request := by
    rw [executeUnverified, execute, strategyFailures_of_ne_unset hasStrategy, passed]
  refine ⟨same, ?_⟩
  rw [← same, execute, reply_of_chosen strategy chosen found]
  rfl

/-- A request gets the response of the last definition on its chain. The failures are those at the
constraints along the chain, in order and all with the same message, and then those of the last
definition. Being chosen by its constraints is like being executed with them. -/
theorem execute_answers (request : Request) (definition : Definition) :
    (∀ node : Definition, node.verify request =
      node.constraints.flatMap fun constraint =>
        (constraint.verify request).map fun violation =>
          .constraint constraint.kind violation request.dump) ∧
    (∃ route last own, Chain request definition route ∧ definition.node? route = some last ∧
      Answers request (definition.IsVariantAt route) last
        (definition.execute request).response own ∧
      (definition.execute request).failures =
        (definition.along route).flatMap (·.verify request) ++ own) ∧
    ∀ (node variant : Definition) (children : List (String × Definition)) position key,
      node.strategy = .dispatch .request children →
      Dispatcher.request.Chooses request children position →
      children[position]? = some (key, variant) → variant.strategy ≠ .unset →
      variant.executeUnverified request = variant.execute request ∧
        node.execute request =
          { after :=
              { node with
                strategy := .dispatch .request
                  (children.set position (key, (variant.execute request).after))
                calls := node.calls + 1 }
            response := (variant.execute request).response
            failures := node.verify request ++ (variant.execute request).failures } := by
  refine ⟨fun _ => rfl, ?_, fun _ _ _ _ _ => execute_of_variant⟩
  obtain ⟨last, own, reached, answers, failures⟩ := exists_answers request definition
  refine ⟨_, last, own, chain_route request definition, reached, answers, ?_⟩
  rw [execute, Execution.precededBy, failures, along_eq_cons, List.flatMap_cons, List.append_assoc]
  rfl

end Definition

end ApiMock

import ApiMock.Proofs.Template.Rendering
import ApiMock.Proofs.Template.TagsOnly
import ApiMock.Proofs.Text.Utf8

/-!
# Templates and the decoded body

The body of a request is decoded for templates that name the decoded body in their source. A
template that overlooks the decoded body renders to the same text without it. A template that
reaches the decoded body in another way of writing may not.
-/

set_option autoImplicit false

namespace ApiMock.Template

/-! ## Whole templates -/

theorem renderWithin_succ_eq {sight : Sight} {bound : Nat} {a b : Scope} {elements : List Element}
    {progress : Progress} (overlooking : Overlooking sight (renderWithin bound))
    (scopes : ScopesAlike sight a b) (overlooked : OverlooksAll sight elements)
    (known : Known sight progress) :
    renderWithin (bound + 1) a elements progress =
      renderWithin (bound + 1) b elements progress := by
  have rendered := renderAll_agree overlooking scopes elements overlooked progress known
  rw [renderWithin, renderWithin]
  exact Outcomes.eq (rendered.imp fun _ _ agreed => agreed.1)

theorem overlooking_renderWithin (sight : Sight) (bound : Nat) :
    Overlooking sight (renderWithin bound) := by
  intro a b elements progress scopes overlooked known
  induction bound generalizing a b elements progress with
  | zero => rfl
  | succ bound ih =>
      have overlooking : Overlooking sight.unknown (renderWithin bound) := ih
      exact renderWithin_succ_eq overlooking scopes overlooked known

/-- What is known of the data around a whole template. -/
def Sight.top (isRecursive : Bool) : Sight := ⟨[⟨some .data, []⟩], false, isRecursive⟩

/-- A template that overlooks the decoded body. If it may include itself, it does so as a partial as
well. -/
def OverlooksBody (template : Template) : Prop :=
  OverlooksAll (.top false) template.elements ∨
    OverlooksAll (.top true) template.elements ∧
      OverlooksAll (Sight.top true).unknown template.elements

theorem scopesAlike_ofData {data other : Value} {isRecursive : Bool} {elements : List Element}
    (alike : Alike .data data other)
    (recursive : isRecursive = true → OverlooksAll (Sight.top isRecursive).unknown elements) :
    ScopesAlike (.top isRecursive) (.ofData data elements) (.ofData other elements) where
  data := alike
  frames := ⟨[], fun _ => rfl, List.forall_mem_nil _, .cons ⟨alike.seen, .nil, rfl⟩ .nil⟩
  whole := rfl
  recursive := recursive
  bodies := rfl
  indent := rfl

theorem renderElements_eq_of_alike {template : Template} {data other : Value}
    (overlooks : template.OverlooksBody) (alike : Alike .data data other) :
    renderElements template.elements data = renderElements template.elements other := by
  have rendered {isRecursive : Bool}
      (overlooked : OverlooksAll (.top isRecursive) template.elements)
      (recursive : isRecursive = true →
        OverlooksAll (Sight.top isRecursive).unknown template.elements) :
      renderWithin maximalInclusions (.ofData data template.elements) template.elements
          ⟨[], true, true⟩ =
        renderWithin maximalInclusions (.ofData other template.elements) template.elements
          ⟨[], true, true⟩ := by
    have scopes := scopesAlike_ofData alike recursive
    have known : Known (.top isRecursive) ⟨[], true, true⟩ :=
      fun _ listed => absurd listed List.not_mem_nil
    exact renderWithin_succ_eq (overlooking_renderWithin _ 255) scopes overlooked known
  rw [renderElements, renderElements]
  obtain overlooked | ⟨overlooked, asPartial⟩ := overlooks
  · rw [rendered overlooked nofun]
  · rw [rendered overlooked fun _ => asPartial]

/-! ## Templates that only write a value -/

theorem indentLines_nil (text : List Char) : indentLines [] text = text := by
  induction text with
  | nil => rfl
  | cons c rest ih =>
      cases rest with
      | nil => rfl
      | cons next rest => rw [indentLines, ih, ite_self, List.singleton_append]

theorem write_of_indent_eq_empty {scope : Scope} (noIndent : scope.indent = "") (text : String)
    (progress : Progress) : (scope.write text progress).1 = text := by
  rw [Scope.write.eq_def, noIndent]
  split
  · rename_i empty
    exact (String.toList_eq_nil_iff.mp empty).symm
  · rename_i c rest characters
    simp only [ite_self, String.toList_empty, indentLines_nil, ← characters, String.ofList_toList,
      String.empty_append]

theorem renderElements_path {path : Path} {data : Value} {value : Option Value}
    (notHelper : helperNames.contains path.text = false)
    (found : path.find (.ofData data [.output (.path path)]) = .ok value) :
    renderElements [.output (.path path)] data = .ok (shownOrNothing value) := by
  let scope : Scope := .ofData data [.output (.path path)]
  have output : (Param.path path).output scope = .ok (shownOrNothing value, false) := by
    rw [Param.output, Param.written, Param.find, found]
    show (if _ then _ else _) = _
    rw [notHelper]
    rfl
  have written := write_of_indent_eq_empty (rfl : scope.indent = "") (shownOrNothing value)
    ⟨[], true, true⟩
  rw [renderElements, maximalInclusions, renderWithin, renderAll.eq_def]
  dsimp only
  rw [Element.render, output]
  show Except.ok (_ ++ "") = _
  rw [String.append_empty]
  exact congrArg Except.ok written

/-! ## Requests -/

theorem dataOf_alike (request : Request) (decoded other : Value) :
    Alike .data (dataOf request decoded) (dataOf request other) := by
  rw [dataOf, dataOf]
  refine .object nofun (.cons (fun inner seen => ?_) .nil)
  obtain rfl : View.request = inner := Option.some.inj seen
  refine .object nofun (.ofEntries ?_)
  repeat refine .cons (fun inner _ => .refl inner _) ?_
  exact .cons nofun .nil

theorem read_bodyText_encode (text : String) :
    Json.read ({ body := Utf8.encode text } : Request).bodyText = Json.read text :=
  congrArg Json.read (Utf8.decodeLossy_encode text)

theorem render_of_not_named {template : Template} (request : Request)
    (unnamed : template.namesDecodedBody = false) :
    template.render request =
      (renderElements template.elements (dataOf request .null)).mapError .render := by
  rw [render, decodeBody, unnamed, if_neg Bool.false_ne_true]
  rfl

/-- Where a template names the decoded body or overlooks it, it does not matter that the body is
decoded only for those that name it. -/
theorem render_eq_renderElements {template : Template} {request : Request} {decoded : Value}
    (valid : Json.read request.bodyText = .ok decoded)
    (covered : template.namesDecodedBody = true ∨ template.OverlooksBody) :
    template.render request =
      (renderElements template.elements (dataOf request decoded)).mapError .render := by
  cases named : template.namesDecodedBody with
  | true =>
      rw [render, decodeBody, if_pos named, valid]
      rfl
  | false =>
      have overlooks := covered.resolve_left (named ▸ Bool.false_ne_true)
      rw [render_of_not_named request named,
        renderElements_eq_of_alike overlooks (dataOf_alike request decoded .null)]

/-- A request with a body that is a text. -/
def cake : Request := { body := Utf8.encode "\"cake\"" }

theorem read_cake : Json.read cake.bodyText = .ok (.string "cake") :=
  (read_bodyText_encode "\"cake\"").trans rfl

/-- The path of the request, in front of all blocks. -/
def requestPath : Path := ⟨"request", .block 0, ["request"]⟩

/-- A template that opens a block for the request itself. -/
def withRequest : Template where
  source := "\x7b\x7b#with request\x7d\x7d\x7b\x7bmethod\x7d\x7d\x7b\x7b/with\x7d\x7d"
  elements := [.block ⟨"with", [.path requestPath], []⟩ []
    [.output (.path ⟨"method", .block 0, ["method"]⟩)] none]

def withRequestTags : List Tag :=
  [.opening (.helper ⟨"with", [.path requestPath], []⟩ []),
    .expression (.output (.path ⟨"method", .block 0, ["method"]⟩)), .closing "with"]

-- Each text is a literal of its own: what a tag leaves of a longer one is slow to evaluate.
theorem tagsOnly_withRequest : TagsOnly withRequest.source.toList withRequestTags := by
  have head : readHead? "with request\x7d\x7d\x7b\x7bmethod\x7d\x7d\x7b\x7b/with\x7d\x7d".toList =
      .ok (some ((⟨"with", [.path requestPath], []⟩, []),
        "\x7d\x7d\x7b\x7bmethod\x7d\x7d\x7b\x7b/with\x7d\x7d".toList)) := by rfl
  have opening : readTag "#with request\x7d\x7d\x7b\x7bmethod\x7d\x7d\x7b\x7b/with\x7d\x7d".toList =
      .ok
        { tag := .opening (.helper ⟨"with", [.path requestPath], []⟩ [])
          rest := "\x7b\x7bmethod\x7d\x7d\x7b\x7b/with\x7d\x7d".toList } :=
    readTag_opening (by rfl) nofun nofun head (by rfl)
  have method : readTag "method\x7d\x7d\x7b\x7b/with\x7d\x7d".toList =
      .ok
        { tag := .expression (.output (.path ⟨"method", .block 0, ["method"]⟩))
          rest := "\x7b\x7b/with\x7d\x7d".toList } :=
    readTag_of_readPlainTag? nofun rfl rfl
  have closing : readTag "/with\x7d\x7d".toList = .ok { tag := .closing "with", rest := [] } :=
    readTag_of_readPlainTag? nofun rfl rfl
  have fromClosing : TagsOnly "\x7b\x7b/with\x7d\x7d".toList [.closing "with"] :=
    .cons closing nofun nofun .nil
  have fromMethod : TagsOnly "\x7b\x7bmethod\x7d\x7d\x7b\x7b/with\x7d\x7d".toList
      (.expression (.output (.path ⟨"method", .block 0, ["method"]⟩)) :: [.closing "with"]) :=
    .cons method nofun nofun fromClosing
  exact .cons opening nofun nofun fromMethod

theorem compile_withRequest : compile withRequest.source = .ok withRequest := by
  have built : build [] [] (withRequestTags.map .tag) = .ok withRequest.elements := by rfl
  exact tagsOnly_withRequest.compile_eq (by decide) built

theorem withRequest_overlooksBody : withRequest.OverlooksBody :=
  .inl (.cons (.block rfl rfl rfl (.cons (.output rfl) .nil) nofun) .nil)

theorem render_eq_renderElements_of_with :
    compile withRequest.source = .ok withRequest ∧
      Json.read cake.bodyText = .ok (.string "cake") ∧ withRequest.namesDecodedBody = false ∧
      withRequest.OverlooksBody ∧
      withRequest.render cake =
        (renderElements withRequest.elements (dataOf cake (.string "cake"))).mapError .render :=
  ⟨compile_withRequest, read_cake, by decide +kernel, withRequest_overlooksBody,
    render_eq_renderElements read_cake (.inr withRequest_overlooksBody)⟩

-- The names of the members of a request, and one that is looked up, may be written.
example :
    OverlooksAll (.top false)
      [.block ⟨"each", [.path requestPath], []⟩ []
        [.output (.path ⟨"@key", .variable 0 "key", ["key"]⟩)] none,
        .call ⟨"lookup", [.path requestPath, .literal (.string "method")], []⟩] :=
  .cons (.block rfl rfl rfl (.cons (.output rfl) .nil) nofun) (.cons (.call rfl) .nil)

/-! ## Another way of writing -/

/-- A path that names the decoded body in brackets. -/
def bracketedPath : Path := ⟨"request.[json]", .block 0, ["request", "json"]⟩

/-- A template that writes the decoded body without naming it. -/
def bracketedBody : Template where
  source := "\x7b\x7brequest.[json]\x7d\x7d"
  elements := [.output (.path bracketedPath)]

theorem compile_bracketedBody : compile bracketedBody.source = .ok bracketedBody := by
  have read : readTag "request.[json]\x7d\x7d".toList =
      .ok { tag := .expression (.output (.path bracketedPath)), rest := [] } :=
    readTag_of_readPlainTag? nofun rfl rfl
  have tags : TagsOnly bracketedBody.source.toList [.expression (.output (.path bracketedPath))] :=
    .cons read nofun nofun .nil
  exact tags.compile_eq (by decide) rfl

theorem exists_render_ne_renderElements :
    ∃ (source : String) (template : Template) (request : Request) (decoded : Value),
      compile source = .ok template ∧ Json.read request.bodyText = .ok decoded ∧
        template.render request ≠
          (renderElements template.elements (dataOf request decoded)).mapError .render := by
  have notHelper : helperNames.contains bracketedPath.text = false := by decide
  have suppressed : bracketedPath.find (.ofData (dataOf cake .null) bracketedBody.elements) =
      .ok (some .null) := by rfl
  have found : bracketedPath.find (.ofData (dataOf cake (.string "cake")) bracketedBody.elements) =
      .ok (some (.string "cake")) := by rfl
  have unnamed : bracketedBody.namesDecodedBody = false := by rfl
  refine ⟨_, bracketedBody, cake, _, compile_bracketedBody, read_cake, ?_⟩
  rw [render_of_not_named cake unnamed, bracketedBody, renderElements_path notHelper suppressed,
    renderElements_path notHelper found]
  nofun

end ApiMock.Template

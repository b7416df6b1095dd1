import ApiMock.Template

/-!
# Templates of tags

Where a template has no text between its tags, it is compiled tag by tag.
-/

set_option autoImplicit false

namespace ApiMock.Template

/-- A text that is made of tags, none of which begins a raw block or includes a partial. -/
inductive TagsOnly : List Char → List Tag → Prop where
  | nil : TagsOnly [] []
  | cons {text : List Char} {read : TagRead} {tags : List Tag} :
      readTag text = .ok read → (∀ call binders, read.tag ≠ .raw call binders) →
      (∀ name arguments indent, read.tag ≠ .inclusion name arguments indent) →
      TagsOnly read.rest tags → TagsOnly (openingBraces ++ text) (read.tag :: tags)

theorem readTag_of_readPlainTag? {text : List Char} {read : TagRead}
    (notComment : text.head? ≠ some '!') (notAlternative : readAlternative? text = .ok none)
    (plain : readPlainTag? text = .ok (some read)) : readTag text = .ok read := by
  rw [readTag, notAlternative, plain]
  · rfl
  · rintro rest rfl
    exact notComment rfl

/-- The opening of a block with a helper. -/
theorem readTag_opening {text after : List Char} {call : Call} {binders : List String}
    {read : TagRead} (start : skipBlanks text = text) (notDirective : text.head? ≠ some '*')
    (notInclusion : text.head? ≠ some '>')
    (head : readHead? text = .ok (some ((call, binders), after)))
    (ended : endTag? closingBraces false (.opening (.helper call binders)) after = some read) :
    readTag ('#' :: text) = .ok read := by
  have opening : readOpening? false text = .ok (some read) := by
    rw [readOpening?, start]
    split
    · exact absurd rfl notDirective
    · exact absurd rfl notInclusion
    · rw [head]
      exact congrArg Except.ok ended
  exact readTag_of_readPlainTag? nofun rfl opening

theorem readText_openingBraces (state : Surroundings) (text : List Char) :
    readText state (openingBraces ++ text) = (none, state, openingBraces ++ text) := by
  have noText : takeText openingBraces 0 (openingBraces ++ text) = ([], openingBraces ++ text) :=
    rfl
  have gap : openingBraces.isPrefixOf (skipBlanks (openingBraces ++ text)) = true := rfl
  rw [readText]
  simp only [noText, gap, Bool.or_true, Bool.true_and, beq_self_eq_true, Bool.true_or, if_true,
    Nat.sub_self, List.take_zero, List.reverse_nil, List.nil_append]

theorem Tag.indented_eq {tag : Tag}
    (notInclusion : ∀ name arguments indent, tag ≠ .inclusion name arguments indent)
    (indent : String) : tag.indented indent = tag := by
  cases tag with
  | inclusion name arguments indent => exact absurd rfl (notInclusion name arguments indent)
  | _ => rfl

/-- Between two tags there is no text to read. -/
theorem scan_openingBraces (fuel : Nat) (state : Surroundings) {text : List Char} {read : TagRead}
    (tagRead : readTag text = .ok read) (notRaw : ∀ call binders, read.tag ≠ .raw call binders) :
    ∃ indent next, scan (fuel + 1) state (openingBraces ++ text) =
      (scan fuel next read.rest).map (.tag (read.tag.indented indent) :: ·) := by
  obtain ⟨tag, trimBefore, trimAfter, rest⟩ := read
  have notEmpty : (openingBraces ++ text).isEmpty = false := rfl
  have behind : (openingBraces ++ text).drop openingBraces.length = text := rfl
  rw [scan, readText_openingBraces]
  dsimp only
  rw [notEmpty, if_neg Bool.false_ne_true, behind, tagRead]
  cases tag with
  | raw call binders => exact absurd rfl (notRaw call binders)
  | _ => exact ⟨_, _, rfl⟩

theorem TagsOnly.scan {text : List Char} {tags : List Tag} (tagsOnly : TagsOnly text tags)
    {fuel : Nat} (enough : tags.length ≤ fuel) (state : Surroundings) :
    Template.scan fuel state text = .ok (tags.map .tag) := by
  induction tagsOnly generalizing fuel state with
  | nil => cases fuel <;> rfl
  | cons tagRead notRaw notInclusion _ ih =>
      cases fuel with
      | zero => cases enough
      | succ fuel =>
          obtain ⟨indent, next, scanned⟩ := scan_openingBraces fuel state tagRead notRaw
          rw [scanned, Tag.indented_eq notInclusion, ih (Nat.le_of_succ_le_succ enough)]
          rfl

theorem TagsOnly.compile_eq {source : String} {tags : List Tag} {elements : List Element}
    (tagsOnly : TagsOnly source.toList tags) (enough : tags.length ≤ source.toList.length)
    (built : build [] [] (tags.map .tag) = .ok elements) :
    compile source = .ok ⟨source, elements⟩ := by
  have scanned : tokens source = .ok (tags.map .tag) :=
    tagsOnly.scan (Nat.le_succ_of_le enough) {}
  rw [compile, readElements, scanned]
  show (build [] [] (tags.map .tag) >>= _) = _
  rw [built]
  rfl

end ApiMock.Template

import ApiMock.Pattern.NamedClass.Category
import ApiMock.Text.Boundary
import ApiMock.Text.Property
import ApiMock.Text.Script

/-!
# Classes of characters at boundaries

What a character does to the boundaries in a text: those of the signs that a reader sees, those of
words, and those of sentences. Each of these properties has a value for every character, and a value
that says nothing more than "other" is no class.
-/

set_option autoImplicit false

namespace ApiMock.Pattern.NamedClass

open CharSet

def among? (classes : List (List String × CharSet)) (name : String) : Option CharSet :=
  (classes.find? fun entry => entry.1.contains name).map Prod.snd

def joiner : CharSet := single '\u200D'

def joiners : CharSet := range '\u200C' '\u200D'

def attached : CharSet := union (table Property.graphemeExtend) (categories ["Mc"])

def prepended : CharSet :=
  union (table Property.prependedConcatenationMark) (table Boundary.prependedLetter)

def plainFormat : CharSet :=
  diff (categories ["Cf"]) (union joiners (table Property.graphemeExtend))

def regional : List String × CharSet :=
  (["ri", "regionalindicator"], table Property.regionalIndicator)

/-! ## Signs -/

def controlling : CharSet :=
  diff
    (union (categories ["Cc", "Zl", "Zp"])
      (union plainFormat (diff (table Property.defaultIgnorableCodePoint) assigned)))
    (unions [single '\r', single '\n', prepended, table Property.graphemeExtend])

def signClasses : List (List String × CharSet) :=
  [(["cn", "control"], controlling),
   (["cr"], single '\r'),
   (["ex", "extend"], union (table Property.graphemeExtend) (table Property.emojiModifier)),
   (["l"], table Boundary.leadingJamo),
   (["lf"], single '\n'),
   (["lv"], table Boundary.openSyllable),
   (["lvt"], table Boundary.closedSyllable),
   (["pp", "prepend"], prepended),
   regional,
   (["sm", "spacingmark"],
    diff
      (union (diff (categories ["Mc"]) (table Property.graphemeExtend))
        (table Boundary.spacingVowel))
      (table Boundary.looseMark)),
   (["t"], table Boundary.trailingJamo),
   (["v"], table Boundary.vowelJamo),
   (["zwj"], joiner)]

/-! ## Words -/

def extendsWord : CharSet := union attached (table Property.emojiModifier)

def wordLetter : CharSet :=
  union (table Boundary.letterLike)
    (diff (table Property.alphabetic)
      (unions
        [table Property.ideographic, table Boundary.katakana, table Script.hiragana, extendsWord,
         table Boundary.hebrewLetter, table Boundary.complexContext]))

def numeric : CharSet := union (categories ["Nd"]) (table Boundary.numberLike)

def wordClasses : List (List String × CharSet) :=
  [(["le", "aletter"], wordLetter),
   (["cr"], single '\r'),
   (["dq", "doublequote"], single '"'),
   (["extend"], extendsWord),
   (["ex", "extendnumlet"], table Boundary.extendNumberLetter),
   (["fo", "format"], diff plainFormat (union (single '\u200B') prepended)),
   (["hl", "hebrewletter"], table Boundary.hebrewLetter),
   (["ka", "katakana"], table Boundary.katakana),
   (["lf"], single '\n'),
   (["ml", "midletter"], table Boundary.midLetter),
   (["mn", "midnum"], table Boundary.midNumber),
   (["mb", "midnumlet"], table Boundary.midNumberLetter),
   (["nl", "newline"], table Boundary.newline),
   (["nu", "numeric"], numeric),
   regional,
   (["sq", "singlequote"], single '\''),
   (["wsegspace"], table Boundary.wordSpace),
   (["zwj"], joiner)]

/-! ## Sentences -/

def extendsSentence : CharSet := union attached joiner

def sentenceLower : CharSet :=
  diff (table Property.lowercase)
    (union (table Property.graphemeExtend) (table Boundary.caselessLetter))

def sentenceUpper : CharSet :=
  diff (union (categories ["Lt"]) (table Property.uppercase)) (table Boundary.caselessLetter)

def sentenceNumeric : CharSet := union numeric (single '\u066C')

def sentenceClasses : List (List String × CharSet) :=
  [(["at", "aterm"], table Boundary.fullStop),
   (["cl", "close"],
    union (categories ["Ps", "Pe", "Pi", "Pf"]) (table Boundary.quoteLike)),
   (["cr"], single '\r'),
   (["ex", "extend"], extendsSentence),
   (["fo", "format"], diff plainFormat sentenceNumeric),
   (["lf"], single '\n'),
   (["lo", "lower"], sentenceLower),
   (["nu", "numeric"], sentenceNumeric),
   (["le", "oletter"],
    diff (union (table Property.alphabetic) (single '\u05F3'))
      (unions [sentenceLower, sentenceUpper, extendsSentence])),
   (["sc", "scontinue"], table Boundary.sentenceContinue),
   (["se", "sep"], table Boundary.separator),
   (["sp"],
    diff (table Property.whiteSpace)
      (unions [table Boundary.separator, single '\r', single '\n'])),
   (["st", "sterm"], diff (table Property.sentenceTerminal) (table Boundary.fullStop)),
   (["up", "upper"], sentenceUpper)]

end ApiMock.Pattern.NamedClass

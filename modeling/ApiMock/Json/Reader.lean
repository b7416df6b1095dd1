import ApiMock.Json.Numeral
import ApiMock.Text.Percent
import ApiMock.Value.Basic

/-!
# Reading JSON

Strict JSON with at most 127 nested arrays and objects. Of members with the same name the last one
counts. The readers of arrays and objects call each other, with a bound on the number of calls that
the length of the text provides.
-/

set_option autoImplicit false

namespace ApiMock.Json

def isBlank (c : Char) : Bool := c == ' ' || c == '\n' || c == '\t' || c == '\r'

def skipBlanks (text : List Char) : List Char := text.dropWhile isBlank

def codeUnit? (a b c d : Char) : Option Nat :=
  match hexDigit? a, hexDigit? b, hexDigit? c, hexDigit? d with
  | some a, some b, some c, some d => some (((a * 16 + b) * 16 + c) * 16 + d)
  | _, _, _, _ => none

def shortEscape? (c : Char) : Option Char :=
  match c with
  | '"' => some '"'
  | '\\' => some '\\'
  | '/' => some '/'
  | 'b' => some '\x08'
  | 'f' => some '\x0C'
  | 'n' => some '\n'
  | 'r' => some '\r'
  | 't' => some '\t'
  | _ => none

def readString (read : List Char) : List Char → Except SyntaxError (String × List Char)
  | [] => .error .unexpectedEnd
  | '"' :: rest => .ok (String.ofList read.reverse, rest)
  | '\\' :: 'u' :: a :: b :: c :: d :: rest =>
    match codeUnit? a b c d with
    | none => .error .malformedEscape
    | some unit =>
      if 0xDC00 ≤ unit ∧ unit ≤ 0xDFFF then .error .loneSurrogate
      else if 0xD800 ≤ unit ∧ unit ≤ 0xDBFF then
        match rest with
        | '\\' :: 'u' :: e :: f :: g :: h :: after =>
          match codeUnit? e f g h with
          | none => .error .malformedEscape
          | some low =>
            if 0xDC00 ≤ low ∧ low ≤ 0xDFFF then
              readString
                (Char.ofNat (0x10000 + (unit - 0xD800) * 0x400 + (low - 0xDC00)) :: read) after
            else .error .loneSurrogate
        | _ => .error .loneSurrogate
      else readString (Char.ofNat unit :: read) rest
  | '\\' :: c :: rest =>
    match shortEscape? c with
    | none => .error .malformedEscape
    | some character => readString (character :: read) rest
  | c :: rest =>
    if c < ' ' then .error .controlCharacter
    else if c = '\\' then .error .unexpectedEnd
    else readString (c :: read) rest

def expectWord (value : Value) : List Char → List Char → Except SyntaxError (Value × List Char)
  | [], rest => .ok (value, rest)
  | _, [] => .error .unexpectedEnd
  | w :: word, c :: rest => if w = c then expectWord value word rest else .error (.unexpected c)

mutual

/-- Reads a value, with a number of arrays and objects that may still be opened. -/
def readValue : Nat → Nat → List Char → Except SyntaxError (Value × List Char)
  | 0, _, _ => .error .unexpectedEnd
  | fuel + 1, depth, text =>
    match skipBlanks text with
    | [] => .error .unexpectedEnd
    | 'n' :: rest => expectWord .null ['u', 'l', 'l'] rest
    | 't' :: rest => expectWord (.bool true) ['r', 'u', 'e'] rest
    | 'f' :: rest => expectWord (.bool false) ['a', 'l', 's', 'e'] rest
    | '"' :: rest =>
      match readString [] rest with
      | .ok (string, after) => .ok (.string string, after)
      | .error fault => .error fault
    | '[' :: rest =>
      match depth with
      | 0 => .error .tooDeep
      | depth + 1 =>
        match skipBlanks rest with
        | ']' :: after => .ok (.array [], after)
        | _ => readItems fuel depth [] rest
    | '\x7b' :: rest =>
      match depth with
      | 0 => .error .tooDeep
      | depth + 1 =>
        match skipBlanks rest with
        | '\x7d' :: after => .ok (.object [], after)
        | _ => readMembers fuel depth [] rest
    | '-' :: rest =>
      match readNumber true rest with
      | .ok (number, after) => .ok (.number number, after)
      | .error fault => .error fault
    | c :: rest =>
      if (digit? c).isSome then
        match readNumber false (c :: rest) with
        | .ok (number, after) => .ok (.number number, after)
        | .error fault => .error fault
      else .error (.unexpected c)

def readItems : Nat → Nat → List Value → List Char → Except SyntaxError (Value × List Char)
  | 0, _, _, _ => .error .unexpectedEnd
  | fuel + 1, depth, read, text =>
    match readValue fuel depth text with
    | .error fault => .error fault
    | .ok (item, rest) =>
      match skipBlanks rest with
      | ',' :: after => readItems fuel depth (item :: read) after
      | ']' :: after => .ok (.array (item :: read).reverse, after)
      | c :: _ => .error (.unexpected c)
      | [] => .error .unexpectedEnd

def readMembers : Nat → Nat → List (String × Value) → List Char →
    Except SyntaxError (Value × List Char)
  | 0, _, _, _ => .error .unexpectedEnd
  | fuel + 1, depth, read, text =>
    match skipBlanks text with
    | '"' :: rest =>
      match readString [] rest with
      | .error fault => .error fault
      | .ok (name, afterName) =>
        match skipBlanks afterName with
        | ':' :: afterColon =>
          match readValue fuel depth afterColon with
          | .error fault => .error fault
          | .ok (value, afterValue) =>
            match skipBlanks afterValue with
            | ',' :: after => readMembers fuel depth (Keyed.insert name value read) after
            | '\x7d' :: after => .ok (.object (Keyed.insert name value read), after)
            | c :: _ => .error (.unexpected c)
            | [] => .error .unexpectedEnd
        | c :: _ => .error (.unexpected c)
        | [] => .error .unexpectedEnd
    | c :: _ => .error (.unexpected c)
    | [] => .error .unexpectedEnd

end

def maximalDepth : Nat := 127

def read (text : String) : Except SyntaxError Value :=
  let characters := text.toList
  match readValue (2 * characters.length + 2) maximalDepth characters with
  | .error fault => .error fault
  | .ok (value, rest) =>
    match skipBlanks rest with
    | [] => .ok value
    | c :: _ => .error (.trailing c)

def readBytes (bytes : Bytes) : Except SyntaxError Value :=
  match Utf8.decode? bytes with
  | some text => read text
  | none => .error .notUtf8

end ApiMock.Json

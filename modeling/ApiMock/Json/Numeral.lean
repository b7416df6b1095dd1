import ApiMock.Json.SyntaxError
import ApiMock.Value.Number

/-!
# JSON numerals

A numeral without a fraction and an exponent that fits a 64-bit word is an integer. Every other one
is a double: the leading digits that fit 64 bits, scaled by a power of ten. The significand and the
power are rounded before they are multiplied or divided, so a numeral of many digits may miss the
nearest double by one unit in the last place.
-/

set_option autoImplicit false

namespace ApiMock.Json

def digit? (c : Char) : Option Nat :=
  if '0' ≤ c ∧ c ≤ '9' then some (c.toNat - 0x30) else none

def powerOfTen (n : Nat) : Option Double := Double.ofDecimal false 1 n

/-- `significand * 10 ^ exponent` by one product or by at most two quotients of doubles. Powers
beyond the largest double are split off as `10 ^ 308`; two such quotients take every significand of
64 bits to zero. -/
def scale (negative : Bool) (significand : Nat) (exponent : Int) : Option Double := do
  let start ← Double.ofInt (if negative then -(significand : Int) else significand)
  if significand = 0 then some (Double.zero negative)
  else if 308 < exponent then none
  else if 0 ≤ exponent then start.mul (← powerOfTen exponent.toNat)
  else if -308 ≤ exponent then start.div (← powerOfTen (-exponent).toNat)
  else if -616 ≤ exponent then
    (← start.div (← powerOfTen 308)).div (← powerOfTen (-exponent - 308).toNat)
  else some (Double.zero negative)

/-- Reads the digits in front of the point into a significand of 64 bits. Once a digit does not
fit, it and those behind it are only counted. -/
def integerDigits (significand : Nat) (dropped : Option Nat) :
    List Char → Nat × Option Nat × List Char
  | [] => (significand, dropped, [])
  | c :: rest =>
    match digit? c, dropped with
    | none, _ => (significand, dropped, c :: rest)
    | some _, some n => integerDigits significand (some (n + 1)) rest
    | some d, none =>
      if significand * 10 + d < UInt64.size then integerDigits (significand * 10 + d) none rest
      else integerDigits significand (some 1) rest

def fractionDigits (significand places : Nat) (full : Bool) : List Char → Nat × Nat × List Char
  | [] => (significand, places, [])
  | c :: rest =>
    match digit? c with
    | none => (significand, places, c :: rest)
    | some d =>
      if full || UInt64.size ≤ significand * 10 + d then
        fractionDigits significand places true rest
      else fractionDigits (significand * 10 + d) (places + 1) false rest

def plainDigits (value : Nat) : List Char → Nat × List Char
  | [] => (value, [])
  | c :: rest =>
    match digit? c with
    | none => (value, c :: rest)
    | some d => plainDigits (value * 10 + d) rest

def exponentPart (text : List Char) : Except SyntaxError (Option Int × List Char) :=
  let signed (negative : Bool) (rest : List Char) : Except SyntaxError (Option Int × List Char) :=
    match rest with
    | [] => .error .unexpectedEnd
    | c :: _ =>
      if (digit? c).isNone then .error .malformedNumber
      else
        let (value, after) := plainDigits 0 rest
        .ok (some (if negative then -(value : Int) else value), after)
  match text with
  | c :: rest =>
    if c = 'e' ∨ c = 'E' then
      match rest with
      | '+' :: after => signed false after
      | '-' :: after => signed true after
      | _ => signed false rest
    else .ok (none, text)
  | [] => .ok (none, [])

def fractionPart (significand : Nat) (full : Bool) (text : List Char) :
    Except SyntaxError (Nat × Option Nat × List Char) :=
  match text with
  | '.' :: [] => .error .unexpectedEnd
  | '.' :: c :: rest =>
    if (digit? c).isNone then .error .malformedNumber
    else
      let (significand, places, after) := fractionDigits significand 0 full (c :: rest)
      .ok (significand, some places, after)
  | _ => .ok (significand, none, text)

/-- The number of an integral numeral. A negative one below the least word, and a negative zero, are
doubles. -/
def integral (negative : Bool) (significand : Nat) : Except SyntaxError Number :=
  let value : Int := if negative then -(significand : Int) else significand
  let number :=
    if negative && significand == 0 then some (Number.double (Double.zero true))
    else (Number.ofInt? value).or ((Double.ofInt value).map Number.double)
  match number with
  | some number => .ok number
  | none => .error .numberOutOfRange

def readNumber (negative : Bool) (text : List Char) : Except SyntaxError (Number × List Char) := do
  match text with
  | [] => .error .unexpectedEnd
  | c :: rest =>
    if (digit? c).isNone then .error .malformedNumber
    else if c = '0' ∧ (rest.head?.bind digit?).isSome then .error .malformedNumber
    else
      let (leading, dropped, afterInteger) := integerDigits 0 none text
      -- a significand that has dropped a digit may still take up digits of the fraction
      let (significand, places, afterFraction) ← fractionPart leading false afterInteger
      let (exponent, after) ← exponentPart afterFraction
      match dropped, places, exponent with
      | none, none, none => return (← integral negative significand, after)
      | _, _, _ =>
        let shift : Int := (dropped.getD 0 : Int) - (places.getD 0 : Int) + exponent.getD 0
        match scale negative significand shift with
        | some value => return (.double value, after)
        | none => .error .numberOutOfRange

end ApiMock.Json

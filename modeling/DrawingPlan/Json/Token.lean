import DrawingPlan.Json.Basic
import DrawingPlan.Number.Decimal

set_option autoImplicit false

namespace DrawingPlan.Json

open DrawingPlan.Number

inductive Malformation where
  | byteOrderMark
  | noValue
  | noKey
  | noColon
  | noComma
  | extraData
  | unterminated
  | controlCharacter
  | escape
  | unicodeEscape
deriving DecidableEq, Repr

def Malformation.message : Malformation → String
  | .byteOrderMark => "Unexpected UTF-8 BOM (decode using utf-8-sig)"
  | .noValue => "Expecting value"
  | .noKey => "Expecting property name enclosed in double quotes"
  | .noColon => "Expecting ':' delimiter"
  | .noComma => "Expecting ',' delimiter"
  | .extraData => "Extra data"
  | .unterminated => "Unterminated string starting at"
  | .controlCharacter => "Invalid control character at"
  | .escape => "Invalid \\escape"
  | .unicodeEscape => "Invalid \\uXXXX escape"

inductive Token where
  | openList
  | closeList
  | openObject
  | closeObject
  | comma
  | colon
  | value (json : Json)
  | longInteger (digits : Nat)
  | brokenString (fault : Malformation) (offset : Nat)
  | junk

def isSpace (symbol : Symbol) : Bool :=
  symbol = .char ' ' || symbol = .char '\t' || symbol = .char '\n' || symbol = .char '\r'

def hexValue? (c : Char) : Option Nat :=
  if '0' ≤ c && c ≤ '9' then some (c.toNat - 48)
  else if 'a' ≤ c && c ≤ 'f' then some (c.toNat - 87)
  else if 'A' ≤ c && c ≤ 'F' then some (c.toNat - 55)
  else none

def hexCode? : List Symbol → Option Nat
  | [.char a, .char b, .char c, .char d] => do
    return 4096 * (← hexValue? a) + 256 * (← hexValue? b) + 16 * (← hexValue? c) + (← hexValue? d)
  | _ => none

def escaped? : Symbol → Option Char
  | .char '"' => some '"'
  | .char '\\' => some '\\'
  | .char '/' => some '/'
  | .char 'b' => some '\x08'
  | .char 'f' => some '\x0c'
  | .char 'n' => some '\n'
  | .char 'r' => some '\r'
  | .char 't' => some '\t'
  | _ => none

inductive Piece where
  | symbol (symbol : Symbol)
  | unit (code : Nat)

def isHighSurrogate (code : Nat) : Bool :=
  0xD800 ≤ code && code ≤ 0xDBFF

def isLowSurrogate (code : Nat) : Bool :=
  0xDC00 ≤ code && code ≤ 0xDFFF

/-- The symbols of a string. Two escapes side by side may be the halves of one character. -/
def joinUnits : List Piece → List Symbol
  | [] => []
  | .symbol symbol :: rest => symbol :: joinUnits rest
  | .unit high :: .unit low :: rest =>
    if isHighSurrogate high && isLowSurrogate low then
      .ofCode (0x10000 + (high - 0xD800) * 0x400 + (low - 0xDC00)) :: joinUnits rest
    else .ofCode high :: joinUnits (.unit low :: rest)
  | .unit code :: rest => .ofCode code :: joinUnits rest

abbrev Scanned := Except (Malformation × Nat) (List Piece × Nat)

def Scanned.cons (piece : Piece) : Scanned → Scanned
  | .error fault => .error fault
  | .ok (pieces, size) => .ok (piece :: pieces, size)

/--
Reads a string after its opening quotation mark, `offset` symbols into it. An escape by number has
to be followed by a further symbol.
-/
def scanString (offset : Nat) : List Symbol → Scanned
  | [] => .error (.unterminated, 0)
  | .char '"' :: _ => .ok ([], offset)
  | [.char '\\'] => .error (.unterminated, 0)
  | .char '\\' :: .char 'u' :: a :: b :: c :: d :: e :: rest =>
    match hexCode? [a, b, c, d] with
    | none => .error (.unicodeEscape, offset + 1)
    | some code => (scanString (offset + 6) (e :: rest)).cons (.unit code)
  | .char '\\' :: .char 'u' :: _ => .error (.unicodeEscape, offset + 1)
  | .char '\\' :: mark :: rest =>
    match escaped? mark with
    | none => .error (.escape, offset)
    | some c => (scanString (offset + 2) rest).cons (.symbol (.char c))
  | symbol :: rest =>
    if symbol.code ≤ 0x1F then .error (.controlCharacter, offset)
    else (scanString (offset + 1) rest).cons (.symbol symbol)

def spanAscii : List Symbol → List Nat × List Symbol
  | [] => ([], [])
  | symbol :: rest =>
    if symbol.satisfies Char.isDigit then
      let (digits, after) := spanAscii rest
      ((symbol.code - 48) :: digits, after)
    else ([], symbol :: rest)

def spanFraction (symbols : List Symbol) : List Nat × List Symbol :=
  match symbols with
  | .char '.' :: rest =>
    match spanAscii rest with
    | ([], _) => ([], symbols)
    | found => found
  | _ => ([], symbols)

def exponent? (symbols : List Symbol) : Option (Int × Nat) :=
  match symbols with
  | mark :: rest =>
    if isExponentMark mark then
      let (negative, unsigned) := splitSign rest
      match (spanAscii unsigned).1 with
      | [] => none
      | digits =>
        let size : Int := ofDigits digits
        some (if negative then -size else size, 1 + signLength rest + digits.length)
    else none
  | [] => none

def spanWhole (symbols : List Symbol) : List Nat × List Symbol :=
  match symbols with
  | .char '0' :: rest => ([0], rest)
  | _ => spanAscii symbols

def numberToken (negative : Bool) (whole fraction : List Nat) (exponent : Option Int) : Token :=
  if fraction.isEmpty && exponent.isNone then
    match integerOf negative whole with
    | .error digits => .longInteger digits
    | .ok n => .value (.integer n)
  else .value (.real (Numeral.toFloat ⟨negative, whole, fraction, exponent.getD 0⟩))

def scanNumber (negative : Bool) (symbols : List Symbol) : Option (Token × Nat) :=
  match spanWhole symbols with
  | ([], _) => none
  | (whole, afterWhole) =>
    let (fraction, afterFraction) := spanFraction afterWhole
    let power := exponent? afterFraction
    let pointed := if fraction.isEmpty then 0 else fraction.length + 1
    some (numberToken negative whole fraction (power.map (·.1)),
      whole.length + pointed + (power.map (·.2)).getD 0)

def words : List (Text × Json) :=
  [("null", .null), ("true", .bool true), ("false", .bool false), ("NaN", .real notANumber),
    ("Infinity", .real infinity), ("-Infinity", .real (-infinity))]

def scanWord (symbols : List Symbol) : Option (Token × Nat) :=
  words.findSome? fun (word, json) =>
    if word.symbols.isPrefixOf symbols then some (.value json, word.symbols.length) else none

def scanSigned (symbols : List Symbol) : Option (Token × Nat) :=
  match symbols with
  | .char '-' :: rest => (scanNumber true rest).map fun found => (found.1, found.2 + 1)
  | _ => scanNumber false symbols

def scanToken (symbols : List Symbol) : Token × Nat :=
  match symbols with
  | .char '[' :: _ => (.openList, 1)
  | .char ']' :: _ => (.closeList, 1)
  | .char '\x7b' :: _ => (.openObject, 1)
  | .char '\x7d' :: _ => (.closeObject, 1)
  | .char ',' :: _ => (.comma, 1)
  | .char ':' :: _ => (.colon, 1)
  | .char '"' :: rest =>
    match scanString 1 rest with
    | .error (fault, offset) => (.brokenString fault offset, 1)
    | .ok (pieces, size) => (.value (.text ⟨joinUnits pieces⟩), size + 1)
  | _ => ((scanWord symbols).or (scanSigned symbols)).getD (.junk, 1)

structure Located where
  token : Token
  position : Nat

def Token.last : Token → Bool
  | .brokenString .. | .junk => true
  | _ => false

/-- The tokens of a text; `skip` symbols at its front belong to a token that was read. -/
def tokensFrom (skip position : Nat) : List Symbol → List Located
  | [] => []
  | symbol :: rest =>
    match skip with
    | skip + 1 => tokensFrom skip (position + 1) rest
    | 0 =>
      if isSpace symbol then tokensFrom 0 (position + 1) rest
      else
        let (token, size) := scanToken (symbol :: rest)
        -- The first symbol is dropped here, the others are skipped.
        ⟨token, position⟩ ::
          (if token.last then [] else tokensFrom (size - 1) (position + 1) rest)

def tokens (symbols : List Symbol) : List Located :=
  tokensFrom 0 0 symbols

end DrawingPlan.Json

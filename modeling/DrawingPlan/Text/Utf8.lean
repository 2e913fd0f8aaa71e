import DrawingPlan.Text.Quoted

set_option autoImplicit false

namespace DrawingPlan.Text

inductive Utf8Reason where
  | start
  | continuation
  | unfinished
deriving DecidableEq, Repr

structure Utf8Fault where
  reason : Utf8Reason
  byte : Nat
  first : Nat
  last : Nat
deriving DecidableEq, Repr

def Utf8Reason.message : Utf8Reason → String
  | .start => "invalid start byte"
  | .continuation => "invalid continuation byte"
  | .unfinished => "unexpected end of data"

def Utf8Fault.message (fault : Utf8Fault) : String :=
  let bytes :=
    if fault.first = fault.last then
      "byte 0x" ++ String.ofList (hexDigits 2 fault.byte) ++ " in position " ++ toString fault.first
    else "bytes in position " ++ toString fault.first ++ "-" ++ toString fault.last
  "'utf-8' codec can't decode " ++ bytes ++ ": " ++ fault.reason.message

/-- A character of which some bytes are still to come; the next one is bounded. -/
structure Pending where
  byte : Nat
  position : Nat
  owed : Nat
  low : Nat
  high : Nat
  code : Nat

def pending? (byte position : Nat) : Option Pending :=
  if 0xC2 ≤ byte && byte ≤ 0xDF then some ⟨byte, position, 1, 0x80, 0xBF, byte - 0xC0⟩
  else if 0xE0 ≤ byte && byte ≤ 0xEF then
    some ⟨byte, position, 2, if byte = 0xE0 then 0xA0 else 0x80,
      if byte = 0xED then 0x9F else 0xBF, byte - 0xE0⟩
  else if 0xF0 ≤ byte && byte ≤ 0xF4 then
    some ⟨byte, position, 3, if byte = 0xF0 then 0x90 else 0x80,
      if byte = 0xF4 then 0x8F else 0xBF, byte - 0xF0⟩
  else none

def decodeFrom (waiting : Option Pending) (position : Nat) :
    List Nat → Except Utf8Fault (List Char)
  | [] =>
    match waiting with
    | none => .ok []
    | some begun => .error ⟨.unfinished, begun.byte, begun.position, position - 1⟩
  | byte :: rest =>
    match waiting with
    | none =>
      if byte < 0x80 then
        (decodeFrom none (position + 1) rest).map (Char.ofNat byte :: ·)
      else
        match pending? byte position with
        | none => .error ⟨.start, byte, position, position⟩
        | some begun => decodeFrom (some begun) (position + 1) rest
    | some begun =>
      if begun.low ≤ byte && byte ≤ begun.high then
        let code := begun.code * 0x40 + byte % 0x40
        if begun.owed ≤ 1 then
          (decodeFrom none (position + 1) rest).map (Char.ofNat code :: ·)
        else
          decodeFrom (some { begun with owed := begun.owed - 1, low := 0x80, high := 0xBF, code })
            (position + 1) rest
      -- The byte that does not fit is no part of the broken sequence.
      else .error ⟨.continuation, begun.byte, begun.position, position - 1⟩

def decodeUtf8 (bytes : List Nat) : Except Utf8Fault (List Char) :=
  decodeFrom none 0 bytes

def unifyLineBreaks : List Char → List Char
  | [] => []
  | '\r' :: '\n' :: rest => '\n' :: unifyLineBreaks rest
  | '\r' :: rest => '\n' :: unifyLineBreaks rest
  | c :: rest => c :: unifyLineBreaks rest

def ofFile (bytes : List Nat) : Except Utf8Fault String :=
  (decodeUtf8 bytes).map fun cs => String.ofList (unifyLineBreaks cs)

end DrawingPlan.Text

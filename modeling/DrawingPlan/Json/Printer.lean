import DrawingPlan.Json.Basic
import DrawingPlan.Number.Layout
import DrawingPlan.Text.Quoted

set_option autoImplicit false

namespace DrawingPlan.Json

def escapedUnits (code : Nat) : List Char :=
  if code < 0x10000 then '\\' :: 'u' :: Text.hexDigits 4 code
  else
    let rest := code - 0x10000
    '\\' :: 'u' :: Text.hexDigits 4 (0xD800 + rest / 0x400) ++
      '\\' :: 'u' :: Text.hexDigits 4 (0xDC00 + rest % 0x400)

def writtenCode (code : Nat) : List Char :=
  if code = 0x22 then ['\\', '"']
  else if code = 0x5C then ['\\', '\\']
  else if 0x20 ≤ code && code < 0x7F then [Char.ofNat code]
  else escapedUnits code

def writtenText (t : Text) : String :=
  String.ofList ('"' :: t.symbols.flatMap (fun symbol => writtenCode symbol.code) ++ ['"'])

def writtenReal (x : Float) : String :=
  match Number.Parts.ofFloat x with
  | .nan => "NaN"
  | .infinite negative => if negative then "-Infinity" else "Infinity"
  | .finite .. => Number.exactText x

mutual

def written : Json → String
  | .null => "null"
  | .bool b => if b then "true" else "false"
  | .integer n => toString n
  | .real x => writtenReal x
  | .text t => writtenText t
  | .list items => "[" ++ ",".intercalate (writtenItems items) ++ "]"
  | .object fields => "\x7b" ++ ",".intercalate (writtenFields fields) ++ "\x7d"

def writtenItems : List Json → List String
  | [] => []
  | item :: rest => written item :: writtenItems rest

def writtenFields : List (Text × Json) → List String
  | [] => []
  | (key, value) :: rest => (writtenText key ++ ":" ++ written value) :: writtenFields rest

end

end DrawingPlan.Json

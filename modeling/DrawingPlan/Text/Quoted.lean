import DrawingPlan.Text.Printable

set_option autoImplicit false

namespace DrawingPlan.Text

def hexDigit (n : Nat) : Char :=
  if n < 10 then Char.ofNat (48 + n) else Char.ofNat (87 + n)

def hexDigits : Nat → Nat → List Char
  | 0, _ => []
  | width + 1, n => hexDigits width (n / 16) ++ [hexDigit (n % 16)]

def escapedCode (code : Nat) : List Char :=
  if code < 0x100 then '\\' :: 'x' :: hexDigits 2 code
  else if code < 0x10000 then '\\' :: 'u' :: hexDigits 4 code
  else '\\' :: 'U' :: hexDigits 8 code

def quotedSymbol (mark : Char) : Symbol → List Char
  | .half place => escapedCode (Symbol.half place).code
  | .char c =>
    if c = mark then ['\\', mark]
    else if c = '\\' then ['\\', '\\']
    else if c = '\n' then ['\\', 'n']
    else if c = '\r' then ['\\', 'r']
    else if c = '\t' then ['\\', 't']
    else if isPrintable c then [c]
    else escapedCode c.toNat

def markFor (text : Text) : Char :=
  if text.symbols.contains (.char '\'') && !text.symbols.contains (.char '"') then '"' else '\''

def quoted (text : Text) : String :=
  let mark := text.markFor
  String.ofList (mark :: text.symbols.flatMap (quotedSymbol mark) ++ [mark])

end DrawingPlan.Text

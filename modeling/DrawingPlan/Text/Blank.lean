import DrawingPlan.Text.CharClass

set_option autoImplicit false

namespace DrawingPlan

def blanks : CharClass where
  ranges := [(0x09, 0x0D), (0x1C, 0x20), (0x85, 0x85), (0xA0, 0xA0), (0x1680, 0x1680),
    (0x2000, 0x200A), (0x2028, 0x2029), (0x202F, 0x202F), (0x205F, 0x205F), (0x3000, 0x3000)]

def Symbol.isBlank (symbol : Symbol) : Bool :=
  blanks.has symbol

namespace Text

def trimStart (symbols : List Symbol) : List Symbol :=
  symbols.dropWhile Symbol.isBlank

def trimEnd : List Symbol → List Symbol
  | [] => []
  | symbol :: rest =>
    match trimEnd rest with
    | [] => if symbol.isBlank then [] else [symbol]
    | kept => symbol :: kept

def trimSymbols (symbols : List Symbol) : List Symbol :=
  trimEnd (trimStart symbols)

def trim (text : Text) : Text :=
  ⟨trimSymbols text.symbols⟩

def isBlank (text : Text) : Bool :=
  text.symbols.all Symbol.isBlank

def trimOf (drop : Symbol → Bool) (symbols : List Symbol) : List Symbol :=
  ((symbols.dropWhile drop).reverse.dropWhile drop).reverse

end Text

end DrawingPlan

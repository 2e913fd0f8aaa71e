import DrawingPlan.Text.Blank

set_option autoImplicit false

namespace DrawingPlan

inductive LogLevel where
  | number (n : Int)
  | name (text : Text)

namespace LogLevel

def warning : Int := 30

def named : List (Text × Int) :=
  [("CRITICAL", 50), ("FATAL", 50), ("ERROR", 40), ("WARN", warning), ("WARNING", warning),
    ("INFO", 20), ("DEBUG", 10), ("NOTSET", 0)]

def upperChar (c : Char) : List Char :=
  match c with
  | 'ı' => ['I']
  | 'ſ' => ['S']
  | 'ß' => ['S', 'S']
  | 'ﬀ' => ['F', 'F']
  | 'ﬁ' => ['F', 'I']
  | 'ﬂ' => ['F', 'L']
  | 'ﬃ' => ['F', 'F', 'I']
  | 'ﬄ' => ['F', 'F', 'L']
  | 'ﬅ' => ['S', 'T']
  | 'ﬆ' => ['S', 'T']
  | _ => [c.toUpper]

def resolve : LogLevel → Int
  | .number n => n
  | .name text =>
    let upper : Text := ⟨text.trim.symbols.flatMap (Symbol.flatMapChar upperChar)⟩
    (named.lookup upper).getD warning

end LogLevel

structure LogSetup where
  name : String := "cadagent"
  threshold : Int
  outputs : Nat
deriving DecidableEq, Repr

def LogSetup.of (settings : LogLevel) (level : Option LogLevel) (file : Bool) : LogSetup where
  threshold := (level.getD settings).resolve
  outputs := if file then 2 else 1

end DrawingPlan

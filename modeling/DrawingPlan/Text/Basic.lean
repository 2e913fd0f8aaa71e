/-!
Texts. JSON can write half of a surrogate pair alone, which is no character, and such a text still
takes part in comparisons and is shown in messages. A text is therefore a list of symbols, and the
texts without halves are the strings.
-/

set_option autoImplicit false

namespace DrawingPlan

/-- A symbol of a text: a character, or half of a surrogate pair that stands on its own. -/
inductive Symbol where
  | char (c : Char)
  -- The code point lies this far into the range of the surrogates.
  | half (place : Fin 2048)
deriving DecidableEq, Repr

namespace Symbol

def firstHalf : Nat := 0xD800

def code : Symbol → Nat
  | .char c => c.toNat
  | .half place => firstHalf + place

def ofCode (code : Nat) : Symbol :=
  if within : firstHalf ≤ code ∧ code < firstHalf + 2048 then .half ⟨code - firstHalf, by omega⟩
  else .char (Char.ofNat code)

def flatMapChar (map : Char → List Char) : Symbol → List Symbol
  | .char c => (map c).map .char
  | .half place => [.half place]

def satisfies (test : Char → Bool) : Symbol → Bool
  | .char c => test c
  | .half _ => false

def printed : Symbol → Char
  | .char c => c
  | .half _ => '\uFFFD'

end Symbol

structure Text where
  symbols : List Symbol
deriving DecidableEq, Repr

namespace Text

@[coe] def ofString (s : String) : Text :=
  ⟨s.toList.map .char⟩

instance : Coe String Text :=
  ⟨ofString⟩

instance : Append Text :=
  ⟨fun a b => ⟨a.symbols ++ b.symbols⟩⟩

instance : Inhabited Text :=
  ⟨⟨[]⟩⟩

instance : ToString Text :=
  ⟨fun t => String.ofList (t.symbols.map Symbol.printed)⟩

theorem ofString_inj {a b : String} : ofString a = ofString b ↔ a = b := by
  constructor
  · intro same
    have images : a.toList.map Symbol.char = b.toList.map Symbol.char := by
      simpa [ofString] using same
    exact String.toList_inj.mp ((List.map_inj_right fun _ _ h => by simpa using h).mp images)
  · exact congrArg ofString

theorem symbols_append (a b : Text) : (a ++ b).symbols = a.symbols ++ b.symbols := rfl

def nonEmpty (text : Text) : Bool :=
  !text.symbols.isEmpty

def le (a b : Text) : Bool :=
  !(b.symbols.lex a.symbols fun x y => decide (x.code < y.code))

def join (parts : List Text) : Text :=
  ⟨parts.flatMap symbols⟩

def intercalate (separator : Text) (parts : List Text) : Text :=
  ⟨separator.symbols.intercalate (parts.map symbols)⟩

def partsBetween (mark : Symbol) : List Symbol → List (List Symbol)
  | [] => [[]]
  | symbol :: rest =>
    if symbol = mark then [] :: partsBetween mark rest
    else
      match partsBetween mark rest with
      | [] => [[symbol]]
      | first :: others => (symbol :: first) :: others

def splitOn (text : Text) (mark : Char) : List Text :=
  (partsBetween (.char mark) text.symbols).map (⟨·⟩)

end Text

end DrawingPlan

import DrawingPlan.Text.Blank

set_option autoImplicit false

namespace DrawingPlan.Fence

def backtick : Symbol := .char '\x60'

def opens : List Symbol → Bool
  | a :: b :: c :: _ => a = backtick && b = backtick && c = backtick
  | _ => false

def cut : List Symbol → Option (List Symbol × List Symbol)
  | [] => none
  | symbol :: rest =>
    -- The first backtick is `symbol`; the other two are still to be dropped.
    if opens (symbol :: rest) then some ([], rest.drop 2)
    else (cut rest).map fun parts => (symbol :: parts.1, parts.2)

theorem eq_of_cut {symbols before after : List Symbol}
    (found : cut symbols = some (before, after)) :
    symbols = before ++ [backtick, backtick, backtick] ++ after := by
  induction symbols generalizing before with
  | nil => simp [cut] at found
  | cons symbol rest ih =>
    unfold cut at found
    split at found
    next opening =>
      match rest, opening with
      | a :: b :: tail, opening =>
        simp only [opens, Bool.and_eq_true, decide_eq_true_eq] at opening
        simp only [List.drop_succ_cons, List.drop_zero, Option.some.injEq, Prod.mk.injEq] at found
        obtain ⟨⟨rfl, rfl⟩, rfl⟩ := opening
        simp [← found.1, ← found.2]
    next =>
      match later : cut rest, found with
      | some (inner, tail), found =>
        simp only [Option.map_some, Option.some.injEq, Prod.mk.injEq] at found
        obtain ⟨rfl, rfl⟩ := found
        simp [ih later]

def isGap (symbol : Symbol) : Bool :=
  symbol = .char ' ' || symbol = .char '\t'

def isInfo : Symbol → Bool :=
  Symbol.satisfies fun c => c.isAlphanum || c = '_' || c = '+' || c = '-'

def dropLineBreak (symbols : List Symbol) : List Symbol :=
  let afterReturn := match symbols with
    | .char '\r' :: rest => rest
    | _ => symbols
  match afterReturn with
  | .char '\n' :: rest => rest
  | _ => afterReturn

def dropInfo (symbols : List Symbol) : List Symbol :=
  dropLineBreak (((symbols.dropWhile isGap).dropWhile isInfo).dropWhile isGap)

def closed? (symbols : List Symbol) : Option (List Symbol) := do
  let (_, opened) ← cut symbols
  let (inside, _) ← cut opened
  return dropInfo inside

/-- The text behind an opening fence that is never closed: all from the next line on, if any. -/
def unclosed (symbols : List Symbol) : List Symbol :=
  match symbols.dropWhile (· ≠ .char '\n') with
  | _ :: rest => rest
  -- Without a line break the payload stands on the line of the fence.
  | [] => symbols.drop 3

def stripSymbols (symbols : List Symbol) : List Symbol :=
  let trimmed := Text.trimSymbols symbols
  match closed? trimmed with
  | some payload => Text.trimSymbols payload
  | none => if opens trimmed then Text.trimSymbols (unclosed trimmed) else trimmed

def strip (text : Text) : Text :=
  ⟨stripSymbols text.symbols⟩

end DrawingPlan.Fence

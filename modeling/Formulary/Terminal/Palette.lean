/-!
Colours of terminal output. A palette without colours leaves every text as it is.
-/

namespace Formulary

inductive Tint where
  | red | green | yellow | blue | cyan | white | gray | bold | dim | reverse
deriving DecidableEq, Repr

namespace Tint

def code : Tint → String
  | red => "\x1b[91m"
  | green => "\x1b[92m"
  | yellow => "\x1b[93m"
  | blue => "\x1b[94m"
  | cyan => "\x1b[96m"
  | white => "\x1b[97m"
  | gray => "\x1b[90m"
  | bold => "\x1b[1m"
  | dim => "\x1b[2m"
  | reverse => "\x1b[7m"

def reset : String := "\x1b[0m"

end Tint

structure Palette where
  colored : Bool
deriving DecidableEq, Repr

namespace Palette

def paint (p : Palette) (tints : List Tint) (s : String) : String :=
  if p.colored then String.join (tints.map Tint.code) ++ s ++ Tint.reset else s

theorem paint_plain (tints : List Tint) (s : String) : paint ⟨false⟩ tints s = s := rfl

/-- Colours are used on a terminal, unless the environment asks for none. -/
def ofTerminal (terminal : Bool) (noColor : Option String) : Palette :=
  ⟨terminal && (noColor.getD "").isEmpty⟩

end Palette

end Formulary

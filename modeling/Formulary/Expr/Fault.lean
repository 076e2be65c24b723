import Formulary.Text.Printable
import Formulary.Text.Quoted

/-!
What can be wrong with the text of an expression, and how it is reported.
-/

namespace Formulary.Expr

/-- A fault of form, without the place where it was found. -/
inductive Fault where
  | unexpected
  | neverClosed (bracket : Char)
  | unmatched (bracket : Char)
  | mismatched (close bracket : Char) (openedOn : Option Nat)
  | badNumber (kind : String)
  | badDigit (digit : Char) (kind : String)
  | leadingZeros
  | badCharacter (c : Char)
  | openText (line : Nat)
  | openLongText (line : Nat)
  | missingElse
  | missingComma
  | missingCallParentheses (name : String)
  | starredGroup
  | doubleStarredGroup
  | badTarget (what : String)
  | badTargetHere (what : String)
  | badAugmented (what : String)
  | equalsInGroup
  | assignmentInCall
  | positionalAfterKeyword
  | nestedTooDeep
  | continuedAtEnd
  | afterContinuation
  | tooManyDigits (count : Nat)
  | badEscape (codec : String) (start stop : Nat) (reason : String)
  | badReplacement (reason : String)
  | indented
  | badDedent
deriving DecidableEq, Repr

/-- A fault found while splitting the text into lexemes is *hard* when it is reported wherever the
text went wrong before; the others count only if nothing went wrong before them. -/
def Fault.hard : Fault → Bool
  | .neverClosed _ | .continuedAtEnd | .afterContinuation | .badDedent => false
  | _ => true

/-- The number of a code point in capitals, at least four digits. -/
def codePointNumeral (n : Nat) : String :=
  let width := if n < 0x10000 then 4 else if n < 0x100000 then 5 else 6
  String.ofList ((Text.hexDigits width n).map Char.toUpper)

def Fault.text : Fault → String
  | .unexpected => "invalid syntax"
  | .neverClosed b => s!"'{b}' was never closed"
  | .unmatched b => s!"unmatched '{b}'"
  | .mismatched close bracket none =>
    s!"closing parenthesis '{close}' does not match opening parenthesis '{bracket}'"
  | .mismatched close bracket (some line) =>
    s!"closing parenthesis '{close}' does not match opening parenthesis '{bracket}' on line {line}"
  | .badNumber kind => s!"invalid {kind} literal"
  | .badDigit digit kind => s!"invalid digit '{digit}' in {kind} literal"
  | .leadingZeros => "leading zeros in decimal integer literals are not permitted; " ++
      "use an 0o prefix for octal integers"
  | .badCharacter c =>
    let number := codePointNumeral c.toNat
    if Text.isPrintable c then s!"invalid character '{c}' (U+{number})"
    else s!"invalid non-printable character U+{number}"
  | .openText line => s!"unterminated string literal (detected at line {line})"
  | .openLongText line => s!"unterminated triple-quoted string literal (detected at line {line})"
  | .missingElse => "expected 'else' after 'if' expression"
  | .missingComma => "invalid syntax. Perhaps you forgot a comma?"
  | .missingCallParentheses callee =>
    s!"Missing parentheses in call to '{callee}'. Did you mean {callee}(...)?"
  | .starredGroup => "cannot use starred expression here"
  | .doubleStarredGroup => "cannot use double starred expression here"
  | .badTarget what => s!"cannot assign to {what}"
  | .badTargetHere what => s!"cannot assign to {what} here. Maybe you meant '==' instead of '='?"
  | .badAugmented what => s!"'{what}' is an illegal expression for augmented assignment"
  | .equalsInGroup => "invalid syntax. Maybe you meant '==' or ':=' instead of '='?"
  | .assignmentInCall => "expression cannot contain assignment, perhaps you meant \"==\"?"
  | .positionalAfterKeyword => "positional argument follows keyword argument"
  | .nestedTooDeep => "too many nested parentheses"
  | .continuedAtEnd => "unexpected EOF while parsing"
  | .afterContinuation => "unexpected character after line continuation character"
  | .tooManyDigits count => "Exceeds the limit (4300 digits) for integer string conversion: " ++
      s!"value has {count} digits; use sys.set_int_max_str_digits() to increase the limit" ++
      " - Consider hexadecimal for huge integer literals to avoid decimal conversion limits."
  | .badEscape codec start stop reason =>
    s!"(unicode error) '{codec}' codec can't decode bytes in position {start}-{stop}: {reason}"
  | .badReplacement reason => s!"f-string: {reason}"
  | .indented => "unexpected indent"
  | .badDedent => "unindent does not match any outer indentation level"

/-- A fault and the line it is reported on. -/
structure Report where
  fault : Fault
  line : Nat
deriving DecidableEq, Repr

def Report.family (r : Report) : String :=
  match r.fault with
  | .indented | .badDedent => "IndentationError"
  | _ => "SyntaxError"

def Report.message (r : Report) : String := s!"{r.fault.text} (<unknown>, line {r.line})"

end Formulary.Expr

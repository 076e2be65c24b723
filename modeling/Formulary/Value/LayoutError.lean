/-!
The families of causes why a formula has no value, and the causes that lie in how a value should be laid
out as text.
-/

namespace Formulary

/-- The families of causes, by the name they are shown with. -/
inductive ErrorFamily where
  | badForm (name : String)
  | emptyText | unknownName | unknownFunction | unknownAttribute | unavailable
  | tooLarge | tooLong
  | kind | zeroDivision | overflow | value | index | memory | machineKind
deriving DecidableEq, Repr

def ErrorFamily.name : ErrorFamily → String
  | badForm name => name
  | emptyText => "InvalidExpression"
  | unknownName => "NameNotDefined"
  | unknownFunction => "FunctionNotDefined"
  | unknownAttribute => "AttributeDoesNotExist"
  | unavailable => "FeatureNotAvailable"
  | tooLarge => "NumberTooHigh"
  | tooLong => "IterableTooLong"
  | kind => "TypeError"
  | zeroDivision => "ZeroDivisionError"
  | overflow => "OverflowError"
  | value => "ValueError"
  | index => "IndexError"
  | memory => "MemoryError"
  | machineKind => "UFuncTypeError"

/-- Why a value cannot be laid out. -/
inductive LayoutError where
  /-- The characters of a specification do not fit together. -/
  | badSpec (spec kind : String)
  | unknownCode (code : Char) (kind : String)
  | numberTooLong
  | missingPrecision
  | precisionTooBig
  | bothSeparators
  | badSeparator (separator code : Char)
  | signOfText (blank : Bool)
  | negativeZeroOfText
  | alternateText
  | insideText
  | integerPrecision
  | negativeZeroOfInteger
  | signOfCharacter
  | alternateCharacter
  | characterRange
  | zeroFilledComplex
  | insideComplex
  | unsupportedSpec (kind : String)
  /-- A template leaves its value unused. -/
  | unusedValue
  /-- A template asks for more values than there are. -/
  | missingValue
  | mappingRequired
  | incompleteKey
  | incompleteDirective
  | unknownDirective (code : Char) (index : Nat)
  | widthNotInteger
  | realRequired (code : Char) (kind : String)
  | integerRequired (code : Char) (kind : String)
  | characterRequired
  | undefinedToInteger
  | infinityToInteger
deriving DecidableEq, Repr

namespace LayoutError

def family : LayoutError → ErrorFamily
  | unsupportedSpec _ | unusedValue | missingValue | mappingRequired | widthNotInteger
  | realRequired .. | integerRequired .. | characterRequired => .kind
  | characterRange | infinityToInteger => .overflow
  | _ => .value

/-- A code as messages show it: by its code point beyond printed ASCII. -/
def codeText (c : Char) : String :=
  if 32 < c.toNat ∧ c.toNat < 128 then String.singleton c
  else "\\x" ++ String.ofList (Nat.toDigits 16 c.toNat)

def message : LayoutError → String
  | badSpec spec kind => s!"Invalid format specifier '{spec}' for object of type '{kind}'"
  | unknownCode code kind =>
    s!"Unknown format code '{codeText code}' for object of type '{kind}'"
  | numberTooLong => "Too many decimal digits in format string"
  | missingPrecision => "Format specifier missing precision"
  | precisionTooBig => "precision too big"
  | bothSeparators => "Cannot specify both ',' and '_'."
  | badSeparator separator code => s!"Cannot specify '{separator}' with '{codeText code}'."
  | signOfText blank =>
    (if blank then "Space" else "Sign") ++ " not allowed in string format specifier"
  | negativeZeroOfText => "Negative zero coercion (z) not allowed in string format specifier"
  | alternateText => "Alternate form (#) not allowed in string format specifier"
  | insideText => "'=' alignment not allowed in string format specifier"
  | integerPrecision => "Precision not allowed in integer format specifier"
  | negativeZeroOfInteger => "Negative zero coercion (z) not allowed in integer format specifier"
  | signOfCharacter => "Sign not allowed with integer format specifier 'c'"
  | alternateCharacter => "Alternate form (#) not allowed with integer format specifier 'c'"
  | characterRange => "%c arg not in range(0x110000)"
  | zeroFilledComplex => "Zero padding is not allowed in complex format specifier"
  | insideComplex => "'=' alignment flag is not allowed in complex format specifier"
  | unsupportedSpec kind => s!"unsupported format string passed to {kind}.__format__"
  | unusedValue => "not all arguments converted during string formatting"
  | missingValue => "not enough arguments for format string"
  | mappingRequired => "format requires a mapping"
  | incompleteKey => "incomplete format key"
  | incompleteDirective => "incomplete format"
  | unknownDirective code index =>
    let shown := if 31 < code.toNat ∧ code.toNat < 127 then code else '?'
    let number := String.ofList (Nat.toDigits 16 code.toNat)
    s!"unsupported format character '{shown}' (0x{number}) at index {index}"
  | widthNotInteger => "* wants int"
  | realRequired code kind => s!"%{code} format: a real number is required, not {kind}"
  | integerRequired code kind => s!"%{code} format: an integer is required, not {kind}"
  | characterRequired => "%c requires int or char"
  | undefinedToInteger => "cannot convert float NaN to integer"
  | infinityToInteger => "cannot convert float infinity to integer"

end LayoutError

end Formulary

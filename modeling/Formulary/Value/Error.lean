import Formulary.Expr.Fault
import Formulary.Value.LayoutError

/-!
Why a formula has no value. A cause belongs to a family, and both are shown: the family's name, then
the message.
-/

namespace Formulary

inductive EvalError where
  | malformed (r : Expr.Report)
  | nullCharacter
  | emptyText
  | unknownName (name source : String)
  | unknownFunction (name source : String)
  | unknownAttribute (name source : String)
  | unavailable (form : String)
  | importing
  | computedCall
  | hiddenAttribute (name : String)
  | hiddenMethod (name : String)
  | noOperator (sign source : String)
  | powerTooLarge (base exponent : String)
  | shiftTooLarge (value sign amount : String)
  | productTooLong
  | sumTooLong
  | partsTooLong
  | layout (e : LayoutError)
  | literalTooLong (length : Nat)
  | operands (sign left right : String)
  | operand (sign kind : String)
  | noMagnitude (kind : String)
  | notOrdered (sign left right : String)
  | notAContainer (kind : String)
  | textWithin (kind : String)
  | notIterable (kind : String)
  | joinText (kind : String)
  | joinTuple (kind : String)
  | repeatText (kind : String)
  | notAnInteger (kind : String)
  | notReal (kind : String)
  | textIndex (kind : String)
  | textIndexRange
  | tupleIndex (kind : String)
  | tupleIndexRange
  | indexTooLarge (kind : String)
  | countTooLarge (kind : String)
  | repeatedTextTooLong
  | outOfMemory
  | scalarIndex
  | zeroStep
  | sliceBounds
  | notSubscriptable (kind : String)
  | notCallable (kind : String)
  | divisionByZero
  | moduloByZero
  | floorDivisionByZero
  | realModuloByZero
  | zeroToNegative
  | zeroToComplex
  | quotientTooLarge
  | intTooLargeForReal
  | intTooLargeForWord
  | intOutOfRange (n : Int) (width : String)
  | tooManyDigits
  | negativeWordPower
  | negativeShift
  | intTooBig
  | powerOutOfRange
  | magnitudeTooLarge
  | placesTooLarge
  | placesTooSmall
  | ratioOfInfinity
  | ratioOfUndefined
  | noReal (kind : String)
  | unsupported (function : String)
  | noMethod (function kind : String)
  | noLoop (function types : String)
  | castResult (function source target : String)
  | flagNegation
  | flagDifference
  | positionalCount (function : String) (low high given : Nat)
  | missingArgument (function name : String)
  | unexpectedKeyword (function name : String)
  | badKeyword (function name : String)
  | keywordCount (function : String) (high given : Nat)
  | repeatedArgument (function name : String)
  | defaultBeside (function : String)
  | keywordNames
  | outputArray
  | outputTwice
  | notAnArray
  | atLeastOne (function : String)
  | emptySequence (function : String)
deriving DecidableEq, Repr

namespace EvalError

def family : EvalError → ErrorFamily
  | malformed r => .badForm r.family
  | nullCharacter => .value
  | emptyText => .emptyText
  | unknownName .. => .unknownName
  | unknownFunction .. => .unknownFunction
  | unknownAttribute .. => .unknownAttribute
  | unavailable _ | importing | computedCall | hiddenAttribute _ | hiddenMethod _ => .unavailable
  | noOperator .. => .badForm "OperatorNotDefined"
  | powerTooLarge .. | shiftTooLarge .. => .tooLarge
  | productTooLong | sumTooLong | partsTooLong | literalTooLong _ => .tooLong
  | divisionByZero | moduloByZero | floorDivisionByZero | realModuloByZero | zeroToNegative
  | zeroToComplex => .zeroDivision
  | quotientTooLarge | intTooLargeForReal | intTooLargeForWord | intOutOfRange .. | intTooBig
  | powerOutOfRange | magnitudeTooLarge | placesTooLarge | placesTooSmall | ratioOfInfinity
  | countTooLarge _ | repeatedTextTooLong => .overflow
  | outOfMemory => .memory
  | tooManyDigits | negativeWordPower | negativeShift | zeroStep | emptySequence _
  | ratioOfUndefined => .value
  | layout e => e.family
  | textIndexRange | tupleIndexRange | indexTooLarge _ | scalarIndex => .index
  | noLoop .. | castResult .. => .machineKind
  | _ => .kind

def message : EvalError → String
  | malformed r => r.message
  | nullCharacter => "source code string cannot contain null bytes"
  | emptyText => "Sorry, cannot evaluate empty string"
  | unknownName name source => s!"'{name}' is not defined for expression '{source}'"
  | unknownFunction name source => s!"Function '{name}' not defined, for expression '{source}'."
  | unknownAttribute name source => s!"Attribute '{name}' does not exist in expression '{source}'"
  | unavailable form => s!"Sorry, {form} is not available in this evaluator"
  | importing => "Sorry, 'import' is not allowed."
  | computedCall => "Lambda Functions not implemented"
  | hiddenAttribute name =>
    s!"Sorry, access to __attributes  or func_ attributes is not available. ({name})"
  | hiddenMethod name => s!"Sorry, this method is not available. ({name})"
  | noOperator sign source => s!"Operator '{sign}' does not exist in expression '{source}'"
  | powerTooLarge base exponent => s!"Sorry! I don't want to evaluate {base} ** {exponent}"
  | shiftTooLarge value sign amount => s!"Sorry! I don't want to evaluate {value} {sign} {amount}"
  | productTooLong => "Sorry, I will not evaluate something that long."
  | sumTooLong => "Sorry, adding those two together would make something too long."
  | partsTooLong => "Sorry, I will not evaluate something this long."
  | layout e => e.message
  | literalTooLong length =>
    s!"Literal in statement is too long! ({length}, when 100000 is max)"
  | operands sign left right => s!"unsupported operand type(s) for {sign}: '{left}' and '{right}'"
  | operand sign kind => s!"bad operand type for unary {sign}: '{kind}'"
  | noMagnitude kind => s!"bad operand type for abs(): '{kind}'"
  | notOrdered sign left right =>
    s!"'{sign}' not supported between instances of '{left}' and '{right}'"
  | notAContainer kind => s!"argument of type '{kind}' is not iterable"
  | textWithin kind => s!"'in <string>' requires string as left operand, not {kind}"
  | notIterable kind => s!"'{kind}' object is not iterable"
  | joinText kind => s!"can only concatenate str (not \"{kind}\") to str"
  | joinTuple kind => s!"can only concatenate tuple (not \"{kind}\") to tuple"
  | repeatText kind => s!"can't multiply sequence by non-int of type '{kind}'"
  | notAnInteger kind => s!"'{kind}' object cannot be interpreted as an integer"
  | notReal kind => s!"must be real number, not {kind}"
  | textIndex kind => s!"string indices must be integers, not '{kind}'"
  | textIndexRange => "string index out of range"
  | tupleIndex kind => s!"tuple indices must be integers or slices, not {kind}"
  | tupleIndexRange => "tuple index out of range"
  | indexTooLarge kind | countTooLarge kind => s!"cannot fit '{kind}' into an index-sized integer"
  | repeatedTextTooLong => "repeated string is too long"
  | outOfMemory => ""
  | scalarIndex => "invalid index to scalar variable."
  | sliceBounds => "slice indices must be integers or None or have an __index__ method"
  | zeroStep => "slice step cannot be zero"
  | notSubscriptable kind => s!"'{kind}' object is not subscriptable"
  | notCallable kind => s!"'{kind}' object is not callable"
  | divisionByZero => "integer division or modulo by zero"
  | moduloByZero => "integer modulo by zero"
  | floorDivisionByZero => "float floor division by zero"
  | realModuloByZero => "float modulo"
  | zeroToNegative => "0.0 cannot be raised to a negative power"
  | zeroToComplex => "0.0 to a negative or complex power"
  | quotientTooLarge => "integer division result too large for a float"
  | intTooLargeForReal => "int too large to convert to float"
  | intTooLargeForWord => "Python int too large to convert to C long"
  | intTooBig => "int too big to convert"
  | powerOutOfRange => "Numerical result out of range"
  | magnitudeTooLarge => "absolute value too large"
  | placesTooLarge => "signed integer is greater than maximum"
  | placesTooSmall => "signed integer is less than minimum"
  | ratioOfInfinity => "cannot convert Infinity to integer ratio"
  | ratioOfUndefined => "cannot convert NaN to integer ratio"
  | noReal kind => s!"float() argument must be a string or a real number, not '{kind}'"
  | intOutOfRange n width => s!"Python integer {n} out of bounds for {width}"
  | tooManyDigits => "Exceeds the limit (4300 digits) for integer string conversion; " ++
      "use sys.set_int_max_str_digits() to increase the limit"
  | negativeWordPower => "Integers to negative integer powers are not allowed."
  | negativeShift => "negative shift count"
  | unsupported function => s!"ufunc '{function}' not supported for the input types, and the " ++
      "inputs could not be safely coerced to any supported types according to the casting rule " ++
      "''safe''"
  | noMethod function kind =>
    s!"loop of ufunc does not support argument 0 of type {kind} which has no callable {function} " ++
      "method"
  | noLoop function types =>
    s!"ufunc '{function}' did not contain a loop with signature matching types {types} -> None"
  | castResult function source target =>
    s!"Cannot cast ufunc '{function}' output from {source} to {target} with casting rule 'same_kind'"
  | flagNegation => "The numpy boolean negative, the \x60-\x60 operator, is not supported, " ++
      "use the \x60~\x60 operator or the logical_not function instead."
  | flagDifference => "numpy boolean subtract, the \x60-\x60 operator, is not supported, " ++
      "use the bitwise_xor, the \x60^\x60 operator, or the logical_xor function instead."
  | positionalCount function low high given =>
    let range := if low = high then toString low else s!"from {low} to {high}"
    let noun := if high = 1 then "argument" else "arguments"
    let verb := if given = 1 then "was" else "were"
    s!"{function}() takes {range} positional {noun} but {given} {verb} given"
  | missingArgument function name =>
    s!"{function}() missing 1 required positional argument: '{name}'"
  | unexpectedKeyword function name => s!"{function}() got an unexpected keyword argument '{name}'"
  | badKeyword function name => s!"'{name}' is an invalid keyword argument for {function}()"
  | keywordCount function high given =>
    s!"{function}() takes at most {high} keyword arguments ({given} given)"
  | repeatedArgument function name => s!"{function}() got multiple values for argument '{name}'"
  | defaultBeside function =>
    s!"Cannot specify a default for {function}() with multiple positional arguments"
  | keywordNames => "keywords must be strings"
  | outputArray => "return arrays must be of ArrayType"
  | outputTwice => "cannot specify 'out' as both a positional and keyword argument"
  | notAnArray => "output must be an array"
  | atLeastOne function => s!"{function} expected at least 1 argument, got 0"
  | emptySequence function => s!"{function}() arg is an empty sequence"

/-- How a cause is told: its family and its message, if it has one. -/
def describe (e : EvalError) : String :=
  if e.message.isEmpty then e.family.name else s!"{e.family.name}: {e.message}"

end EvalError

end Formulary

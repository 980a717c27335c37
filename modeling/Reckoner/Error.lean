import Reckoner.Token

/-!
# Causes of failure

Every failure is a value that says what went wrong; `CalcError.kind` sorts the failures and
`CalcError.message` puts them into words.
-/

namespace Reckoner

/-- Why a text of known words and marks is not a strict expression. -/
inductive SyntaxError where
  /-- A numeral without digits before its exponent. -/
  | malformedNumber (literal : Text)
  /-- A numeral beyond the doubles. -/
  | numberOutOfRange (literal : Text)
  | emptyExpression
  | tooDeep
  | unexpectedEnd
  | unexpected (found : Token)
  /-- Something follows a complete expression. -/
  | trailing (found : Token)
  | wrongArgumentCount (f : Func) (count : Nat)
  /-- Neither a comma nor a closing parenthesis follows an argument. -/
  | unfinishedArgument (found : Token)
  /-- The text ends inside an argument list. -/
  | unclosedArguments
  /-- A group is not closed where its expression ends. -/
  | unclosedGroup (found : Option Token)
  deriving DecidableEq

namespace SyntaxError

/-- The wording of a syntax error. -/
def message : SyntaxError → Text
  | malformedNumber literal => "malformed number '".toList ++ literal ++ "'".toList
  | numberOutOfRange literal => "number '".toList ++ literal ++ "' is out of range".toList
  | emptyExpression => "empty expression".toList
  | tooDeep => "expression nested too deeply".toList
  | unexpectedEnd => "unexpected end of expression".toList
  | unexpected found => "unexpected ".toList ++ found.describe
  | trailing found =>
    "unexpected ".toList ++ found.describe ++ " after a complete expression".toList
  | wrongArgumentCount f count =>
    f.name ++ " does not take ".toList ++ decimalDigits count ++ " argument(s)".toList
  | unfinishedArgument found =>
    "expected ',' or ')' in argument list, found ".toList ++ found.describe
  | unclosedArguments => "missing ')'".toList
  | unclosedGroup (some found) => "expected ')', found ".toList ++ found.describe
  | unclosedGroup none => "expected ')', found end of expression".toList

/-- No other syntax error has the wording of `tooDeep`. -/
theorem eq_tooDeep_of_message {cause : SyntaxError} (said : cause.message = message tooDeep) :
    cause = tooDeep := by
  -- The wordings differ in their first words already.
  have start : ∀ {first more : Text}, first ++ more = message tooDeep →
      first <+: "expression nested too deeply".toList := fun same => ⟨_, same⟩
  cases cause with
  | tooDeep => rfl
  | wrongArgumentCount f count =>
      have refused : f.name ++ " does not take ".toList ++
          (decimalDigits count ++ " argument(s)".toList) = message tooDeep :=
        (List.append_assoc _ _ _).symm.trans said
      exact absurd (start refused) (by cases f <;> decide)
  | malformedNumber | numberOutOfRange | trailing =>
      exact absurd (start ((List.append_assoc _ _ _).symm.trans said)) (by decide)
  | unclosedGroup found =>
      cases found with
      | none => exact absurd said (by decide)
      | some found => exact absurd (start said) (by decide)
  | unexpected | unfinishedArgument => exact absurd (start said) (by decide)
  | emptyExpression | unexpectedEnd | unclosedArguments => exact absurd said (by decide)

end SyntaxError

/-- An operation on reals whose value is not real. -/
inductive ComplexValue where
  | sqrt (x : Binary64)
  | ln (x : Binary64)
  | log10 (x : Binary64)
  | log (x : Binary64)
  | logBase (x base : Binary64)
  | pow (a b : Binary64)
  deriving DecidableEq

namespace ComplexValue

/-- The operation as messages write it. -/
def operation : ComplexValue → Text
  | sqrt x => "sqrt(".toList ++ numberText x ++ ")".toList
  | ln x => "ln(".toList ++ numberText x ++ ")".toList
  | log10 x => "log10(".toList ++ numberText x ++ ")".toList
  | log x => "log(".toList ++ numberText x ++ ")".toList
  | logBase x base => "log(".toList ++ numberText x ++ ", ".toList ++ numberText base ++ ")".toList
  | pow a b => numberText a ++ "^".toList ++ numberText b

/-- The wording for an operation without a real value. -/
def message (what : ComplexValue) : Text :=
  what.operation ++ " has a complex (non-real) value".toList

end ComplexValue

/-- Why JSON is no reply. Values are given by their description. -/
inductive ShapeError where
  | notAReply (found : Text)
  | notAString (found : Text)
  | missingExpression
  | noElements
  | surplusElements (count : Nat)
  deriving DecidableEq

namespace ShapeError

/-- The wording for a value of the wrong shape. -/
def message : ShapeError → Text
  | notAReply found =>
    "invalid type: ".toList ++ found ++ ", expected struct NormalizationResponse".toList
  | notAString found => "invalid type: ".toList ++ found ++ ", expected a string".toList
  | missingExpression => "missing field \x60expression\x60".toList
  | noElements =>
    "invalid length 0, expected struct NormalizationResponse with 1 element".toList
  | surplusElements count =>
    "invalid length ".toList ++ decimalDigits count ++ ", expected fewer elements in array".toList

end ShapeError

/-- Why a question was not turned into an expression. -/
inductive NormalizationError where
  | requestFailed
  /-- The service's reply is of the wrong shape. -/
  | unexpectedShape (cause : ShapeError)
  /-- There is nothing in the service's reply that could be an expression. -/
  | noExpression
  | emptyReply
  /-- The normalizer handed over a blank text. -/
  | blankExpression
  /-- The normalizer answered the question itself. -/
  | bareValue (expression : Text)
  /-- The normalizer's own words. -/
  | reported (text : Text)
  deriving DecidableEq

namespace NormalizationError

/-- The wording of a normalization error. -/
def message : NormalizationError → Text
  | requestFailed => "request failed".toList
  | unexpectedShape cause => "unexpected response shape: ".toList ++ cause.message
  | noExpression => "no expression found in response".toList
  | emptyReply => "service returned an empty expression".toList
  | blankExpression => "normalizer returned an empty expression".toList
  | bareValue expression =>
    "normalizer returned the value '".toList ++ expression ++ "' instead of an expression".toList
  | reported text => text

end NormalizationError

/-- Why a configuration is refused. -/
inductive ConfigError where
  | keyNotSet
  | timeoutNotANumber (found : Text)
  | keyEmpty
  | modelEmpty
  | endpointNotHttp (endpoint : Text)
  | timeoutZero
  | badPort (found : Text)
  | badAddress
  deriving DecidableEq

namespace ConfigError

/-- The wording of a configuration error. -/
def message : ConfigError → Text
  | keyNotSet => "NATMATH_AI_KEY (or OPENAI_API_KEY) is not set".toList
  | timeoutNotANumber found => "NATMATH_AI_TIMEOUT_SECS is not a number: ".toList ++ found
  | keyEmpty => "API key is empty".toList
  | modelEmpty => "model name is empty".toList
  | endpointNotHttp endpoint => "endpoint must be an http(s) URL: ".toList ++ endpoint
  | timeoutZero => "timeout must be positive".toList
  | badPort found => "PORT is not a valid port: ".toList ++ found
  | badAddress => "invalid HOST/PORT: invalid socket address syntax".toList

end ConfigError

/-- Everything that can keep an input from having a result. -/
inductive CalcError where
  | emptyInput
  | disallowedToken (token : Text)
  | parseFailure (cause : SyntaxError)
  /-- A function is used without arguments. -/
  | incompleteCall (f : Func)
  | nonFiniteResult
  | unsupportedResult (cause : ComplexValue)
  | normalizationFailed (cause : NormalizationError)
  | configuration (cause : ConfigError)
  deriving DecidableEq

namespace CalcError

/-- The name of the sort of failure. -/
def kind : CalcError → Text
  | emptyInput => "empty_input".toList
  | disallowedToken _ => "disallowed_token".toList
  | parseFailure _ => "parse_failure".toList
  | incompleteCall _ => "incomplete_function_call".toList
  | nonFiniteResult => "non_finite_result".toList
  | unsupportedResult _ => "unsupported_result_type".toList
  | normalizationFailed _ => "normalization_failed".toList
  | configuration _ => "configuration".toList

/-- The wording of a failure. -/
def message : CalcError → Text
  | emptyInput => "Empty input".toList
  | disallowedToken token => "Disallowed token '".toList ++ token ++ "'".toList
  | parseFailure cause => "Parse failure: ".toList ++ cause.message
  | incompleteCall f =>
    "Incomplete function call: '".toList ++ f.name ++ "' needs an argument list, e.g. ".toList ++
      f.name ++ "(2)".toList
  | nonFiniteResult => "Result is not a finite number".toList
  | unsupportedResult cause => "Unsupported result type: ".toList ++ cause.message
  | normalizationFailed cause => "Normalization failed: ".toList ++ cause.message
  | configuration cause => "Configuration error: ".toList ++ cause.message

end CalcError

end Reckoner

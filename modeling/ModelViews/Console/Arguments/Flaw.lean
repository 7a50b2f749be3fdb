import ModelViews.Number.Digits
import ModelViews.Text.Printable

namespace ModelViews.Arguments

inductive ParameterFlaw where
  | plainAfterDefault
  | bracketed
  | leadingSlash
  | secondSlash
  | slashAfterStar
  | starAfterSlash
  | bareStar
  | defaultOfStar
  | secondStar
  | defaultOfRest
  | afterRest
  | missingDefault
  deriving DecidableEq, Repr

def ParameterFlaw.message : ParameterFlaw → String
  | plainAfterDefault => "non-default argument follows default argument"
  | bracketed => "Lambda expression parameters cannot be parenthesized"
  | leadingSlash => "at least one argument must precede /"
  | secondSlash => "/ may appear only once"
  | slashAfterStar => "/ must be ahead of *"
  | starAfterSlash => "expected comma between / and *"
  | bareStar => "named arguments must follow bare *"
  | defaultOfStar => "var-positional argument cannot have default value"
  | secondStar => "* argument may appear only once"
  | defaultOfRest => "var-keyword argument cannot have default value"
  | afterRest => "arguments cannot follow var-keyword argument"
  | missingDefault => "expected default value expression"

inductive EscapeFlaw where
  | truncated (form : String)
  | tooGreat
  | malformedName
  | unknownName
  deriving DecidableEq, Repr

def EscapeFlaw.message : EscapeFlaw → String
  | truncated form => "truncated \\" ++ form ++ " escape"
  | tooGreat => "illegal Unicode character"
  | malformedName => "malformed \\N character escape"
  | unknownName => "unknown Unicode character name"

inductive TemplateFlaw where
  | unfinished
  | strayBrace
  | empty
  | emptyBefore (mark : Char)
  | badConversion
  | backslash
  | comment
  | openText
  | openBracket (opening : Char)
  | unmatched (closing : Char)
  | mismatched (closing opening : Char)
  | tooNested
  | tooDeep
  deriving DecidableEq, Repr

def TemplateFlaw.message : TemplateFlaw → String
  | unfinished => "f-string: expecting '\x7d'"
  | strayBrace => "f-string: single '\x7d' is not allowed"
  | empty => "f-string: empty expression not allowed"
  | emptyBefore mark => "f-string: expression required before '" ++ mark.toString ++ "'"
  | badConversion => "f-string: invalid conversion character: expected 's', 'r', or 'a'"
  | backslash => "f-string expression part cannot include a backslash"
  | comment => "f-string expression part cannot include '#'"
  | openText => "f-string: unterminated string"
  | openBracket opening => "f-string: unmatched '" ++ opening.toString ++ "'"
  | unmatched closing => "f-string: unmatched '" ++ closing.toString ++ "'"
  | mismatched closing opening =>
    "f-string: closing parenthesis '" ++ closing.toString ++
      "' does not match opening parenthesis '" ++ opening.toString ++ "'"
  | tooNested => "f-string: too many nested parenthesis"
  | tooDeep => "f-string: expressions nested too deeply"

inductive Flaw where
  | nul
  | invalid
  | unexpectedIndent
  | brokenIndent
  | forgottenComma
  | missingElse
  | bareCall (name : String)
  | equalsSign
  | equalsSignAfter (kind : String)
  | namedTarget (kind : String)
  | assigned (kind : String)
  | assignedArgument
  | starred
  | doubleStarred
  | loneStar
  | starredItem
  | doubleStarredItem
  | bareItem
  | bareGenerator
  | starAfterDoubleStar
  | positionalAfterNamed
  | positionalAfterDoubleStar
  | missingValue
  | missingColon
  | starredValue
  | parameter (flaw : ParameterFlaw)
  | neverClosed (opening : Char)
  | tooNested
  | unmatched (closing : Char)
  | mismatched (closing opening : Char) (line : Option Nat)
  | unterminated (line : Nat)
  | unterminatedBlock (line : Nat)
  | badNumber (form : String)
  | badDigit (digit : Char) (form : String)
  | leadingZeros
  | wideNumber (error : Number.DigitsError)
  | strayBackslash
  | endless
  | badCharacter (c : Char)
  | mixedBytes
  | wideBytes
  | badEscape (first last : Nat) (flaw : EscapeFlaw)
  | badByte (place : Nat)
  | template (flaw : TemplateFlaw)
  | inTemplate (flaw : Flaw)
  | tooDeep
  deriving DecidableEq, Repr

def codePoint (c : Char) : String :=
  let digits := (Nat.toDigits 16 c.toNat).map Char.toUpper
  String.ofList (List.replicate (4 - digits.length) '0' ++ digits)

def Flaw.message : Flaw → String
  | nul => "source code string cannot contain null bytes"
  | invalid => "invalid syntax"
  | unexpectedIndent => "unexpected indent"
  | brokenIndent => "unindent does not match any outer indentation level"
  | forgottenComma => "invalid syntax. Perhaps you forgot a comma?"
  | missingElse => "expected 'else' after 'if' expression"
  | bareCall name =>
    "Missing parentheses in call to '" ++ name ++ "'. Did you mean " ++ name ++ "(...)?"
  | equalsSign => "invalid syntax. Maybe you meant '==' or ':=' instead of '='?"
  | equalsSignAfter kind =>
    "cannot assign to " ++ kind ++ " here. Maybe you meant '==' instead of '='?"
  | namedTarget kind => "cannot use assignment expressions with " ++ kind
  | assigned kind => "cannot assign to " ++ kind
  | assignedArgument => "expression cannot contain assignment, perhaps you meant \"==\"?"
  | starred => "cannot use starred expression here"
  | doubleStarred => "cannot use double starred expression here"
  | loneStar => "Invalid star expression"
  | starredItem => "iterable unpacking cannot be used in comprehension"
  | doubleStarredItem => "dict unpacking cannot be used in dict comprehension"
  | bareItem => "did you forget parentheses around the comprehension target?"
  | bareGenerator => "Generator expression must be parenthesized"
  | starAfterDoubleStar => "iterable argument unpacking follows keyword argument unpacking"
  | positionalAfterNamed => "positional argument follows keyword argument"
  | positionalAfterDoubleStar => "positional argument follows keyword argument unpacking"
  | missingValue => "expression expected after dictionary key and ':'"
  | missingColon => "':' expected after dictionary key"
  | starredValue => "cannot use a starred expression in a dictionary value"
  | parameter flaw => flaw.message
  | neverClosed opening => "'" ++ opening.toString ++ "' was never closed"
  | tooNested => "too many nested parentheses"
  | unmatched closing => "unmatched '" ++ closing.toString ++ "'"
  | mismatched closing opening line =>
    "closing parenthesis '" ++ closing.toString ++ "' does not match opening parenthesis '" ++
      opening.toString ++ "'" ++ (line.map (" on line " ++ toString ·)).getD ""
  | unterminated line => "unterminated string literal (detected at line " ++ toString line ++ ")"
  | unterminatedBlock line =>
    "unterminated triple-quoted string literal (detected at line " ++ toString line ++ ")"
  | badNumber form => "invalid " ++ form ++ " literal"
  | badDigit digit form => "invalid digit '" ++ digit.toString ++ "' in " ++ form ++ " literal"
  | leadingZeros =>
    "leading zeros in decimal integer literals are not permitted; " ++
      "use an 0o prefix for octal integers"
  | wideNumber error =>
    error.message ++
      " - Consider hexadecimal for huge integer literals to avoid decimal conversion limits."
  | strayBackslash => "unexpected character after line continuation character"
  | endless => "unexpected EOF while parsing"
  | badCharacter c =>
    if Text.isPrintable c then "invalid character '" ++ c.toString ++ "' (U+" ++ codePoint c ++ ")"
    else "invalid non-printable character U+" ++ codePoint c
  | mixedBytes => "cannot mix bytes and nonbytes literals"
  | wideBytes => "bytes can only contain ASCII literal characters"
  | badEscape first last flaw =>
    "(unicode error) 'unicodeescape' codec can't decode bytes in position " ++ toString first ++
      "-" ++ toString last ++ ": " ++ flaw.message
  | badByte place => "(value error) invalid \\x escape at position " ++ toString place
  | template flaw => flaw.message
  | inTemplate flaw => "f-string: " ++ flaw.message
  | tooDeep => ""

end ModelViews.Arguments

namespace ModelViews.Number

inductive DigitsError where
  | missing
  | tooMany (count : Nat)
  deriving DecidableEq, Repr

def mostDigits : Nat := 4300

def DigitsError.message : DigitsError → String
  | missing => "invalid literal for int() with base 10: ''"
  | tooMany count =>
    "Exceeds the limit (" ++ toString mostDigits ++
      " digits) for integer string conversion: value has " ++ toString count ++
      " digits; use sys.set_int_max_str_digits() to increase the limit"

def digitsError? (count : Nat) : Option DigitsError :=
  if count = 0 then some .missing
  else if mostDigits < count then some (.tooMany count)
  else none

end ModelViews.Number

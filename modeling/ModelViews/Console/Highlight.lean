import ModelViews.Console.StyledText
import ModelViews.Text.Digit
import ModelViews.Text.Pattern
import ModelViews.Text.Word

namespace ModelViews.Highlight

open Pattern

def isAny (_ : Char) : Bool :=
  true

def isHexDigit (c : Char) : Bool :=
  c.isDigit || ('a' ≤ c && c ≤ 'f') || ('A' ≤ c && c ≤ 'F')

def isWordOr (signs : String) (c : Char) : Bool :=
  Text.isWord c || signs.toList.contains c

def sign (signs : String) : Pattern :=
  one fun c => signs.toList.contains c

def digits (least most : Nat) : Pattern :=
  longest least (some most) Char.isDigit

def hexDigits (least most : Nat) : Pattern :=
  longest least (some most) isHexDigit

def tag : Pattern :=
  noted (char '<') ++ noted (longest 0 none (isWordOr "-.:|")) ++ noted (longest 0 none isAny) ++
    noted (char '>')

def assignment : Pattern :=
  noted (longest 1 (some 50) Text.isWord) ++ char '=' ++
    perhaps
      (noted (perhaps (char '"') ++ longest 1 none Text.isWord ++ perhaps (char '"')))

def bracket : Pattern :=
  noted (sign "][\x7b\x7d()")

def ipv4 : Pattern :=
  noted (times (digits 1 3 ++ char '.') 3 ++ digits 1 3)

def ipv6 : Pattern :=
  let group := hexDigits 1 4 ++ char ':' ++ perhaps (char ':')
  noted (group ++ repeated (some 6) group ++ hexDigits 1 4)

def hardwareAddress (pairs groups : Nat) : Pattern :=
  let pairsWith := fun mark => times (hexDigits 1 2 ++ char mark) (pairs - 1) ++ hexDigits 1 2
  noted (pairsWith '-' <|> pairsWith ':' <|>
    times (hexDigits 4 4 ++ char '.') (groups - 1) ++ hexDigits 4 4)

def uuid : Pattern :=
  noted (hexDigits 8 8 ++ char '-' ++ times (hexDigits 4 4 ++ char '-') 3 ++ hexDigits 12 12)

def call : Pattern :=
  noted (shortest 0 (isWordOr ".")) ++ char '('

def constant (name : String) : Pattern :=
  edge Text.isWord ++ noted (exactly name) ++ edge Text.isWord

def ellipsis : Pattern :=
  noted (exactly "...")

def decimal (exponentDigits : Pattern) : Pattern :=
  longest 1 none Char.isDigit ++ perhaps (char '.') ++ longest 0 none Char.isDigit ++
    perhaps (char 'e' ++ perhaps (sign "-+") ++ exponentDigits)

def complexNumber : Pattern :=
  noted (notAfter Text.isWord ++ perhaps (char '-') ++ decimal (shortest 1 Text.isDigit) ++
    perhaps (sign "-+" ++ decimal (longest 1 none Text.isDigit)) ++ char 'j')

def number : Pattern :=
  noted (notAfter Text.isWord ++ perhaps (char '-') ++ decimal (shortest 1 Text.isDigit) ++
      edge Text.isWord <|>
    exactly "0x" ++ longest 0 none isHexDigit)

def path : Pattern :=
  noted (inside Text.isWord ++
      repeated none (char '/' ++ longest 1 none (isWordOr "-.+")) ++ char '/') ++
    noted (longest 0 none (isWordOr "-.+"))

def quotedBy (quote : String) : Pattern :=
  perhaps (char 'b') ++ exactly quote ++ shortest 0 (· != '\n') ++ notAfter (· == '\\') ++
    exactly quote

def quoted : Pattern :=
  notAfter (isWordOr "\\") ++
    noted (quotedBy "'''" <|> quotedBy "'" <|> quotedBy "\"\"\"" <|> quotedBy "\"")

def isUrlCharacter (c : Char) : Bool :=
  c.isAlphanum || "-$_+!`(),.?/;:&=%#~@".toList.contains c

def url : Pattern :=
  noted ((exactly "file" <|> exactly "https" <|> exactly "http" <|> exactly "ws" <|>
    exactly "wss") ++ exactly "://" ++ longest 0 none isUrlCharacter)

def value : Pattern :=
  ipv4 <|> ipv6 <|> hardwareAddress 8 4 <|> hardwareAddress 6 3 <|> uuid <|> call <|>
    constant "True" <|> constant "False" <|> constant "None" <|> ellipsis <|> complexNumber <|>
    number <|> path <|> quoted <|> url

def patterns : List Pattern :=
  [tag, assignment, bracket, value]

def stretches (text : List Char) : List Stretch :=
  (patterns.flatMap (·.stretches text)).filterMap fun (start, stop) =>
    if start < stop then some ⟨start, stop, ""⟩ else none

end ModelViews.Highlight

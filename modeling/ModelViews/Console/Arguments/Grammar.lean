import ModelViews.Console.Arguments.Reader
import ModelViews.Text.PlainLetter

namespace ModelViews.Arguments.Grammar

open Reader

abbrev Reading := Rule → Reader Node

def softWord : Reader Unit :=
  take fun
    | .name name =>
      if ["_", "case", "match"].any (name.toList.isPrefixOf ·.toList) then some () else none
    | _ => none

def isFormerStatement (name : String) : Bool :=
  ["print", "exec"].contains (Text.plainName name)

def chain (read : Reading) (rule : Rule) (signs : List String) : Reader Node := nest 1 do
  let first ← read rule
  grow (fun left => do
    let sign ← signOf signs
    return .operation sign left (← read rule)) first

def wordChain (read : Reading) (rule : Rule) (between : String) : Reader Node := do
  let first ← read rule
  let rest ← many <| nest 1 do
    word between
    read rule
  return if rest.isEmpty then first else .logical (first :: rest)

def tupleOf (item : Reader Node) : Reader Node := nest 1 do
  let first ← item
  let rest ← many <| nest 1 do
    sign ","
    item
  match rest, ← maybe (sign ",") with
  | [], none => return first
  | rest, _ => return .tuple (first :: rest)

def starExpressions (read : Reading) : Reader Node :=
  tupleOf (read .starExpression)

/-! ## Loops inside expressions -/

def targets (read : Reading) : Reader Unit := nest 1 do
  discard <| read .target
  discard <| many <| nest 1 do
    sign ","
    read .target
  discard <| maybe (sign ",")

def loopHint (read : Reading) : Reader Node := nest 1 do
  discard <| maybe (word "async")
  word "for"
  match (← starExpressions read).nonTarget? with
  | some node => stopAt (.assigned node.kind)
  | none => miss

/-- A loop with its conditions. Once it is clear what the loop assigns to, it is not looked for
something else that could be wrong with that. -/
def loop (read : Reading) : Reader Node := nest 1 do
  let head ← maybe do
    discard <| maybe (word "async")
    word "for"
    targets read
    word "in"
  match head with
  | some _ => do
    let source ← read .disjunction
    let conditions ← many <| nest 1 do
      word "if"
      read .disjunction
    return .loop (source :: conditions)
  | none => hint (loopHint read)

def loops (read : Reading) : Reader (List Node) := nest 1 do
  many1 (loop read)

/-! ## Items -/

def assignment (read : Reading) : Reader Node := nest 1 do
  discard name
  sign ":="
  return .assignment (← read .expression)

def unassigned (read : Reading) : Reader Node := do
  let node ← read .expression
  notBefore (sign ":=")
  return node

def namedExpression (read : Reading) : Reader Node := nest 1 <|
  assignment read <|> hint (read .misplacedAssignment) <|> unassigned read

def starNamed (read : Reading) : Reader Node := nest 1 <|
  (do
    sign "*"
    return .starred (← read .bitOr)) <|>
  namedExpression read

def starNamedRow (read : Reading) : Reader (List Node) := nest 1 do
  let items ← row (starNamed read)
  discard <| maybe (sign ",")
  return items

def starred (read : Reading) : Reader Node := nest 1 do
  sign "*"
  match ← maybe (read .expression) with
  | some node => return .starred node
  | none => stopAt .loneStar

/-! ## Brackets -/

def tuple (read : Reading) : Reader Node := nest 1 do
  sign "("
  let items ← maybe <| nest 1 do
    let first ← starNamed read
    sign ","
    return first :: (← maybe (starNamedRow read)).getD []
  sign ")"
  return .tuple (items.getD [])

def yielding (read : Reading) : Reader Node := nest 1 do
  word "yield"
  (do
    word "from"
    return .yielded [← read .expression]) <|>
  (do
    return .yielded (← maybe (starExpressions read)).toList)

def groupHint (read : Reading) : Reader Node := nest 1 <|
  (do
    sign "("
    discard <| starred read
    sign ")"
    stopAt .starred) <|>
  (do
    sign "("
    sign "**"
    discard <| read .expression
    sign ")"
    stopAt .doubleStarred)

def group (read : Reading) : Reader Node := nest 1 <|
  (do
    sign "("
    let node ← nest 1 (yielding read <|> namedExpression read)
    sign ")"
    return node) <|>
  hint (groupHint read)

def comprehensionHint (read : Reading) : Reader Node := nest 1 <|
  (do
    discard <| nest 1 (signOf ["(", "\x7b"])
    discard <| starred read
    discard <| loops read
    stopAt .starredItem) <|>
  (do
    nest 1 (sign "\x7b")
    discard <| starNamed read
    sign ","
    discard <| starNamedRow read
    discard <| loops read
    stopAt .bareItem) <|>
  (do
    nest 1 (sign "\x7b")
    discard <| starNamed read
    sign ","
    discard <| loops read
    stopAt .bareItem)

def generator (read : Reading) : Reader Node := nest 1 <|
  (do
    sign "("
    let item ← nest 1 (assignment read <|> unassigned read)
    let loops ← loops read
    sign ")"
    return .generator (item :: loops)) <|>
  hint (comprehensionHint read)

def pair (read : Reading) : Reader Node := nest 1 do
  let key ← read .expression
  sign ":"
  return .pair key (← read .expression)

def unpackingOrPair (read : Reading) : Reader Node := nest 1 <|
  (do
    sign "**"
    return .unpacked (← read .bitOr)) <|>
  pair read

def valueHint (read : Reading) : Reader Node :=
  (do
    discard <| read .expression
    sign ":"
    sign "*"
    discard <| read .bitOr
    stopAt .starredValue) <|>
  (do
    discard <| read .expression
    sign ":"
    before (signOf ["\x7d", ","])
    stopAt .missingValue)

def pairHint (read : Reading) : Reader Node := nest 1 <|
  (do
    discard <| row (unpackingOrPair read)
    sign ","
    nest 1 <|
      (do
        discard <| read .expression
        notBefore (sign ":")
        stopAt .missingColon) <|>
      valueHint read) <|>
  valueHint read

def table (read : Reading) : Reader Node := nest 1 <|
  (do
    sign "\x7b"
    let items ← maybe <| nest 1 do
      let items ← row (unpackingOrPair read)
      discard <| maybe (sign ",")
      return items
    sign "\x7d"
    return .table (items.getD [])) <|>
  (do
    sign "\x7b"
    pairHint read)

def set (read : Reading) : Reader Node := nest 1 do
  sign "\x7b"
  let items ← starNamedRow read
  sign "\x7d"
  return .set items

def tableComprehension (read : Reading) : Reader Node := nest 1 <|
  (do
    sign "\x7b"
    let item ← pair read
    let loops ← loops read
    sign "\x7d"
    return .tableOf (item :: loops)) <|>
  (hint <| nest 1 do
    sign "\x7b"
    sign "**"
    discard <| read .bitOr
    discard <| loops read
    sign "\x7d"
    stopAt .doubleStarredItem)

def setComprehension (read : Reading) : Reader Node := nest 1 <|
  (do
    sign "\x7b"
    let item ← namedExpression read
    let loops ← loops read
    sign "\x7d"
    return .setOf (item :: loops)) <|>
  hint (comprehensionHint read)

/-! ## Atoms and what is called or taken from them -/

def number : Reader Node := do
  let numeral ← numeral
  match numeral with
  | .whole value digits =>
    if value ≠ 0 ∧ Number.mostDigits < digits then stopAt (.wideNumber (.tooMany digits))
    else return .number numeral
  | _ => return .number numeral

def atom (read : Reading) : Reader Node := nest 1 <|
  (do return .name (← name)) <|>
  (do return .constant (← constant)) <|>
  (do
    before text
    read .texts) <|>
  number <|>
  (do
    before (sign "(")
    nest 1 (tuple read <|> group read <|> generator read)) <|>
  (do
    before (sign "\x7b")
    nest 1 (table read <|> set read <|> tableComprehension read <|> setComprehension read)) <|>
  (do
    sign "..."
    return .ellipsis)

def texts : Reader Node := do
  let texts ← many1 text
  fun setting progress =>
    match checkTexts setting.level none texts with
    | .ok _ => (.found (if texts.any (·.isTemplate) then .template else .text), progress)
    | .error flaw => (.flawed flaw, progress)

def trailer (read : Reading) (node : Node) : Reader Node :=
  (do
    sign "."
    discard name
    return .member node) <|>
  (do return .call node [← generator read]) <|>
  (do
    sign "("
    let arguments ← maybe (read .arguments)
    sign ")"
    return .call node ((arguments.map Node.items).getD []))

def primary (read : Reading) : Reader Node := nest 1 do
  grow (trailer read) (← atom read)

def operand (read : Reading) : Reader Node :=
  (do
    word "await"
    return .awaited (← read .primary)) <|>
  read .primary

def factor (read : Reading) : Reader Node :=
  (do
    let sign ← signOf ["+", "-", "~"]
    return .signed sign (← read .factor)) <|>
  (nest 1 <|
    (do
      let base ← read .operand
      sign "**"
      return .operation "**" base (← read .factor)) <|>
    read .operand)

/-! ## Targets of loops -/

def trailerSign : Reader Unit := nest 1 do
  discard <| signOf ["(", "[", "."]

def targetOwner (read : Reading) : Reader Node := nest 1 do
  let first ← atom read
  before trailerSign
  grow (fun node => do
    let node ← trailer read node
    before trailerSign
    return node) first

def target (read : Reading) : Reader Node :=
  (do
    sign "*"
    nest 1 do
      notBefore (sign "*")
      return .starred (← read .target)) <|>
  read .bareTarget

def bareTarget (read : Reading) : Reader Node :=
  (do
    let owner ← read .targetOwner
    sign "."
    discard name
    notBefore trailerSign
    return .member owner) <|>
  (nest 1 <|
    (do return .name (← name)) <|>
    (do
      sign "("
      let node ← read .bareTarget
      sign ")"
      return node) <|>
    (do
      sign "("
      discard <| maybe <| nest 1 do
        discard <| read .target
        sign ","
        discard <| maybe (targets read)
      sign ")"
      return .tuple []))

/-! ## Arguments -/

def argumentHint (read : Reading) : Reader Node := nest 1 <|
  (do
    let word ← constant
    sign "="
    stopAt (.assigned word)) <|>
  (do
    discard name
    sign "="
    discard <| read .expression
    discard <| loops read
    stopAt .equalsSign) <|>
  (do
    notBefore do
      discard name
      sign "="
    discard <| read .expression
    sign "="
    stopAt .assignedArgument)

def namedArgument (read : Reading) : Reader Node := do
  let name ← name
  sign "="
  return .argument (some name) (← read .expression)

def namedOrStarred (read : Reading) : Reader Node := nest 1 <|
  hint (argumentHint read) <|> namedArgument read <|> starred read

def namedOrUnpacking (read : Reading) : Reader Node := nest 1 <|
  hint (argumentHint read) <|> namedArgument read <|> do
    sign "**"
    return .argument none (← read .expression)

def namedRow (read : Reading) : Reader (List Node) := nest 1 <|
  (do
    let first ← row (namedOrStarred read)
    sign ","
    return first ++ (← row (namedOrUnpacking read))) <|>
  row (namedOrStarred read) <|>
  row (namedOrUnpacking read)

def positionalRow (read : Reading) : Reader (List Node) :=
  row <| nest 1 <| starred read <|> do
    let node ← nest 1 (assignment read <|> unassigned read)
    notBefore (sign "=")
    return node

def argumentRow (read : Reading) : Reader (List Node) := nest 1 <|
  (do
    let positional ← positionalRow read
    let named ← maybe <| nest 1 do
      sign ","
      namedRow read
    return positional ++ named.getD []) <|>
  namedRow read

def argumentsHint (read : Reading) : Reader Node := nest 1 <|
  (do
    discard <| nest 1 <|
      (nest 1 do
        discard <| positionalRow read
        sign ","
        namedRow read) <|>
      namedRow read
    sign ","
    discard <| row <| nest 1 do
      discard <| starred read
      notBefore (sign "=")
    stopAt .starAfterDoubleStar) <|>
  (do
    discard <| read .expression
    discard <| loops read
    sign ","
    discard <| maybe <| nest 1 <| argumentRow read <|> do
      discard <| read .expression
      loops read
    stopAt .bareGenerator) <|>
  (do
    discard name
    sign "="
    discard <| read .expression
    discard <| loops read
    stopAt .equalsSign) <|>
  do
    let generated ← maybe do
      let items ← argumentRow read
      discard <| loops read
      return items
    match generated with
    | some items =>
      if 1 < (items.filter (!·.isArgument)).length then stopAt .bareGenerator else miss
    | none =>
      (do
        discard <| argumentRow read
        sign ","
        discard <| read .expression
        discard <| loops read
        stopAt .bareGenerator) <|>
      (do
        let items ← argumentRow read
        sign ","
        discard <| argumentRow read
        stopAt (if items.any Node.isUnpacking then .positionalAfterDoubleStar
          else .positionalAfterNamed))

def arguments (read : Reading) : Reader Node :=
  (do
    let items ← argumentRow read
    discard <| maybe (sign ",")
    before (sign ")")
    return .arguments items) <|>
  hint (argumentsHint read)

/-! ## Functions without a name -/

def parameterEnd : Reader Unit :=
  sign "," <|> before (sign ":")

def parameterDefault (read : Reading) : Reader Unit := nest 1 <|
  (do
    sign "="
    discard <| read .expression) <|>
  hint do
    sign "="
    before (signOf [")", ","])
    stopAt (.parameter .missingDefault)

def plainParameter : Reader Unit := nest 2 do
  discard name
  parameterEnd

def defaultParameter (read : Reading) : Reader Unit := nest 1 do
  discard name
  parameterDefault read
  parameterEnd

def anyParameter (read : Reading) : Reader Unit := nest 1 do
  discard name
  discard <| maybe (parameterDefault read)
  parameterEnd

def slash : Reader Unit := do
  sign "/"
  parameterEnd

def plainSlash : Reader Unit := nest 1 do
  discard <| many1 plainParameter
  slash

def defaultSlash (read : Reading) : Reader Unit := nest 1 do
  discard <| many plainParameter
  discard <| many1 (defaultParameter read)
  slash

def restHint : Reader Unit := nest 1 <|
  (do
    sign "**"
    discard name
    sign "="
    stopAt (.parameter .defaultOfRest)) <|>
  (do
    sign "**"
    discard name
    sign ","
    discard name
    stopAt (.parameter .afterRest)) <|>
  (do
    sign "**"
    discard name
    sign ","
    discard <| signOf ["*", "**", "/"]
    stopAt (.parameter .afterRest))

def restParameter : Reader Unit := nest 1 <|
  hint restHint <|> do
    sign "**"
    plainParameter

def starHint (read : Reading) : Reader Unit := nest 1 <|
  (do
    sign "*"
    sign ":" <|> do
      sign ","
      discard <| signOf [":", "**"]
    stopAt (.parameter .bareStar)) <|>
  (do
    sign "*"
    discard name
    sign "="
    stopAt (.parameter .defaultOfStar)) <|>
  (do
    sign "*"
    plainParameter <|> sign ","
    discard <| many (anyParameter read)
    sign "*"
    plainParameter <|> sign ","
    stopAt (.parameter .secondStar))

def starParameters (read : Reading) : Reader Unit := nest 1 <|
  hint (starHint read) <|>
  (do
    sign "*"
    plainParameter
    discard <| many (anyParameter read)
    discard <| maybe restParameter) <|>
  (do
    sign "*"
    sign ","
    discard <| many1 (anyParameter read)
    discard <| maybe restParameter) <|>
  restParameter

def parametersHint (read : Reading) : Reader Unit := nest 1 <|
  (do
    discard <| many plainParameter
    nest 1 (defaultSlash read <|> discard (many1 (defaultParameter read)))
    plainParameter
    stopAt (.parameter .plainAfterDefault)) <|>
  (do
    discard <| many plainParameter
    sign "("
    discard <| row name
    discard <| maybe (sign ",")
    sign ")"
    stopAt (.parameter .bracketed)) <|>
  (do
    sign "/"
    sign ","
    stopAt (.parameter .leadingSlash)) <|>
  (do
    nest 1 (plainSlash <|> defaultSlash read)
    discard <| many (anyParameter read)
    sign "/"
    stopAt (.parameter .secondSlash)) <|>
  (do
    discard <| maybe <| nest 1 (plainSlash <|> defaultSlash read)
    discard <| many (anyParameter read)
    sign "*"
    sign "," <|> plainParameter
    discard <| many (anyParameter read)
    sign "/"
    stopAt (.parameter .slashAfterStar)) <|>
  (do
    discard <| many1 (anyParameter read)
    sign "/"
    sign "*"
    stopAt (.parameter .starAfterSlash))

def parameters (read : Reading) : Reader Unit := nest 1 <|
  hint (parametersHint read) <|>
  (nest 1 <|
    (do
      plainSlash
      discard <| many plainParameter
      discard <| many (defaultParameter read)
      discard <| maybe (starParameters read)) <|>
    (do
      defaultSlash read
      discard <| many (defaultParameter read)
      discard <| maybe (starParameters read)) <|>
    (do
      discard <| many1 plainParameter
      discard <| many (defaultParameter read)
      discard <| maybe (starParameters read)) <|>
    (do
      discard <| many1 (defaultParameter read)
      discard <| maybe (starParameters read)) <|>
    starParameters read)

def lambda (read : Reading) : Reader Node := nest 1 do
  word "lambda"
  discard <| maybe (parameters read)
  sign ":"
  return .lambda (← read .expression)

/-! ## Expressions -/

def plainExpression (read : Reading) : Reader Node :=
  (do
    let value ← read .disjunction
    word "if"
    let condition ← read .disjunction
    word "else"
    return .conditional [value, condition, ← read .expression]) <|>
  read .disjunction <|>
  lambda read

def expressionHint (read : Reading) : Reader Node := nest 1 do
  let first ← maybe do
    notBefore ((do
      discard name
      discard text) <|> softWord)
    let first ← read .disjunction
    discard <| nest 1 <| withoutHints (plainExpression read)
    return first
  match first with
  | some (.name name) =>
    if isFormerStatement name then miss
    else if ← isOutside then miss
    else stopAt .forgottenComma
  | some _ => if ← isOutside then miss else stopAt .forgottenComma
  | none => do
    discard <| read .disjunction
    word "if"
    discard <| read .disjunction
    notBefore (word "else" <|> sign ":")
    stopAt .missingElse

def statementHint (read : Reading) : Reader Node := nest 1 do
  let name ← name
  notBefore (sign "(")
  discard <| starExpressions read
  if isFormerStatement name then stopAt (.bareCall (Text.plainName name)) else miss

def expression (read : Reading) : Reader Node :=
  hint (expressionHint read) <|> hint (statementHint read) <|> plainExpression read

def starExpression (read : Reading) : Reader Node :=
  (do
    sign "*"
    return .starred (← read .bitOr)) <|>
  read .expression

def comparisonSign : Reader String :=
  signOf ["==", "!=", "<=", "<", ">=", ">"] <|>
  (do
    word "not"
    word "in"
    return "not in") <|>
  (do
    word "in"
    return "in") <|>
  (do
    word "is"
    discard <| maybe (word "not")
    return "is")

def comparison (read : Reading) : Reader Node := nest 1 do
  let first ← read .bitOr
  let rest ← many <| nest 2 do
    let sign ← comparisonSign
    return (sign, ← read .bitOr)
  match rest with
  | [] => return first
  | (sign, _) :: _ => return .comparison sign first (rest.map Prod.snd)

def inversion (read : Reading) : Reader Node :=
  (do
    word "not"
    return .signed "not" (← read .inversion)) <|>
  comparison read

def noSecondSign : Reader Unit :=
  notBefore (signOf ["=", ":="])

def assignmentHint (read : Reading) : Reader Node :=
  (do
    let node ← read .expression
    sign ":="
    discard <| read .expression
    stopAt (.namedTarget node.kind)) <|>
  (do
    discard name
    sign "="
    discard <| read .bitOr
    noSecondSign
    stopAt .equalsSign) <|>
  (do
    notBefore <| nest 1 <|
      discard (tuple read) <|> discard (generator read) <|> discard constant
    let node ← read .bitOr
    sign "="
    discard <| read .bitOr
    noSecondSign
    stopAt (.equalsSignAfter node.kind))

def rules (read : Reading) : Rule → Reader Node
  | .expression => expression read
  | .starExpression => starExpression read
  | .disjunction => wordChain read .conjunction "or"
  | .conjunction => wordChain read .inversion "and"
  | .inversion => inversion read
  | .bitOr => chain read .bitXor ["|"]
  | .bitXor => chain read .bitAnd ["^"]
  | .bitAnd => chain read .shift ["&"]
  | .shift => chain read .sum ["<<", ">>"]
  | .sum => chain read .term ["+", "-"]
  | .term => chain read .factor ["*", "/", "//", "%", "@"]
  | .factor => factor read
  | .operand => operand read
  | .primary => primary read
  | .texts => texts
  | .arguments => arguments read
  | .misplacedAssignment => assignmentHint read
  | .target => target read
  | .bareTarget => bareTarget read
  | .targetOwner => targetOwner read

def reading : Nat → Reading
  | 0, _ => giveUp
  | depth + 1, rule => remember rule (rules (reading depth) rule)

def whole (read : Reading) : Reader Node := nest 1 do
  let node ← tupleOf (read .expression)
  discard <| many (token .lineEnd)
  token .stop
  return node

def template (read : Reading) : Reader Node := nest 1 (starExpressions read)

end ModelViews.Arguments.Grammar

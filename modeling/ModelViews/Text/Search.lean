namespace ModelViews.Text

def after? (needle : List Char) : List Char → Option (List Char)
  | [] => if needle.isEmpty then some [] else none
  | c :: rest =>
    if needle.isPrefixOf (c :: rest) then some ((c :: rest).drop needle.length)
    else after? needle rest

def occursIn (needle text : String) : Bool :=
  (after? needle.toList text.toList).isSome

def beforeLast? (mark : Char) : List Char → Option (List Char)
  | [] => none
  | c :: rest =>
    match beforeLast? mark rest with
    | some body => some (c :: body)
    | none => if c = mark then some [] else none

def cutAt? (mark : Char) : List Char → Option (List Char × List Char)
  | [] => none
  | c :: rest =>
    if c = mark then some ([], rest)
    else (cutAt? mark rest).map fun (before, after) => (c :: before, after)

def pieces (mark : Char) (text : String) : List String :=
  (text.toList.splitOn mark).map String.ofList

def lines (text : String) : List String :=
  pieces '\n' text

end ModelViews.Text

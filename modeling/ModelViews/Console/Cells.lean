import ModelViews.Text.Width

namespace ModelViews.Cells

def joiner : Char := '\u200d'

def emojiSelector : Char := '\ufe0f'

def widthFrom : Bool → Option Char → List Char → Nat
  | _, _, [] => 0
  | true, last, _ :: rest => widthFrom false last rest
  | false, last, c :: rest =>
    if c = joiner then widthFrom true last rest
    else if c = emojiSelector then
      (if last.any Text.growsAsEmoji then 1 else 0) + widthFrom false none rest
    else
      let size := Text.charWidth c
      size + widthFrom false (if size = 0 then last else some c) rest

def width (text : List Char) : Nat :=
  widthFrom false none text

structure Cluster where
  text : List Char
  size : Nat
  deriving DecidableEq, Repr

namespace Cluster

def grow (cluster : Cluster) (c : Char) (more : Nat) : Cluster :=
  ⟨cluster.text ++ [c], cluster.size + more⟩

def totalSize : List Cluster → Nat
  | [] => 0
  | cluster :: rest => cluster.size + totalSize rest

end Cluster

def clustersFrom (cluster : Cluster) : Bool → Option Char → List Char → List Cluster
  | _, _, [] => [cluster]
  | true, last, c :: rest => clustersFrom (cluster.grow c 0) false last rest
  | false, last, c :: rest =>
    let size := Text.charWidth c
    if c == emojiSelector && last.any Text.growsAsEmoji then
      clustersFrom (cluster.grow c 1) false none rest
    else if size = 0 then clustersFrom (cluster.grow c 0) (c == joiner) last rest
    else cluster :: clustersFrom ⟨[c], size⟩ false (some c) rest

def clusters : List Char → List Cluster
  | [] => []
  | c :: rest =>
    let size := Text.charWidth c
    clustersFrom ⟨[c], size⟩ false (if size = 0 then none else some c) rest

inductive CutError where
  | weightless
  | short
  deriving DecidableEq, Repr

def CutError.message : CutError → String
  | weightless => "division by zero"
  | short => "list index out of range"

def leading : Nat → List Cluster → List Char
  | _, [] => []
  | 0, _ => []
  | room, cluster :: rest =>
    if room < cluster.size then [' ']
    else cluster.text ++ leading (room - cluster.size) rest

/-- A text that is cut to a number of cells between two of its clusters. Its clusters may take fewer
cells than the text, as they leave a joiner at its beginning alone. -/
def cut (total : Nat) (text : List Char) : Except CutError (List Char) :=
  let size := Cluster.totalSize (clusters text)
  if size = 0 then .error .weightless
  else if size < total then .error .short
  else .ok (leading total (clusters text))

def fit (total : Nat) (text : List Char) : Except CutError (List Char) :=
  if total = 0 then .ok []
  else if total < width text then cut total text
  else .ok (text ++ List.replicate (total - width text) ' ')

def chopFrom (limit : Nat) (line : List Char) (used : Nat) : List Cluster → List (List Char)
  | [] => if used = 0 then [] else [line]
  | cluster :: rest =>
    if limit < used + cluster.size then
      line :: chopFrom limit cluster.text cluster.size rest
    else chopFrom limit (line ++ cluster.text) (used + cluster.size) rest

def chop (limit : Nat) (text : List Char) : List (List Char) :=
  chopFrom limit [] 0 (clusters text)

end ModelViews.Cells

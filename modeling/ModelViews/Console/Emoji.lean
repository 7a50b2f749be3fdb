import ModelViews.Console.EmojiNames
import ModelViews.Text.Blank
import ModelViews.Text.LowerCase

namespace ModelViews.Emoji

def pairs : List String → List (String × String)
  | first :: second :: rest => (first, second) :: pairs rest
  | _ => []

def table : List (String × String) :=
  pairs (Text.words nameList)

def split (code : List Char) : List Char × List Char :=
  if "-emoji".toList.isSuffixOf code then (code.take (code.length - 6), ['\ufe0f'])
  else if "-text".toList.isSuffixOf code then (code.take (code.length - 5), ['\ufe0e'])
  else (code, [])

def find? (code : List Char) : Option (List Char) :=
  let (name, selector) := split code
  (table.lookup (String.ofList (Text.lower name))).map (·.toList ++ selector)

def inCode (c : Char) : Bool :=
  c != ':' && !Text.isBlank c

def replaced (text : List Char) : List Char :=
  match text with
  | [] => []
  | ':' :: rest =>
    match _closed : rest.dropWhile inCode with
    | ':' :: after =>
      let code := rest.takeWhile inCode
      (find? code).getD (':' :: code ++ [':']) ++ replaced after
    | _ => ':' :: replaced rest
  | c :: rest => c :: replaced rest
termination_by text.length
decreasing_by
  · have bound := (List.dropWhile_suffix inCode (l := rest)).length_le
    rw [_closed, List.length_cons] at bound
    simp only [List.length_cons]
    omega
  · simp
  · simp

end ModelViews.Emoji

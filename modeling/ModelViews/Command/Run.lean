import ModelViews.Command.Follow
import ModelViews.Command.Inspect
import ModelViews.Service.Session

namespace ModelViews.Command

def answer (input : String) (desk : Desk) : Ran :=
  let served := Service.serveWithin Service.publisher desk.limits
    (String.ofList (lineFeeds input.toList)) desk.tree
  let ending := match served.failure with
    | none => .done
    | some failure => .raised failure
  ⟨{ desk with tree := served.tree }, ending, served.lines⟩

def Invocation.run (invocation : Invocation) (tree : Tree) (input : String)
    (happenings : List Happening) (limits : Json.Limits := .standard) : Ran :=
  let desk : Desk := ⟨tree, "", limits⟩
  match invocation with
  | .help => ⟨desk, .helped, []⟩
  | .misuse => ⟨desk, .misused, []⟩
  | .generate request => Command.generate request desk happenings
  | .inspect request => Command.inspect request desk
  | .serve => answer input desk

end ModelViews.Command

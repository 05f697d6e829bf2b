import ForumClient.Post.Id
import ForumClient.Text.Escape

namespace ForumClient

inductive Route
  | board
  | topic : TopicId → Route
  | post : PostId → Route
  | settings
  deriving DecidableEq, Repr

namespace Route

def path : Route → String
  | .board => "/"
  | .topic t => "/t/" ++ t.toString
  | .post p => "/p/" ++ p.toString
  | .settings => "/settings"

def pathOf (address : Text) : Text := address.takeWhile fun c => c ≠ '?' && c ≠ '#'

def steps (path : Text) : List Text :=
  let ss := ((path.splitBy (· = '/')).drop 1).map Percent.decode
  if ss.getLast? = some [] then ss.dropLast else ss

def ofAddress? (address : Text) : Option Route :=
  match steps (pathOf address) with
  | [] => some .board
  | [s] => if s = "settings".toList then some .settings else none
  | [s, t] =>
    if s = "t".toList then (TopicId.read t).toOption.map .topic
    else if s = "p".toList then (PostId.read t).toOption.map .post
    else none
  | _ => none

end Route

end ForumClient

import ForumClient.Post.Document
import ForumClient.Post.Rendering

namespace ForumClient

structure FragmentServer where
  posts : List (PostId × Text) := []
  fetched : List PostId := []

namespace FragmentServer

def insert (s : FragmentServer) (p : PostId) (html : Text) : FragmentServer :=
  { s with posts := (p, html) :: s.posts }

def fetch (s : FragmentServer) (p : PostId) : Except Failure Text × FragmentServer :=
  let reply := match s.posts.lookup p with
    | some html => .ok html
    | none => .error (.transport ("HTTP 404 for /p/" ++ p.toString ++ "?raw=1"))
  (reply, { s with fetched := s.fetched ++ [p] })

end FragmentServer

structure ReferenceLink where
  label : String
  state : Reference := .collapsed

namespace ReferenceLink

def children (l : ReferenceLink) : List String :=
  (if l.state.isErrored then l.label ++ Reference.errorMarker else l.label) ::
    (l.state.fragment?.map String.ofList).toList

def click (l : ReferenceLink) (s : FragmentServer) (p : PostId) :
    Reference.Action × ReferenceLink × FragmentServer :=
  let (action, state) := l.state.toggle
  if action = .fetch then
    let (reply, s) := s.fetch p
    (action, { l with state := state.settle reply }, s)
  else (action, { l with state }, s)

end ReferenceLink

def Document.clickThrough (d : Document) (s : FragmentServer) (id : Text) :
    Option Reference.Action × Document × FragmentServer :=
  match d.clickReference id with
  | (some (action, post), d) =>
    if action = .fetch then
      let (reply, s) := s.fetch post
      (some action, d.settleReference id reply, s)
    else (some action, d, s)
  | (none, d) => (none, d, s)

def Image.replay (i : Image) (total : Float) (chunks : List Float) (result : Except Failure Text) :
    List Text × Image :=
  let step := fun (labels, sum, i) chunk =>
    let sum := sum + chunk
    let i := i.progress sum total
    (labels ++ [i.label], sum, i)
  let (labels, _, i) := chunks.foldl step ([i.label], (0 : Float), i)
  let i := i.settle result
  (labels ++ [i.label], i)

end ForumClient

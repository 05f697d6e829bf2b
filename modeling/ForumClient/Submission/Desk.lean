import ForumClient.Preferences.Basic
import ForumClient.Server.Forum
import ForumClient.Submission.Process

namespace ForumClient

open Submission

structure Desk where
  config : Config
  storage : Storage
  forum : Forum := {}
  draws : Draws
  captcha : Option String := none
  token : Option Token := none
  alerts : List String := []
  navigations : List String := []
  reloads : Nat := 0

namespace Desk

inductive Event
  | did : Effect Attachment → Event
  | notRemembered
  | replied : Except Failure String → Event

def perform (d : Desk) (e : Effect Attachment) : Event × Desk :=
  match e with
  | .remember options => match d.storage.saveOptions options with
    | (.ok (), storage) => (.did e, { d with storage })
    | (.error _, storage) => (.notRemembered, { d with storage })
  | .alert t => (.did e, { d with alerts := d.alerts ++ [t] })
  | .navigate url => (.did e, { d with navigations := d.navigations ++ [url] })
  | .reload => (.did e, { d with reloads := d.reloads + 1 })
  | .replaceToken t => (.did e, { d with token := some t })
  | .disable _ | .askCaptcha | .post _ _ | .callback => (.did e, d)

def performAll (d : Desk) : List (Effect Attachment) → List Event × Desk
  | [] => ([], d)
  | e :: es =>
    let (event, d) := d.perform e
    let (events, d) := d.performAll es
    (event :: events, d)

def reply (d : Desk) (given : Option (Except Failure String)) :
    List (Effect Attachment) → Except Failure String × List Event × Desk
  | .post url fields :: _ => match given with
    | some r => (r, [], d)
    | none =>
      let (r, forum) := d.forum.handle url fields
      (r, [.replied r], { d with forum })
  | _ :: es => d.reply given es
  | [] => (.error (.transport ""), [], d)

def redraw (d : Desk) (old : Token) : Token × Draws :=
  (Token.rotate? old d.draws).getD (old, d.draws)

def submit (d : Desk) (r : Request Attachment) (given : Option (Except Failure String)) :
    Outcome × List Event × Desk :=
  let first := start d.config d.captcha r
  let (before, d) := d.performAll first
  let (reply, answered, d) := d.reply given first
  let (next, draws) := d.redraw r.draft.token
  let o := outcome d.config r.inFlight next reply
  let d := match o with
    | .rejected _ _ => { d with draws }
    | _ => d
  let (after, d) := d.performAll (finish r.inFlight o)
  (o, before ++ answered ++ after, d)

end Desk

end ForumClient

import ForumClient.Page.Sender
import ForumClient.Page.SignPanel

namespace ForumClient

structure Composer where
  topic : TopicId
  sender : Sender
  subject : String := ""
  message : String := ""
  options : String := ""
  menuOpen : Bool := false
  panel : Option SignPanel := none

namespace Composer

inductive Message
  | subject : String → Message
  | message : String → Message
  | options : String → Message
  | toggleOption : (word : String) → Message
  | toggleMenu
  | togglePanel
  | panel : SignPanel.Message → Message
  | send
  deriving DecidableEq, Repr

def imageInput : String := "select-image"

def menuId : String := "composer-options"

def sage : String := "sage"

def mount (topic : TopicId) : Act Composer := do
  let sender ← Sender.mount
  return { topic, sender, options := ((← get).storage.options?).getD "" }

def draft (c : Composer) (image : Option String) : Draft String :=
  { token := c.sender.token
    subject := String.ofList (Text.trim c.subject.toList)
    message := c.message
    image
    topic := c.topic
    options := some c.options }

def receiveSigned (signed : Option String) (p : SignPanel) (c : Composer) : Composer :=
  match signed with
  | some t => { c with message := t, panel := none }
  | none => { c with panel := some p }

def update (c : Composer) : Message → Act Composer
  | .subject v => return { c with subject := v }
  | .message v => return { c with message := v }
  | .options v => return { c with options := v }
  | .toggleOption word => return { c with options := Options.toggle c.options word }
  | .toggleMenu => do
    if !c.menuOpen then Host.fitDropdown menuId
    return { c with menuOpen := !c.menuOpen }
  | .togglePanel => return { c with panel := if c.panel.isSome then none else some {} }
  | .panel m => match c.panel with
    | none => return c
    | some p => do
      let (signed, p) ← p.update c.message m
      return c.receiveSigned signed p
  | .send => do
    let (_, sender) ← c.sender.send
      { draft := c.draft (← Host.selectedFile imageInput), hasTrigger := true }
    return { c with sender }

def poll (c : Composer) : Act Composer := do
  let (_, sender) ← c.sender.poll
  let c := { c with sender }
  match c.panel with
  | none => return c
  | some p =>
    let (signed, p) ← p.poll
    return c.receiveSigned signed p

def heading (c : Composer) : String := if c.topic.isNew then "发表新主题" else "回复"

def checkbox (options word : String) : Html Message :=
  .element "label" [] none [
    .element "input" (("type", "checkbox") :: Html.flag "checked" (Options.has options word))
      (some (.change fun _ => .toggleOption word)) [],
    .text (" " ++ word)]

def textInput (hint value : String) (m : String → Message) : Html Message :=
  .element "input" [("type", "text"), ("placeholder", hint), ("value", value)] (some (.input m)) []

def menu (marker : String) (c : Composer) : Html Message :=
  let button : Html Message :=
    .element "button" [("type", "button")] (some (.click fun _ => .toggleMenu)) [.text "选项"]
  let inner : Html Message :=
    .element "div" [("id", menuId), ("class", "dropdown-panel")] none
      [checkbox c.options sage, checkbox c.options marker,
        textInput "options" c.options .options]
  .element "div" [("class", "dropdown")] none (if c.menuOpen then [button, inner] else [button])

def actions (c : Composer) : Html Message :=
  .element "div" [("class", "composer-actions")] none [
    .element "button" [("type", "button")] (some (.click fun _ => .togglePanel))
      [.text (if c.panel.isSome then "取消签名" else "PGP 签名")],
    .element "button"
      ([("type", "button"), ("class", "submit")] ++ Html.flag "disabled" c.sender.busy)
      (some (.click fun _ => .send)) [.text (if c.sender.busy then "发送中..." else "发送")]]

def group (inner : Html Message) : Html Message :=
  .element "div" [("class", "form-group")] none [inner]

def view (marker : String) (c : Composer) : Html Message :=
  .element "form" [("class", "composer")] (some .hold) (
    [.element "h3" [] none [.text c.heading]] ++
    (if c.topic.isNew then [group (textInput "标题" c.subject .subject)] else []) ++
    [group (.element "textarea" [("placeholder", "内容"), ("value", c.message)]
        (some (.input .message)) []),
      group (.element "input"
        [("type", "file"), ("id", imageInput), ("accept", "image/*")] none []),
      c.menu marker,
      c.actions] ++
    (c.panel.map fun p => p.view.map .panel).toList)

end Composer

end ForumClient

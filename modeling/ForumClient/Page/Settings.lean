import ForumClient.Browser.Host
import ForumClient.Page.Html

namespace ForumClient

structure Settings where
  imageView : ImageView
  foldLook : FoldLook
  deriving DecidableEq, Repr

namespace Settings

inductive Message
  | imageView : String → Message
  | foldLook : String → Message
  deriving DecidableEq, Repr

def ofStorage (s : Storage) : Settings := ⟨s.imageView, s.foldLook⟩

def Message.key : Message → String
  | .imageView _ => Preferences.imageViewKey
  | .foldLook _ => Preferences.foldLookKey

def Message.write (s : Storage) : Message → Except Failure Unit × Storage
  | .imageView v => s.setImageView (.ofSetting (some v))
  | .foldLook v => s.setFoldLook (.ofSetting (some v))

def chosen (p : Settings) : Message → Settings
  | .imageView v => { p with imageView := .ofSetting (some v) }
  | .foldLook v => { p with foldLook := .ofSetting (some v) }

def choose (m : Message) (p : Settings) (s : Storage) :
    Except Failure Unit × Settings × Storage :=
  match m.write s with
  | (.ok (), s) => (.ok (), p.chosen m, s)
  | (.error e, s) => (.error e, p, s)

def update (p : Settings) (m : Message) : Act Settings := do
  let (result, p, s) := choose m p (← get).storage
  if let .error e ← Host.keep m.key (result, s) then
    Host.console ("[SETTINGS] " ++ e.message)
  return p

def select (label value : String) (m : String → Message) (choices : List (String × String)) :
    Html Message :=
  .element "div" [("class", "form-group")] none [
    .element "label" [] none [.text label],
    .element "select" [("value", value)] (some (.change m))
      (choices.map fun (v, name) => .element "option" [("value", v)] none [.text name])]

def view (p : Settings) : Html Message :=
  .element "div" [("class", "settings")] none [
    .element "h2" [] none [.text "设置"],
    select "图片查看方式" p.imageView.setting .imageView
      [(ImageView.expand.setting, "原地展开"), (ImageView.newTab.setting, "新标签页打开")],
    select "折叠样式" p.foldLook.setting .foldLook
      [(FoldLook.gray.setting, "灰色"), (FoldLook.hide.setting, "隐藏")]]

end Settings

end ForumClient

import ForumClient.Desktop
import ForumClient.Text.Numeral

namespace ForumClient

inductive ImageView
  | expand
  | newTab
  deriving DecidableEq, Repr

namespace ImageView

def ofSetting : Option String → ImageView
  | none => .expand
  | some "expand" => .expand
  | some _ => .newTab

def setting : ImageView → String
  | .expand => "expand"
  | .newTab => "tab"

end ImageView

inductive Download
  | unloaded
  | loading
  | loaded : Text → Download
  | failed
  deriving DecidableEq, Repr

structure Image where
  enlarged : Bool := false
  download : Download := .unloaded
  label : Text := []
  deriving DecidableEq, Repr, Inhabited

namespace Image

inductive Action
  | openInNewTab
  | fetch
  | enlarge
  | shrink
  | ignore
  deriving DecidableEq, Repr

def startLabel : Text := "0%".toList

def failedLabel : Text := "加载失败".toList

def toggle : ImageView → Image → Action × Image
  | .newTab, i => (.openInNewTab, i)
  | .expand, i => match i.download, i.enlarged with
    | .loading, _ => (.ignore, i)
    | _, true => (.shrink, { i with enlarged := false })
    | .loaded _, false => (.enlarge, { i with enlarged := true })
    | _, false => (.fetch, { enlarged := true, download := .loading, label := startLabel })

def progressLabel (loaded total : Float) : Option Text :=
  if total.isNaN || total ≤ 0 || !loaded.isFinite then none
  else
    let percent := loaded / total * 100
    let percent := if percent < 0 then 0 else if percent > 100 then 100 else percent
    some (Numeral.write percent.toUInt32.toNat ++ ['%'])

def progress (loaded total : Float) (i : Image) : Image :=
  match i.download with
  | .loading => { i with label := (progressLabel loaded total).getD i.label }
  | _ => i

def settle (result : Except Failure Text) (i : Image) : Image :=
  match i.download, result with
  | .loading, .ok url => { i with download := .loaded url, label := [] }
  | .loading, .error _ => { i with download := .failed, label := failedLabel }
  | _, _ => i

def cssClass (i : Image) : String := if i.enlarged then "image-large" else "image"

def source (i : Image) (thumbnail : Text) : Text :=
  match i.download with
  | .loaded url => url
  | _ => thumbnail

end Image

inductive TransferEnd
  | load
  | error
  | abort
  | timeout
  deriving DecidableEq, Repr

namespace TransferEnd

def all : List TransferEnd := [.load, .error, .abort, .timeout]

def event : TransferEnd → String
  | .load => "load"
  | .error => "error"
  | .abort => "abort"
  | .timeout => "timeout"

def ofEvent? (name : String) : Option TransferEnd := all.find? (·.event == name)

def result : TransferEnd → Except Failure Unit
  | .load => .ok ()
  | .error => .error (.transport "network error")
  | .abort => .error (.transport "download aborted")
  | .timeout => .error (.transport "download timed out")

end TransferEnd

end ForumClient

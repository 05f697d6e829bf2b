import ForumClient.Browser.Value
import ForumClient.Dropdown
import ForumClient.Preferences.Basic

/-!
A browser whose answers are laid down beforehand: what its store and its page hold, which of its
parts are missing, and which calls throw what.
-/

namespace ForumClient

inductive Part
  | window
  | storage
  | document
  | head
  deriving DecidableEq, Repr

inductive Call
  | storage
  | getItem : (key : String) → Call
  | setItem : (key : String) → Call
  | request
  | fetch
  | text
  | formData
  | append : (field : String) → Call
  | alert
  | navigate
  | reload
  | openWindow
  | global : (name : String) → Call
  | closest
  | scrollY
  | innerHeight
  | style : (property : String) → Call
  | createElement
  | appendChild
  | setProperty
  | transfer
  | openTransfer
  | listen : (event : String) → Call
  | send
  | status
  | response
  | blob
  | objectUrl
  deriving DecidableEq, Repr

def Call.name : Call → String
  | .storage => "localStorage"
  | .getItem key => "getItem " ++ key
  | .setItem key => "setItem " ++ key
  | .request => "Request"
  | .fetch => "fetch"
  | .text => "text"
  | .formData => "FormData"
  | .append field => "append " ++ field
  | .alert => "alert"
  | .navigate => "set_href"
  | .reload => "reload"
  | .openWindow => "open"
  | .global name => "window." ++ name
  | .closest => "closest"
  | .scrollY => "scrollY"
  | .innerHeight => "innerHeight"
  | .style property => "style " ++ property
  | .createElement => "createElement"
  | .appendChild => "appendChild"
  | .setProperty => "Reflect.set"
  | .transfer => "XMLHttpRequest"
  | .openTransfer => "xhr open"
  | .listen event => "xhr listen " ++ event
  | .send => "xhr send"
  | .status => "xhr status"
  | .response => "xhr response"
  | .blob => "Blob"
  | .objectUrl => "createObjectURL"

structure Browser where
  stored : Table String String := .empty
  globals : List (String × Value) := []
  elements : List (String × PageElement) := []
  scrollY : Float := 0
  innerHeight : Value := .undefined
  makesScripts : Bool := true
  missing : List Part := []
  faults : List (String × String) := []

namespace Browser

def has (b : Browser) (p : Part) : Bool := !b.missing.contains p

def thrown? (b : Browser) (c : Call) : Option Value := (b.faults.lookup c.name).map .string

def attempt (b : Browser) (c : Call) (what : String) : Except String Unit :=
  match b.thrown? c with
  | some v => .error (what ++ ": " ++ v.describe)
  | none => .ok ()

def window (b : Browser) : Except String Unit :=
  if b.has .window then .ok () else .error "No window"

def document (b : Browser) : Except String Unit := do
  b.window
  if b.has .document then .ok () else .error "No document"

def findStorage (b : Browser) : Except String Unit := do
  b.window
  b.attempt .storage "localStorage unavailable"
  if b.has .storage then .ok () else .error "No localStorage"

def storageFault? (b : Browser) (c : Call) : Option Failure :=
  match b.findStorage with
  | .error e => some (.storage e)
  | .ok () => (b.thrown? c).map fun v => .storage v.describe

def storage (b : Browser) : Storage :=
  { entries := b.stored
    readFault? := fun key => b.storageFault? (.getItem key)
    writeFault? := fun key => b.storageFault? (.setItem key) }

def global (b : Browser) (name : String) : Except Value Value :=
  match b.thrown? (.global name) with
  | some v => .error v
  | none => .ok ((b.globals.lookup name).getD .undefined)

def global? (b : Browser) (name : String) : Option Value :=
  match b.window, b.global name with
  | .ok (), .ok v => if v.isMissing then none else some v
  | _, _ => none

def element? (b : Browser) (id : String) : Option PageElement :=
  match b.document with
  | .ok () => b.elements.lookup id
  | .error _ => none

def selectedFile? (b : Browser) (id : String) : Option String := do
  let e ← b.element? id
  if e.kind = .input then
    let files ← e.files
    files.head?
  else none

end Browser

end ForumClient

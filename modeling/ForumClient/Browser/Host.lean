import ForumClient.Browser.Basic
import ForumClient.Browser.Value
import ForumClient.Config
import ForumClient.Dropdown
import ForumClient.Post.Rendering
import ForumClient.Preferences.Fold
import ForumClient.Signing.Lazy
import ForumClient.Submission.Draft
import ForumClient.Submission.Token

/-!
What a page runs on: a browser, or nothing but a store in memory; everything begun outside the
page; and the record of what it is seen to do.
-/

namespace ForumClient

inductive Record
  | fetch : (method url : String) → Option (List (FormField String)) → Record
  | alert : String → Record
  | navigate : (url : String) → Record
  | reload
  | openWindow : (url target : String) → Record
  | store : (key value : String) → Record
  | console : String → Record
  | style : (element property value : String) → Record
  | script : (url : String) → Record
  | openTransfer : (number : Nat) → (url : String) → Record
  | sendTransfer : (number : Nat) → (events : List String) → Record
  | listenersLeft : (number count : Nat) → Record
  | blob
  | call : (function : String) → List Value → Record

inductive Reply
  | rejected : Value → Reply
  /-- The body is what reading it gives, a promise or a settled value. -/
  | response : (status : Nat) → (body : Value) → Reply
  | other

structure Transfer where
  watched : Bool := false
  listeners : List TransferEnd := []
  /-- The first end, with the status of the answer. -/
  ended : Option (TransferEnd × Nat) := none

inductive ScriptEnd
  | load
  | error
  deriving DecidableEq, Repr

inductive Loading
  | script : (number : Nat) → Loading
  | done : Except Failure Value → Loading

structure Host where
  config : Config
  browser : Option Browser
  memory : Storage := {}
  records : List Record := []
  replies : List (Option Reply) := []
  transfers : List Transfer := []
  scripts : List (Option ScriptEnd) := []
  promises : List (String × Option (Except Value Value)) := []
  objectUrls : Nat := 0
  library : Lazy Value := {}
  loadings : List Loading := []
  draws : Draws := []
  now : Millis := 0

abbrev Act (α : Type) := StateM Host α

theorem Act.run_bind (f : Act α) (g : α → Act β) (h : Host) :
    (f >>= g).run h = (g (f.run h).1).run (f.run h).2 := rfl

theorem Act.run_get (h : Host) : (get : Act Host).run h = (h, h) := rfl

namespace Host

def record (r : Record) : Act Unit :=
  modify fun h => if h.browser.isSome then { h with records := h.records ++ [r] } else h

def console (t : String) : Act Unit := record (.console t)

def inWindow (r : Record) : Act Unit := do
  match (← get).browser with
  | some b => if b.has .window then record r
  | none => pure ()

def alert (t : String) : Act Unit := inWindow (.alert t)

def navigate (url : String) : Act Unit := inWindow (.navigate url)

def reload : Act Unit := inWindow .reload

def openInNewTab (url : String) : Act Unit := inWindow (.openWindow url "_blank")

def storage (h : Host) : Storage :=
  match h.browser with
  | some b => b.storage
  | none => h.memory

def keep (key : String) (written : Except Failure Unit × Storage) : Act (Except Failure Unit) := do
  let (result, s) := written
  modify fun h => match h.browser with
    | some b => { h with browser := some { b with stored := s.entries } }
    | none => { h with memory := s }
  if let .ok () := result then record (.store key ((s.entries.get? key).getD ""))
  return result

def selectedFile (id : String) : Act (Option String) := do
  return (← get).browser.bind (·.selectedFile? id)

def invoke (f : Value) (arguments : List Value) : Act (Option (Except Value Value)) :=
  match f with
  | .function name result => do
    record (.call name arguments)
    return some (result.mapError .string)
  | _ => return none

def captchaReader? (h : Host) : Option Value := do
  let b ← h.browser
  let widget ← b.global? "grecaptcha"
  (widget.get "getResponse").toOption

def captcha : Act (Option String) := do
  match captchaReader? (← get) with
  | none => return none
  | some f => match ← invoke f [] with
    | some (.ok (.string t)) => return if t = "" then none else some t
    | _ => return none

def clickedSlot (h : Host) (slot : Option Text) : Option Text := do
  let b ← h.browser
  if (b.thrown? .closest).isSome then none else slot

def setStyle (b : Browser) (id property value : String) : ExceptT String (StateM Host) Unit := do
  b.attempt (.style property) "style"
  record (.style id property value)

def shrinkToWindow (b : Browser) (id : String) (margin : Float) :
    ExceptT String (StateM Host) Unit := do
  b.document
  let some e := b.elements.lookup id | throw ("No element #" ++ id)
  if e.kind = .foreign then throw "Not an HTML element"
  b.attempt .scrollY "scrollY"
  b.attempt .innerHeight "innerHeight"
  let viewportHeight := match b.innerHeight with
    | .number x => x
    | _ => 0
  let panel : Dropdown := ⟨e.height, e.top + b.scrollY, b.scrollY, viewportHeight⟩
  if let some height := panel.fit? margin then
    setStyle b id "height" (String.ofList (Decimal.plain.write height) ++ "px")
    setStyle b id "overflow-y" "scroll"

def fitDropdown (id : String) : Act Unit := do
  if let some b := (← get).browser then
    if let .error e ← (shrinkToWindow b id (← get).config.dropdownMargin).run then
      console ("[DROPDOWN] " ++ e)

def expect (names : List String) : Act Unit :=
  modify fun h =>
    let promises := names.foldl
      (fun ps n => if (ps.lookup n).isSome then ps else ps ++ [(n, none)]) h.promises
    { h with promises }

def settled? (h : Host) : Value → Option (Except Value Value)
  | .settled r => some r
  | .pending name => (h.promises.lookup name).join
  | v => some (.ok v)

def drawToken : Act Token := modifyGet fun h =>
  let (t, draws) := Token.generate h.draws
  (t, { h with draws })

def redraw (h : Host) (old : Token) : Token × Draws :=
  (Token.rotate? old h.draws).getD (old, h.draws)

end Host

end ForumClient

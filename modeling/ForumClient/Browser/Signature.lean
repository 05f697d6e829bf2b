import ForumClient.Browser.Library
import ForumClient.Signing.Lazy

namespace ForumClient

open Signing

inductive Signature
  | loading : Lazy.Caller → Signature
  | asked : (library : Value) → Stage Value → (answer : Value) → Signature
  | done : Except Failure String → Signature

namespace Signature

abbrev Ask (α : Type) := ExceptT String (StateM Host) α

def property (v : Value) (name : String) : Except String Value :=
  (v.get name).mapError fun e => name ++ ": " ++ e.describe

def call (target : Value) (name : String) (arguments : List Value) : Ask Value := do
  match ← Host.invoke (← property target name) arguments with
  | none => throw (name ++ " is not a function")
  | some (.error e) => throw (name ++ ": " ++ e.describe)
  | some (.ok v) => return v

def setProperty : Ask Unit := do
  if let some b := (← get).browser then b.attempt .setProperty "options"

def ask (library : Value) (r : Request) : Stage Value → Ask Value
  | .read => do call (← property library "key") "readArmored" [.string r.armoredKey]
  | .unlock key => call key "decrypt" [.string r.passphrase]
  | .sign key => do
    let message ← call (← property library "cleartext") "fromText" [.string r.text]
    setProperty
    call library "sign"
      [.object [("message", .ok message), ("privateKeys", .ok (.array [key]))]]
  | .done _ => return .undefined

def firstKey (v : Value) : Except String Value := do
  match ← property v "keys" with
  | .array keys => match keys.headD .undefined with
    | .undefined => throw "no private key found"
    | key => return key
  | _ => throw "keys is not an array"

def signedText (v : Value) : Except String String := do
  match (← property v "data").text? with
  | some t => return t
  | none => throw "signed data is not a string"

def receive (answer : Except String Value) : Stage Value → Stage Value
  | .read => .afterRead ((answer.bind firstKey).mapError .crypto)
  | .unlock key => .afterUnlock key ((answer.map fun _ => ()).mapError .crypto)
  | .sign _ => .afterSign ((answer.bind signedText).mapError .crypto)
  | .done r => .done r

def remaining : Stage Value → Nat
  | .read => 3
  | .unlock _ => 2
  | .sign _ => 1
  | .done _ => 0

theorem remaining_receive {s : Stage Value} (answer : Except String Value) (h : remaining s ≠ 0) :
    remaining (receive answer s) < remaining s := by
  cases s with
  | read =>
    simp only [receive]
    cases (answer.bind firstKey).mapError Failure.crypto <;> simp [Stage.afterRead, remaining]
  | unlock => simp [receive, Stage.afterUnlock, remaining]
  | sign => simp [receive, Stage.afterSign, remaining]
  | done => exact absurd rfl h

def answer? (h : Host) (v : Value) : Option (Except String Value) :=
  (h.settled? v).map (·.mapError fun e => "promise rejected: " ++ e.describe)

def proceed (library : Value) (r : Request) (s : Stage Value) : Act Signature := do
  match _h : s with
  | .done result => return .done result
  | .read | .unlock _ | .sign _ =>
    match ← (ask library r s).run with
    | .error e => proceed library r (receive (.error e) s)
    | .ok v => match answer? (← get) v with
      | none => return .asked library s v
      | some a => proceed library r (receive a s)
termination_by remaining s
decreasing_by all_goals (subst _h; exact remaining_receive _ (by simp [remaining]))

def poll (r : Request) : Signature → Act Signature
  | .loading c => do
    match ← Host.pollLibrary c with
    | (none, c) => return .loading c
    | (some (.error e), _) => return .done (.error e)
    | (some (.ok library), _) => proceed library r .read
  | .asked library s v => do
    match answer? (← get) v with
    | none => return .asked library s v
    | some a => proceed library r (receive a s)
  | .done result => return .done result

end Signature

end ForumClient

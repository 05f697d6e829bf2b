import ForumClient.Signing.Lazy
import ForumClient.Text.Basic

namespace ForumClient.Signing.Rehearsal

inductive Event
  | load : (number : Nat) → Event
  | read : (armored : String) → Event
  | unlock : (name : String) → (passphrase : String) → Event
  | sign : (name : String) → (text : String) → Event
  deriving DecidableEq, Repr

structure Key where
  name : String
  locked : Bool
  deriving DecidableEq, Repr

def readKey (armored : String) : Except Failure Key :=
  match Text.literal? "KEY:" armored.toList with
  | some name => .ok ⟨String.ofList name, (Text.literal? "enc-" name).isSome⟩
  | none => .error (.crypto "no key found")

def unlockKey (k : Key) (passphrase : String) : Except Failure Key :=
  if passphrase = k.name then .ok { k with locked := false }
  else .error (.crypto "wrong passphrase")

def signWith (library : Nat) (k : Key) (text : String) : Except Failure String :=
  if k.locked then .error (.crypto "key is locked")
  else .ok (text ++ "\n--sig:" ++ toString library ++ ":" ++ k.name)

def signText (library : Nat) (r : Request) : Except Failure String × List Event :=
  match readKey r.armoredKey with
  | .error e => (.error e, [.read r.armoredKey])
  | .ok key =>
    let key' := (unlockKey key r.passphrase).toOption.getD key
    (signWith library key' r.text,
      [.read r.armoredKey, .unlock key.name r.passphrase, .sign key.name r.text])

structure Call where
  signing : Option Request
  caller : Lazy.Caller := .fresh

structure State where
  library : Lazy Nat := {}
  calls : List (String × Call) := []
  ready : List (Nat × Except Failure Nat) := []

inductive Polled
  | noCall
  | pending
  | library : Nat → Polled
  | signed : String → Polled
  | failed : Failure → Polled

namespace State

def find? (s : State) (name : String) : Option Call := s.calls.lookup name

def dropCall (s : State) (name : String) : State :=
  { s with calls := s.calls.filter (·.1 ≠ name) }

def setCall (s : State) (name : String) (c : Call) : State :=
  { s with calls := (name, c) :: (s.dropCall name).calls }

def setReady (s : State) (load : Nat) (r : Except Failure Nat) : State :=
  { s with ready := s.ready ++ [(load, r)] }

def poll (s : State) (name : String) : Polled × List Event × State :=
  match s.find? name with
  | none => (.noCall, [], s)
  | some call =>
    let (result, caller, library) :=
      s.library.poll (fun load => List.lookup load s.ready) call.caller
    let started := (List.range' s.library.loads.length
      (library.loads.length - s.library.loads.length)).map fun n => Event.load (n + 1)
    let s := { s with library }
    match result with
    | none => (.pending, started, s.setCall name { call with caller })
    | some (.error e) => (.failed e, started, s.dropCall name)
    | some (.ok n) => match call.signing with
      | none => (.library n, started, s.dropCall name)
      | some r =>
        let (signed, events) := signText n r
        let polled := match signed with
          | .ok t => Polled.signed t
          | .error e => .failed e
        (polled, started ++ events, s.dropCall name)

end State

end ForumClient.Signing.Rehearsal

import ForumClient.Desktop

/-!
Signing a text with a private key, and the library for it. The key is read, then unlocked, then
used; a passphrase that does not unlock the key is ignored, since the key may not be locked at all.
The library is loaded on first use and shared: all callers that come while a load is under way wait
for that load; a load that failed is forgotten, so the next caller starts another.
-/

namespace ForumClient

/-- Every load started so far, with its result once it has finished, and the load that callers
join. -/
structure Lazy (α : Type) where
  loads : List (Option (Except Failure α)) := []
  current : Option Nat := none

namespace Lazy

def result? (l : Lazy α) (load : Nat) : Option (Except Failure α) := (l.loads[load]?).join

def join (l : Lazy α) : Nat × Lazy α :=
  match l.current with
  | some load => (load, l)
  | none => (l.loads.length, ⟨l.loads ++ [none], some l.loads.length⟩)

def finish (l : Lazy α) (load : Nat) (r : Except Failure α) : Lazy α :=
  match l.loads[load]? with
  | some none => { l with loads := l.loads.set load (some r) }
  | _ => l

def isFailed : Option (Except Failure α) → Bool
  | some (.error _) => true
  | _ => false

def isOk : Option (Except Failure α) → Bool
  | some (.ok _) => true
  | _ => false

/-- A caller that was told of a failure clears the current load if that one has failed. -/
def forget (l : Lazy α) : Lazy α :=
  match l.current with
  | some load => if isFailed (l.result? load) then { l with current := none } else l
  | none => l

def isLoaded (l : Lazy α) : Bool :=
  match l.current with
  | some load => isOk (l.result? load)
  | none => false

def await (l : Lazy α) (load : Nat) : Option (Except Failure α) × Lazy α :=
  match l.result? load with
  | some (.ok a) => (some (.ok a), l)
  | some (.error e) => (some (.error e), l.forget)
  | none => (none, l)

inductive Caller
  | fresh
  | waiting : (load : Nat) → Caller
  deriving DecidableEq, Repr

/-- Polls a caller. The load that it waits for is driven by the poll: it finishes when the world
has its result `ready`. -/
def poll (ready : Nat → Option (Except Failure α)) (l : Lazy α) (c : Caller) :
    Option (Except Failure α) × Caller × Lazy α :=
  let (load, l) := match c with
    | .fresh => l.join
    | .waiting load => (load, l)
  let l := match ready load with
    | some r => l.finish load r
    | none => l
  let (result, l) := l.await load
  (result, .waiting load, l)

end Lazy

end ForumClient

namespace ForumClient.Signing

structure Request where
  armoredKey : String
  passphrase : String
  text : String
  deriving DecidableEq, Repr

inductive Stage (κ : Type)
  | read
  | unlock : κ → Stage κ
  | sign : κ → Stage κ
  | done : Except Failure String → Stage κ

def Stage.afterRead : Except Failure κ → Stage κ
  | .ok key => .unlock key
  | .error e => .done (.error e)

def Stage.afterUnlock (key : κ) (_ : Except Failure Unit) : Stage κ := .sign key

def Stage.afterSign (signed : Except Failure String) : Stage κ := .done signed

end ForumClient.Signing

import ForumClient.Browser.Host
import ForumClient.Desktop

namespace ForumClient

namespace Browser

def libraryName : String := "openpgp"

def addScript (b : Browser) : Except String Unit := do
  b.document
  b.attempt .createElement "createElement"
  if !b.makesScripts then throw "Not a script element"
  if !b.has .head then throw "No <head>"
  b.attempt .appendChild "appendChild"

end Browser

namespace Loading

def start : Act Loading := do
  let h ← get
  let url := h.config.cryptoLibrary
  match h.browser with
  | none => return .done ((Desktop.loadLibrary url).map .string)
  | some b => match b.global? Browser.libraryName with
    | some library => return .done (.ok library)
    | none =>
      Host.console ("[PGP] Loading " ++ url)
      match b.addScript with
      | .error e => return .done (.error (.script e))
      | .ok () =>
        Host.record (.script url)
        modifyGet fun h => (.script h.scripts.length, { h with scripts := h.scripts ++ [none] })

def result? (h : Host) : Loading → Option (Except Failure Value)
  | .done r => some r
  | .script number => match (h.scripts[number]?).join with
    | none => none
    | some .error => some (.error (.script ("failed to load " ++ h.config.cryptoLibrary)))
    | some .load => match h.browser.bind (·.global? Browser.libraryName) with
      | some library => some (.ok library)
      | none => some (.error (.script "openpgp global missing after load"))

end Loading

namespace Host

def pollLibrary (c : Lazy.Caller) : Act (Option (Except Failure Value) × Lazy.Caller) := do
  if c = .fresh && (← get).library.current.isNone then
    let l ← Loading.start
    modify fun h => { h with loadings := h.loadings ++ [l] }
  modifyGet fun h =>
    let ready := fun load => (h.loadings[load]?).bind (Loading.result? h)
    let (r, c, library) := h.library.poll ready c
    ((r, c), { h with library })

def awaitsScript (h : Host) (number : Nat) : Bool :=
  h.loadings.zipIdx.any fun (l, load) =>
    match l with
    | .script n => n == number && (h.library.result? load).isNone
    | .done _ => false

end Host

end ForumClient

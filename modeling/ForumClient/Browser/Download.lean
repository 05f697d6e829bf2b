import ForumClient.Browser.Host
import ForumClient.Desktop

namespace ForumClient

namespace Transfer

def attachable (b : Browser) : List TransferEnd :=
  TransferEnd.all.takeWhile fun e => (b.thrown? (.listen e.event)).isNone

def attachAll (b : Browser) : Except String Unit :=
  TransferEnd.all.forM fun e => b.attempt (.listen e.event) "XHR listener"

def events (t : Transfer) : List String :=
  (t.listeners.map TransferEnd.event).mergeSort fun a b => decide (a ≤ b)

def start (b : Browser) (number : Nat) (url : String) :
    Except String Unit × Transfer × List Record :=
  match b.attempt .openTransfer "XHR open" with
  | .error e => (.error e, {}, [])
  | .ok () =>
    let t : Transfer := { watched := true, listeners := attachable b }
    match (do attachAll b; b.attempt .send "XHR send" : Except String Unit) with
    | .error e => (.error e, t, [.openTransfer number url])
    | .ok () => (.ok (), t, [.openTransfer number url, .sendTransfer number t.events])

def finish (e : TransferEnd) (status : Nat) (t : Transfer) : Transfer :=
  { t with ended := some (t.ended.getD (e, status)) }

def release (t : Transfer) : Transfer := { t with watched := false, listeners := [] }

/-- The bytes of a transfer that ended well, under a name of their own; `names` counts the names
given so far. -/
def collect (b : Browser) (number status names : Nat) : Except String Text × List Record :=
  match b.attempt .status "XHR status" with
  | .error e => (.error e, [])
  | .ok () =>
    let left := Record.listenersLeft number 0
    if status ≥ 400 then (.error ("HTTP " ++ toString status), [left])
    else match (do b.attempt .response "XHR response"; b.attempt .blob "Blob" :
        Except String Unit) with
      | .error e => (.error e, [left])
      | .ok () => match b.attempt .objectUrl "Object URL" with
        | .error e => (.error e, [left, .blob])
        | .ok () => (.ok ("blob:" ++ toString (names + 1)).toList, [left, .blob])

def conclude (b : Browser) (number names : Nat) (e : TransferEnd) (status : Nat) :
    Except Failure Text × List Record :=
  match e.result with
  | .error e => (.error (.transport e.message), [])
  | .ok () =>
    let (r, records) := collect b number status names
    (r.mapError .transport, records)

end Transfer

namespace Host

def startDownload (url : Text) : Act (Except Failure Nat) := do
  let h ← get
  match h.browser with
  | none => return (Desktop.download (String.ofList url)).map fun _ => 0
  | some b => match b.attempt .transfer "XHR" with
    | .error e => return .error (.transport e)
    | .ok () =>
      let number := h.transfers.length
      let (r, t, records) := Transfer.start b (number + 1) (String.ofList url)
      set { h with transfers := h.transfers ++ [t], records := h.records ++ records }
      return (r.map fun _ => number).mapError .transport

def finishDownload (number : Nat) : Act (Option (Except Failure Text)) := do
  let h ← get
  match h.browser, (h.transfers[number]?).bind (·.ended) with
  | some b, some (e, status) =>
    let (r, records) := Transfer.conclude b (number + 1) h.objectUrls e status
    set { h with
      transfers := h.transfers.modify number Transfer.release
      records := h.records ++ records
      objectUrls := if r.toBool then h.objectUrls + 1 else h.objectUrls }
    return some r
  | _, _ => return none

end Host

end ForumClient

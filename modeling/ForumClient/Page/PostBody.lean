import ForumClient.Browser.Download
import ForumClient.Browser.Exchange
import ForumClient.Page.Html

namespace ForumClient

structure PostBody where
  document : Document
  fetches : List (Text × PostId × Exchange) := []
  downloads : List (Text × Nat) := []

namespace PostBody

def ofHtml (html : Text) : PostBody := { document := .ofHtml html }

def pollFetches : List (Text × PostId × Exchange) → PostBody → Act PostBody
  | [], b => return b
  | (slot, post, x) :: rest, b => do
    let h ← get
    let x := x.advance h
    match x.result? with
    | none => pollFetches rest { b with fetches := b.fetches ++ [(slot, post, x)] }
    | some r =>
      let reply := Exchange.fragment h.config post r
      pollFetches rest { b with document := b.document.settleReference slot reply }

def pollDownloads : List (Text × Nat) → PostBody → Act PostBody
  | [], b => return b
  | (slot, number) :: rest, b => do
    match ← Host.finishDownload number with
    | none => pollDownloads rest { b with downloads := b.downloads ++ [(slot, number)] }
    | some r => pollDownloads rest { b with document := b.document.settleImage slot r }

def poll (b : PostBody) : Act PostBody := do
  let b ← pollFetches b.fetches { b with fetches := [] }
  pollDownloads b.downloads { b with downloads := [] }

def progress (number : Nat) (loaded total : Float) (b : PostBody) : PostBody :=
  match b.downloads.find? (·.2 = number) with
  | some (slot, _) => { b with document := b.document.imageProgress slot loaded total }
  | none => b

def awaits (b : PostBody) (number : Nat) : Bool := b.downloads.any (·.2 = number)

def clickImage (slot : Text) (b : PostBody) : Act PostBody := do
  let (click, document) := b.document.clickImage slot (← get).storage.imageView
  let b := { b with document }
  match click with
  | some (.openInNewTab, url) => do
    Host.openInNewTab (String.ofList url)
    return b
  | some (.fetch, url) => match ← Host.startDownload url with
    | .ok number => return { b with downloads := b.downloads ++ [(slot, number)] }
    | .error e => return { b with document := document.settleImage slot (.error e) }
  | some (.enlarge, _) | some (.shrink, _) | some (.ignore, _) | none => return b

def click (slot : Text) (b : PostBody) : Act PostBody := do
  let (click, document) := b.document.clickReference slot
  match click with
  | some (.fetch, post) =>
    let x ← Exchange.fetchPost post
    poll { b with document, fetches := b.fetches ++ [(slot, post, x)] }
  | some (.collapse, _) | some (.ignore, _) => return { b with document }
  | none => clickImage slot b

def view (b : PostBody) : Html (Option Text) :=
  .element "div" [("class", "post-body")] (some (.click (·.slot))) [.raw b.document.render]

end PostBody

end ForumClient

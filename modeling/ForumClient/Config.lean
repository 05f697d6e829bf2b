import ForumClient.Post.Id

namespace ForumClient

structure Config where
  baseUrl : String := ""
  apiPath : String := "/api"
  cryptoLibrary : String := "/s/openpgp.min.js"
  /-- Options that contain this text keep the page after posting. -/
  noRedirectMarker : String := "nonoko"
  dropdownMargin : Float := 5

namespace Config

def same (c d : Config) : Bool :=
  c.baseUrl == d.baseUrl && c.apiPath == d.apiPath && c.cryptoLibrary == d.cryptoLibrary &&
    c.noRedirectMarker == d.noRedirectMarker && c.dropdownMargin == d.dropdownMargin

/-- A base without slashes at its end; the library under it unless another place is named. -/
def withOverrides (base library : Option String) : Config :=
  let baseUrl := String.ofList (((base.getD "").toList.reverse.dropWhile (· = '/')).reverse)
  let cryptoLibrary := match library with
    | some url => if url = "" then baseUrl ++ "/s/openpgp.min.js" else url
    | none => baseUrl ++ "/s/openpgp.min.js"
  { baseUrl, cryptoLibrary }

def url (c : Config) (path : String) : String := c.baseUrl ++ path

def apiUrl (c : Config) : String := c.url c.apiPath

end Config

namespace PostId

def permalink (p : PostId) (c : Config) : String := c.url ("/p/" ++ p.toString)

def rawUrl (p : PostId) (c : Config) : String := c.url ("/p/" ++ p.toString ++ "?raw=1")

end PostId

end ForumClient

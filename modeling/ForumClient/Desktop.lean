import ForumClient.Config

namespace ForumClient

inductive Failure
  | transport : String → Failure
  | malformedResponse : String → Failure
  | storage : String → Failure
  | crypto : String → Failure
  | script : String → Failure
  deriving DecidableEq, Repr

def Failure.message : Failure → String
  | .transport t => "transport error: " ++ t
  | .malformedResponse t => "malformed response: " ++ t
  | .storage t => "storage error: " ++ t
  | .crypto t => "crypto error: " ++ t
  | .script t => "script load failed: " ++ t

end ForumClient

namespace ForumClient.Desktop

def download (url : String) : Except Failure String :=
  .error (.transport ("cannot download " ++ url ++ " outside the browser"))

def fetchPost (c : Config) (p : PostId) : Except Failure String :=
  .error (.transport ("cannot fetch " ++ p.rawUrl c ++ " outside the browser"))

def postForm : Except Failure String := .error (.transport "HTTP only available in WASM")

def loadLibrary (url : String) : Except Failure String :=
  .error (.script ("cannot load " ++ url ++ " outside the browser"))

def crypto : Except Failure String := .error (.crypto "OpenPGP only available in WASM")

end ForumClient.Desktop

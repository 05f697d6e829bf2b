import ForumClient.Desktop
import ForumClient.Json.Writer
import ForumClient.Server.ErrorCode
import ForumClient.Submission.Draft

/-!
A forum that answers submissions from memory, with the checks of the server in their order.
-/

namespace ForumClient

structure Attachment where
  name : String
  bytes : List UInt8
  deriving DecidableEq, Repr

structure Forum where
  requests : List (String × List (FormField Attachment)) := []
  seen : List String := []
  topics : List UInt32 := []
  locked : List UInt32 := []
  nextLongid : UInt64 := 1000
  needsCaptcha : Bool := false
  refusesImages : Bool := false
  offline : Bool := false
  canned : Option String := none

namespace Forum

abbrev Fields := List (FormField Attachment)

def text? (fields : Fields) (name : String) : Option String :=
  (fields.find? (·.name == name)).bind FormField.text?

def file? (fields : Fields) : Option Attachment := fields.findSome? FormField.file?

inductive Answer
  | updated
  | posted : (longid : UInt64) → (topic : UInt32) → Answer
  | refused : ErrorCode → Answer
  deriving DecidableEq, Repr

def Answer.body : Answer → String
  | .updated => String.ofList (Json.writeObject [("success".toList, Json.writeBool true)])
  | .posted longid topic => String.ofList (Json.writeObject [
      ("longid".toList, Numeral.write longid.toNat), ("post".toList, Numeral.write 1),
      ("success".toList, Json.writeBool true), ("topic".toList, Numeral.write topic.toNat)])
  | .refused code => String.ofList (Json.writeObject [
      ("error".toList, code.toJson), ("success".toList, Json.writeBool false)])

def minMessage : Nat := 3

def imageEndings : List String := [".png", ".gif", ".jpg", ".jpeg"]

def isImageName (name : String) : Bool :=
  imageEndings.any fun ending => ending.toList.isSuffixOf (name.toList.map Char.toLower)

def messageOf (fields : Fields) : Text := Text.trim ((text? fields "message").getD "").toList

def topicOf (fields : Fields) : TopicId :=
  match TopicId.read ((text? fields "topic").getD "0").toList with
  | .ok t => t
  | .error _ => .new

def isShort (fields : Fields) : Bool := (messageOf fields).byteLength < minMessage

def refusalBefore? (f : Forum) (fields : Fields) : Option ErrorCode :=
  let topic := topicOf fields
  if !topic.isNew && !f.topics.contains topic.number then some .badRequest
  else if f.needsCaptcha && (text? fields "token").getD "" == "" then some .recaptchaNeeded
  else none

def refusalAfter? (f : Forum) (fields : Fields) : Option ErrorCode :=
  let image := file? fields
  if image.isSome && f.refusesImages then some .imageUploadDisabled
  else if isShort fields && image.isNone then some .messageTooShort
  else if f.locked.contains (topicOf fields).number then some .topicLocked
  else match image with
    | some a => if isImageName a.name then none else some .imageInvalidFormat
    | none => none

/-- A new post under a token; the topic of a new topic is the low half of the post's number. -/
def answerPost (f : Forum) (token : String) (fields : Fields) : Answer × Forum :=
  match f.refusalBefore? fields with
  | some code => (.refused code, f)
  | none =>
    if f.seen.contains token then (.refused .badRequest, f)
    else
      let f := { f with seen := token :: f.seen }
      match f.refusalAfter? fields with
      | some code => (.refused code, f)
      | none =>
        let topic := topicOf fields
        let number := if topic.isNew then f.nextLongid.toUInt32 else topic.number
        (.posted f.nextLongid number, { f with nextLongid := f.nextLongid + 1 })

def answer (f : Forum) (fields : Fields) : Answer × Forum :=
  match text? fields "uuid" with
  | none => (if isShort fields then .refused .messageTooShort else .updated, f)
  | some token => f.answerPost token fields

def handle (f : Forum) (url : String) (fields : Fields) : Except Failure String × Forum :=
  if f.offline then (.error (.transport "connection refused"), f)
  else
    let f := { f with requests := f.requests ++ [(url, fields)] }
    match f.canned with
    | some body => (.ok body, f)
    | none =>
      let (a, f) := f.answer fields
      (.ok a.body, f)

def addTopic (f : Forum) (topic : UInt32) (locked : Bool) : Forum :=
  { f with
    topics := topic :: f.topics
    locked := if locked then topic :: f.locked else f.locked }

def lastFile? (f : Forum) : Option String :=
  (f.requests.getLast?.bind fun r => file? r.2).map (·.name)

end Forum

end ForumClient

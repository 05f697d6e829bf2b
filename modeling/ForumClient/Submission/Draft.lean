import ForumClient.Post.Id
import ForumClient.Submission.Token
import ForumClient.Text.Basic

namespace ForumClient.Options

def has (options word : String) : Bool := (Text.words options.toList).contains word.toList

def toggleWord (word : Text) (words : List Text) : List Text :=
  if words.contains word then words.erase word else words ++ [word]

def toggle (options word : String) : String :=
  String.ofList (Text.joinWith [' '] (toggleWord word.toList (Text.words options.toList)))

def mentions (options marker : String) : Bool := Text.contains marker.toList options.toList

end ForumClient.Options

namespace ForumClient

inductive FormValue (α : Type)
  | text : String → FormValue α
  | file : α → FormValue α
  deriving DecidableEq, Repr

structure FormField (α : Type) where
  name : String
  value : FormValue α
  deriving DecidableEq, Repr

namespace FormField

def ofText (name text : String) : FormField α := ⟨name, .text text⟩

def text? (f : FormField α) : Option String :=
  match f.value with
  | .text t => some t
  | .file _ => none

def file? (f : FormField α) : Option α :=
  match f.value with
  | .text _ => none
  | .file a => some a

end FormField

structure Draft (α : Type) where
  token : Token
  subject : String := ""
  message : String := ""
  image : Option α := none
  topic : TopicId := .new
  options : Option String := none
  captcha : Option String := none
  deriving DecidableEq, Repr

def Draft.optionsText (d : Draft α) : String := d.options.getD ""

inductive Payload (α : Type)
  | update : String → Payload α
  | newPost : Draft α → Payload α
  deriving DecidableEq, Repr

namespace Payload

def build (d : Draft α) : (preset : Option String) → Payload α
  | some m => if m = "" then .newPost d else .update m
  | none => .newPost d

def isUpdate : Payload α → Bool
  | .update _ => true
  | .newPost _ => false

def imageField : Option α → List (FormField α)
  | some a => [⟨"image", .file a⟩]
  | none => []

def captchaField : Option String → List (FormField α)
  | some t => [.ofText "token" t]
  | none => []

def fields : Payload α → List (FormField α)
  | .update m => [.ofText "message" m]
  | .newPost d =>
    [.ofText "subject" d.subject, .ofText "message" d.message] ++ imageField d.image ++
      [.ofText "topic" d.topic.toString, .ofText "uuid" d.token.text,
        .ofText "options" d.optionsText] ++ captchaField d.captcha

end Payload

end ForumClient

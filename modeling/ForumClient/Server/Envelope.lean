import ForumClient.Desktop
import ForumClient.Post.Id
import ForumClient.Server.ErrorCode

namespace ForumClient

structure Envelope where
  success : Bool := false
  error : Option ErrorCode := none
  longid : Option UInt64 := none
  topic : Option UInt32 := none
  post : Option UInt16 := none
  modOperation : Option String := none
  deriving DecidableEq, Repr

namespace Envelope

inductive Field
  | success
  | error
  | longid
  | topic
  | post
  | modOperation
  deriving DecidableEq, Repr

def Field.all : List Field := [.success, .error, .longid, .topic, .post, .modOperation]

def Field.name : Field → String
  | .success => "success"
  | .error => "error"
  | .longid => "longid"
  | .topic => "topic"
  | .post => "post"
  | .modOperation => "mod-operation"

def Field.ofName? (name : Text) : Option Field := all.find? (·.name.toList == name)

open Json (Reader Fault)

def readField (e : Envelope) : Field → Reader Envelope
  | .success, s => (Reader.bool s).map fun (b, r) => ({ e with success := b }, r)
  | .error, s =>
    (Reader.optional ErrorCode.reader s).map fun (c, r) => ({ e with error := c }, r)
  | .longid, s =>
    (Reader.optional (Reader.natural "u64" UInt64.size) s).map fun (n, r) =>
      ({ e with longid := n.map UInt64.ofNat }, r)
  | .topic, s =>
    (Reader.optional (Reader.natural "u32" UInt32.size) s).map fun (n, r) =>
      ({ e with topic := n.map UInt32.ofNat }, r)
  | .post, s =>
    (Reader.optional (Reader.natural "u16" UInt16.size) s).map fun (n, r) =>
      ({ e with post := n.map UInt16.ofNat }, r)
  | .modOperation, s =>
    (Reader.optional Reader.string s).map fun (t, r) =>
      ({ e with modOperation := t.map String.ofList }, r)

def readMember (state : List Field × Envelope) (name : Text) : Reader (List Field × Envelope) :=
  fun s => match Field.ofName? name with
    | none => (Reader.afterColon Reader.skipped s).map fun (_, r) => (state, r)
    | some f =>
      if f ∈ state.1 then .error (Reader.atKey (.duplicateField f.name) s)
      else (Reader.afterColon (state.2.readField f) s).map fun (e, r) => ((f :: state.1, e), r)

/-- Elements in field order; a list that ends early leaves the rest at their defaults. -/
def readElements (e : Envelope) : (first : Bool) → List Field → Reader Envelope
  | _, [], s => .ok (e, s)
  | first, f :: fs, s => do
    match ← Reader.element first (e.readField f) s with
    | (none, s) => return (e, s)
    | (some e, s) => readElements e false fs s

def reader : Reader Envelope := Json.atValue fun
  | '{' :: s => (Reader.members readMember ([], {}) s).map fun (state, r) => (state.2, r)
  | '[' :: s => do
    let (e, s) ← readElements {} true Field.all s
    return (e, ← Reader.closeList s)
  | s => .error (Json.mismatch "struct ResponseEnvelope" s)

def parse (body : String) : Except Failure Envelope :=
  match Reader.run reader body.toList with
  | .ok e => .ok e
  | .error f => .error (.malformedResponse (String.ofList (f.text body.toList)))

def newPost? (e : Envelope) : Option PostId :=
  match e.longid with
  | some n => if n = 0 then none else some ⟨n⟩
  | none => none

end Envelope

inductive Report
  | rejected : Option ErrorCode → Report
  | failed : Failure → Report
  deriving DecidableEq, Repr

namespace Report

def heading : String := "发生错误："

def text : Report → String
  | .rejected none => heading ++ "\ncode: \n"
  | .rejected (some c) => heading ++ "\ncode: " ++ c.text ++ "\n" ++ c.description?.getD ""
  | .failed e => heading ++ "\n" ++ e.message

end Report

end ForumClient

import ForumClient.Page.Html
import ForumClient.Page.Sender

namespace ForumClient

structure QuickMessage where
  sender : Sender
  command : String := ""

namespace QuickMessage

inductive Message
  | command : String → Message
  | send
  deriving DecidableEq, Repr

def mount : Act QuickMessage := return { sender := ← Sender.mount }

def text (q : QuickMessage) : String := String.ofList (Text.trim q.command.toList)

def canSend (q : QuickMessage) : Bool := !q.sender.busy && q.text ≠ ""

def request (q : QuickMessage) : Submission.Request String :=
  { draft := { token := q.sender.token }
    preset := some q.text
    hasTrigger := true
    hasCallback := true }

def receive (q : QuickMessage) (ended : List Submission.Outcome × Sender) : Nat × QuickMessage :=
  let (outcomes, sender) := ended
  let saved := outcomes.countP (·.isAccepted)
  (saved, { sender, command := if saved = 0 then q.command else "" })

def update (q : QuickMessage) : Message → Act (Nat × QuickMessage)
  | .command v => return (0, { q with command := v })
  | .send => return q.receive (← q.sender.send q.request)

def poll (q : QuickMessage) : Act (Nat × QuickMessage) := return q.receive (← q.sender.poll)

def view (q : QuickMessage) : Html Message :=
  .element "div" [("class", "quick-message")] none [
    .element "input" [("type", "text"), ("placeholder", "指令"), ("value", q.command)]
      (some (.input .command)) [],
    .element "button" (("type", "button") :: Html.flag "disabled" !q.canSend)
      (some (.click fun _ => .send)) [.text "提交"]]

end QuickMessage

end ForumClient

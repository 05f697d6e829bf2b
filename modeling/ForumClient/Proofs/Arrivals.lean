import ForumClient.Proofs.ForumRun

namespace ForumClient.Forum

inductive Arrival
  | form : (url : String) → Fields → Arrival
  | addTopic : UInt32 → (locked : Bool) → Arrival
  | requireCaptcha : Bool → Arrival
  | refuseImages : Bool → Arrival
  | setOffline : Bool → Arrival

def receive (f : Forum) : Arrival → Forum
  | .form url r => (f.handle url r).2
  | .addTopic topic locked => f.addTopic topic locked
  | .requireCaptcha on => { f with needsCaptcha := on }
  | .refuseImages on => { f with refusesImages := on }
  | .setOffline on => { f with offline := on }

def receiveAll (f : Forum) (as : List Arrival) : Forum := as.foldl receive f

def Arrival.token? : Arrival → Option String
  | .form _ r => text? r "uuid"
  | _ => none

def reply? (f : Forum) : Arrival → Option (Except Failure String)
  | .form url r => some (f.handle url r).1
  | _ => none

def replies (f : Forum) : List Arrival → List (Except Failure String)
  | [] => []
  | a :: as => (f.reply? a).toList ++ (f.receive a).replies as

variable {f : Forum} {token url : String} {r : Fields}

theorem receiveAll_append (f : Forum) (as bs : List Arrival) :
    f.receiveAll (as ++ bs) = (f.receiveAll as).receiveAll bs :=
  List.foldl_append

theorem answerPost_of_fresh (h : token ∉ f.seen) (r : Fields) :
    f.answerPost token r = match f.refusalBefore? r with
      | some code => (.refused code, f)
      | none => match f.refusalAfter? r with
        | some code => (.refused code, { f with seen := token :: f.seen })
        | none =>
          (.posted f.nextLongid
              (if (topicOf r).isNew then f.nextLongid.toUInt32 else (topicOf r).number),
            { f with seen := token :: f.seen, nextLongid := f.nextLongid + 1 }) := by
  have hseen : f.seen.contains token = false := by simpa using h
  rw [answerPost, hseen]
  rfl

theorem answerPost_of_seen (h : token ∈ f.seen) (r : Fields) :
    f.answerPost token r = (.refused ((f.refusalBefore? r).getD .badRequest), f) := by
  have hseen : f.seen.contains token := by simpa using h
  rw [answerPost, hseen]
  cases f.refusalBefore? r <;> rfl

theorem answer_recorded (f : Forum) (requests : List (String × Fields)) (r : Fields) :
    { f with requests }.answer r = ((f.answer r).1, { (f.answer r).2 with requests }) := by
  rw [answer, answer]
  cases text? r "uuid" with
  | none => rfl
  | some t =>
    have hbefore : { f with requests }.refusalBefore? r = f.refusalBefore? r := rfl
    have hafter : { f with requests, seen := t :: f.seen }.refusalAfter? r =
      { f with seen := t :: f.seen }.refusalAfter? r := rfl
    simp only [answerPost, hbefore, hafter]
    split
    · rfl
    · split
      · rfl
      · split <;> rfl

theorem handle_canned (h : f.offline = false) {body : String} (hc : f.canned = some body)
    (url : String) (r : Fields) :
    f.handle url r = (.ok body, { f with requests := f.requests ++ [(url, r)] }) := by
  rw [handle, if_neg (by simp [h])]
  simp only [hc]

theorem handle_answer (h : f.offline = false) (hc : f.canned = none) (url : String) (r : Fields) :
    f.handle url r =
      (.ok (f.answer r).1.body, { (f.answer r).2 with requests := f.requests ++ [(url, r)] }) := by
  rw [handle_online h hc]
  dsimp only
  rw [answer_recorded f]

end ForumClient.Forum

import ForumClient.Proofs.JsonText
import ForumClient.Server.Envelope
import ForumClient.Server.Forum

namespace ForumClient

open Json

def Forum.Answer.envelope : Forum.Answer → Envelope
  | .updated => { success := true }
  | .posted longid topic =>
    { success := true, longid := some longid, topic := some topic, post := some 1 }
  | .refused code => { error := some (ErrorCode.ofText code.text) }

theorem ErrorCode.reader_toJson (code : ErrorCode) (rest : Text) :
    reader (code.toJson ++ rest) = .ok (ofText code.text, rest) := by
  rw [reader, toJson, Reader.string_writeString]
  simp [Except.map]

namespace Envelope

variable {e e' : Envelope} {fs : List Field} {f : Field} {c : Char} {s rest : Text}

theorem ofName?_name (f : Field) : Field.ofName? f.name.toList = some f := by
  cases f <;> decide

theorem readMember_of_read (hf : f ∉ fs) (h : e.readField f s = .ok (e', rest)) :
    readMember (fs, e) f.name.toList (':' :: s) = .ok ((f :: fs, e'), rest) := by
  rw [readMember, ofName?_name]
  simp only [hf, if_false, Reader.afterColon_colon, h]
  rfl

theorem readField_success (e : Envelope) (b : Bool) (rest : Text) :
    e.readField .success (writeBool b ++ rest) = .ok ({ e with success := b }, rest) := by
  rw [readField, Reader.bool_writeBool]
  rfl

theorem readField_error (e : Envelope) (code : ErrorCode) (rest : Text) :
    e.readField .error (code.toJson ++ rest) =
      .ok ({ e with error := some (ErrorCode.ofText code.text) }, rest) := by
  have hread := code.reader_toJson rest
  rw [ErrorCode.toJson, writeString_append] at hread
  rw [readField, ErrorCode.toJson, writeString_append,
    Reader.optional_of_read (by decide) (by decide) hread]
  rfl

theorem readField_longid (e : Envelope) (n : UInt64) (hs : Number.Ends s) :
    e.readField .longid (Numeral.write n.toNat ++ s) = .ok ({ e with longid := some n }, s) := by
  rw [readField, Reader.optional_natural n.toNat_lt_size (by decide) hs]
  simp [Except.map]

theorem readField_topic (e : Envelope) (n : UInt32) (hs : Number.Ends s) :
    e.readField .topic (Numeral.write n.toNat ++ s) = .ok ({ e with topic := some n }, s) := by
  rw [readField, Reader.optional_natural n.toNat_lt_size (by decide) hs]
  simp [Except.map]

theorem readField_post (e : Envelope) (n : UInt16) (hs : Number.Ends s) :
    e.readField .post (Numeral.write n.toNat ++ s) = .ok ({ e with post := some n }, s) := by
  rw [readField, Reader.optional_natural n.toNat_lt_size (by decide) hs]
  simp [Except.map]

theorem parse_writeObject {ms : List (Text × Text)} (h : Reads readMember ([], {}) ms (fs, e)) :
    parse (String.ofList (writeObject ms)) = .ok e := by
  obtain ⟨body, hbody, hread⟩ := members_writeObject h []
  rw [List.append_nil] at hbody
  have hreader : reader (writeObject ms) = .ok (e, []) := by
    rw [hbody, reader, atValue, skipSpace_cons (by decide)]
    simp [hread, Except.map]
  rw [parse, String.toList_ofList, Reader.run, hreader]
  rfl

theorem reads_cons {value : Text} {ms : List (Text × Text)} {state : List Field × Envelope}
    (hf : f ∉ fs) (h : ∀ c rest, c = ',' ∨ c = '}' →
      e.readField f (value ++ c :: rest) = .ok (e', c :: rest))
    (tail : Reads readMember (f :: fs, e') ms state) :
    Reads readMember (fs, e) ((f.name.toList, value) :: ms) state :=
  .cons (fun c rest hc => readMember_of_read hf (h c rest hc)) tail

theorem parse_body (a : Forum.Answer) : parse a.body = .ok a.envelope := by
  cases a with
  | updated =>
    have reads : Reads readMember ([], {}) [("success".toList, writeBool true)]
        ([.success], Forum.Answer.updated.envelope) :=
      reads_cons (by decide) (fun c rest _ => readField_success _ true (c :: rest)) (.nil _)
    exact parse_writeObject reads
  | posted longid topic =>
    have reads : Reads readMember ([], {})
        [("longid".toList, Numeral.write longid.toNat), ("post".toList, Numeral.write 1),
          ("success".toList, writeBool true), ("topic".toList, Numeral.write topic.toNat)]
        ([.topic, .success, .post, .longid], (Forum.Answer.posted longid topic).envelope) := by
      refine reads_cons (by decide)
        (fun c rest hc => readField_longid _ longid (Number.ends_of_mark hc rest)) ?_
      refine reads_cons (by decide)
        (fun c rest hc => readField_post _ 1 (Number.ends_of_mark hc rest)) ?_
      refine reads_cons (by decide) (fun c rest _ => readField_success _ true (c :: rest)) ?_
      exact reads_cons (by decide)
        (fun c rest hc => readField_topic _ topic (Number.ends_of_mark hc rest)) (.nil _)
    exact parse_writeObject reads
  | refused code =>
    have reads : Reads readMember ([], {})
        [("error".toList, code.toJson), ("success".toList, writeBool false)]
        ([.success, .error], (Forum.Answer.refused code).envelope) := by
      refine reads_cons (by decide) (fun c rest _ => readField_error _ code (c :: rest)) ?_
      exact reads_cons (by decide) (fun c rest _ => readField_success _ false (c :: rest)) (.nil _)
    exact parse_writeObject reads

theorem bind_parse_body (a : Forum.Answer) :
    (Except.ok a.body : Except Failure String).bind parse = .ok a.envelope :=
  parse_body a

end Envelope

end ForumClient

import ForumClient.Preferences.Fold
import ForumClient.Proofs.JsonText

namespace ForumClient

open Json

theorem PostId.write_injective : Function.Injective PostId.write := by
  rintro ⟨m⟩ ⟨n⟩ h
  rw [PostId.mk.injEq]
  exact UInt64.toNat_inj.mp (Numeral.write_injective h)

namespace FoldMap

def member (e : Text × Millis) : Text × Text := (e.1, writeInt e.2.toInt)

theorem readMember_writeInt (t : Table Text Millis) (key : Text) (stamp : Millis) {s : Text}
    (hs : Number.Ends s) :
    readMember t key (':' :: (writeInt stamp.toInt ++ s)) = .ok (t.put key stamp, s) := by
  have hread := Reader.integer_writeInt stamp.le_toInt stamp.toInt_lt hs
  rw [readMember, Reader.afterColon_colon, hread]
  simp [Except.map]

theorem reads_entries (t : Table Text Millis) (es : List (Text × Millis)) :
    Reads readMember t (es.map member) (es.foldl (fun t e => t.put e.1 e.2) t) := by
  induction es generalizing t with
  | nil => exact .nil t
  | cons e es ih =>
    exact .cons (fun c rest hc => readMember_writeInt t e.1 e.2 (Number.ends_of_mark hc rest))
      (ih (t.put e.1 e.2))

theorem ofJson_writeObject (es : List (Text × Millis)) :
    ofJson (String.ofList (writeObject (es.map member))) = .ok ⟨.ofList es⟩ := by
  obtain ⟨body, hbody, hread⟩ := members_writeObject (reads_entries .empty es) []
  rw [List.append_nil] at hbody
  have hreader : reader (writeObject (es.map member)) = .ok (⟨.ofList es⟩, []) := by
    rw [hbody, reader, atValue, skipSpace_cons (by decide)]
    simp [hread, Except.map, Table.ofList]
  rw [ofJson, String.toList_ofList, Reader.run, hreader]
  rfl

theorem ofJson_of_perm {m : FoldMap} {es : List (Text × Millis)} (h : es.Perm m.table.entries) :
    ofJson (String.ofList (writeObject (es.map member))) = .ok m := by
  rw [ofJson_writeObject, Table.ofList_of_perm h]

@[simp] theorem ofJson_toJson (m : FoldMap) : ofJson m.toJson = .ok m :=
  ofJson_of_perm (.refl m.table.entries)

end FoldMap

end ForumClient

import ForumClient.Proofs.AnswerSpelling
import ForumClient.Submission.Process

namespace ForumClient

open Json

namespace ErrorCode

def table : List (String × ErrorCode × String) := [
  ("bad-request", .badRequest, "无效请求 "),
  ("internal-error", .internalError, "内部错误"),
  ("recaptcha-needed", .recaptchaNeeded, "请完成验证"),
  ("recaptcha-failed", .recaptchaFailed, "验证失败，请刷新页面重试"),
  ("no-more-new-users", .noMoreNewUsers, "未持有cookie的匿名用户无法发言"),
  ("message-too-short", .messageTooShort, "正文内容过短"),
  ("topic-locked", .topicLocked, "主题已被锁定"),
  ("image-upload-failed", .imageUploadFailed, "图片上传失败"),
  ("image-upload-disabled", .imageUploadDisabled, "禁止上传图片"),
  ("image-invalid-format", .imageInvalidFormat, "图片格式不支持"),
  ("image-disk-error", .imageDiskError, "图片上传失败")]

inductive Names (s : String) : ErrorCode → Prop
  | known {c : ErrorCode} (known : c ∈ known) (text : c.text = s) : Names s c
  | unknown (other : ∀ c ∈ known, c.text ≠ s) : Names s (.unknown s)

variable {c : ErrorCode} {s : String}

theorem names_ofText (s : String) : Names s (ofText s) := by
  rw [ofText]
  cases h : known.find? (·.text == s) with
  | none => exact .unknown fun c hc => by simpa using List.find?_eq_none.mp h c hc
  | some c => exact .known (List.mem_of_find?_eq_some h) (by simpa using List.find?_some h)

theorem Names.text_eq (h : Names s c) : c.text = s := by
  cases h with
  | known _ text => exact text
  | unknown => rfl

theorem Names.isSome_iff (h : Names s c) : c.description?.isSome ↔ c ∈ ErrorCode.known := by
  cases h with
  | known known =>
    have hall : ∀ c ∈ ErrorCode.known, c.description?.isSome := by decide
    exact iff_of_true (hall c known) known
  | unknown => exact iff_of_false nofun (by simp [ErrorCode.known])

theorem Names.lookup_eq (h : Names s c) : table.lookup s = c.description?.map (c, ·) := by
  cases h with
  | known known text =>
    have hall : ∀ c ∈ ErrorCode.known, table.lookup c.text = c.description?.map (c, ·) := by decide
    rw [← text, hall c known]
  | unknown other =>
    have hnames : table.map Prod.fst = ErrorCode.known.map ErrorCode.text := rfl
    refine List.lookup_eq_none_iff.mpr fun e he => ?_
    have hname : e.1 ∈ ErrorCode.known.map ErrorCode.text := hnames ▸ List.mem_map_of_mem he
    obtain ⟨c, hc, htext⟩ := List.mem_map.mp hname
    rw [← htext]
    exact bne_iff_ne.mpr (other c hc).symm

theorem run_reader_toJson (c : ErrorCode) :
    Reader.run reader c.toJson = .ok (ofText c.text) := by
  have hread := c.reader_toJson []
  rw [List.append_nil] at hread
  rw [Reader.run, hread]
  rfl

end ErrorCode

namespace Envelope

variable {s body : String}

/-- An answer that refuses a submission for a reason: an object of the two members, in any order and
layout. -/
def Refuses (s body : String) : Prop :=
  ∃ ms v, SpellsObject ms body.toList ∧ Reader.SpellsString s.toList v ∧
    ms.Perm [(Field.success.name.toList, writeBool false), (Field.error.name.toList, v)]

theorem Refuses.parse_eq (h : Refuses s body) :
    parse body = .ok { error := some (ErrorCode.ofText s) } := by
  obtain ⟨ms, v, hbody, hv, hperm⟩ := h
  rw [parse_eq_ok_iff hbody]
  have hnames : (ms.map Prod.fst).Perm [Field.success.name.toList, Field.error.name.toList] :=
    hperm.map Prod.fst
  refine ⟨fun f => ?_, fun f w hmem => ?_, fun f hf => ?_⟩
  · rw [hnames.count_eq]
    cases f <;> decide
  · simp only [hperm.mem_iff, List.mem_cons, Prod.mk.injEq, List.not_mem_nil, or_false] at hmem
    rcases hmem with ⟨hf, rfl⟩ | ⟨hf, rfl⟩
    · obtain rfl := Field.name_injective hf
      rfl
    · obtain rfl := Field.name_injective hf
      exact ⟨s.toList, hv, by rw [String.ofList_toList]⟩
  · rw [hnames.mem_iff] at hf
    cases f <;> first | rfl | exact absurd hf (by decide)

theorem refuses_body (c : ErrorCode) : Refuses c.text (Forum.Answer.refused c).body := by
  refine ⟨_, c.toJson, ?_, spellsString_writeString _, List.Perm.swap _ _ _⟩
  rw [Forum.Answer.body, String.toList_ofList]
  refine spellsObject_writeObject _ (List.forall_mem_cons.mpr ⟨?_, List.forall_mem_singleton.mpr ?_⟩)
  · exact (spellsString_writeString _).spelled
  · exact .bool false

end Envelope

def ErrorCode.described (s : String) : String := ((table.lookup s).map fun row => row.2).getD ""

theorem Report.text_ofText (s : String) : (rejected (some (ErrorCode.ofText s))).text =
    heading ++ "\ncode: " ++ s ++ "\n" ++ ErrorCode.described s := by
  have hnames := ErrorCode.names_ofText s
  have hdescribed : ErrorCode.described s = (ErrorCode.ofText s).description?.getD "" := by
    rw [ErrorCode.described, hnames.lookup_eq, Option.map_map]
    exact congrArg (Option.getD · "") Option.map_id'
  rw [text, hnames.text_eq, hdescribed]

theorem Submission.finish_refused (c : Config) (f : InFlight) (next : Token)
    (h : Envelope.Refuses s body) : finish (α := α) f (outcome c f next (.ok body)) =
      [.alert (Report.text (.rejected (some (ErrorCode.ofText s)))), .replaceToken next] ++
        setTrigger f.hasTrigger false := by
  have hparse : (Except.ok body).bind Envelope.parse = _ := h.parse_eq
  rw [outcome, hparse]
  rfl

/-- A reason for a refusal comes through as its name, whatever name that is, and has a description
exactly if it is a known one. An answer that refuses a submission for it, in whatever layout, is
read as such and ends in an alert with the name and the description. -/
theorem ErrorCode.name_reaches_alert (s : String) :
    (ofText s).text = s ∧ Reader.run reader (ofText s).toJson = .ok (ofText s) ∧
    ((ofText s).description?.isSome ↔ ofText s ∈ known) ∧
    table.lookup s = (ofText s).description?.map (ofText s, ·) ∧
    Envelope.Refuses s (Forum.Answer.refused (ofText s)).body ∧
    ∀ body, Envelope.Refuses s body → ∃ e, Envelope.parse body = .ok e ∧ e.success = false ∧
      e.error = some (ofText s) ∧ (Report.rejected e.error).text =
        Report.heading ++ "\ncode: " ++ s ++ "\n" ++ described s ∧
      ∀ (α : Type) (c : Config) (f : Submission.InFlight) (next : Token),
        Submission.finish (α := α) f (Submission.outcome c f next (.ok body)) =
          [.alert (Report.rejected e.error).text, .replaceToken next] ++
            Submission.setTrigger f.hasTrigger false := by
  have hnames := names_ofText s
  refine ⟨hnames.text_eq, ?_, hnames.isSome_iff, hnames.lookup_eq, ?_, fun body h => ?_⟩
  · rw [run_reader_toJson, hnames.text_eq]
  · have hbody := Envelope.refuses_body (ofText s)
    rwa [hnames.text_eq] at hbody
  · exact ⟨_, h.parse_eq, rfl, rfl, Report.text_ofText s,
      fun α c f next => Submission.finish_refused c f next h⟩

def Envelope.lockedAnswer : String :=
  "\x7b\"error\" : \"\\u0074opic-locked\",\"success\":false\x7d"

theorem ErrorCode.alert_topicLocked :
    (∃ e, Envelope.parse Envelope.lockedAnswer = .ok e ∧
      (Report.rejected e.error).text = "发生错误：\ncode: topic-locked\n主题已被锁定") ∧
    ∃ e, Envelope.parse (Forum.Answer.refused (ofText "再\"试")).body = .ok e ∧
      (Report.rejected e.error).text = "发生错误：\ncode: 再\"试\n" := by
  have hspace : Spaces [' '] := by simp [Spaces, isSpace]
  have ht : SpellsChar (Char.ofNat 0x74) "\\u0074".toList :=
    .number (by decide : hexDigits? "0074".toList = some 0x74) (by decide) (by decide)
  have hname : SpellsText "topic-locked".toList "\\u0074opic-locked".toList :=
    .cons ht (spellsText_self (by decide))
  have hstring : Reader.SpellsString "topic-locked".toList "\"\\u0074opic-locked\"".toList :=
    ⟨_, hname, rfl⟩
  have hmembers : SpellsMembers true
      [(Envelope.Field.error.name.toList, "\"\\u0074opic-locked\"".toList),
        (Envelope.Field.success.name.toList, writeBool false)] _ :=
    .first spaces_nil (.mk (spellsText_self (by decide)) hspace hspace hstring.spelled)
      (.next spaces_nil spaces_nil (spellsMember_self (by decide) (.bool false))
        (.close spaces_nil))
  obtain ⟨-, -, -, -, -, hlocked⟩ := name_reaches_alert "topic-locked"
  obtain ⟨-, -, -, -, hbody, hother⟩ := name_reaches_alert "再\"试"
  obtain ⟨e, hparse, -, -, htext, -⟩ := hlocked Envelope.lockedAnswer
    ⟨_, _, ⟨[], _, [], spaces_nil, hmembers, spaces_nil, by decide⟩, hstring, .swap _ _ _⟩
  obtain ⟨e', hparse', -, -, htext', -⟩ := hother _ hbody
  exact ⟨⟨e, hparse, htext.trans (by decide)⟩, ⟨e', hparse', htext'.trans (by decide)⟩⟩

end ForumClient

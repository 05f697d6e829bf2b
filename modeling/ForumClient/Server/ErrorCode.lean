import ForumClient.Json.Reader
import ForumClient.Json.Writer

namespace ForumClient

inductive ErrorCode
  | badRequest
  | internalError
  | recaptchaNeeded
  | recaptchaFailed
  | noMoreNewUsers
  | messageTooShort
  | topicLocked
  | imageUploadFailed
  | imageUploadDisabled
  | imageInvalidFormat
  | imageDiskError
  | unknown : String → ErrorCode
  deriving DecidableEq, Repr

namespace ErrorCode

def known : List ErrorCode :=
  [.badRequest, .internalError, .recaptchaNeeded, .recaptchaFailed, .noMoreNewUsers,
    .messageTooShort, .topicLocked, .imageUploadFailed, .imageUploadDisabled,
    .imageInvalidFormat, .imageDiskError]

def text : ErrorCode → String
  | .badRequest => "bad-request"
  | .internalError => "internal-error"
  | .recaptchaNeeded => "recaptcha-needed"
  | .recaptchaFailed => "recaptcha-failed"
  | .noMoreNewUsers => "no-more-new-users"
  | .messageTooShort => "message-too-short"
  | .topicLocked => "topic-locked"
  | .imageUploadFailed => "image-upload-failed"
  | .imageUploadDisabled => "image-upload-disabled"
  | .imageInvalidFormat => "image-invalid-format"
  | .imageDiskError => "image-disk-error"
  | .unknown t => t

def ofText (t : String) : ErrorCode := (known.find? (·.text == t)).getD (.unknown t)

def description? : ErrorCode → Option String
  | .badRequest => some "无效请求 "
  | .internalError => some "内部错误"
  | .recaptchaNeeded => some "请完成验证"
  | .recaptchaFailed => some "验证失败，请刷新页面重试"
  | .noMoreNewUsers => some "未持有cookie的匿名用户无法发言"
  | .messageTooShort => some "正文内容过短"
  | .topicLocked => some "主题已被锁定"
  | .imageUploadFailed => some "图片上传失败"
  | .imageUploadDisabled => some "禁止上传图片"
  | .imageInvalidFormat => some "图片格式不支持"
  | .imageDiskError => some "图片上传失败"
  | .unknown _ => none

def isUnknown : ErrorCode → Bool
  | .unknown _ => true
  | _ => false

def reader : Json.Reader ErrorCode := fun s =>
  (Json.Reader.string s).map fun (t, rest) => (ofText (String.ofList t), rest)

def toJson (c : ErrorCode) : Text := Json.writeString c.text.toList

end ErrorCode

end ForumClient

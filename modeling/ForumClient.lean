import ForumClient.Browser.Basic
import ForumClient.Browser.Download
import ForumClient.Browser.Exchange
import ForumClient.Browser.Host
import ForumClient.Browser.Library
import ForumClient.Browser.Signature
import ForumClient.Browser.Value
import ForumClient.Config
import ForumClient.Decimal.Shortest
import ForumClient.Desktop
import ForumClient.Dropdown
import ForumClient.Json.Fault
import ForumClient.Json.Literal
import ForumClient.Json.Number
import ForumClient.Json.Reader
import ForumClient.Json.Skip
import ForumClient.Json.Writer
import ForumClient.Markup.Segment
import ForumClient.Page.Composer
import ForumClient.Page.Html
import ForumClient.Page.PostBody
import ForumClient.Page.PostPage
import ForumClient.Page.QuickMessage
import ForumClient.Page.Route
import ForumClient.Page.Sender
import ForumClient.Page.Session
import ForumClient.Page.Settings
import ForumClient.Page.SignPanel
import ForumClient.Post.Document
import ForumClient.Post.Id
import ForumClient.Post.Image
import ForumClient.Post.Reference
import ForumClient.Post.Rendering
import ForumClient.Post.Thread
import ForumClient.Preferences.Basic
import ForumClient.Preferences.Fold
import ForumClient.Preferences.FoldMap
import ForumClient.Proofs.AnswerSpelling
import ForumClient.Proofs.Attachment
import ForumClient.Proofs.BareMessages
import ForumClient.Proofs.BodyRun
import ForumClient.Proofs.Descendants
import ForumClient.Proofs.DivMarks
import ForumClient.Proofs.DownloadEnds
import ForumClient.Proofs.Downloads
import ForumClient.Proofs.FoldRun
import ForumClient.Proofs.FoldSpelling
import ForumClient.Proofs.FoldText
import ForumClient.Proofs.ForumRun
import ForumClient.Proofs.ForumSubmit
import ForumClient.Proofs.FragmentOrder
import ForumClient.Proofs.FreshToken
import ForumClient.Proofs.IdText
import ForumClient.Proofs.Ignored
import ForumClient.Proofs.ImageRun
import ForumClient.Proofs.LayoutEnds
import ForumClient.Proofs.Machines
import ForumClient.Proofs.MarkupText
import ForumClient.Proofs.Nesting
import ForumClient.Proofs.NewTopic
import ForumClient.Proofs.Numeral
import ForumClient.Proofs.Offers
import ForumClient.Proofs.OwnAttributes
import ForumClient.Proofs.PageMoves
import ForumClient.Proofs.PageTrigger
import ForumClient.Proofs.QuotedLabel
import ForumClient.Proofs.RefusalText
import ForumClient.Proofs.RememberedOptions
import ForumClient.Proofs.Replies
import ForumClient.Proofs.RoundTrip
import ForumClient.Proofs.Runs
import ForumClient.Proofs.Segmentation
import ForumClient.Proofs.SessionRun
import ForumClient.Proofs.SharedLoad
import ForumClient.Proofs.SharedTrigger
import ForumClient.Proofs.ShownBody
import ForumClient.Proofs.ShownSettings
import ForumClient.Proofs.SignedMessage
import ForumClient.Proofs.SlotElement
import ForumClient.Proofs.SlotName
import ForumClient.Proofs.StayOnPage
import ForumClient.Proofs.StoredSettings
import ForumClient.Proofs.TagPattern
import ForumClient.Proofs.ToggledOptions
import ForumClient.Proofs.TokenDraw
import ForumClient.Proofs.TokenRun
import ForumClient.Proofs.Within
import ForumClient.Proofs.Words
import ForumClient.Server.Envelope
import ForumClient.Server.ErrorCode
import ForumClient.Server.Forum
import ForumClient.Signing.Lazy
import ForumClient.Signing.Rehearsal
import ForumClient.Submission.Desk
import ForumClient.Submission.Draft
import ForumClient.Submission.Process
import ForumClient.Submission.Token
import ForumClient.Table
import ForumClient.Text.Basic
import ForumClient.Text.Escape
import ForumClient.Text.Numeral
import ForumClient.Text.Quoted
import ForumClient.Text.WordChar

import PostSlots.Http.Routes
import PostSlots.Main
import PostSlots.Post.Canned
import PostSlots.Proofs.Binding.LastWrite
import PostSlots.Proofs.Binding.Idempotent
import PostSlots.Proofs.Dom.Unambiguous
import PostSlots.Proofs.Dom.RawFree
import PostSlots.Proofs.Dom.MarkupText
import PostSlots.Proofs.Template.Filled
import PostSlots.Proofs.Template.FirstRegistration
import PostSlots.Proofs.Embed.Injection
import PostSlots.Proofs.Embed.Lifecycle
import PostSlots.Proofs.Decimal.Rounding
import PostSlots.Proofs.Decimal.Interval
import PostSlots.Proofs.Decimal.ShortestDigits
import PostSlots.Proofs.Json.WholeNumbers
import PostSlots.Proofs.Json.Leaves
import PostSlots.Proofs.Url.Base
import PostSlots.Proofs.Url.Form
import PostSlots.Proofs.Url.Plain
import PostSlots.Proofs.Post.LinkFields
import PostSlots.Proofs.KeyPath.Spelling
import PostSlots.Proofs.KeyPath.DecimalKeys
import PostSlots.Proofs.KeyPath.Composition
import PostSlots.Proofs.Post.Protocol
import PostSlots.Proofs.Post.Merge
import PostSlots.Proofs.Binding.Report
import PostSlots.Proofs.Binding.Shape
import PostSlots.Proofs.Binding.Respelled
import PostSlots.Proofs.Dialogue.Refinement
import PostSlots.Proofs.Dom.RoundTrip
import PostSlots.Proofs.Http.Redirects
import PostSlots.Proofs.Command.Checks
import PostSlots.Proofs.Template.Loading
import PostSlots.Proofs.Command.Shadowing
import PostSlots.Proofs.Http.Outcome
import PostSlots.Proofs.Dialogue.Questions
import PostSlots.Proofs.Settings.Sources
import PostSlots.Proofs.Command.Precedence
import PostSlots.Proofs.Template.KebabNames
import PostSlots.Proofs.Decimal.WholeQuotients
import PostSlots.Proofs.Decimal.Stepwise
import PostSlots.Proofs.Json.ShortDecimals
import PostSlots.Proofs.Dom.EditedMarks
import PostSlots.Proofs.KeyPath.ExponentKeys

import TanDialog.BankParameters
import TanDialog.Challenge.Class
import TanDialog.Challenge.Parameter
import TanDialog.CommandLine.Arguments
import TanDialog.CommandLine.Console
import TanDialog.CommandLine.Inspect
import TanDialog.CommandLine.Run
import TanDialog.CommandLine.Settings
import TanDialog.CommandLine.Toml
import TanDialog.Dialog.Bank
import TanDialog.Dialog.Context
import TanDialog.Dialog.Run
import TanDialog.Dialog.Script
import TanDialog.Dictionary
import TanDialog.Flicker.Code
import TanDialog.Flicker.Inline
import TanDialog.Flicker.Reader
import TanDialog.Main
import TanDialog.Method.Basic
import TanDialog.Method.Catalog
import TanDialog.OrderHash.Block
import TanDialog.OrderHash.Mode
import TanDialog.OrderHash.Ripemd160
import TanDialog.OrderHash.Sha1
import TanDialog.Passport.Authentication
import TanDialog.Passport.Basic
import TanDialog.Passport.Event
import TanDialog.Passport.Patch
import TanDialog.Passport.Reaction
import TanDialog.Passport.Requirement
import TanDialog.Passport.Selection
import TanDialog.Passport.Session
import TanDialog.Passport.Signature
import TanDialog.Passport.TanMedia
import TanDialog.Proofs.Agreement
import TanDialog.Proofs.Authentication
import TanDialog.Proofs.Authentication.Request
import TanDialog.Proofs.Authentication.Steps
import TanDialog.Proofs.Catalog
import TanDialog.Proofs.Catalog.Declarations
import TanDialog.Proofs.Catalog.Precedence
import TanDialog.Proofs.Challenge
import TanDialog.Proofs.Challenge.Amounts
import TanDialog.Proofs.Challenge.Dates
import TanDialog.Proofs.Challenge.Positions
import TanDialog.Proofs.Dialog.Anonymous
import TanDialog.Proofs.Dialog.Challenges
import TanDialog.Proofs.Dialog.Costs
import TanDialog.Proofs.Dialog.Deliveries
import TanDialog.Proofs.Dialog.Echoes
import TanDialog.Proofs.Dialog.Exchange
import TanDialog.Proofs.Dialog.Jobs
import TanDialog.Proofs.Dialog.Likeness
import TanDialog.Proofs.Dialog.LookUps
import TanDialog.Proofs.Dialog.MethodChange
import TanDialog.Proofs.Dialog.Opening
import TanDialog.Proofs.Dialog.OpeningRequests
import TanDialog.Proofs.Dialog.Operations
import TanDialog.Proofs.Dialog.OrderReferences
import TanDialog.Proofs.Dialog.RefusedPin
import TanDialog.Proofs.Dialog.Restarts
import TanDialog.Proofs.Dialog.SecondStep
import TanDialog.Proofs.Dialog.SecondStepTan
import TanDialog.Proofs.Dialog.Secrets
import TanDialog.Proofs.Dialog.Sending
import TanDialog.Proofs.Dialog.Series
import TanDialog.Proofs.Evolution
import TanDialog.Proofs.Flicker.Encoding
import TanDialog.Proofs.Flicker.Framing
import TanDialog.Proofs.Flicker.Inline
import TanDialog.Proofs.Flicker.Layout
import TanDialog.Proofs.Flicker.Lossless
import TanDialog.Proofs.Flicker.Reading
import TanDialog.Proofs.Flicker.Rendering
import TanDialog.Proofs.Likeness
import TanDialog.Proofs.LookUps
import TanDialog.Proofs.Operations
import TanDialog.Proofs.Patch.Announcement
import TanDialog.Proofs.Patch.Failure
import TanDialog.Proofs.Patch.LastMessage
import TanDialog.Proofs.Patch.Links
import TanDialog.Proofs.Patch.Ready
import TanDialog.Proofs.Patch.Repetition
import TanDialog.Proofs.Patch.Scan
import TanDialog.Proofs.Patch.Steps
import TanDialog.Proofs.Patch.VariantOne
import TanDialog.Proofs.Patch.VariantTwo
import TanDialog.Proofs.Property.Lines
import TanDialog.Proofs.Property.Projection
import TanDialog.Proofs.Property.Search
import TanDialog.Proofs.Queue.Operations
import TanDialog.Proofs.Queue.References
import TanDialog.Proofs.Queue.RequestFields
import TanDialog.Proofs.Reaction
import TanDialog.Proofs.Reaction.Outcome
import TanDialog.Proofs.RefusedPin
import TanDialog.Proofs.Reply.Echoes
import TanDialog.Proofs.Reply.Entries
import TanDialog.Proofs.Reply.Responses
import TanDialog.Proofs.Reply.RoundTrip
import TanDialog.Proofs.Reply.Series
import TanDialog.Proofs.Reply.Walks
import TanDialog.Proofs.Routine
import TanDialog.Proofs.Segment.Codes
import TanDialog.Proofs.Selection
import TanDialog.Proofs.Selection.Repetition
import TanDialog.Proofs.Sequencing
import TanDialog.Proofs.Settings
import TanDialog.Proofs.Signature
import TanDialog.Proofs.Signature.Course
import TanDialog.Proofs.Signature.Failure
import TanDialog.Proofs.Text.Blank
import TanDialog.Proofs.Text.Decimal
import TanDialog.Proofs.Text.Hexadecimal
import TanDialog.Proofs.Text.Utf8
import TanDialog.Proofs.Text.Wildcard
import TanDialog.Property.Json
import TanDialog.Property.Lines
import TanDialog.Property.Path
import TanDialog.Property.Set
import TanDialog.Queue.Basic
import TanDialog.Queue.Task
import TanDialog.Reply.ReturnCode
import TanDialog.Reply.ReturnValue
import TanDialog.Reply.Status
import TanDialog.Segment.Codes
import TanDialog.Segment.Encoding
import TanDialog.TanProcess
import TanDialog.Text.Blank
import TanDialog.Text.Bytes
import TanDialog.Text.Numeral
import TanDialog.Text.Wildcard

import SuiteTrigger.Command.Arguments
import SuiteTrigger.Command.Directory
import SuiteTrigger.Command.EventFile
import SuiteTrigger.Command.Run
import SuiteTrigger.Digest.Block
import SuiteTrigger.Digest.Hmac
import SuiteTrigger.Digest.Sha1
import SuiteTrigger.Digest.Sha256
import SuiteTrigger.Encoding.Charset
import SuiteTrigger.Encoding.CharsetName
import SuiteTrigger.Encoding.CodePage.Basic
import SuiteTrigger.Encoding.CodePage.Dos
import SuiteTrigger.Encoding.CodePage.Ebcdic
import SuiteTrigger.Encoding.CodePage.Iso
import SuiteTrigger.Encoding.CodePage.Macintosh
import SuiteTrigger.Encoding.CodePage.Regional
import SuiteTrigger.Encoding.CodePage.Windows
import SuiteTrigger.Encoding.DomainName
import SuiteTrigger.Encoding.Escaped
import SuiteTrigger.Encoding.Grid.Basic
import SuiteTrigger.Encoding.Grid.Big5
import SuiteTrigger.Encoding.Grid.Gb
import SuiteTrigger.Encoding.Grid.HongKong
import SuiteTrigger.Encoding.Grid.Jis
import SuiteTrigger.Encoding.Grid.JisExtension
import SuiteTrigger.Encoding.Grid.JisSupplement
import SuiteTrigger.Encoding.Grid.Ks
import SuiteTrigger.Encoding.HanSection
import SuiteTrigger.Encoding.Iso2022
import SuiteTrigger.Encoding.Multibyte
import SuiteTrigger.Encoding.Multibyte.Chinese
import SuiteTrigger.Encoding.Multibyte.Japanese
import SuiteTrigger.Encoding.Multibyte.Korean
import SuiteTrigger.Encoding.Nameprep
import SuiteTrigger.Encoding.Nameprep.Classes
import SuiteTrigger.Encoding.Nameprep.Composition
import SuiteTrigger.Encoding.Nameprep.Folding
import SuiteTrigger.Encoding.Nameprep.MarkOrder
import SuiteTrigger.Encoding.Percent
import SuiteTrigger.Encoding.Punycode
import SuiteTrigger.Encoding.Utf16
import SuiteTrigger.Encoding.Utf32
import SuiteTrigger.Encoding.Utf7
import SuiteTrigger.Encoding.Utf8
import SuiteTrigger.Endpoint
import SuiteTrigger.Failure
import SuiteTrigger.Http.Accept
import SuiteTrigger.Http.Address
import SuiteTrigger.Http.Authority
import SuiteTrigger.Http.Client
import SuiteTrigger.Http.Content
import SuiteTrigger.Http.Form
import SuiteTrigger.Http.IpAddress
import SuiteTrigger.Http.Link
import SuiteTrigger.Http.MediaType
import SuiteTrigger.Http.Message
import SuiteTrigger.Http.RateLimit
import SuiteTrigger.Http.Rejection
import SuiteTrigger.Http.Status
import SuiteTrigger.Http.Target
import SuiteTrigger.Http.Template
import SuiteTrigger.Json.Display
import SuiteTrigger.Json.Printer
import SuiteTrigger.Json.Reader
import SuiteTrigger.Json.Value
import SuiteTrigger.Log
import SuiteTrigger.Main
import SuiteTrigger.Metrics
import SuiteTrigger.Number.Double
import SuiteTrigger.Number.Numeral
import SuiteTrigger.Number.Shortest
import SuiteTrigger.Pipeline.Delivery
import SuiteTrigger.Pipeline.Dispatch
import SuiteTrigger.Pipeline.Execution
import SuiteTrigger.Pipeline.Handling
import SuiteTrigger.Platform.Basic
import SuiteTrigger.Platform.Installation
import SuiteTrigger.Platform.Memory
import SuiteTrigger.Platform.Remote
import SuiteTrigger.Proofs.ActionLines
import SuiteTrigger.Proofs.ActionPrefixes
import SuiteTrigger.Proofs.AddedRequests
import SuiteTrigger.Proofs.Addresses
import SuiteTrigger.Proofs.Agreement
import SuiteTrigger.Proofs.Attempts
import SuiteTrigger.Proofs.CallClasses
import SuiteTrigger.Proofs.CallErrors
import SuiteTrigger.Proofs.CommentSearch
import SuiteTrigger.Proofs.ConfigChecks
import SuiteTrigger.Proofs.ConfigDefaults
import SuiteTrigger.Proofs.CountedCalls
import SuiteTrigger.Proofs.Credentials
import SuiteTrigger.Proofs.DeliveryAccounts
import SuiteTrigger.Proofs.DeliveryAnswers
import SuiteTrigger.Proofs.DryRuns
import SuiteTrigger.Proofs.Endings
import SuiteTrigger.Proofs.EntryPoints
import SuiteTrigger.Proofs.ErrorClasses
import SuiteTrigger.Proofs.Exchanges
import SuiteTrigger.Proofs.FailStop
import SuiteTrigger.Proofs.Forgeries
import SuiteTrigger.Proofs.Frames
import SuiteTrigger.Proofs.HonestHost
import SuiteTrigger.Proofs.HostRefinement
import SuiteTrigger.Proofs.Indifference
import SuiteTrigger.Proofs.InstallationTokens
import SuiteTrigger.Proofs.Interleavings
import SuiteTrigger.Proofs.LabelPages
import SuiteTrigger.Proofs.LabelRemoval
import SuiteTrigger.Proofs.Lockstep
import SuiteTrigger.Proofs.MemoryActions
import SuiteTrigger.Proofs.MemoryCalls
import SuiteTrigger.Proofs.MemoryDeliveries
import SuiteTrigger.Proofs.MemoryEvents
import SuiteTrigger.Proofs.NoRepeats
import SuiteTrigger.Proofs.NormalForms
import SuiteTrigger.Proofs.ObligingPlatforms
import SuiteTrigger.Proofs.PageScans
import SuiteTrigger.Proofs.PayloadChecks
import SuiteTrigger.Proofs.Payloads
import SuiteTrigger.Proofs.PercentEncoding
import SuiteTrigger.Proofs.PhaseMachine
import SuiteTrigger.Proofs.Planning
import SuiteTrigger.Proofs.PrivateRepositories
import SuiteTrigger.Proofs.QuotedText
import SuiteTrigger.Proofs.ReaderLimits
import SuiteTrigger.Proofs.Rearming
import SuiteTrigger.Proofs.Redelivery
import SuiteTrigger.Proofs.RemoteSessions
import SuiteTrigger.Proofs.Reorderings
import SuiteTrigger.Proofs.Revalidation
import SuiteTrigger.Proofs.ReviewStates
import SuiteTrigger.Proofs.Scans
import SuiteTrigger.Proofs.Sending
import SuiteTrigger.Proofs.Serving
import SuiteTrigger.Proofs.Sessions
import SuiteTrigger.Proofs.ShownActions
import SuiteTrigger.Proofs.TaggedServers
import SuiteTrigger.Proofs.TokenAddresses
import SuiteTrigger.Proofs.TriggerLines
import SuiteTrigger.Proofs.ValidRecords
import SuiteTrigger.Record.Checked
import SuiteTrigger.Record.IntegerText
import SuiteTrigger.Record.Problem
import SuiteTrigger.Record.Reading
import SuiteTrigger.Resource
import SuiteTrigger.Settings
import SuiteTrigger.Text.Blank
import SuiteTrigger.Text.CharacterName
import SuiteTrigger.Text.CharacterName.Aliases
import SuiteTrigger.Text.CharacterName.Alphabets
import SuiteTrigger.Text.CharacterName.AncientScripts
import SuiteTrigger.Text.CharacterName.Basic
import SuiteTrigger.Text.CharacterName.EastAsia
import SuiteTrigger.Text.CharacterName.Forms
import SuiteTrigger.Text.CharacterName.Hieroglyphs
import SuiteTrigger.Text.CharacterName.Operators
import SuiteTrigger.Text.CharacterName.Phonetics
import SuiteTrigger.Text.CharacterName.Pictures
import SuiteTrigger.Text.CharacterName.Scores
import SuiteTrigger.Text.CharacterName.Scripts
import SuiteTrigger.Text.CharacterName.Symbols
import SuiteTrigger.Text.DecimalDigit
import SuiteTrigger.Text.Half
import SuiteTrigger.Text.Hex
import SuiteTrigger.Text.LineBreak
import SuiteTrigger.Text.LowerCase
import SuiteTrigger.Text.Printable
import SuiteTrigger.Text.Quoted
import SuiteTrigger.Text.Ranges
import SuiteTrigger.Text.Split
import SuiteTrigger.Text.Syllable
import SuiteTrigger.Text.Terminal
import SuiteTrigger.Time.Instant
import SuiteTrigger.Time.Year
import SuiteTrigger.Trigger.Action
import SuiteTrigger.Trigger.Config
import SuiteTrigger.Trigger.Decision
import SuiteTrigger.Trigger.Event
import SuiteTrigger.Trigger.LabelSet
import SuiteTrigger.Trigger.NamedValues
import SuiteTrigger.Webhook.Incoming
import SuiteTrigger.Webhook.Server
import SuiteTrigger.Webhook.Signature
import SuiteTrigger.Work

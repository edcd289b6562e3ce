import ChangeTransport.Main
import ChangeTransport.Proofs.Running
import ChangeTransport.Proofs.Hosting.Scan
import ChangeTransport.Proofs.Repository.Questions
import ChangeTransport.Proofs.Rollback.Resolution
import ChangeTransport.Proofs.Deploy.Deployers
import ChangeTransport.Proofs.Rollback.Target
import ChangeTransport.Proofs.UnitTest.Verdict
import ChangeTransport.Proofs.UnitTest.Course
import ChangeTransport.Proofs.Xml.Children
import ChangeTransport.Proofs.Xml.Record
import ChangeTransport.Proofs.UnitTest.Document
import ChangeTransport.Proofs.UnitTest.Alerts
import ChangeTransport.Proofs.Rollback.Deploy
import ChangeTransport.Proofs.CommandLine.Options
import ChangeTransport.Proofs.Deploy.Words
import ChangeTransport.Proofs.Text.Utf8
import ChangeTransport.Proofs.Xml.RootEnd
import ChangeTransport.Proofs.UnitTest.CutOff
import ChangeTransport.Proofs.Xml.Reference
import ChangeTransport.Proofs.Xml.Tag
import ChangeTransport.Proofs.Xml.Writing
import ChangeTransport.Proofs.UnitTest.Writing
import ChangeTransport.Proofs.UnitTest.Block
import ChangeTransport.Proofs.UnitTest.Trace
import ChangeTransport.Proofs.Deploy.Child
import ChangeTransport.Proofs.Http.Header
import ChangeTransport.Proofs.Text.Blank
import ChangeTransport.Proofs.UnitTest.Token
import ChangeTransport.Proofs.Secrets
import ChangeTransport.Proofs.SideBySide
import ChangeTransport.Proofs.Hosting.Newest
import ChangeTransport.Proofs.Json.Scanning
import ChangeTransport.Proofs.Json.Whole
import ChangeTransport.Proofs.Repository.CutOff
import ChangeTransport.Proofs.Json.Numeral
import ChangeTransport.Proofs.Json.Spelling
import ChangeTransport.Proofs.Json.Writing
import ChangeTransport.Proofs.Json.Record
import ChangeTransport.Proofs.Repository.Listing
import ChangeTransport.Proofs.Xml.Markup
import ChangeTransport.Proofs.Xml.Outline
import ChangeTransport.Proofs.Xml.Opening
import ChangeTransport.Proofs.Xml.Respelling
import ChangeTransport.Proofs.Xml.Content
import ChangeTransport.Proofs.Xml.Prefixless
import ChangeTransport.Proofs.Xml.ListNames
import ChangeTransport.Proofs.UnitTest.Spelling
import ChangeTransport.Proofs.Rollback.Trace
import ChangeTransport.Proofs.Hosting.Remote
import ChangeTransport.Proofs.Text.Composition
import ChangeTransport.Proofs.Url.Authority
import ChangeTransport.Proofs.Hosting.Written
import ChangeTransport.Proofs.Hosting.LookAlike
import ChangeTransport.Proofs.Url.Path
import ChangeTransport.Proofs.Hosting.Spellings
import ChangeTransport.Proofs.Text.Digit
import ChangeTransport.Proofs.History.Calendar
import ChangeTransport.Proofs.Url.Query
import ChangeTransport.Proofs.Deploy.Pull
import ChangeTransport.Proofs.Xml.Spaced
import ChangeTransport.Proofs.UnitTest.Configuration
import ChangeTransport.Proofs.Json.Telling
import ChangeTransport.Proofs.Repository.Diagnostics
import ChangeTransport.Proofs.Repository.Done
import ChangeTransport.Proofs.Json.Quoting
import ChangeTransport.Proofs.Repository.Creation
import ChangeTransport.Proofs.CommandLine.Environment
import ChangeTransport.Proofs.Json.Kept
import ChangeTransport.Proofs.Json.Merged
import ChangeTransport.Proofs.Deploy.Outcome
import ChangeTransport.Proofs.Xml.Prologue
import ChangeTransport.Proofs.Xml.FirstTag
import ChangeTransport.Proofs.Xml.Reached
import ChangeTransport.Proofs.UnitTest.Root

import Prospector.Catalog.Store
import Prospector.CommandLine.Program
import Prospector.Crawl.Crew
import Prospector.Crawl.Harvest
import Prospector.Crawl.Pool
import Prospector.Crawl.Reach
import Prospector.Crawl.Session
import Prospector.Html.Printer
import Prospector.Json.Printer
import Prospector.Json.Reader
import Prospector.Main
import Prospector.Proofs.Catalog.Atomicity
import Prospector.Proofs.Catalog.Harvest
import Prospector.Proofs.Catalog.Members
import Prospector.Proofs.Catalog.Reading
import Prospector.Proofs.Catalog.Repetition
import Prospector.Proofs.Catalog.Store
import Prospector.Proofs.CommandLine.Refusal
import Prospector.Proofs.Crawl.Account
import Prospector.Proofs.Crawl.Agenda
import Prospector.Proofs.Crawl.Breadth
import Prospector.Proofs.Crawl.Confluence
import Prospector.Proofs.Crawl.Conservation
import Prospector.Proofs.Crawl.Containment
import Prospector.Proofs.Crawl.Coverage
import Prospector.Proofs.Crawl.Crew
import Prospector.Proofs.Crawl.Exploration
import Prospector.Proofs.Crawl.Frontier
import Prospector.Proofs.Crawl.Interruption
import Prospector.Proofs.Crawl.Link
import Prospector.Proofs.Crawl.Mention
import Prospector.Proofs.Crawl.Parts
import Prospector.Proofs.Crawl.Requests
import Prospector.Proofs.Crawl.Safety
import Prospector.Proofs.Crawl.Section
import Prospector.Proofs.Crawl.Spelling
import Prospector.Proofs.Crawl.Termination
import Prospector.Proofs.Files.Draft
import Prospector.Proofs.Files.Tree
import Prospector.Proofs.Html.Place
import Prospector.Proofs.Json.Limits
import Prospector.Proofs.Json.Tree
import Prospector.Proofs.Rule.Clause
import Prospector.Proofs.Rule.Counterpart
import Prospector.Proofs.Rule.Damage
import Prospector.Proofs.Rule.Extraction
import Prospector.Proofs.Rule.Filter
import Prospector.Proofs.Rule.Language
import Prospector.Proofs.Rule.Layout
import Prospector.Proofs.Rule.Lookup
import Prospector.Proofs.Rule.Match
import Prospector.Proofs.Rule.Meaning
import Prospector.Proofs.Rule.Report
import Prospector.Proofs.Settings.Demand
import Prospector.Proofs.Settings.Header
import Prospector.Proofs.Settings.Loading
import Prospector.Proofs.Settings.Revision
import Prospector.Proofs.Settings.Strictness
import Prospector.Proofs.Settings.Validation
import Prospector.Proofs.Text.Blank
import Prospector.Proofs.Text.Digit
import Prospector.Proofs.Text.Escape
import Prospector.Proofs.Text.LetterCase
import Prospector.Proofs.Text.Parts
import Prospector.Proofs.Text.Percent
import Prospector.Proofs.Text.Utf8
import Prospector.Proofs.Url.Address
import Prospector.Proofs.Url.Authority
import Prospector.Proofs.Url.Canonical
import Prospector.Proofs.Url.Domain
import Prospector.Proofs.Url.Path
import Prospector.Proofs.Url.Punycode
import Prospector.Proofs.Url.Roundtrip
import Prospector.Rule.Evaluation
import Prospector.Rule.Problem
import Prospector.Rule.Reader
import Prospector.Settings.Load
import Prospector.Web.Fetch

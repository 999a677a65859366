import Prospector.Rule.Problem
import Prospector.Settings.Basic
import Prospector.Text.Alphanumeric
import Prospector.Text.Blank
import Prospector.Text.Occurrence
import Prospector.Url.Reader

/-!
# Validation

What settings have to satisfy. The sections are checked in order and the first violation counts; so
do the sources, one by one. Malformed rules are a violation where rules are strict; elsewhere each
of their problems is a warning.

## Main definitions

* `Violation` : what can be wrong with settings, and what is said about it.
* `Settings.validate` : the warnings and the first violation of settings.
* `Settings.overrideViolation?` : the first violation that replacing settings brought about.
-/

namespace Prospector

/-- What is wrong with settings. -/
inductive Violation where
  | workersOutOfRange (workers : Nat)
  | timeoutTooShort (seconds : Nat)
  | nameEmpty
  | nameCharacters (name : String)
  | contactUrl (fault : Url.Fault)
  | emailEmpty
  | emailFormat (email : String)
  | emailDomain (email : String)
  | resultsPathEmpty
  | noSources
  | sourceNameEmpty
  | duplicateSource (name : String)
  | rootUrl (url : String) (fault : Url.Fault)
  | rootUrlScheme (url : String)
  | rootUrlHost (url : String)
  | noRule (name : String)
  | malformedRule (name : String) (problems : List Problem)
  | twoRules (name : String)
  deriving Repr, Inhabited

/-- The most pages that may be visited at the same time. -/
def workerLimit : Nat := 256

namespace Violation

/-- Whether a violation concerns an address. -/
def isAboutUrl : Violation → Bool
  | .contactUrl _ | .rootUrl _ _ | .rootUrlScheme _ | .rootUrlHost _ => true
  | _ => false

/-- A number in decimal digits. -/
def number (n : Nat) : String :=
  String.ofList (Text.decimal n)

/-- A text between single quotes. -/
def inQuotes (s : String) : String :=
  "'" ++ s ++ "'"

/-- What a violation consists in. -/
def detail : Violation → String
  | .workersOutOfRange n =>
    "max_workers must be between 1 and " ++ number workerLimit ++ ", got " ++ number n
  | .timeoutTooShort n => "request_timeout_secs must be >= 1, got " ++ number n
  | .nameEmpty => "crawler_name cannot be empty"
  | .nameCharacters name =>
    "crawler_name must contain only alphanumeric characters and hyphens, got " ++ inQuotes name
  | .contactUrl fault => "Invalid contact_url: " ++ fault.message
  | .emailEmpty => "contact_email cannot be empty"
  | .emailFormat email => "Invalid email format: " ++ inQuotes email
  | .emailDomain email => "Invalid email domain: " ++ inQuotes email
  | .resultsPathEmpty => "results_path cannot be empty"
  | .noSources => "At least one [[source]] must be configured"
  | .sourceNameEmpty => "Source name cannot be empty"
  | .duplicateSource name => "Duplicate source name " ++ inQuotes name
  | .rootUrl url fault => "Invalid root URL " ++ inQuotes url ++ ": " ++ fault.message
  | .rootUrlScheme url => "Root URL " ++ inQuotes url ++ " must use HTTP or HTTPS"
  | .rootUrlHost url => "Root URL " ++ inQuotes url ++ " has no host"
  | .noRule name => "Source " ++ inQuotes name ++ " needs product-detection or rules-file"
  | .malformedRule name problems =>
    "Source " ++ inQuotes name ++ " has malformed detection rules: " ++
      "; ".intercalate (problems.map Problem.message)
  | .twoRules name => "Source " ++ inQuotes name ++ " sets both product-detection and rules-file"

/-- What is said about a violation. -/
def message (v : Violation) : String :=
  (if v.isAboutUrl then "Invalid URL in config: " else "Validation error: ") ++ v.detail

end Violation

/-- A problem of a source's rule that is no violation. -/
structure Warning where
  source : String
  problem : Problem
  deriving Repr, Inhabited

/-- What is said about a warning. -/
def Warning.message (w : Warning) : String :=
  "Source '" ++ w.source ++ "': " ++ w.problem.message ++ " (clause will never match)"

/-! ## Sections -/

/-- The first violation of bounds and pace. -/
def Pace.violation? (p : Pace) : Option Violation :=
  if p.maxWorkers < 1 || workerLimit < p.maxWorkers then some (.workersOutOfRange p.maxWorkers)
  else if p.timeoutSeconds < 1 then some (.timeoutTooShort p.timeoutSeconds)
  else none

/-- What is wrong with an e-mail address: it has one `@` with something on both sides and a dot
behind it. -/
def emailViolation? (email : String) : Option Violation :=
  if email.isEmpty then some .emailEmpty
  else
    match Text.splitAtChar '@' email.toList with
    | [user, domain] =>
      if user.isEmpty || domain.isEmpty then some (.emailFormat email)
      else if domain.contains '.' then none
      else some (.emailDomain email)
    | _ => some (.emailFormat email)

/-- The first violation of an identity. -/
def Identity.violation? (i : Identity) : Option Violation :=
  if i.name.isEmpty then some .nameEmpty
  else if !i.name.toList.all (fun c => Text.isAlphanumeric c || c == '-') then
    some (.nameCharacters i.name)
  else
    match Url.ofText i.url with
    | .error fault => some (.contactUrl fault)
    | .ok _ => emailViolation? i.email

/-- What is wrong with the path of the results. -/
def resultsPathViolation? (path : String) : Option Violation :=
  if path.isEmpty then some .resultsPathEmpty else none

/-! ## Sources -/

/-- What is wrong with the address that a crawl starts from. -/
def rootUrlViolation? (url : String) : Option Violation :=
  match Url.ofText url with
  | .error fault => some (.rootUrl url fault)
  | .ok u =>
    if !u.isWeb then some (.rootUrlScheme url)
    else if !u.hasHost then some (.rootUrlHost url)
    else none

namespace Source

/-- The problems of a source's rule. -/
def problems (s : Source) : List Problem :=
  match s.rule with
  | some rule => rule.problems
  | none => []

/-- The violation that a malformed rule is. -/
def ruleViolation? (s : Source) : Option Violation :=
  if s.problems.isEmpty then none else some (.malformedRule s.name s.problems)

/-- The first violation of a source; `names` are the names of the sources before it. -/
def violation? (strict : Bool) (names : List String) (s : Source) : Option Violation :=
  if (Text.trim s.name).isEmpty then some .sourceNameEmpty
  else if names.contains s.name then some (.duplicateSource s.name)
  else
    match rootUrlViolation? s.rootUrl with
    | some v => some v
    | none =>
      if s.rule.isNone then some (.noRule s.name)
      else if strict then s.ruleViolation?
      else none

/-- The warnings about a source's rule. -/
def warnings (s : Source) : List Warning :=
  s.problems.map fun p => ⟨s.name, p⟩

end Source

/-- The warnings that come up until a violation, and the violation if there is one. -/
structure Validation where
  warnings : List Warning := []
  violation : Option Violation := none
  deriving Repr, Inhabited

/-- Validates sources one by one; `names` are the names of those before. -/
def validateSources (strict : Bool) (names : List String) : List Source → Validation
  | [] => {}
  | s :: rest =>
    match s.violation? strict names with
    | some v => { violation := some v }
    | none =>
      let later := validateSources strict (s.name :: names) rest
      { later with warnings := s.warnings ++ later.warnings }

namespace Settings

/-- The first violation of the sections before the sources. -/
def sectionViolation? (s : Settings) : Option Violation :=
  s.pace.violation? <|> s.identity.violation? <|> resultsPathViolation? s.resultsPath

/-- Validates all settings. -/
def validate (s : Settings) : Validation :=
  match s.sectionViolation? with
  | some v => { violation := some v }
  | none =>
    if s.sources.isEmpty then { violation := some .noSources }
    else validateSources s.pace.strictRules [] s.sources

/-- The first violation of settings that were valid before some of them were replaced. -/
def overrideViolation? (s : Settings) : Option Violation :=
  s.pace.violation? <|> resultsPathViolation? s.resultsPath <|>
    if s.pace.strictRules then s.sources.findSome? Source.ruleViolation? else none

end Settings

end Prospector

import CampusQuery.Catalog
import CampusQuery.CommandLine.Arguments
import CampusQuery.Document.Dataset
import CampusQuery.Report.Render

/-!
# Sessions

A run loads its sources one after the other into a fresh catalog, reads the query,
answers it from a snapshot and reports the rows. The first step that goes wrong
ends the run, and its message is all that is printed.

The files and the input are given as functions and values of texts: none stands
for what cannot be read as text.

Three kinds of text are not modelled. What the parser of arguments writes about
itself, on request or because of its arguments, is empty here. Of an error stands
here what the program says that it was doing, without the causes that the system
or a reader of JSON gives after it. The log, which goes where the errors go, is
left out, and so is the time that is printed on request.
-/

namespace CampusQuery.CommandLine

/-- What ends a run. -/
inductive Trouble where
  | unreadableSource (path : String)
  | undecodableSource (path : String) (kind : Kind)
  | unregistered (source : Source) (cause : CatalogError)
  | unreadableQuery (path : String)
  | unreadableInput
  | queryNotJson
  | unanswered (cause : QueryError)
  | defect (cause : Defect)
deriving DecidableEq

/-- What the program says of a trouble. The cause that the system or the reader of JSON
reports comes after a colon and is not part of it. -/
def Trouble.message : Trouble → String
  | unreadableSource path => "reading " ++ path
  | undecodableSource path kind => "decoding " ++ path ++ " as " ++ kind.label
  | unregistered source cause => "registering " ++ source.display ++ ": " ++ cause.message
  | unreadableQuery path => "reading query " ++ path
  | unreadableInput => "reading query from stdin"
  | queryNotJson => "query is not valid JSON"
  | unanswered cause => cause.message
  | defect cause => cause.message

/-- The texts of files by their paths. -/
abbrev Files := String → Option String

/-- The records of a kind that a text holds: an array of them. -/
def decodeRecords? (kind : Kind) (text : String) : Option Records := do
  Records.ofKind? kind (← Written.read? text.toList)

namespace Source

/-- Loads the dataset of a source. -/
def load (files : Files) (source : Source) : Except Trouble Dataset :=
  match files source.path with
  | none => .error (.unreadableSource source.path)
  | some text =>
    match decodeRecords? source.kind text with
    | none => .error (.undecodableSource source.path source.kind)
    | some records => .ok ⟨source.id, records⟩

/-- Loads and registers the dataset of a source. -/
def register (files : Files) (catalog : Catalog) (source : Source) : Except Trouble Catalog := do
  let dataset ← source.load files
  (catalog.add dataset).mapError (.unregistered source)

end Source

namespace Invocation

/-- Loads and registers all sources in turn. -/
def load (invocation : Invocation) (files : Files) : Except Trouble Catalog :=
  invocation.sources.foldlM (Source.register files) .empty

/-- The text of the query. -/
def queryText (invocation : Invocation) (files : Files) (input : Option String) :
    Except Trouble String :=
  match invocation.query with
  | some path =>
    match files path with
    | some text => .ok text
    | none => .error (.unreadableQuery path)
  | none =>
    match input with
    | some text => .ok text
    | none => .error .unreadableInput

/-- The report on a query against a catalog. -/
def report (invocation : Invocation) (catalog : Catalog) (query : Json) :
    Except Trouble String := do
  let plan ←
    match Plan.ofQuery catalog.snapshot.lookup query with
    | .ok plan => pure plan
    | .error fault => throw (.unanswered (.refused fault))
  match plan.execute invocation.limit with
  | .ok rows => return Report.render invocation.format plan.options.header rows
  | .error (.error cause) => throw (.unanswered cause)
  | .error (.defect cause) => throw (.defect cause)

/-- The report on a query that is given as text. -/
def reportText (invocation : Invocation) (catalog : Catalog) (text : String) :
    Except Trouble String :=
  match Json.read? text with
  | some query => invocation.report catalog query
  | none => .error .queryNotJson

/-- Whether a run comes to read its input: all its sources are registered, and no file
holds the query. -/
def asksInput (invocation : Invocation) (files : Files) : Bool :=
  invocation.query.isNone && (invocation.load files).toOption.isSome

/-- A whole run: what it prints, or what ends it. -/
def run (invocation : Invocation) (files : Files) (input : Option String) :
    Except Trouble String := do
  let catalog ← invocation.load files
  invocation.reportText catalog (← invocation.queryText files input)

end Invocation

/-- What a run leaves behind. The errors are without the lines of the log. -/
structure Outcome where
  exit : Nat
  stdout : String
  stderr : String
deriving DecidableEq

namespace Outcome

/-- The report of a run, or the message that ends it, each on lines of its own. -/
def ofRun : Except Trouble String → Outcome
  | .ok text => ⟨0, text ++ "\n", ""⟩
  | .error trouble => ⟨1, "", "Error: " ++ trouble.message ++ "\n"⟩

end Outcome

/-- The name of the program with its version, on a line of its own. -/
def versionText : String := "insight 0.1.0\n"

/-- The program as a function of its arguments, the files and the input. Arguments
that are no use of it have the exit code two. What is written then, and on a request for
help, is the wording of the parser of arguments, and is left empty. -/
def outcome (arguments : List String) (files : Files) (input : Option String) : Outcome :=
  match request? arguments with
  | none => ⟨2, "", ""⟩
  | some .help => ⟨0, "", ""⟩
  | some .version => ⟨0, versionText, ""⟩
  | some (.run invocation) => .ofRun (invocation.run files input)

end CampusQuery.CommandLine

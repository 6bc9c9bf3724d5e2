import CampusQuery.Answer
import CampusQuery.CommandLine.Source
import CampusQuery.Report.Format

/-!
# Arguments

The arguments are options alone, each given by its full name. An option with a
value takes it after an equals sign or from the next argument, which must not
itself look like an option. Options are settled in the order in which they stand,
so that a request for the version is met unless something before it is wrong.
Sources may be given any number of times, at least once; everything else at most
once.
-/

namespace CampusQuery.CommandLine

/-- One run of the program. -/
structure Invocation where
  sources : List Source
  /-- The file that holds the query; without one it is read from the input. -/
  query : Option String
  format : Report.Format
  limit : Nat
  timing : Bool
deriving DecidableEq

/-- What the arguments ask for. -/
inductive Request where
  | help
  | version
  | run (invocation : Invocation)
deriving DecidableEq

/-- The options given so far. -/
structure Draft where
  sources : List Source
  query : Option String
  format : Option Report.Format
  limit : Option Nat
  timing : Bool

namespace Draft

/-- No options yet. -/
def empty : Draft := ⟨[], none, none, none, false⟩

/-- A natural below 2^64 in decimal digits, with or without a plus sign. -/
def limit? (text : String) : Option Nat :=
  let digits :=
    match text.toList with
    | '+' :: rest => rest
    | other => other
  if digits.isEmpty || !digits.all Char.isDigit then none
  else
    let value := digits.foldl (fun value digit => 10 * value + (digit.toNat - '0'.toNat)) 0
    if value < Nat.pow 2 64 then some value else none

/-- The draft with the value of an option. -/
def withValue? (draft : Draft) (name value : String) : Option Draft :=
  match name with
  | "dataset" =>
    (Source.read value).toOption.map fun source =>
      { draft with sources := draft.sources ++ [source] }
  | "query" => if draft.query.isSome then none else some { draft with query := some value }
  | "format" =>
    if draft.format.isSome then none
    else (Report.Format.ofText value).toOption.map fun format =>
      { draft with format := some format }
  | "max-results" =>
    if draft.limit.isSome then none
    else (limit? value).map fun limit => { draft with limit := some limit }
  | _ => none

/-- The run that a complete draft describes. -/
def finish? (draft : Draft) : Option Request :=
  if draft.sources.isEmpty then none
  else some (.run {
    sources := draft.sources
    query := draft.query
    format := draft.format.getD .table
    limit := draft.limit.getD defaultLimit
    timing := draft.timing })

end Draft

/-- How an argument looks. -/
inductive Argument where
  /-- A full name, perhaps with a value after an equals sign. -/
  | long (name : String) (value : Option String)
  /-- A hyphen with a letter, perhaps with more after it. -/
  | short (letter : Char)
  /-- Two hyphens alone. -/
  | separator
  | plain (text : String)
deriving DecidableEq

namespace Argument

/-- An argument by its first characters. -/
def ofText (text : String) : Argument :=
  match text.toList with
  | ['-', '-'] => separator
  | '-' :: '-' :: rest =>
    match Text.cut? '=' rest with
    | some (name, value) => long (String.ofList name) (some (String.ofList value))
    | none => long (String.ofList rest) none
  | '-' :: letter :: _ => short letter
  | _ => plain text

end Argument

/-- Settles the arguments one after the other. There is no request where they are
no use of the program. -/
def settle (draft : Draft) : List String → Option Request
  | [] => draft.finish?
  | argument :: rest =>
    match Argument.ofText argument with
    | .plain _ => none
    | .separator => if rest.isEmpty then draft.finish? else none
    | .short 'V' => some .version
    | .short 'h' => some .help
    | .short _ => none
    | .long "version" none => some .version
    | .long "help" none => some .help
    | .long "timing" none =>
      if draft.timing then none else settle { draft with timing := true } rest
    | .long name (some value) => do settle (← draft.withValue? name value) rest
    | .long name none =>
      match rest with
      | [] => none
      | value :: rest =>
        match Argument.ofText value with
        | .plain _ => do settle (← draft.withValue? name value) rest
        | _ => none

/-- What the arguments ask for, if they are a use of the program. -/
def request? (arguments : List String) : Option Request := settle .empty arguments

end CampusQuery.CommandLine

import CampusQuery.Dataset
import CampusQuery.Text.Split

/-!
# Sources of datasets

A source is written as an identifier, an equals sign, a kind, a colon and a path.
The first equals sign and the first colon after it count; the path may hold more
of either. Whether the identifier can be registered is not asked here.
-/

namespace CampusQuery.CommandLine

/-- Where the records of a dataset are found. -/
structure Source where
  id : String
  kind : Kind
  path : String
deriving DecidableEq

namespace Source

/-- Why a text is no source. -/
inductive Malformed where
  | noEquals (text : String)
  | noColon (rest : String)
  | noPath (id : String)
  | kind (unknown : Kind.Unknown)
deriving DecidableEq

/-- The wording of the error. -/
def Malformed.message : Malformed → String
  | noEquals text => "expected <id>=<kind>:<path>, got '" ++ text ++ "'"
  | noColon rest => "expected <kind>:<path> after '=', got '" ++ rest ++ "'"
  | noPath id => "missing path for dataset '" ++ id ++ "'"
  | kind unknown => unknown.message

/-- A source as it is written. -/
def display (source : Source) : String :=
  source.id ++ "=" ++ source.kind.label ++ ":" ++ source.path

/-- Reads a source. A missing path is noticed before an unknown kind. -/
def read (text : String) : Except Malformed Source :=
  match Text.cut? '=' text.toList with
  | none => .error (.noEquals text)
  | some (id, rest) =>
    match Text.cut? ':' rest with
    | none => .error (.noColon (String.ofList rest))
    | some (_, []) => .error (.noPath (String.ofList id))
    | some (kind, path) =>
      match Kind.ofText (String.ofList kind) with
      | .error unknown => .error (.kind unknown)
      | .ok kind => .ok ⟨String.ofList id, kind, String.ofList path⟩

end Source

end CampusQuery.CommandLine

import CampusQuery.Answer
import CampusQuery.Document.Fields

/-!
# Settings

The one setting is the largest number of rows that a result may have. A document
that does not give it leaves it at its default.
-/

namespace CampusQuery

/-- The settings under which queries are answered. -/
structure Settings where
  limit : Nat
deriving DecidableEq, Repr

namespace Settings

/-- The settings where none are given. -/
def default : Settings := ⟨defaultLimit⟩

instance : Inhabited Settings := ⟨default⟩

/-- The settings of a document. -/
def ofWritten? : Written → Option Settings
  | .object members => do
    match (← Written.named? members).filter (·.1 = "max_results") with
    | [] => return default
    | [(_, limit)] => return ⟨← limit.natural?⟩
    | _ => none
  | .array [] => some default
  | .array [limit] => do return ⟨← limit.natural?⟩
  | _ => none

/-- Settings as a document. -/
def toJson (settings : Settings) : Json := .ofMembers [("max_results", .ofNat settings.limit)]

end Settings

end CampusQuery

/-
What a participant of a sequence diagram is drawn as, judged by the words of its name.
-/
import Draftsman.Text.Case

set_option autoImplicit false

namespace Draftsman.Markup

open Draftsman.Text

/-! ## The words of a name -/

/-- The humps of a run of letters and digits: a capital after a small letter or a digit
begins a new one. The first hump may continue one that began earlier, and `afterLower`
says whether the character before was a small letter or a digit. -/
def humps (afterLower : Bool) : List Char → List (List Char)
  | [] => [[]]
  | c :: cs =>
    match humps (isLowercase c || isPlainDigit c) cs with
    | [] => [[c]]
    | hump :: rest =>
      if isUppercase c && afterLower then [] :: (c :: hump) :: rest else (c :: hump) :: rest

/-- The words of a name in small letters. Words are separated by characters that are
neither letters nor digits, or by their capitals. -/
def nameWords (name : String) : List (List Char) :=
  let runs := (name.toList.splitOnP fun c => !isAlphanumeric c).filter fun run => !run.isEmpty
  runs.flatMap fun run => (humps false run).map lowerChars

/-! ## Roles -/

/-- What a participant is drawn as. -/
inductive Role where
  | participant
  | actor
  | database
deriving DecidableEq, Repr

/-- The keyword of a role. -/
def Role.keyword : Role → String
  | participant => "participant"
  | actor => "actor"
  | database => "database"

/-- Words for people. -/
def people : List String :=
  ["user", "users", "customer", "customers", "admin", "administrator", "actor", "client",
    "member", "person", "student", "teacher", "employee", "manager", "guest", "visitor",
    "librarian", "patient", "doctor", "buyer", "seller", "owner", "operator", "driver",
    "passenger"]

/-- Words for places that keep data. -/
def dataStores : List String :=
  ["database", "db", "repository", "repo", "store", "storage", "cache", "datastore",
    "persistence", "dao"]

/-- Whether one of the words is in a vocabulary. -/
def anyIn (vocabulary : List String) (words : List (List Char)) : Bool :=
  words.any fun w => vocabulary.contains (String.ofList w)

/-- The role of a participant. A place that keeps data is one even if it belongs to
people. -/
def role (name : String) : Role :=
  let words := nameWords name
  if anyIn dataStores words then .database
  else if anyIn people words then .actor
  else .participant

end Draftsman.Markup

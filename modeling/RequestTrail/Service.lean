import RequestTrail.Fault
import RequestTrail.RootUrl

/-!
# The storage service

Where the service is reached: the base URLs below one root. The root is kept as it was given, except
for the slashes at its end.
-/
namespace RequestTrail

structure Service where
  root : String
deriving DecidableEq, Repr

namespace Service

def publicRoot : String := "https://www.googleapis.com"

/-- The variable of the environment that names another root. -/
def rootVariable : String := "STORAGE_TRACKING_ROOT_URL"

def default : Service := ⟨publicRoot⟩

instance : Inhabited Service := ⟨default⟩

def dropSlashes (root : String) : String :=
  String.ofList (root.toList.reverse.dropWhile (· == '/')).reverse

/-- The whole text is judged, and then the slashes at its end are cut. -/
def ofRoot (root : String) : Except Fault Service :=
  match RootUrl.check root with
  | .ok () => .ok ⟨dropSlashes root⟩
  | .error reason => .error ⟨.rootUrl, root ++ ": " ++ reason.message⟩

/-- The root that the environment names. A value that is no text counts as unset, and an empty one
as a root. -/
def ofEnvironment (valueOf? : String → Option Bytes) : Except Fault Service :=
  ofRoot <| match (valueOf? rootVariable).bind Utf8.decode? with
    | some root => String.ofList root
    | none => publicRoot

def storage (s : Service) : String := s.root ++ "/storage/v1"

def upload (s : Service) : String := s.root ++ "/upload/storage/v1"

def batch (s : Service) : String := s.root ++ "/batch/storage/v1"

end Service

end RequestTrail

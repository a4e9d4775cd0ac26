import RemoteJobs.Failure
import RemoteJobs.Text.Blank

/-!
# Endpoints

The server listens at the path of a local socket. A name with a slash in it is
such a path; any other name stands for a file in the directory for temporary
files.
-/

namespace RemoteJobs

structure Endpoint where
  name : String
  path : String
  deriving DecidableEq

namespace Endpoint

def defaultName : String := "MoleQueue"

/-- The endpoint of a name, where `directory` is that for temporary files. -/
def resolve (directory name : String) : Except Failure Endpoint :=
  if Text.allBlank name then .error (.config "Endpoint name must not be empty")
  else if name.toList.contains '/' then .ok ⟨name, name⟩
  else .ok ⟨name, directory ++ "/" ++ name⟩

def describe (e : Endpoint) : String :=
  "Endpoint \x7b name: " ++ Text.quote e.name ++ ", path: " ++ Text.quote e.path ++ " \x7d"

end Endpoint

end RemoteJobs

import RemoteJobs.Schema.Record

/-!
# Requests for jobs

What a client asks the server to run: a program on a queue, its input, and what
is to become of the files. All but the queue and the program have values that
hold if nothing is said.
-/

namespace RemoteJobs

structure JobRequest where
  queue : String
  program : String
  description : String := ""
  inputAsPath : Option String := none
  inputAsString : Option String := none
  outputDirectory : Option String := none
  localWorkingDirectory : Option String := none
  cleanRemoteFiles : Bool := false
  retrieveOutput : Bool := true
  cleanLocalWorkingDirectory : Bool := false
  hideFromGui : Bool := false
  popupOnStateChange : Bool := true
  numberOfCores : UInt32 := 1
  maxWallTime : Option UInt32 := none
  deriving DecidableEq

/-- What may be wished for beside the queue and the program. -/
inductive Wish where
  | description (text : String)
  | inputAsPath (path : String)
  | inputAsString (contents : String)
  | outputDirectory (directory : String)
  | numberOfCores (cores : UInt32)
  | maxWallTime (minutes : UInt32)
  | hidden

namespace JobRequest

/-- The request of which only the queue and the program are said. -/
def plain (queue program : String) : JobRequest := { queue, program }

def grant (r : JobRequest) : Wish → JobRequest
  | .description t => { r with description := t }
  | .inputAsPath p => { r with inputAsPath := some p }
  | .inputAsString t => { r with inputAsString := some t }
  | .outputDirectory d => { r with outputDirectory := some d }
  | .numberOfCores n => { r with numberOfCores := n }
  | .maxWallTime n => { r with maxWallTime := some n }
  | .hidden => { r with hideFromGui := true }

/-- Of several wishes for one field the last is granted. -/
def build (queue program : String) (wishes : List Wish) : JobRequest :=
  wishes.foldl grant (plain queue program)

def reading : Schema.Reading JobRequest :=
  JobRequest.mk
    <$> Schema.required "queue" 0 .string
    <*> Schema.required "program" 1 .string
    <*> Schema.optional "description" 2 "" .string
    <*> Schema.optional "inputAsPath" 3 none (.nullable .string)
    <*> Schema.optional "inputAsString" 4 none (.nullable .string)
    <*> Schema.optional "outputDirectory" 5 none (.nullable .string)
    <*> Schema.optional "localWorkingDirectory" 6 none (.nullable .string)
    <*> Schema.optional "cleanRemoteFiles" 7 false .bool
    <*> Schema.optional "retrieveOutput" 8 true .bool
    <*> Schema.optional "cleanLocalWorkingDirectory" 9 false .bool
    <*> Schema.optional "hideFromGui" 10 false .bool
    <*> Schema.optional "popupOnStateChange" 11 true .bool
    <*> Schema.optional "numberOfCores" 12 1 .word32
    <*> Schema.optional "maxWallTime" 13 none (.nullable .word32)

def decode : Schema.Decoder JobRequest := Schema.record ⟨"JobRequest", 14⟩ reading

def members (r : JobRequest) : List (String × Json) :=
  [("queue", .str r.queue), ("program", .str r.program), ("description", .str r.description)]
    ++ Schema.present "inputAsPath" .str r.inputAsPath
    ++ Schema.present "inputAsString" .str r.inputAsString
    ++ Schema.present "outputDirectory" .str r.outputDirectory
    ++ Schema.present "localWorkingDirectory" .str r.localWorkingDirectory
    ++ [("cleanRemoteFiles", .bool r.cleanRemoteFiles),
      ("retrieveOutput", .bool r.retrieveOutput),
      ("cleanLocalWorkingDirectory", .bool r.cleanLocalWorkingDirectory),
      ("hideFromGui", .bool r.hideFromGui),
      ("popupOnStateChange", .bool r.popupOnStateChange),
      ("numberOfCores", .int r.numberOfCores.toNat)]
    ++ Schema.present "maxWallTime" (fun n => .int n.toNat) r.maxWallTime

def toJson (r : JobRequest) : Json := .object r.members

end JobRequest

end RemoteJobs

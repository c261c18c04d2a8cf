import Caseflow.Json.Decode
import Caseflow.Json.Reader
/-! The settings of an engine. -/
namespace Caseflow

open Json (Document)

/-- How many actions may follow one another on their own, whether an entry is completed once its
steps offer nothing, and the status of the steps that completion closes (`EngineConfig`). -/
structure Settings where
  maxAutoChainDepth : Nat := 32
  implicitFinish : Bool := true
  finishedStatus : String := "Finished"
  deriving DecidableEq, Repr, Inhabited

namespace Settings

def toJson (settings : Settings) : Json :=
  .obj [("finished_status", .str settings.finishedStatus),
    ("implicit_finish", .bool settings.implicitFinish),
    ("max_auto_chain_depth", .int settings.maxAutoChainDepth)]

/-- Reads a document; what it leaves out has its default. -/
def ofDocument? (document : Document) : Option Settings := do
  let members ← document.asMembers?
  let maxAutoChainDepth ← members.defaulted "max_auto_chain_depth" Document.asNat? 32
  let implicitFinish ← members.defaulted "implicit_finish" Document.asBool? true
  let finishedStatus ← members.defaulted "finished_status" Document.asText? "Finished"
  return { maxAutoChainDepth, implicitFinish, finishedStatus }

/-- Reads the text of a document (`from_json`). -/
def ofText? (text : String) : Option Settings :=
  (Document.ofText? text).bind ofDocument?

end Settings

end Caseflow

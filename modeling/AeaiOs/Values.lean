import AeaiOs.Lib.PyText
import AeaiOs.Lib.OrderedDict
import AeaiOs.Lib.CivilTime

/-!
Run-time values of the program: JSON-like data as it is stored in payloads and
checkpoints, and the exceptions that its operations raise.
-/
namespace RunValues
open PyText OrderedDict

inductive PyValue where
  | none
  | bool (value : Bool)
  | int (value : Int)
  | float (value : Rat)
  | str (value : String)
  | list (items : List PyValue)
  | dict (entries : List (String × PyValue))
  deriving Inhabited

/-- The entries of a `dict[str, Any]`, in insertion order. -/
abbrev PyDict := List (String × PyValue)

/-- What the interpreter prints a value as, next to the character database. -/
class PyRuntime extends UnicodeDatabase where
  repr : PyValue → String

inductive PyError where
  | valueError (message : String)
  | typeError
  | attributeError
  | overflowError
  | keyError (key : String)
  | runNotFound (runId : String)
  | graphNodeNotFound (nodeId : String)
  | artifactNotFound (artifactId : String)
  | runCheckpointNotFound (runId : String)
  | evaluationResultNotFound (evaluationId : String)
  | workflowJobNotFound (jobId : String)
  | workflowJobOwnership (jobId : String) (owner : Option String) (workerId : String)
  | workflowJobState (message : String)
  | graphValidation (message : String)
  | orchestration (message : String)
  | workflow (message : String)
  | runArchive (message : String)
  | runArchiveConflict (runId : String)
  | integrityError
  deriving DecidableEq, Repr

namespace PyValue

def ofOption : Option String → PyValue
  | .none => .none
  | some text => .str text

def ofStrings (items : List String) : PyValue := .list (items.map .str)

def truthy : PyValue → Bool
  | .none => false
  | .bool b => b
  | .int n => n ≠ 0
  | .float q => q ≠ 0
  | .str s => s ≠ ""
  | .list items => !items.isEmpty
  | .dict entries => !entries.isEmpty

/-- `str(value)`: a text is itself, anything else is printed. -/
def text [PyRuntime] : PyValue → String
  | .str s => s
  | value => PyRuntime.repr value

/-- `list(value)`: a text gives its characters, a dictionary its keys. -/
def toList : PyValue → Except PyError (List PyValue)
  | .list items => .ok items
  | .str s => .ok (s.toList.map fun c => .str (String.ofList [c]))
  | .dict entries => .ok (entries.map fun entry => .str entry.1)
  | _ => .error .typeError

end PyValue

/-- The digits of an integer literal: groups of digits with single underscores
    between them. -/
def literalDigits [UnicodeDatabase] (s : Text) : Option (List Nat) :=
  let groups := splitOn '_' s
  if groups.any List.isEmpty then none else groups.flatten.mapM UnicodeDatabase.digitValue

/-- `int(text)`; more than 4300 digits are refused. -/
def parseInt [UnicodeDatabase] (s : Text) : Option Int :=
  let (negative, digits) := match stripText s with
    | '-' :: rest => (true, rest)
    | '+' :: rest => (false, rest)
    | rest => (false, rest)
  match literalDigits digits with
  | none => none
  | some ds =>
      if 4300 < ds.length then none
      else
        let magnitude : Nat := ds.foldl (fun n d => 10 * n + d) 0
        some (if negative then -(magnitude : Int) else magnitude)

/-- `int(value)` -/
def PyValue.toInt [UnicodeDatabase] : PyValue → Except PyError Int
  | .bool b => .ok (if b then 1 else 0)
  | .int n => .ok n
  | .float q => .ok (q.num.tdiv q.den)
  | .str s =>
      match parseInt s.toList with
      | .some n => .ok n
      | .none => .error (.valueError "invalid literal for int()")
  | _ => .error .typeError

/-- A runtime that prints only integers, truth values and `None` as the real one
    does. -/
abbrev plainRuntime : PyRuntime where
  toUnicodeDatabase := asciiDatabase
  repr
    | .none => "None"
    | .bool b => if b then "True" else "False"
    | .int n => toString n
    | .str s => "'" ++ s ++ "'"
    | _ => "..."

namespace PyError

/-- `str(exc)`; a `KeyError` prints its only argument as `repr` does. -/
def text [PyRuntime] : PyError → String
  | .valueError message => message
  | .typeError => "unsupported operand"
  | .attributeError => "object has no such attribute"
  | .overflowError => "date value out of range"
  | .keyError key => PyRuntime.repr (.str key)
  | .runNotFound runId => PyRuntime.repr (.str s!"Run not found: {runId}")
  | .graphNodeNotFound nodeId => PyRuntime.repr (.str s!"Graph node not found: {nodeId}")
  | .artifactNotFound artifactId => PyRuntime.repr (.str s!"Artifact not found: {artifactId}")
  | .runCheckpointNotFound runId =>
      PyRuntime.repr (.str s!"Run checkpoint not found: {runId}")
  | .evaluationResultNotFound evaluationId =>
      PyRuntime.repr (.str s!"Evaluation result not found: {evaluationId}")
  | .workflowJobNotFound jobId => PyRuntime.repr (.str s!"Workflow job not found: {jobId}")
  | .workflowJobOwnership jobId owner workerId =>
      let owner := owner.getD "None"
      s!"Workflow job {jobId} is owned by {owner}, not {workerId}."
  | .workflowJobState message => message
  | .graphValidation message => message
  | .orchestration message => message
  | .workflow message => message
  | .runArchive message => message
  | .runArchiveConflict runId => s!"Run already exists: {runId}"
  | .integrityError => "constraint failed"

end PyError
end RunValues

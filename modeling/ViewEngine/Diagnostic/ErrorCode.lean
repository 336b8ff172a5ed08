/-
# Error codes

Each kind of failure has a code that can be searched for; its middle part names the stage.
-/
import ViewEngine.Text.Basic

namespace ViewEngine

/-- The code of a kind of failure. -/
inductive ErrorCode where
  | unmatchedTag | compileError | unexpectedEnd | runtimeError | renderDepth | circularView
  | templateNotFound | syntaxError
deriving DecidableEq, Repr

namespace ErrorCode

/-- The code as it is shown. -/
def text : ErrorCode → Text
  | unmatchedTag => "V-LEX-001"
  | compileError => "V-CMP-001"
  | unexpectedEnd => "V-CMP-002"
  | runtimeError => "V-RUN-001"
  | renderDepth => "V-RUN-002"
  | circularView => "V-RUN-003"
  | templateNotFound => "V-TPL-001"
  | syntaxError => "V-TPL-002"

/-- The name of the code. -/
def name : ErrorCode → Text
  | unmatchedTag => "UNMATCHED_TAG"
  | compileError => "COMPILE_ERROR"
  | unexpectedEnd => "UNEXPECTED_END"
  | runtimeError => "RUNTIME_ERROR"
  | renderDepth => "RENDER_DEPTH"
  | circularView => "CIRCULAR_VIEW"
  | templateNotFound => "TEMPLATE_NOT_FOUND"
  | syntaxError => "SYNTAX_ERROR"

/-- The stage that fails with the code. -/
def category : ErrorCode → Text
  | unmatchedTag => "lexer"
  | compileError | unexpectedEnd => "compiler"
  | runtimeError | renderDepth | circularView => "runtime"
  | templateNotFound | syntaxError => "template"

/-- All codes, in the order of their names. -/
def all : List ErrorCode :=
  [circularView, compileError, renderDepth, runtimeError, syntaxError, templateNotFound,
   unexpectedEnd, unmatchedTag]

/-- The code of a name. -/
def named? (n : Text) : Option ErrorCode := all.find? fun c => c.name = n

end ErrorCode
end ViewEngine

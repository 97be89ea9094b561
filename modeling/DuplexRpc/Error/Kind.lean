/-!
The kinds of errors and their codes on the wire.
-/

namespace DuplexRpc

/-- What kind of error a request ended with. -/
inductive ErrorKind where
  | parseError
  | invalidRequest
  | methodNotFound
  | invalidParams
  | internalError
  | duplicateHandler
  | invalidMapping
  | sendFailed
  | other (code : Int64)
deriving DecidableEq, Repr

namespace ErrorKind

def code : ErrorKind → Int64
  | .parseError => -32700
  | .invalidRequest => -32600
  | .methodNotFound => -32601
  | .invalidParams => -32602
  | .internalError => -32603
  | .duplicateHandler => -32001
  | .invalidMapping => -32002
  | .sendFailed => -32003
  | .other code => code

/-- The kinds that have a code of their own. -/
def table : List ErrorKind :=
  [.parseError, .invalidRequest, .methodNotFound, .invalidParams, .internalError,
    .duplicateHandler, .invalidMapping, .sendFailed]

/-- The kind of a code; a code outside the table is a kind of its own. -/
def ofCode (code : Int64) : ErrorKind :=
  (table.find? (·.code == code)).getD (.other code)

def name : ErrorKind → String
  | .parseError => "ParseError"
  | .invalidRequest => "InvalidRequest"
  | .methodNotFound => "MethodNotFound"
  | .invalidParams => "InvalidParams"
  | .internalError => "InternalError"
  | .duplicateHandler => "DuplicateHandler"
  | .invalidMapping => "InvalidMapping"
  | .sendFailed => "SendFailed"
  | .other code => s!"Other({code.toInt})"

end ErrorKind

end DuplexRpc

import DuplexRpc.Error.Basic

/-!
Errors of other kinds, which may wrap each other, and the error of the protocol that such a chain
stands for. The first link that is recognised decides, from the outermost inwards; a chain without
one is an internal error with the text of its outermost link.
-/

namespace DuplexRpc

/-- What a handler threw when it panicked. -/
inductive PanicPayload where
  | text (s : String)
  | other
deriving DecidableEq, Repr

/-- A panic as an error: its text, or a fixed one where it has none. -/
def RpcError.ofPanic : PanicPayload → RpcError
  | .text s => .internal s
  | .other => .internal "handler panicked"

/-- Kinds of input and output errors. -/
inductive IoKind where
  | timedOut
  | interrupted
  | notFound
  | brokenPipe
  | connectionReset
  | other
  /-- Any other kind, by its text. -/
  | unlisted (text : String)
deriving DecidableEq, Repr

/-- The text of a kind. -/
def IoKind.text : IoKind → String
  | .timedOut => "timed out"
  | .interrupted => "operation interrupted"
  | .notFound => "entity not found"
  | .brokenPipe => "broken pipe"
  | .connectionReset => "connection reset"
  | .other => "other error"
  | .unlisted text => text

/-- An error, and what it wraps. -/
inductive ErrorChain where
  /-- An error of the protocol. -/
  | typed (e : RpcError)
  /-- A task that was cancelled. -/
  | cancelled
  /-- A task that panicked. -/
  | panicked (payload : PanicPayload)
  /-- A timer that ran out. -/
  | elapsed
  /-- A channel whose sender is gone. -/
  | closed
  /-- An input or output error that wraps nothing, with the text of its kind or one of its own. -/
  | io (kind : IoKind) (text : String := kind.text)
  /-- An input or output error around another error, whose text it shows. -/
  | ioAround (kind : IoKind) (inner : ErrorChain)
  /-- An error with a text of its own and a source. -/
  | wrapped (text : String) (source : ErrorChain)
  /-- An error that is only a text. -/
  | plain (s : String)

namespace ErrorChain

/-- The text of a task that was cancelled or panicked; the number sign stands for its number. -/
def taskText (what : String) : String :=
  "task # " ++ what

def message : ErrorChain → String
  | .typed e => e.text
  | .cancelled => taskText "was cancelled"
  | .panicked (.text s) => taskText ("panicked with message " ++ Text.quoted s)
  | .panicked .other => taskText "panicked"
  | .elapsed => "deadline has elapsed"
  | .closed => "channel closed"
  | .io _ text => text
  | .ioAround _ inner => inner.message
  | .wrapped text _ => text
  | .plain s => s

/-- What an input or output error says by its kind alone. -/
def ofIoKind? : IoKind → Option RpcError
  | .timedOut => some .timeout
  | .interrupted => some .interrupted
  | _ => none

/-- The error that the first recognised link decides, none where no link is recognised. -/
def recognised? : ErrorChain → Option RpcError
  | .typed e => some e
  | .cancelled => some .interrupted
  | .panicked payload => some (.internal (message (.panicked payload)))
  | .elapsed => some .timeout
  | .closed => some .interrupted
  | .io kind _ => ofIoKind? kind
  | .ioAround kind inner => (ofIoKind? kind).or inner.recognised?
  | .wrapped _ source => source.recognised?
  | .plain _ => none

/-- The error of the protocol that a chain stands for. -/
def resolve (chain : ErrorChain) : RpcError :=
  chain.recognised?.getD (.internal chain.message)

end ErrorChain

end DuplexRpc

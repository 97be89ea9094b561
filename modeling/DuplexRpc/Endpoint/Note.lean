import DuplexRpc.Error.Basic
import DuplexRpc.Id

/-!
What an endpoint reports about its work.
-/

namespace DuplexRpc

/-- How much a report matters. -/
inductive Level where
  | debug
  | warn
  | error
deriving DecidableEq, Repr

inductive Note where
  | handlerRegistered (method : String)
  | listenerRegistered (method : String)
  | notifying (method : String)
  | requesting (id : Id) (method : String)
  | resolved (id : Id)
  | timedOut (id : Id) (method : String)
  | cancelled (id : Id)
  | requestFailed (id : Id) (method : String) (e : RpcError)
  | undecodable (e : RpcError)
  | invalid (e : RpcError)
  | unmatched (id : Id)
  | noListener (method : String)
  | noHandler (method : String)
  | listenerFailed (method : String) (e : RpcError)
  | replyLost (id : Id) (e : RpcError)
  | receivingEnded
  | readingEnded
  | readingFailed (e : RpcError)
  | writingFailed (e : RpcError)

namespace Note

def level : Note → Level
  | .undecodable _ | .invalid _ | .unmatched _ | .noListener _ | .noHandler _
  | .listenerFailed _ _ => .warn
  | .replyLost _ _ | .readingFailed _ | .writingFailed _ => .error
  | _ => .debug

/-- The wording of a report. The number sign stands for a span of time. -/
def text : Note → String
  | .handlerRegistered method => s!"register request handler: {method}"
  | .listenerRegistered method => s!"register notification handler: {method}"
  | .notifying method => s!"notify {method}"
  | .requesting id method => s!"request {id.text}: {method}"
  | .resolved id => s!"request {id.text} resolved after #"
  | .timedOut id method => s!"request {id.text} timed out: {method}"
  | .cancelled id => s!"request {id.text} cancelled by caller"
  | .requestFailed id method e => s!"request {id.text} ({method}) failed: {e.text}"
  | .undecodable e => s!"drop undecodable frame: {e.text}"
  | .invalid e => s!"drop invalid message: {e.text}"
  | .unmatched id => s!"no pending request for response: {id.text}"
  | .noListener method => s!"no notification handler: {method}"
  | .noHandler method => s!"no request handler: {method}"
  | .listenerFailed method e => s!"notification handler for {method} failed: {e.text}"
  | .replyLost id e => s!"failed to post response {id.text}: {e.text}"
  | .receivingEnded => "receive loop finished"
  | .readingEnded => "connection closed by peer"
  | .readingFailed e => s!"recv loop failed: {e.text}"
  | .writingFailed e => s!"send loop failed: {e.text}"

end Note

end DuplexRpc

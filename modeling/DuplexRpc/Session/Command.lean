import DuplexRpc.Network.Connect
import DuplexRpc.Service

/-!
What can be asked of a session, and what it replies.
-/

namespace DuplexRpc.Session

/-- What can be described. -/
inductive Subject where
  | endpoint
  | registry
  | resolver
  | pending
  | context
deriving DecidableEq, Repr

/-- What the owner of an endpoint asks of it. -/
inductive Ask where
  | frame (bytes : Frame)
  | handle (message : Value)
  | notify (launch : Launch)
  | register (entry : Registry.Entry)
  | methods
  | handlers (method : String)
  | mappings
  | isPending (id : Id)
  /-- Takes a request out of the pool, and ends it with an outcome or not at all. -/
  | pop (id : Id) (outcome : Option Outcome)
  | resolve (message : Value)
  | failAll (e : RpcError)
  | describe (subject : Subject)
  | config
  | context
  | stop
  /-- From now on posting fails, or works again. -/
  | failPosts (failure : Option RpcError)
  | letGo

/-- What is asked of a session. Calls and tasks are kept under keys. -/
inductive Command where
  | ask (side : Side) (what : Ask)
  | launch (side : Side) (key : String) (launch : Launch) (result : Decoder Value)
      (awaited : Bool)
  /-- Runs a script on behalf of a caller; without a key its outcome is waited for. -/
  | run (side : Side) (key : Option String) (script : Script)
  | poll (key : String)
  | await (key : String)
  | id (key : String)
  | drop (key : String)
  | describeCall (key : String)
  /-- Waits until all background loops of an endpoint have ended. -/
  | join (side : Side)
  /-- Whether all background loops of an endpoint have ended. -/
  | isStopped (side : Side)
  /-- Opens a gate. -/
  | release (gate : String) (opening : Opening)
  /-- Writes at the far end of the stream, and lets more commands follow at once. -/
  | write (bytes : List UInt8) (follow : Option (List Command))
  /-- The far end writes nothing more. -/
  | shutdown
  /-- The far end goes. -/
  | close
  /-- Commands with nothing going on between them. -/
  | batch (commands : List Command)

/-- What a session replies. -/
inductive Reply where
  | nothing
  | truth (b : Bool)
  | text (s : String)
  | texts (list : List String)
  | outcome (o : Outcome)
  /-- The outcome is not there yet. -/
  | pending
  /-- Nothing is kept under the key. -/
  | unknown
  /-- Nobody waits at a gate of that name, or has ever. -/
  | noGate
  /-- Whoever waits at the gate waits in vain. -/
  | dropped
  /-- The far end is gone. -/
  | closed
  /-- The owner has let go of the endpoint. -/
  | noEndpoint
  | id (id : Option Id)
  /-- A call was made, and perhaps waited for. -/
  | called (id : Option Id) (reply : Option Reply)
  /-- Whether a method has a handler for requests, and how many it has for notifications. -/
  | handlers (request : Bool) (notifications : Nat)
  | mappings (count : Nat)
  | isPending (contained empty : Bool)
  /-- The entry taken out of a pool, and whether its caller got the outcome given. -/
  | popped (p : PendingRequest) (delivered : Option Bool)
  | config (c : EndpointConfig)
  | context (c : Context)
  | described (s : Option String)
  | many (replies : List Reply)

end DuplexRpc.Session

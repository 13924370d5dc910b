import Userland.Web.Message

namespace Userland

/-! # Message connections

A client sends a request over a connection and waits for the answer. The
server answers with an ordinary response, or accepts the request as the
opening of a connection that carries messages both ways until either side
ends it. Once accepted, the server sends frames and reads the client's text
messages in the order they were sent.

The server ends a connection by sending a closing frame; it can send nothing
after it. A client that goes away makes every later send of the server fail;
the server still reads what the client sent before it went, then finds the
connection gone.
-/

namespace Web

/-- A frame the server sends on a connection. Empty texts, a zero pid and a
missing code are left out of its text. -/
structure Frame where
  type : String
  pid : Int
  stream : String
  data : List UInt8
  code : Option Int
  message : String
  deriving Inhabited, Repr

namespace Frame

/-- A frame of a type and nothing else. -/
def bare (type : String) : Frame := ⟨type, 0, "", [], none, ""⟩

end Frame

/-- How the request on a connection was answered. -/
inductive Opening where
  | pending
  /-- With an ordinary response. -/
  | answered (r : Response)
  /-- By taking the connection over for messages. -/
  | accepted
  deriving Inhabited

/-- A connection between a client and the server. -/
structure Socket where
  opening : Opening
  /-- Frames the server sent that the client has not read, oldest first. -/
  toClient : List Frame
  /-- Messages the client sent that the server has not read, oldest first. -/
  toServer : List String
  /-- Whether the server sent its closing frame. -/
  serverClosed : Bool
  /-- Whether the client went away. -/
  clientClosed : Bool
  deriving Inhabited

namespace Socket

/-- A connection whose request is not answered yet. -/
def dialing : Socket := ⟨.pending, [], [], false, false⟩

/-- Whether the server can still send: the client is there and the server has not closed. -/
def writable (s : Socket) : Bool := !s.clientClosed && !s.serverClosed

end Socket

end Web

end Userland

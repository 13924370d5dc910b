import Userland.Process.Error

namespace Userland

/-! # Faults

Everything an operation of this library can fail with. A fault is a cause at the
bottom, with any number of contexts in front of it; its text reads the contexts
from the outside in, each followed by a colon, then the cause. The class of a
fault is the class of its cause, whatever the contexts.
-/

/-- Why an operation failed. -/
inductive Fault where
  /-- An error of the process protocol. -/
  | sys (e : SysError)
  /-- A stream is at its end. -/
  | endOfStream
  /-- The caller gave up waiting: its context was cancelled. -/
  | cancelled
  /-- The caller gave up waiting: its deadline passed. -/
  | deadlineExceeded
  /-- A pipe was already closed. -/
  | pipeClosed
  /-- A reply's frame did not fit its signal. -/
  | replyTooLarge
  /-- A file that is not there, with the text the file system gives. -/
  | notExist (text : String)
  /-- An access the file system refuses, with its text. -/
  | permission (text : String)
  /-- A descriptor that is not open. -/
  | fileClosed
  /-- A program ended by exiting. -/
  | exited
  /-- A mailbox that was closed. -/
  | mailboxClosed
  /-- A malformed file name pattern. -/
  | badPattern
  /-- Any other failure, with its text. -/
  | other (text : String)
  /-- A fault seen from a context, which prefixes its text. -/
  | wrap (context : String) (inner : Fault)
  deriving DecidableEq, Repr, Inhabited

namespace Fault

/-- The text of a fault. -/
def message : Fault → String
  | .sys e => e.message
  | .endOfStream => "EOF"
  | .cancelled => "context canceled"
  | .deadlineExceeded => "context deadline exceeded"
  | .pipeClosed => "ipc: buffer closed"
  | .replyTooLarge => "ipc: reply exceeds signal capacity"
  | .notExist t => t
  | .permission t => t
  | .fileClosed => "file already closed"
  | .exited => "unit: process exited"
  | .mailboxClosed => "unit: mailbox closed"
  | .badPattern => "syntax error in pattern"
  | .other t => t
  | .wrap c i => c ++ ": " ++ i.message

/-- The cause beneath all contexts. -/
def cause : Fault → Fault
  | .wrap _ i => i.cause
  | f => f

/-- The protocol error at the bottom, if the cause is one. -/
def sysError? (f : Fault) : Option SysError :=
  match f.cause with
  | .sys e => some e
  | _ => none

/-- The protocol code of a fault: the code of a protocol error, else the code
for an error from elsewhere. -/
def code (f : Fault) : Int :=
  match f.sysError? with
  | some e => e.errno.code
  | none => Errno.external.code

/-- Whether the fault is the protocol error `e`, under any contexts. -/
def isErrno (f : Fault) (e : Errno) : Bool :=
  match f.sysError? with
  | some s => s.errno == e
  | none => false

/-- Whether the caller gave up waiting. -/
def isGiveUp (f : Fault) : Bool :=
  match f.cause with
  | .cancelled | .deadlineExceeded => true
  | _ => false

/-- The class a fault is reported under. -/
def kind (f : Fault) : String :=
  match f.cause with
  | .sys e => e.errno.name
  | .endOfStream => "EOF"
  | .cancelled | .deadlineExceeded => "WouldBlock"
  | .pipeClosed => "Closed"
  | .replyTooLarge => "ReplyTooLarge"
  | .notExist _ => "NotExist"
  | .permission _ => "Permission"
  | .fileClosed => "BadDescriptor"
  | .exited => "Exited"
  | .mailboxClosed => "MailboxClosed"
  | .badPattern => "BadPattern"
  | _ => "Error"

end Fault

end Userland

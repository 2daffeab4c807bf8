import FsidRegistry.Dictionary
import FsidRegistry.Fault
import FsidRegistry.Response
import FsidRegistry.Text.Uppercase
import FsidRegistry.Text.Utf8

/-!
Handlers of verbs, and what becomes of a request. Verbs are told apart by their upper case alone. A
request is split at its first space into verb and argument; one that is too long, is not UTF-8, or
names no registered verb is answered on the spot.
-/

namespace FsidRegistry

/-- Registered handlers by the upper case of their verb. -/
abbrev HandlerTable (η : Type) : Type := Dictionary String η

namespace HandlerTable

variable {η : Type}

/-- Registers a handler for a verb. -/
def register (table : HandlerTable η) (serving : Bool) (verb : String) (handler : η) :
    Except Fault (HandlerTable η) :=
  let verb := Text.uppercase verb
  if verb.isEmpty then .error .emptyVerb
  else if serving then .error (.alreadyServing verb)
  else if table.contains verb then .error (.verbTaken verb)
  else .ok (table.insert verb handler)

end HandlerTable

/-- What becomes of a request. -/
inductive Dispatch (η : Type)
  /-- It is answered on the spot. -/
  | respond (response : Response)
  /-- A handler is called with the argument. -/
  | call (handler : η) (argument : String)

namespace Request

/-- The verb and the argument of a request line: the text before its first space and all the text after
it. -/
def split (line : String) : String × String :=
  let cs := line.toList
  (String.ofList (cs.takeWhile (· != ' ')), String.ofList ((cs.dropWhile (· != ' ')).drop 1))

/-- Decides what becomes of a request packet. -/
def dispatch {η : Type} (table : HandlerTable η) (packet : ByteArray) : Dispatch η :=
  if packetLimit < packet.size then .respond (.err "message truncated")
  else match Text.decode? packet with
    | none => .respond (.ofResult (.error .invalidArgument))
    | some line =>
      let (verb, argument) := split line
      let verb := Text.uppercase verb
      match table.get? verb with
      | none => .respond (.err ("unknown command " ++ Text.quoted verb))
      | some handler => .call handler argument

end Request

end FsidRegistry

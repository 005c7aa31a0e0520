import Muster.Probe.ProtocolError
import Muster.Text.Blank
import Muster.Text.Utf8

/-!
# Messages

The query protocol sends datagrams of four marker bytes followed by text.  The text is a command
name, one blank character as separator, and data, which may hold anything.  Game servers take a
space after a request and put a line break after the name of a response.
-/

namespace Muster

/-- A command with its data and the blank between them. -/
structure Message where
  command : String
  data : String
  separator : Char
  deriving DecidableEq, Repr

namespace Message

/-- The bytes in front of every datagram of the query protocol. -/
def marker : List UInt8 :=
  [0xFF, 0xFF, 0xFF, 0xFF]

def defaultSeparator : Char := ' '

/-- A command name is not empty and holds no blank. -/
def isCommand (command : List Char) : Bool :=
  !command.isEmpty && !command.any Text.isBlank

/-- Makes a message of parts that can be told apart again.  A bad command is reported before a bad
separator. -/
def ofParts (command data : String) (separator : Char) : Except ProtocolError Message :=
  if !isCommand command.toList then .error .invalidCommand
  else if !Text.isBlank separator then .error (.invalidSeparator separator)
  else .ok ⟨command, data, separator⟩

def text (message : Message) : List Char :=
  message.command.toList ++ message.separator :: message.data.toList

def encode (message : Message) : List UInt8 :=
  marker ++ Text.Utf8.encode message.text

def payload? : List UInt8 → Option (List UInt8)
  | 0xFF :: 0xFF :: 0xFF :: 0xFF :: payload => some payload
  | _ => none

/-- The message that a text holds: the command ends at the first blank. -/
def ofText (text : List Char) : Except ProtocolError Message :=
  match Text.cutAtBlank? text with
  | none => .error (.missingSeparator (String.ofList text))
  | some ([], _, _) => .error .invalidCommand
  | some (command, separator, data) =>
    .ok ⟨String.ofList command, String.ofList data, separator⟩

/-- Reads a datagram.  Bytes that are no characters read as U+FFFD. -/
def decode (datagram : List UInt8) : Except ProtocolError Message :=
  match payload? datagram with
  | none => .error .missingMarker
  | some payload => ofText (Text.Utf8.decodeLossy payload)

/-- The name under which a command is looked up: its letters A to Z in lower case. -/
def lookupName (command : String) : String :=
  String.ofList (command.toList.map Char.toLower)

/-- The name under which the message's command is looked up. -/
def key (message : Message) : String :=
  lookupName message.command

end Message

/-- What a game server can be asked for. -/
inductive ProbeKind where
  | info
  | status
  deriving DecidableEq, Repr

namespace ProbeKind

def requestCommand : ProbeKind → String
  | info => "getinfo"
  | status => "getstatus"

/-- The lookup name of the command that answers. -/
def responseCommand : ProbeKind → String
  | info => "inforesponse"
  | status => "statusresponse"

/-- The name of the answering command as game servers write it. -/
def replyCommand : ProbeKind → String
  | info => "infoResponse"
  | status => "statusResponse"

def request (kind : ProbeKind) : Message :=
  ⟨kind.requestCommand, "", Message.defaultSeparator⟩

end ProbeKind

end Muster

import Testbed.Api.Exchange
import Testbed.Api.Schema.Container
import Testbed.Text.Basic
import Testbed.Text.Utf8

namespace Testbed
namespace Api

/-!
Commands in containers. What a command writes and how it ended come on the channels of a stream; the stream
is over with the first word on how the command ended.
-/

/-- The protocol that commands speak. -/
def commandProtocol : String := "v4.channel.k8s.io"

/-- The channel of what a command writes. -/
def outputChannel : Nat := 1

/-- The channel of what a command complains about. -/
def complaintChannel : Nat := 2

/-- The channel of how a command ended. -/
def statusChannel : Nat := 3

/-- Whether a piece says how the command ended. -/
def Frame.endsCommand (frame : Frame) : Bool :=
  frame.channel == statusChannel && !frame.bytes.isEmpty

/-- What came on a channel before the command ended. -/
def received (channel : Nat) (frames : List Frame) : List UInt8 :=
  ((frames.takeWhile fun frame => !frame.endsCommand).filter fun frame =>
    frame.channel == channel).flatMap Frame.bytes

/-- The document that says how the command ended, if it can be read. -/
def commandStatus? (frames : List Frame) : Option Json := do
  let frame ← frames.find? Frame.endsCommand
  let text ← (Text.Utf8.decode frame.bytes).toOption
  let status ← RawJson.parse text
  Schema.commandStatus.see status

/-- What a command complained about, if it can be read. -/
def complaint (frames : List Frame) : String :=
  match Text.Utf8.decode (received complaintChannel frames) with
  | .ok text => Text.trim text
  | .error _ => ""

/-- The message that a command failed. -/
def commandFailure (pod container : String) (command : List String) (message complaint : String) :
    String :=
  "command " ++ Text.quotedList command ++ " failed in " ++ pod ++ "/" ++ container ++ ": " ++
    message ++ " " ++ complaint

/-- The text in a member, or nothing. -/
def textIn (document : Json) (name : String) : String :=
  ((document.member? name).bind Json.toString?).getD ""

/-- What a command wrote, unless it failed. -/
def commandResult (pod container : String) (command : List String) (frames : List Frame) :
    Except Error String :=
  match Text.Utf8.decode (received outputChannel frames) with
  | .error fault => .error (.internal "exec" ("failed to read stdout: " ++ fault.message))
  | .ok output =>
    match commandStatus? frames with
    | some status =>
      if textIn status "status" == "Failure" then
        .error (.internal "exec"
          (commandFailure pod container command (textIn status "message") (complaint frames)))
      else .ok output
    | none => .ok output

end Api
end Testbed

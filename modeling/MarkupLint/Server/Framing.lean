import MarkupLint.Json.Decoding
import MarkupLint.Json.Reader
import MarkupLint.Server.Protocol
/-!
# Framing

On a stream, every message is preceded by header lines, one of which tells the number of octets of
the message, and by an empty line.
-/

namespace MarkupLint.Server

/-- Split octets at the first occurrence of an end of line. -/
def splitLine : Octets → Option (Octets × Octets)
  | [] => none
  | 0x0D :: 0x0A :: rest => some ([], rest)
  | octet :: rest => (splitLine rest).map fun (line, rest) => (octet :: line, rest)

/-- The rest after a line is shorter than what was split. -/
theorem splitLine_length {octets line rest : Octets} (split : splitLine octets = some (line, rest)) :
    rest.length < octets.length := by
  fun_induction splitLine octets generalizing line with
  | case1 => simp at split
  | case2 tail =>
      obtain ⟨_, rfl⟩ := by simpa using split
      simp only [List.length_cons]
      omega
  | case3 octet tail _ ih =>
      cases found : splitLine tail with
      | none => simp [found] at split
      | some pair =>
          obtain ⟨inner, after⟩ := pair
          obtain ⟨_, rfl⟩ := by simpa [found] using split
          have shorter := ih found
          simp only [List.length_cons]
          omega

/-- The name of the header with the length of a message, in lower case. -/
def lengthHeader : String := "content-length"

/-- The length that a header line tells, if it is that header. -/
def lengthOf? (line : Octets) : Option Nat :=
  let text := (Utf8.decodeLossy line).toList
  let name := text.takeWhile (· != ':')
  if String.ofList (name.map Char.toLower) = lengthHeader then
    (String.ofList (Text.trim (text.drop (name.length + 1)))).toNat?
  else none

/-- Read header lines up to the empty one: the length that they tell, and what follows them. -/
def readHeaders (length : Option Nat) (octets : Octets) : Option (Option Nat × Octets) :=
  match _found : splitLine octets with
  | none => none
  | some ([], rest) => some (length, rest)
  | some (line, rest) => readHeaders ((lengthOf? line) <|> length) rest
termination_by octets.length
decreasing_by exact splitLine_length (by assumption)

/-- What follows the headers is shorter than what was read. -/
theorem readHeaders_length {length told : Option Nat} {octets rest : Octets}
    (read : readHeaders length octets = some (told, rest)) : rest.length < octets.length := by
  fun_induction readHeaders length octets with
  | case1 => simp at read
  | case2 length octets tail found =>
      obtain ⟨_, rfl⟩ := by simpa using read
      exact splitLine_length found
  | case3 length octets line tail _ found ih =>
      exact Nat.lt_trans (ih read) (splitLine_length found)

/-- The first message on a stream and what follows it, if it is there as a whole. -/
def nextFrame? (octets : Octets) : Option (Octets × Octets) :=
  match readHeaders none octets with
  | some (some length, rest) =>
      if rest.length < length then none else some (rest.take length, rest.drop length)
  | _ => none

/-- What follows a message is shorter than what was read. -/
theorem nextFrame?_length {octets body rest : Octets}
    (found : nextFrame? octets = some (body, rest)) : rest.length < octets.length := by
  unfold nextFrame? at found
  split at found
  · rename_i length after read
    split at found
    · simp at found
    · obtain ⟨_, rfl⟩ := by simpa using found
      have shorter := readHeaders_length read
      simp only [List.length_drop]
      omega
  · simp at found

/-- The messages that are on a stream as a whole, and what is left. -/
def takeFrames (octets : Octets) : List Octets × Octets :=
  match _found : nextFrame? octets with
  | none => ([], octets)
  | some (body, rest) =>
      let (bodies, rest) := takeFrames rest
      (body :: bodies, rest)
termination_by octets.length
decreasing_by exact nextFrame?_length (by assumption)

/-- The bodies of the messages on a stream that has ended. An unfinished one at the end stands as
none. -/
def splitFrames (octets : Octets) : List (Option Octets) :=
  let (bodies, rest) := takeFrames octets
  bodies.map some ++ if rest.isEmpty then [] else [none]

/-- A message on a stream: a request or notification, an answer of the host, or neither. -/
inductive Message where
  | request (request : Request)
  | answer
  | unreadable
  | invalid

/-- The message with a body. -/
def Message.ofBody (body : Octets) : Message :=
  match (Utf8.decode? body).map Json.parse with
  | some (.ok value) =>
      match value.get? "jsonrpc", value.get? "method", value.get? "id" with
      | some (.string "2.0"), some (.string method), id =>
          .request ⟨id, method, value.get? "params"⟩
      | some (.string "2.0"), none, some _ => .answer
      | _, _, _ => .invalid
  | _ => .unreadable

/-- The members that every message on a stream has. -/
def envelope (members : List (String × Json)) : Json :=
  .ofMembers (("jsonrpc", .string "2.0") :: members)

/-- A response on a stream. -/
def Response.toJson? : Response → Option Json
  | .silence | .gone => none
  | .result id value => some (envelope [("id", id), ("result", value)])
  | .refused id refusal =>
      some (envelope [("id", id),
        ("error", .ofMembers [("code", .number (.integer refusal.code))])])

/-- A message of the server on a stream; a request has a number. -/
def Outgoing.toJson (outgoing : Outgoing) : Json :=
  let members := [("method", .string outgoing.method), ("params", outgoing.params)]
  match outgoing with
  | .watchFiles => envelope (("id", .ofNat 0) :: members)
  | _ => envelope members

/-- A conversation over a stream: what the server sent and noticed. -/
structure Conversation where
  server : Server
  sent : List Json
  notices : List Notice

/-- Take one frame off a stream. -/
def Conversation.take [Process.Runner] (world : World) (conversation : Conversation)
    (frame : Option Octets) : Conversation :=
  let refuse (refusal : Refusal) : Conversation :=
    { conversation with
      sent := conversation.sent ++ (Response.refused .null refusal).toJson?.toList }
  match frame.map Message.ofBody with
  | none | some .unreadable => refuse .unreadable
  | some .invalid => refuse .invalidRequest
  | some .answer => conversation
  | some (.request request) =>
      let turn := conversation.server.receive world request
      ⟨turn.server,
        conversation.sent ++ turn.response.toJson?.toList ++ turn.sent.map Outgoing.toJson,
        conversation.notices ++ turn.notices⟩

/-- Take frames until the host asks the server to exit. -/
def Conversation.takeAll [Process.Runner] (world : World) (conversation : Conversation)
    (frames : List (Option Octets)) : Conversation :=
  frames.foldl (fun conversation frame =>
    if conversation.server.phase = .exited then conversation
    else conversation.take world frame) conversation

/-- Let time pass in a conversation. -/
def Conversation.advance (world : World) (conversation : Conversation) (milliseconds : Nat) :
    Conversation :=
  let turn := conversation.server.advance world milliseconds
  ⟨turn.server, conversation.sent ++ turn.sent.map Outgoing.toJson,
    conversation.notices ++ turn.notices⟩

/-- Serve the messages on a stream that has ended. -/
def converse [Process.Runner] (world : World) (server : Server) (input : Octets) :
    Conversation :=
  Conversation.takeAll world ⟨server, [], []⟩ (splitFrames input)

/-- A message with the header lines in front of it. -/
def frame (message : Json) : String :=
  let body := message.compact
  "Content-Length: " ++ toString body.utf8ByteSize ++ "\r\n\r\n" ++ body

end MarkupLint.Server

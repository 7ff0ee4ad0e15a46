import Mathlib.Data.List.Basic

/-! The event-stream framing driver of the two Bedrock egresses. The frame
decoder is a third party's: it keeps a prelude it has read between calls. -/
namespace Routectl.Bedrock

abbrev Bytes := List UInt8

def maxFrameBytes : Nat := 8 * 1024 * 1024

inductive FrameLabel where
  | invoke
  | converse
deriving Repr, DecidableEq

def FrameLabel.capExceeded (advertised : Nat) : FrameLabel → String
  | .invoke => "bedrock eventstream frame advertised " ++ toString advertised ++
      " bytes, exceeds cap " ++ toString maxFrameBytes
  | .converse => "bedrock converse-stream frame advertised " ++ toString advertised ++
      " bytes, exceeds cap " ++ toString maxFrameBytes

def FrameLabel.upstreamRead (reason : String) : FrameLabel → String
  | .invoke => "bedrock upstream byte read failed: " ++ reason
  | .converse => "bedrock converse upstream byte read failed: " ++ reason

def FrameLabel.eofBuffered (left : Nat) : FrameLabel → String
  | .invoke => "bedrock stream truncated: " ++ toString left ++ " buffered bytes left at EOF"
  | .converse =>
    "bedrock converse-stream truncated: " ++ toString left ++ " buffered bytes left at EOF"

def FrameLabel.eofPrelude : FrameLabel → String
  | .invoke => "bedrock stream truncated: " ++
      "prelude consumed but frame body never arrived before EOF"
  | .converse => "bedrock converse-stream truncated: " ++
      "prelude consumed but frame body never arrived before EOF"

/-- Why a stream ends with an error: framing's own, or the handler's. -/
inductive StreamError (HandlerError : Type) where
  | streaming (text : String)
  | handler (error : HandlerError)

/-- The per-frame interpretation; a refused frame is fatal to the stream. -/
structure FrameHandler (Handler Message Chunk HandlerError : Type) where
  onFrame : Handler → Message → Except HandlerError (List Chunk × Handler)
  onEof : Handler → List Chunk

inductive DecodedFrame (Message : Type) where
  | complete (message : Message)
  | incomplete
  | error

/-- The third party's decoder: an outcome, how far the cursor went, and the state
left. -/
structure MessageFrameDecoder (State Message : Type) where
  new : State
  decodeFrame : State → Bytes → DecodedFrame Message × Nat × State

/-- The big-endian length in the first four bytes. -/
def advertisedLength : Bytes → Nat
  | first :: second :: third :: fourth :: _ =>
    ((first.toNat * 256 + second.toNat) * 256 + third.toNat) * 256 + fourth.toNat
  | _ => 0

structure Driver (State : Type) where
  buffer : Bytes
  decoder : State
  smithyHasPreludeBuffered : Bool

inductive Iteration (State Message : Type) where
  | capped (advertised : Nat)
  | complete (message : Message) (next : Driver State)
  | waiting (next : Driver State)
  | skipped (next : Driver State)

variable {State Message Handler Chunk HandlerError : Type}

/-- The length the driver reads off the buffer, none it can trust behind a
prelude already taken. -/
def Driver.advertised (driver : Driver State) : Nat :=
  if !driver.smithyHasPreludeBuffered && 4 ≤ driver.buffer.length then
    advertisedLength driver.buffer
  else 0

/-- One turn of the inner loop. -/
def iterate (decoder : MessageFrameDecoder State Message) (driver : Driver State) :
    Iteration State Message :=
  if maxFrameBytes < driver.advertised then .capped driver.advertised
  else
    match decoder.decodeFrame driver.decoder driver.buffer with
    | (.complete message, consumed, state) =>
      .complete message { buffer := driver.buffer.drop consumed, decoder := state,
                          smithyHasPreludeBuffered := false }
    | (.incomplete, consumed, state) =>
      if 0 < consumed then
        .waiting { buffer := driver.buffer.drop consumed, decoder := state,
                   smithyHasPreludeBuffered := true }
      else .waiting { driver with decoder := state }
    | (.error, _, _) =>
      .skipped
        { buffer :=
            if 0 < driver.advertised && driver.advertised ≤ driver.buffer.length then
              driver.buffer.drop driver.advertised
            else [],
          decoder := decoder.new, smithyHasPreludeBuffered := false }

inductive Yielded (Chunk HandlerError : Type) where
  | chunk (chunk : Chunk)
  | error (error : StreamError HandlerError)

/-- What the stream has given so far; `handed` keeps the frames that reached the
handler. -/
structure Output (Message Handler Chunk HandlerError : Type) where
  handler : Handler
  handed : List Message
  yielded : List (Yielded Chunk HandlerError)
  ended : Bool

namespace Output

def fail (output : Output Message Handler Chunk HandlerError) (error : StreamError HandlerError) :
    Output Message Handler Chunk HandlerError :=
  { output with yielded := output.yielded ++ [.error error], ended := true }

def hand (handler : FrameHandler Handler Message Chunk HandlerError)
    (output : Output Message Handler Chunk HandlerError) (message : Message) :
    Output Message Handler Chunk HandlerError :=
  let handed := { output with handed := output.handed ++ [message] }
  match handler.onFrame output.handler message with
  | .error error => handed.fail (.handler error)
  | .ok (chunks, next) =>
    { handed with handler := next, yielded := output.yielded ++ chunks.map .chunk }

end Output

structure Session (State Message Handler Chunk HandlerError : Type) where
  driver : Driver State
  output : Output Message Handler Chunk HandlerError

section Loop
variable (decoder : MessageFrameDecoder State Message)
  (handler : FrameHandler Handler Message Chunk HandlerError) (label : FrameLabel)

/-- The inner loop, for as many turns as the fuel allows. -/
def drain : Nat → Session State Message Handler Chunk HandlerError →
    Session State Message Handler Chunk HandlerError
  | 0, session => session
  | fuel + 1, session =>
    match iterate decoder session.driver with
    | .capped advertised =>
      { session with output := session.output.fail (.streaming (label.capExceeded advertised)) }
    | .waiting driver => { session with driver }
    | .skipped driver => drain fuel { session with driver }
    | .complete message driver =>
      let output := session.output.hand handler message
      if output.ended then { driver, output } else drain fuel { driver, output }

/-- One more turn than there are bytes held. -/
def turns (driver : Driver State) : Nat :=
  driver.buffer.length + (if driver.smithyHasPreludeBuffered then 12 else 0) + 1

def decodeBuffered (session : Session State Message Handler Chunk HandlerError) :
    Session State Message Handler Chunk HandlerError :=
  drain decoder handler label (turns session.driver) session

/-- The next item of the byte stream. -/
def receive (session : Session State Message Handler Chunk HandlerError)
    (item : Except String Bytes) : Session State Message Handler Chunk HandlerError :=
  if session.output.ended then session
  else
    match item with
    | .ok bytes =>
      decodeBuffered decoder handler label
        { session with
          driver := { session.driver with buffer := session.driver.buffer ++ bytes } }
    | .error reason =>
      { session with output := session.output.fail (.streaming (label.upstreamRead reason)) }

def finish (session : Session State Message Handler Chunk HandlerError) :
    Output Message Handler Chunk HandlerError :=
  if session.output.ended then session.output
  else if session.driver.buffer ≠ [] then
    session.output.fail (.streaming (label.eofBuffered session.driver.buffer.length))
  else if session.driver.smithyHasPreludeBuffered then
    session.output.fail (.streaming label.eofPrelude)
  else
    { session.output with
      yielded := session.output.yielded ++ (handler.onEof session.output.handler).map .chunk,
      ended := true }

def start (initial : Handler) : Session State Message Handler Chunk HandlerError :=
  { driver := { buffer := [], decoder := decoder.new, smithyHasPreludeBuffered := false },
    output := { handler := initial, handed := [], yielded := [], ended := false } }

def decodeFrames (initial : Handler) (items : List (Except String Bytes)) :
    Output Message Handler Chunk HandlerError :=
  finish handler label
    (items.foldl (receive decoder handler label)
      (decodeBuffered decoder handler label (start decoder initial)))

end Loop
end Routectl.Bedrock

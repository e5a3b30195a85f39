import Mathlib

/-!
# Frames, server info and errors

The values `client.rs` exchanges with its collaborators:

* `ClientOp` — the frames it hands to `proto::encode`;
* `ServerOp` — the frames `proto::decode` returns to the dispatcher;
* `ServerInfo` — the one capability of the server that `client.rs` reads;
* `Error` — the `io::Error`s it builds, with their kinds and texts.

The codec itself is not part of `client.rs`. The model takes it as a parameter
(`Config.encode`: the chunks `proto::encode` writes for a frame, in order), so
every theorem over `Config` holds for every codec; `natsEncode` is the NATS line
protocol, used to run concrete traces.
-/

namespace NatsClient

/-- `Headers`: each header name with its set of values. -/
abbrev Headers := List (String × List String)

/-- `ServerInfo`, as far as `client.rs` reads it: whether the server accepts
HPUB frames. `ServerInfo::default()` has `headers = false`. -/
structure ServerInfo where
  headers : Bool
  deriving DecidableEq, Repr, Inhabited

/-- `proto::ClientOp`: the frames the client sends. Sids are `u64`s. -/
inductive ClientOp
  | pub (subject : String) (replyTo : Option String) (payload : List UInt8)
  | hpub (subject : String) (replyTo : Option String) (headers : Headers) (payload : List UInt8)
  | sub (subject : String) (queueGroup : Option String) (sid : Nat)
  | unsub (sid : Nat) (maxMsgs : Option Nat)
  | ping
  | pong
  deriving DecidableEq, Repr

/-- `proto::ServerOp`: the frames the dispatcher acts on. -/
inductive ServerOp
  | info (info : ServerInfo)
  | ping
  | pong
  | msg (subject : String) (sid : Nat) (replyTo : Option String) (payload : List UInt8)
  | hmsg (subject : String) (headers : Headers) (sid : Nat) (replyTo : Option String)
      (payload : List UInt8)
  | err (msg : String)
  | unknown (line : String)
  deriving DecidableEq, Repr

/-- What one `write_all` hands to a connection's `BufWriter`: chunk `i` of the
frame `op`, as `proto::encode` writes it, or the raw bytes `reconnect` replays
from the reconnect buffer. The frame a chunk belongs to is a ghost label: the
connection receives only the chunk's bytes. -/
inductive Item
  | chunk (op : ClientOp) (i : Nat)
  | bytes (data : List UInt8)
  deriving DecidableEq, Repr

/-- The `io::ErrorKind`s the client returns; `stream` stands for whatever kind
an I/O call on the connection reports. -/
inductive ErrorKind
  | notConnected
  | invalidInput
  | connectionReset
  | other
  | stream
  deriving DecidableEq, Repr

/-- An `io::Error`: its kind and its text. -/
structure Error where
  kind : ErrorKind
  message : String
  deriving DecidableEq, Repr

/-- `check_shutdown`'s error. -/
def closedError : Error := ⟨.notConnected, "the client is closed"⟩

/-- `publish`'s error for headers sent to a server without header support. -/
def headersError : Error := ⟨.invalidInput, "the server does not support headers"⟩

/-- `Buffer::write`'s error once the reconnect buffer is saturated. -/
def bufferFullError : Error := ⟨.other, "the disconnect buffer is full"⟩

/-- `flush`'s error when its pending PONG was dropped. -/
def flushError : Error := ⟨.connectionReset, "flush failed"⟩

/-- An error of the connection's stream; its text comes from the OS. -/
def streamError : Error := ⟨.stream, ""⟩

/-- The parts of the configuration the client's behaviour depends on. -/
structure Config where
  /-- `proto::encode`: the chunks it writes for a frame, in order. -/
  encode : ClientOp → List (List UInt8)
  /-- `Options::reconnect_buffer_size`. -/
  reconnectBufferSize : Nat

/-- The number of bytes an item occupies in a `BufWriter`. -/
def Config.itemLen (cfg : Config) : Item → Nat
  | .chunk op i => ((cfg.encode op).getD i []).length
  | .bytes data => data.length

theorem Config.itemLen_chunk (cfg : Config) (op : ClientOp) (i : Nat) :
    cfg.itemLen (.chunk op i) = ((cfg.encode op).map List.length).getD i 0 :=
  (List.getD_map ..).symm

/-- The first `j` chunks of `op`, in order. -/
def ClientOp.firstChunks (op : ClientOp) (j : Nat) : List Item := (List.range j).map (.chunk op)

/-- The items `proto::encode` writes for `op`, one per chunk, in order. -/
def Config.chunks (cfg : Config) (op : ClientOp) : List Item := op.firstChunks (cfg.encode op).length

/-- The PINGs among `items` that are there whole: those whose last chunk is. -/
def Config.pings (cfg : Config) (items : List Item) : Nat :=
  (items.filter (· == .chunk .ping ((cfg.encode .ping).length - 1))).length

/-- The bytes of a `&str`. -/
def utf8 (s : String) : List UInt8 := s.toUTF8.data.toList

/-- Modelled from the spec: `proto::encode` is not in `client.rs`. The NATS line
protocol frames of the spec's scenarios (`PUB x …a`, `SUB`, `PING`), one chunk
per `write_all`. -/
def natsEncode : ClientOp → List (List UInt8)
  | .pub subject replyTo payload =>
      [utf8 "PUB ", utf8 subject, utf8 " "] ++ (replyTo.map fun r => [utf8 r, utf8 " "]).getD []
        ++ [utf8 (toString payload.length), utf8 "\r\n", payload, utf8 "\r\n"]
  | .hpub subject replyTo headers payload =>
      let block := utf8 "NATS/1.0\r\n" ++ (headers.flatMap fun (k, vs) =>
        vs.flatMap fun v => utf8 k ++ utf8 ": " ++ utf8 v ++ utf8 "\r\n") ++ utf8 "\r\n"
      [utf8 "HPUB ", utf8 subject, utf8 " "] ++ (replyTo.map fun r => [utf8 r, utf8 " "]).getD []
        ++ [utf8 (toString block.length), utf8 " ", utf8 (toString (block.length + payload.length)),
          utf8 "\r\n", block, payload, utf8 "\r\n"]
  | .sub subject queueGroup sid =>
      [utf8 "SUB ", utf8 subject, utf8 " "] ++ (queueGroup.map fun q => [utf8 q, utf8 " "]).getD []
        ++ [utf8 (toString sid), utf8 "\r\n"]
  | .unsub sid maxMsgs =>
      [utf8 "UNSUB ", utf8 (toString sid)] ++ (maxMsgs.map fun m => [utf8 " ", utf8 (toString m)]).getD []
        ++ [utf8 "\r\n"]
  | .ping => [utf8 "PING\r\n"]
  | .pong => [utf8 "PONG\r\n"]

example : (natsEncode (.pub "x" none [97])).flatten = utf8 "PUB x 1\r\na\r\n" := by decide

/-- The NATS codec with a reconnect buffer of `size` bytes. -/
def natsConfig (size : Nat) : Config := ⟨natsEncode, size⟩

end NatsClient

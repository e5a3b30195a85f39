import NatsClient.Client

/-!
# The supervisor: `run`, `reconnect` and `dispatch`

`Client::run` loops: connect, `reconnect` onto the new connection, `dispatch`
its frames until the stream fails, drop the writer, reset `pings_out`, and
start again unless the client is closed. Each function here is one step of that
thread, and sets the thread's next program point (`Sys.supervisor`).

`reconnectLocked` is the heart of the loop. Under both locks it drops the old
writer, writes a SUB for every subscription into the new writer, takes the
pending PONGs and the reconnect buffer, writes the buffered bytes, flushes, and
only then installs the writer and completes the PONGs. Every stream call in it
can fail; on a failure after the take, the taken PONGs are dropped and the
buffered bytes are gone.
-/

namespace NatsClient

/-- `ClientOp::Hpub`. -/
def ClientOp.isHpub : ClientOp → Bool
  | .hpub .. => true
  | _ => false

/-- `reconnect`'s loop: the SUB frames into the new writer, stopping at the
first error; one stream outcome per frame. Returns the writer, what the stream
received, the unused outcomes, and whether every write succeeded. -/
def writeSubs (cfg : Config) : Writer → List ClientOp → List Bool →
    Writer × List Item × List Bool × Bool
  | w, [], io => (w, [], io, true)
  | w, op :: rest, io =>
    match w.encode cfg op (io.headD true) with
    | (w, out, true) =>
      let (w, out', io, ok) := writeSubs cfg w rest io.tail
      (w, out ++ out', io, ok)
    | (w, out, false) => (w, out, io.tail, false)

namespace Sys

variable (cfg : Config) (s : Sys)

/-- `connector.connect` returned a new connection with `info`, or failed, and
then `run` returns the error. -/
def connected : Option ServerInfo → Sys
  | some info =>
    { s with streams := s.streams ++ [Stream.fresh info],
             supervisor := .reconnect info s.streams.length }
  | none => { s with runResult := some (.error streamError), supervisor := .finalFlush }

/-- `reconnect`: `check_shutdown`; on an error `run` skips `dispatch`. -/
def reconnectCheck (info : ServerInfo) (c : Nat) : Sys :=
  match s.checkShutdown with
  | .error _ => { s with supervisor := .clearPings }
  | .ok () => { s with supervisor := .reconnectLocked info c }

/-- `reconnect` returns an error: the new writer is dropped, and its `Drop`
hands its buffer to the stream with the next outcome. -/
def reconnectFailed (c : Nat) (w : Writer) (io : List Bool) : Sys :=
  { (s.deliver c (if io.headD true then w.buf else [])) with supervisor := .clearPings }

/-- The connection is healthy: install `info` and the writer, complete the
taken PONGs, and start dispatching. -/
def reconnectInstall (info : ServerInfo) (c : Nat) (w : Writer) (pongs : List Waiter)
    (replayed : List ClientOp) (bytes : List UInt8) : Sys :=
  let hpubs := (replayed.filter ClientOp.isHpub).map fun _ => Event.hpub c (s.streamHeaders c)
  let s := { s with serverInfo := info, write.writer := some w, installed := true,
                    log := hpubs ++ .replayed c bytes :: s.log }
  { (pongs.foldl complete s) with supervisor := .dispatch c }

/-- `reconnect`, under `state.write` and `state.read`, onto stream `c`. -/
def reconnectLocked (info : ServerInfo) (c : Nat) (io : List Bool) : Sys :=
  let s := s.dropWriter (io.headD true)
  let subs := s.read.subscriptions.entries.map fun e => ClientOp.sub e.2.subject e.2.queueGroup e.1
  let (w, out, io, ok) := writeSubs cfg ⟨c, []⟩ subs io.tail
  let s := s.deliver c out
  if !ok then s.reconnectFailed c w io
  else
    let pongs := s.read.pongs
    let (bytes, b) := s.write.buffer.clear
    let replayed := s.pending
    let s := { s with read.pongs := [], write.buffer := b, pending := [] }
    match w.writeAll cfg (.bytes bytes) (io.headD true) with
    | (_, _, false) => (pongs.foldl dropWaiter s).reconnectFailed c w io.tail
    | (w, out, true) =>
      let s := s.deliver c out
      match w.flush (io.tail.headD true) with
      | (_, _, false) => (pongs.foldl dropWaiter s).reconnectFailed c w io.tail.tail
      | (w, out, true) => (s.deliver c out).reconnectInstall info c w pongs replayed bytes

/-- The server can send `op` on stream `c` now: a PONG answers a PING the
server received and has not answered yet. -/
def serverCanSend (c : Nat) : ServerOp → Bool
  | .pong =>
    match s.streams[c]? with
    | some st => st.pongs < cfg.pings st.sent
    | none => false
  | _ => true

/-- What the server's sending `op` on stream `c` changes on the stream. -/
def serverSent (c : Nat) : ServerOp → Sys
  | .pong =>
    { s with streams := s.streams.modify (fun st => { st with pongs := st.pongs + 1, pingsSincePong := 0 }) c }
  | .info i => { s with streams := s.streams.modify (fun st => { st with info := i }) c }
  | _ => s

/-- `proto::decode` on stream `c` returned `op`, or the end of the stream or an
error, which ends `dispatch` with an error. -/
def decoded (c : Nat) : Option ServerOp → Sys
  | some op => { (s.serverSent c op) with supervisor := .dispatchCheck c op }
  | none => { s with supervisor := .disconnected }

/-- `dispatch`: `check_shutdown`; a closed client breaks out of the loop, and
`dispatch` then returns `ConnectionReset`. -/
def dispatchCheck (c : Nat) (op : ServerOp) : Sys :=
  match s.checkShutdown with
  | .error _ => { s with supervisor := .disconnected }
  | .ok () => { s with supervisor := .dispatchActivity c op }

/-- `update_activity`. -/
def dispatchActivity (c : Nat) (op : ServerOp) : Sys :=
  { s with read.lastActive := s.clock, supervisor := .dispatchOp c op }

/-- `dispatch`: hand a message to the subscription of `sid`, if there is one. -/
def deliverMsg (sid : Nat) (m : Message) : Sys :=
  match s.read.subscriptions.lookup sid with
  | some sub => { s with deliveries := (sub.messages, m) :: s.deliveries }
  | none => s

/-- `dispatch`: the match arm for `op` decoded from stream `c`. -/
def dispatchOp (c : Nat) (op : ServerOp) (io : List Bool) : Sys :=
  match op with
  | .info i => { s with serverInfo := i, supervisor := .dispatch c }
  | .ping =>
    match s.write.writer with
    | none => { s with supervisor := .dispatch c }
    | some _ =>
      let r := s.encode cfg .pong (io.headD true)
      match r.2 with
      | .ok () => { r.1.kick with supervisor := .dispatch c }
      | .error _ => { r.1 with supervisor := .disconnected }
  | .pong =>
    let s := { s with read.pingsOut := 0 }
    match s.write.writer, s.read.pongs with
    | some _, w :: rest => { ({ s with read.pongs := rest }.complete w) with supervisor := .dispatch c }
    | _, _ => { s with supervisor := .dispatch c }
  | .msg subject sid replyTo payload =>
    { (s.deliverMsg sid ⟨subject, replyTo, payload, none⟩) with supervisor := .dispatch c }
  | .hmsg subject headers sid replyTo payload =>
    { (s.deliverMsg sid ⟨subject, replyTo, payload, some headers⟩) with supervisor := .dispatch c }
  | .err _ | .unknown _ => { s with supervisor := .dispatch c }

/-- After `dispatch` failed: `self.state.write.lock().writer = None`. -/
def disconnected (io : List Bool) : Sys :=
  { (s.dropWriter (io.headD true)) with supervisor := .clearPings }

/-- `read.pings_out = 0`. -/
def clearPings : Sys := { s with read.pingsOut := 0, supervisor := .checkShutdown }

/-- `check_shutdown` at the bottom of the loop: a closed client makes `run`
return `Ok(())`. -/
def runCheck : Sys :=
  match s.checkShutdown with
  | .error _ => { s with runResult := some (.ok ()), supervisor := .finalFlush }
  | .ok () => { s with supervisor := .connect }

/-- After `run` returned: one final flush of the writer, errors ignored. -/
def finalFlush (io : List Bool) : Sys :=
  { (s.flushWriter (io.headD true)).1 with supervisor := .exited }

variable {s}

@[simp] theorem serverSent_write (c : Nat) (op : ServerOp) : (s.serverSent c op).write = s.write := by
  unfold serverSent; split <;> rfl
@[simp] theorem serverSent_read (c : Nat) (op : ServerOp) : (s.serverSent c op).read = s.read := by
  unfold serverSent; split <;> rfl
@[simp] theorem deliverMsg_write (sid : Nat) (m : Message) : (s.deliverMsg sid m).write = s.write := by
  unfold deliverMsg; split <;> rfl
@[simp] theorem deliverMsg_read (sid : Nat) (m : Message) : (s.deliverMsg sid m).read = s.read := by
  unfold deliverMsg; split <;> rfl

/-! ## What the supervisor leaves alone -/

variable {cfg}

theorem frame_decoded (c : Nat) (r : Option ServerOp) : Frame s (s.decoded c r) := by
  cases r with
  | none => rfl
  | some op => cases op <;> rfl

theorem frame_deliverMsg (sid : Nat) (m : Message) : Frame s (s.deliverMsg sid m) := by
  unfold deliverMsg; split <;> rfl

theorem frame_reconnectInstall (info : ServerInfo) (c : Nat) (w : Writer) (pongs : List Waiter)
    (replayed : List ClientOp) (bytes : List UInt8) :
    Frame s (s.reconnectInstall info c w pongs replayed bytes) :=
  frame_foldl_complete pongs

theorem frame_reconnectFailed (c : Nat) (w : Writer) (io : List Bool) : Frame s (s.reconnectFailed c w io) := rfl

theorem frame_reconnectLocked (info : ServerInfo) (c : Nat) (io : List Bool) :
    Frame s (s.reconnectLocked cfg info c io) := by
  have h₁ (c out) : Frame s ((s.dropWriter (io.headD true)).deliver c out) :=
    (frame_deliver c out).after (frame_dropWriter _)
  unfold reconnectLocked; dsimp only; split
  · exact (frame_reconnectFailed ..).after (h₁ ..)
  · split
    · exact (frame_reconnectFailed ..).after ((frame_foldl_dropWaiter _).after (h₁ ..))
    · split
      · exact (frame_reconnectFailed ..).after ((frame_foldl_dropWaiter _).after (h₁ ..))
      · exact (frame_reconnectInstall ..).after (h₁ ..)

theorem frame_dispatchOp (c : Nat) (op : ServerOp) (io : List Bool) :
    Frame s (s.dispatchOp cfg c op io) := by
  unfold dispatchOp; split
  · rfl
  · split
    · rfl
    · dsimp only; split <;> exact frame_encode _ _
  · dsimp only; split
    · exact frame_complete _
    · rfl
  · exact frame_deliverMsg _ _
  · exact frame_deliverMsg _ _
  · rfl
  · rfl

end Sys

end NatsClient

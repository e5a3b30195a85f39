import NatsClient.Buffer

/-!
# Client state, threads and connections

`Sys` is one client together with everything its behaviour depends on:

* the client proper — `write` (`WriteState`), `read` (`ReadState`),
  `serverInfo` and `shutdown`, each behind its own mutex in the source;
* the channels between threads — the capacity-1 `flush_kicker` (`kicked`),
  the one-shot PONG channels (`oneshots`), and `run`'s result channel;
* the threads — the supervisor (`Client::run`), the flusher/heartbeat, the
  caller blocked in `Client::connect`, and any number of user calls;
* the connections the connector opened (`streams`), seen from the server;
* ghost fields that record what happened, used to state the spec's laws.

A thread's program point names the next critical section it runs; each section
is one step of the model (`NatsClient.System`).
-/

namespace NatsClient

/-- `BUF_CAPACITY`: the capacity of a connection's `BufReader` and `BufWriter`. -/
def bufCapacity : Nat := 32 * 1024

/-- A connection's `BufWriter<NatsStream>`: the stream it wraps (an index into
`Sys.streams`) and the items in its buffer that the stream has not received. -/
structure Writer where
  stream : Nat
  buf : List Item
  deriving DecidableEq, Repr

/-- `writer.buffer().len()`. -/
def Writer.bufLen (cfg : Config) (w : Writer) : Nat := (w.buf.map cfg.itemLen).sum

/-- `BufWriter::write_all` of one item. The stream is needed only when the item
does not fit the spare capacity: the buffer is handed to the stream
(`flush_buf`), then the item is buffered, or written through when it is as
large as the whole buffer. `ok` is the outcome of those stream writes, and a
failed write makes no progress. Returns the writer, what the stream received,
and whether the write succeeded. (An item too large for a buffer of zero bytes
finds nothing to hand over but items of zero bytes; handing them over keeps
the order of the items.) -/
def Writer.writeAll (cfg : Config) (w : Writer) (it : Item) (ok : Bool) :
    Writer × List Item × Bool :=
  let n := cfg.itemLen it
  if n ≤ bufCapacity - w.bufLen cfg ∧ n < bufCapacity then ({ w with buf := w.buf ++ [it] }, [], true)
  else if ok then
    if bufCapacity ≤ n then ({ w with buf := [] }, w.buf ++ [it], true)
    else ({ w with buf := [it] }, w.buf, true)
  else (w, [], false)

/-- A successful `write_all` hands the stream a prefix of the buffer followed by
the item, keeping their order. -/
theorem Writer.writeAll_ok {cfg : Config} {w w' : Writer} {it : Item} {ok : Bool} {out : List Item}
    (h : w.writeAll cfg it ok = (w', out, true)) : w'.stream = w.stream ∧ out ++ w'.buf = w.buf ++ [it] := by
  unfold writeAll at h
  dsimp only at h
  split at h
  · cases h; simp
  · split at h
    · split at h <;> cases h <;> simp
    · cases h

/-- A failed `write_all` makes no progress. -/
theorem Writer.writeAll_fail {cfg : Config} {w w' : Writer} {it : Item} {ok : Bool} {out : List Item}
    (h : w.writeAll cfg it ok = (w', out, false)) : w' = w ∧ out = [] := by
  unfold writeAll at h
  dsimp only at h
  split at h
  · cases h
  · split at h
    · split at h <;> cases h
    · cases h; exact ⟨rfl, rfl⟩

/-- `proto::encode` into a `BufWriter`: one `write_all` per chunk of the frame,
in order. `ok` is the outcome of the stream writes they make; the first
`write_all` that fails ends the encode (`?`), and the chunks before it stay
written: a frame cut short. Returns the writer, what the stream received, and
whether every chunk was written. -/
def Writer.writeChunks (cfg : Config) (op : ClientOp) (ok : Bool) : Writer → List Nat → Writer × List Item × Bool
  | w, [] => (w, [], true)
  | w, i :: rest =>
    match w.writeAll cfg (.chunk op i) ok with
    | (w, out, true) =>
      let r := writeChunks cfg op ok w rest
      (r.1, out ++ r.2.1, r.2.2)
    | (w, _, false) => (w, [], false)

/-- `proto::encode(writer, op)`: the chunks of `op`, one `write_all` each. -/
def Writer.encode (cfg : Config) (w : Writer) (op : ClientOp) (ok : Bool) : Writer × List Item × Bool :=
  w.writeChunks cfg op ok (List.range (cfg.encode op).length)

/-- The chunks written hand the stream a prefix of the buffer and of the
chunks, in order: all of them when the encode succeeds. -/
theorem Writer.writeChunks_spec {cfg : Config} {op : ClientOp} {ok : Bool} :
    ∀ {is : List Nat} {w w' : Writer} {out : List Item} {r : Bool}, w.writeChunks cfg op ok is = (w', out, r) →
      w'.stream = w.stream ∧ ∃ j ≤ is.length, out ++ w'.buf = w.buf ++ (is.take j).map (.chunk op) ∧
        (r = true ↔ j = is.length)
  | [], w, w', out, r, h => by
    simp only [writeChunks, Prod.mk.injEq] at h
    obtain ⟨rfl, rfl, rfl⟩ := h
    exact ⟨rfl, 0, le_rfl, by simp⟩
  | i :: rest, w, w', out, r, h => by
    rw [writeChunks] at h
    rcases hwa : w.writeAll cfg (.chunk op i) ok with ⟨w₁, out₁, _ | _⟩
    · simp only [hwa, Prod.mk.injEq] at h
      obtain ⟨rfl, rfl, rfl⟩ := h
      obtain ⟨rfl, -⟩ := writeAll_fail hwa
      exact ⟨rfl, 0, Nat.zero_le _, by simp, by simp⟩
    · simp only [hwa] at h
      obtain ⟨hs₁, hb₁⟩ := writeAll_ok hwa
      rcases hr : w₁.writeChunks cfg op ok rest with ⟨w₂, out₂, r₂⟩
      rw [hr] at h
      simp only [Prod.mk.injEq] at h
      obtain ⟨rfl, rfl, rfl⟩ := h
      obtain ⟨hs₂, j, hj, hb₂, hr₂⟩ := writeChunks_spec hr
      refine ⟨hs₂.trans hs₁, j + 1, by simpa using hj, ?_, by simp [hr₂]⟩
      calc out₁ ++ out₂ ++ w₂.buf = out₁ ++ (w₁.buf ++ (rest.take j).map (.chunk op)) := by
            rw [List.append_assoc, hb₂]
        _ = w.buf ++ ((i :: rest).take (j + 1)).map (.chunk op) := by
            rw [← List.append_assoc, hb₁]; simp

/-- `proto::encode` hands the stream a prefix of the buffer and of the frame's
chunks: all of them when it succeeds. -/
theorem Writer.encode_spec {cfg : Config} {w w' : Writer} {op : ClientOp} {ok r : Bool} {out : List Item}
    (h : w.encode cfg op ok = (w', out, r)) :
    w'.stream = w.stream ∧ ∃ j ≤ (cfg.encode op).length,
      out ++ w'.buf = w.buf ++ op.firstChunks j ∧ (r = true ↔ j = (cfg.encode op).length) := by
  obtain ⟨hs, j, hj, hb, hr⟩ := writeChunks_spec h
  rw [List.length_range] at hj hr
  refine ⟨hs, j, hj, ?_, hr⟩
  rwa [List.take_range, Nat.min_eq_left hj] at hb

/-- With the stream writes succeeding, every chunk is written. -/
theorem Writer.writeAll_true (cfg : Config) (w : Writer) (it : Item) : (w.writeAll cfg it true).2.2 = true := by
  unfold writeAll; dsimp only; split_ifs <;> first | rfl | contradiction

theorem Writer.writeChunks_true (cfg : Config) (op : ClientOp) :
    ∀ (is : List Nat) (w : Writer), (w.writeChunks cfg op true is).2.2 = true
  | [], _ => rfl
  | i :: rest, w => by
    have h := writeAll_true cfg w (.chunk op i)
    rw [writeChunks]
    rcases hwa : w.writeAll cfg (.chunk op i) true with ⟨w₁, out₁, _ | _⟩
    · rw [hwa] at h; cases h
    · exact writeChunks_true cfg op rest w₁

theorem Writer.encode_true (cfg : Config) (w : Writer) (op : ClientOp) : (w.encode cfg op true).2.2 = true :=
  writeChunks_true cfg op _ w

/-- `write_all` never leaves an item as large as the buffer in it. -/
theorem Writer.writeAll_buf_lt {cfg : Config} {w w' : Writer} {it : Item} {ok r : Bool} {out : List Item}
    (h : w.writeAll cfg it ok = (w', out, r)) (hw : ∀ x ∈ w.buf, cfg.itemLen x < bufCapacity) :
    ∀ x ∈ w'.buf, cfg.itemLen x < bufCapacity := by
  unfold writeAll at h
  dsimp only at h
  split_ifs at h with h₁ h₂ h₃ <;> cases h
  · intro x hx
    rcases List.mem_append.1 hx with hx | hx
    · exact hw x hx
    · rw [List.mem_singleton.1 hx]; exact h₁.2
  · nofun
  · intro x hx; rw [List.mem_singleton.1 hx]; omega
  · exact hw

theorem Writer.writeChunks_buf_lt {cfg : Config} {op : ClientOp} {ok : Bool} :
    ∀ {is : List Nat} {w w' : Writer} {out : List Item} {r : Bool}, w.writeChunks cfg op ok is = (w', out, r) →
      (∀ x ∈ w.buf, cfg.itemLen x < bufCapacity) → ∀ x ∈ w'.buf, cfg.itemLen x < bufCapacity
  | [], w, w', out, r, h, hw => by
    simp only [writeChunks, Prod.mk.injEq] at h
    obtain ⟨rfl, -⟩ := h
    exact hw
  | i :: rest, w, w', out, r, h, hw => by
    rw [writeChunks] at h
    rcases hwa : w.writeAll cfg (.chunk op i) ok with ⟨w₁, out₁, _ | _⟩ <;> simp only [hwa] at h
    · simp only [Prod.mk.injEq] at h
      obtain ⟨rfl, -⟩ := h
      exact writeAll_buf_lt hwa hw
    · rcases hr : w₁.writeChunks cfg op ok rest with ⟨w₂, out₂, r₂⟩
      rw [hr] at h
      simp only [Prod.mk.injEq] at h
      obtain ⟨rfl, -⟩ := h
      exact writeChunks_buf_lt hr (writeAll_buf_lt hwa hw)

/-- Writing chunks in two runs, the second after the first succeeded. -/
theorem Writer.writeChunks_append {cfg : Config} {op : ClientOp} {ok : Bool} {js : List Nat} :
    ∀ {is : List Nat} {w w₁ : Writer} {out₁ : List Item}, w.writeChunks cfg op ok is = (w₁, out₁, true) →
      w.writeChunks cfg op ok (is ++ js) =
        ((w₁.writeChunks cfg op ok js).1, out₁ ++ (w₁.writeChunks cfg op ok js).2.1,
          (w₁.writeChunks cfg op ok js).2.2)
  | [], w, w₁, out₁, h => by
    simp only [writeChunks, Prod.mk.injEq] at h
    obtain ⟨rfl, rfl, -⟩ := h
    rfl
  | i :: rest, w, w₁, out₁, h => by
    rw [List.cons_append, writeChunks]
    rw [writeChunks] at h
    rcases hwa : w.writeAll cfg (.chunk op i) ok with ⟨w₂, out₂, _ | _⟩ <;> simp only [hwa] at h ⊢
    · cases h
    · rcases hr : w₂.writeChunks cfg op ok rest with ⟨w₃, out₃, _ | _⟩ <;> rw [hr] at h
      · cases h
      · simp only [Prod.mk.injEq] at h
        obtain ⟨rfl, rfl, -⟩ := h
        simp only [writeChunks_append hr, List.append_assoc]

/-- Chunks that fit the spare capacity one after another are buffered, and the
stream is not written. -/
theorem Writer.writeChunks_fit {cfg : Config} {op : ClientOp} {ok : Bool} :
    ∀ {is : List Nat} {w : Writer}, w.bufLen cfg + (is.map fun i => cfg.itemLen (.chunk op i)).sum ≤ bufCapacity →
      (∀ i ∈ is, cfg.itemLen (.chunk op i) < bufCapacity) →
      w.writeChunks cfg op ok is = ({ w with buf := w.buf ++ is.map (.chunk op) }, [], true)
  | [], w, _, _ => by simp [writeChunks]
  | i :: rest, w, h, hlt => by
    simp only [List.map_cons, List.sum_cons] at h
    rw [writeChunks, writeAll, if_pos ⟨by omega, hlt i (.head _)⟩]
    dsimp only
    rw [writeChunks_fit (by simp only [bufLen, List.map_append, List.sum_append] at h ⊢; simpa [add_assoc] using h)
      fun i' h' => hlt i' (.tail _ h')]
    simp

/-- `BufWriter::flush`: hand the whole buffer to the stream, then flush it. -/
def Writer.flush (w : Writer) (ok : Bool) : Writer × List Item × Bool :=
  if ok then ({ w with buf := [] }, w.buf, true) else (w, [], false)

/-- A connection as the server sees it. -/
structure Stream where
  /-- The server info in effect on it: the one the connector returned with it,
  then the last INFO decoded from it. -/
  info : ServerInfo
  /-- What the server has received, in order. -/
  sent : List Item
  /-- PONGs the dispatcher has decoded from it. -/
  pongs : Nat
  /-- PINGs written to it since the dispatcher last decoded a PONG from it. -/
  pingsSincePong : Nat
  /-- `NatsStream::shutdown` was called on it. -/
  shut : Bool
  /-- Ghost: the frames whose encode into its writer failed. -/
  lost : List ClientOp
  deriving DecidableEq, Repr

/-- A fresh connection with server info `info`. -/
def Stream.fresh (info : ServerInfo) : Stream := ⟨info, [], 0, 0, false, []⟩

/-- An entry of `ReadState::pongs`: the sender to complete on the next PONG. -/
inductive Waiter
  /-- The sender of a `channel::bounded(1)` whose receiver waits: `connect`'s
  pre-seeded one (id 0) or a `flush` call's. -/
  | oneshot (id : Nat)
  /-- A clone of `flush_kicker`, queued by the heartbeat. -/
  | kicker
  deriving DecidableEq, Repr

/-- What the receiver of a one-shot channel will see. -/
inductive Status
  | pending
  | completed
  | dropped
  deriving DecidableEq, Repr

/-- `Subscription`: subject, queue group, and the channel its messages go to
(the number of channels created before it). -/
structure Subscription where
  subject : String
  queueGroup : Option String
  messages : Nat
  deriving DecidableEq, Repr

/-- `WriteState`, behind `state.write`. The `flush_kicker` sender's channel is
`Sys.kicked`. -/
structure WriteState where
  writer : Option Writer
  buffer : Buffer
  nextSid : Nat

/-- `ReadState`, behind `state.read`; `lastActive` is a time on `Sys.clock`. -/
structure ReadState where
  subscriptions : AList (fun _ : Nat => Subscription)
  pongs : List Waiter
  lastActive : Nat
  pingsOut : Nat

/-- The `Message` the dispatcher hands to a subscription, without its client. -/
structure Message where
  subject : String
  reply : Option String
  data : List UInt8
  headers : Option Headers
  deriving DecidableEq, Repr

/-- What a user call returned. -/
inductive Ret
  /-- `publish`, `unsubscribe`, `flush` and `close`. -/
  | unit (r : Except Error Unit)
  /-- `try_publish`. -/
  | tried (r : Option (Except Error Unit))
  /-- `subscribe`: the sid and the receiving channel. -/
  | subscribed (r : Except Error (Nat × Nat))
  /-- `server_info`. -/
  | info (i : ServerInfo)
  /-- An assertion failed. -/
  | panicked

/-- The arguments of `publish` and `try_publish`. -/
structure Pub where
  subject : String
  replyTo : Option String
  headers : Option Headers
  payload : List UInt8

/-- The frame `publish` and `try_publish` encode. -/
def Pub.op (p : Pub) : ClientOp :=
  match p.headers with
  | some h => .hpub p.subject p.replyTo h p.payload
  | none => .pub p.subject p.replyTo p.payload

/-- A user call: the next critical section it runs, or what it returned. -/
inductive Call
  /-- `publish`: the `server_info` check. -/
  | publish (p : Pub)
  /-- `publish`: `check_shutdown`. -/
  | publishCheck (p : Pub)
  /-- `publish`: the section under `state.write`. -/
  | publishWrite (p : Pub)
  /-- `try_publish`: `check_shutdown`. -/
  | tryPublish (p : Pub)
  /-- `try_publish`: `try_lock` of `state.write` and the section under it. -/
  | tryPublishWrite (p : Pub)
  | subscribe (subject : String) (queueGroup : Option String)
  | unsubscribe (sid : Nat)
  /-- `flush`: the section under `state.write`. -/
  | flush
  /-- `flush`: blocked in `pong.recv()` on one-shot `id`. -/
  | flushWait (id : Nat)
  | close
  | serverInfo
  | returned (r : Ret)

/-- A user thread inside the client. -/
structure UserThread where
  /-- The method it called. -/
  entry : Call
  call : Call
  /-- Ghost: the call started after a `close` call had returned. -/
  late : Bool

/-- Where `Client::run`'s thread is. -/
inductive Supervisor
  /-- Top of the loop: `connector.connect(use_backoff)`. -/
  | connect
  /-- `reconnect(info, writer)` for a new connection: `check_shutdown`. -/
  | reconnect (info : ServerInfo) (stream : Nat)
  /-- `reconnect`: the section under `state.write` and `state.read`. -/
  | reconnectLocked (info : ServerInfo) (stream : Nat)
  /-- `dispatch`: the next `proto::decode`. -/
  | dispatch (stream : Nat)
  /-- `dispatch`: `check_shutdown` after decoding `op`. -/
  | dispatchCheck (stream : Nat) (op : ServerOp)
  /-- `dispatch`: `update_activity`. -/
  | dispatchActivity (stream : Nat) (op : ServerOp)
  /-- `dispatch`: the match arm for `op`. -/
  | dispatchOp (stream : Nat) (op : ServerOp)
  /-- `dispatch` failed: `self.state.write.lock().writer = None`. -/
  | disconnected
  /-- `read.pings_out = 0`. -/
  | clearPings
  /-- `check_shutdown` at the bottom of the loop. -/
  | checkShutdown
  /-- `run` returned: the final flush. -/
  | finalFlush
  | exited
  deriving DecidableEq, Repr

/-- Where the flusher/heartbeat thread is. -/
inductive Flusher
  /-- It is spawned when `connect` returns. -/
  | notStarted
  /-- In `flush_wanted.recv_timeout(PING_INTERVAL)`. -/
  | waiting
  /-- It received a signal and will lock `state.write` to flush. -/
  | signalled
  deriving DecidableEq, Repr

/-- The caller of `Client::connect`, blocked in its `select!`. -/
inductive Main
  | waiting
  | returned (r : Except Error Unit)
  | panicked

/-- `connect` returned `Ok(client)`: only then does a caller hold a `Client` to
call its methods on. -/
def Main.isOk : Main → Bool
  | .returned (.ok ()) => true
  | _ => false

/-- Ghost events. -/
inductive Event
  /-- `publish` or `try_publish` returned `Ok` after encoding `op` into the
  reconnect buffer. -/
  | buffered (op : ClientOp)
  /-- A successful `reconnect` on `stream` wrote `bytes` from the reconnect
  buffer after its SUB frames. -/
  | replayed (stream : Nat) (bytes : List UInt8)
  /-- An HPUB frame was written to `stream` while its server info had
  `headers`. -/
  | hpub (stream : Nat) (headers : Bool)
  deriving DecidableEq, Repr

/-- One client and its environment. -/
structure Sys where
  write : WriteState
  read : ReadState
  serverInfo : ServerInfo
  shutdown : Bool
  /-- The `flush_kicker` channel holds a signal. -/
  kicked : Bool
  /-- What `run` sent on `run_sender`. -/
  runResult : Option (Except Error Unit)
  supervisor : Supervisor
  flusher : Flusher
  main : Main
  calls : List UserThread
  streams : List Stream
  oneshots : List Status
  /-- Subscription channels created so far. -/
  channels : Nat
  /-- Ghost: every message handed to a subscription channel. -/
  deliveries : List (Nat × Message)
  clock : Nat
  /-- Ghost: the frames in the reconnect buffer, oldest first. -/
  pending : List ClientOp
  /-- Ghost: a `close` call has returned. -/
  closed : Bool
  /-- Ghost: some `reconnect` installed a writer. -/
  installed : Bool
  /-- Ghost: events, newest first. -/
  log : List Event
  /-- Ghost: the sids `subscribe` has allocated. -/
  subscribes : Nat

/-- The state `Client::connect` leaves when it blocks in `select!`: the
supervisor is spawned, and `pongs` holds the pre-seeded one-shot 0. -/
def Sys.init (cfg : Config) : Sys where
  write := ⟨none, Buffer.new cfg.reconnectBufferSize, 1⟩
  read := ⟨∅, [.oneshot 0], 0, 0⟩
  serverInfo := default
  shutdown := false
  kicked := false
  runResult := none
  supervisor := .connect
  flusher := .notStarted
  main := .waiting
  calls := []
  streams := []
  oneshots := [.pending]
  channels := 0
  deliveries := []
  clock := 0
  pending := []
  closed := false
  installed := false
  log := []
  subscribes := 0

/-- `try_send(())` on a one-shot sender: a pending receiver will see the value. -/
def Status.complete : Status → Status
  | .pending => .completed
  | st => st

/-- A one-shot sender dropped: a pending receiver will see the disconnection. -/
def Status.drop : Status → Status
  | .pending => .dropped
  | st => st

/-! ## Effects shared by the critical sections -/

namespace Sys

variable (cfg : Config) (s : Sys)

/-- Stream `c` receives `items`. -/
def deliver (c : Nat) (items : List Item) : Sys :=
  { s with streams := s.streams.modify (fun st => { st with sent := st.sent ++ items }) c }

/-- The `headers` flag of the server info in effect on stream `c`. -/
def streamHeaders (c : Nat) : Bool := (s.streams[c]?.map (·.info.headers)).getD false

/-- `write.writer = None`: the old `BufWriter` is dropped, and its `Drop` hands
its buffer to the stream with outcome `ok`. -/
def dropWriter (ok : Bool) : Sys :=
  match s.write.writer with
  | none => s
  | some w => { (s.deliver w.stream (if ok then w.buf else [])) with write.writer := none }

/-- `writer.get_ref().shutdown()` on the installed writer's stream. -/
def shutdownStream : Sys :=
  match s.write.writer with
  | none => s
  | some w => { s with streams := s.streams.modify (fun st => { st with shut := true }) w.stream }

/-- `flush_kicker.try_send(())`: the capacity-1 channel holds a signal. -/
def kick : Sys := { s with kicked := true }

/-- `try_send(())` on a waiter taken from `pongs`. -/
def complete : Waiter → Sys
  | .oneshot id => { s with oneshots := s.oneshots.modify Status.complete id }
  | .kicker => s.kick

/-- A waiter taken from `pongs` is dropped without sending. -/
def dropWaiter : Waiter → Sys
  | .oneshot id => { s with oneshots := s.oneshots.modify Status.drop id }
  | .kicker => s

/-- `read.pongs.clear()`. -/
def clearPongs : Sys := { (s.read.pongs.foldl dropWaiter s) with read.pongs := [] }

/-- The local-disconnect action: `write.writer = None`, then `read.pongs.clear()`. -/
def disconnect (ok : Bool) : Sys := (s.dropWriter ok).clearPongs

/-- Ghost bookkeeping for a frame written to stream `c`. -/
def wrote (op : ClientOp) (c : Nat) : Sys :=
  match op with
  | .ping =>
    { s with streams := s.streams.modify (fun st => { st with pingsSincePong := st.pingsSincePong + 1 }) c }
  | .hpub .. => { s with log := .hpub c (s.streamHeaders c) :: s.log }
  | _ => s

/-- `proto::encode(writer, op)` into the installed writer (callers hold one). A
failed encode leaves the chunks it wrote before the failure in the writer. -/
def encode (op : ClientOp) (ok : Bool) : Sys × Except Error Unit :=
  match s.write.writer with
  | none => (s, .ok ())
  | some w =>
    match w.encode cfg op ok with
    | (w', out, true) =>
      (({ s with write.writer := some w' }.deliver w.stream out).wrote op w.stream, .ok ())
    | (w', out, false) =>
      ({ s with write.writer := some w',
                streams := s.streams.modify (fun st => { st with lost := st.lost ++ [op] }) w.stream }.deliver
          w.stream out, .error streamError)

/-- `writer.flush()` on the installed writer, if there is one. -/
def flushWriter (ok : Bool) : Sys × Except Error Unit :=
  match s.write.writer with
  | none => (s, .ok ())
  | some w =>
    match w.flush ok with
    | (w', out, true) => ({ s with write.writer := some w' }.deliver w.stream out, .ok ())
    | (_, _, false) => (s, .error streamError)

/-! ### What the effects leave alone -/

/-- The part of the state the shared effects never change: the lifecycle
flags, the subscription table and the sid counter, the user threads, and the
ghost count of subscribes. -/
structure Ctl where
  shutdown : Bool
  closed : Bool
  subscriptions : AList (fun _ : Nat => Subscription)
  nextSid : Nat
  calls : List UserThread
  subscribes : Nat

/-- The `Ctl` part of `s`. -/
def ctl : Ctl :=
  ⟨s.shutdown, s.closed, s.read.subscriptions, s.write.nextSid, s.calls, s.subscribes⟩

/-- `s'` agrees with `s` on what the shared effects never change. A field
update outside `ctl` is a frame step by `rfl`. -/
def Frame (s s' : Sys) : Prop := s'.ctl = s.ctl

variable {cfg s}

@[refl] theorem Frame.refl : Frame s s := rfl

theorem Frame.trans {s₁ s₂ : Sys} (h₁ : Frame s s₁) (h₂ : Frame s₁ s₂) : Frame s s₂ :=
  Eq.trans h₂ h₁

/-- `Frame.trans` read from the last step back, so that each step's lemma
fixes the state before it: `(frame_g _).after (frame_f _)`. -/
theorem Frame.after {s₁ s₂ : Sys} (h₂ : Frame s₁ s₂) (h₁ : Frame s s₁) : Frame s s₂ :=
  h₁.trans h₂

section
variable {s' : Sys} (h : Frame s s')
include h

theorem Frame.shutdown : s'.shutdown = s.shutdown := congrArg Ctl.shutdown h
theorem Frame.closed : s'.closed = s.closed := congrArg Ctl.closed h
theorem Frame.subscriptions : s'.read.subscriptions = s.read.subscriptions :=
  congrArg Ctl.subscriptions h
theorem Frame.nextSid : s'.write.nextSid = s.write.nextSid := congrArg Ctl.nextSid h
theorem Frame.calls : s'.calls = s.calls := congrArg Ctl.calls h
theorem Frame.subscribes : s'.subscribes = s.subscribes := congrArg Ctl.subscribes h

end

theorem frame_deliver (c : Nat) (items : List Item) : Frame s (s.deliver c items) := rfl
theorem frame_kick : Frame s s.kick := rfl
theorem frame_complete (w : Waiter) : Frame s (s.complete w) := by cases w <;> rfl
theorem frame_dropWaiter (w : Waiter) : Frame s (s.dropWaiter w) := by cases w <;> rfl

theorem frame_foldl_complete (ws : List Waiter) : Frame s (ws.foldl complete s) := by
  induction ws generalizing s with
  | nil => rfl
  | cons w ws ih => exact (frame_complete w).trans ih

theorem frame_foldl_dropWaiter (ws : List Waiter) : Frame s (ws.foldl dropWaiter s) := by
  induction ws generalizing s with
  | nil => rfl
  | cons w ws ih => exact (frame_dropWaiter w).trans ih

theorem frame_clearPongs : Frame s s.clearPongs := frame_foldl_dropWaiter s.read.pongs

theorem frame_dropWriter (ok : Bool) : Frame s (s.dropWriter ok) := by
  unfold dropWriter; split <;> rfl

theorem frame_disconnect (ok : Bool) : Frame s (s.disconnect ok) :=
  (frame_dropWriter ok).trans frame_clearPongs

theorem frame_shutdownStream : Frame s s.shutdownStream := by
  unfold shutdownStream; split <;> rfl

theorem frame_wrote (op : ClientOp) (c : Nat) : Frame s (s.wrote op c) := by
  unfold wrote; split <;> rfl

theorem frame_encode (op : ClientOp) (ok : Bool) : Frame s (s.encode cfg op ok).1 := by
  unfold encode; split
  · rfl
  · split
    · exact frame_wrote _ _
    · rfl

theorem frame_flushWriter (ok : Bool) : Frame s (s.flushWriter ok).1 := by
  unfold flushWriter; split
  · rfl
  · split <;> rfl

@[simp] theorem deliver_write (c : Nat) (items : List Item) : (s.deliver c items).write = s.write := rfl
@[simp] theorem deliver_read (c : Nat) (items : List Item) : (s.deliver c items).read = s.read := rfl
@[simp] theorem kick_write : s.kick.write = s.write := rfl
@[simp] theorem kick_read : s.kick.read = s.read := rfl

@[simp] theorem complete_write (w : Waiter) : (s.complete w).write = s.write := by cases w <;> rfl
@[simp] theorem complete_read (w : Waiter) : (s.complete w).read = s.read := by cases w <;> rfl
@[simp] theorem dropWaiter_write (w : Waiter) : (s.dropWaiter w).write = s.write := by
  cases w <;> rfl
@[simp] theorem dropWaiter_read (w : Waiter) : (s.dropWaiter w).read = s.read := by
  cases w <;> rfl

@[simp] theorem foldl_complete_write (ws : List Waiter) : (ws.foldl complete s).write = s.write := by
  induction ws generalizing s <;> simp [*]
@[simp] theorem foldl_complete_read (ws : List Waiter) : (ws.foldl complete s).read = s.read := by
  induction ws generalizing s <;> simp [*]
@[simp] theorem foldl_dropWaiter_write (ws : List Waiter) :
    (ws.foldl dropWaiter s).write = s.write := by
  induction ws generalizing s <;> simp [*]
@[simp] theorem foldl_dropWaiter_read (ws : List Waiter) :
    (ws.foldl dropWaiter s).read = s.read := by
  induction ws generalizing s <;> simp [*]

@[simp] theorem complete_streams (w : Waiter) : (s.complete w).streams = s.streams := by cases w <;> rfl
@[simp] theorem dropWaiter_streams (w : Waiter) : (s.dropWaiter w).streams = s.streams := by
  cases w <;> rfl
@[simp] theorem foldl_complete_streams (ws : List Waiter) :
    (ws.foldl complete s).streams = s.streams := by
  induction ws generalizing s <;> simp [*]
@[simp] theorem foldl_dropWaiter_streams (ws : List Waiter) :
    (ws.foldl dropWaiter s).streams = s.streams := by
  induction ws generalizing s <;> simp [*]

@[simp] theorem clearPongs_write : s.clearPongs.write = s.write := by simp [clearPongs]
@[simp] theorem clearPongs_pongs : s.clearPongs.read.pongs = [] := rfl

@[simp] theorem shutdownStream_write : s.shutdownStream.write = s.write := by
  unfold shutdownStream; split <;> rfl
@[simp] theorem shutdownStream_read : s.shutdownStream.read = s.read := by
  unfold shutdownStream; split <;> rfl

@[simp] theorem dropWriter_writer (ok : Bool) : (s.dropWriter ok).write.writer = none := by
  unfold dropWriter; split <;> simp_all
@[simp] theorem dropWriter_buffer (ok : Bool) : (s.dropWriter ok).write.buffer = s.write.buffer := by
  unfold dropWriter; split <;> rfl
@[simp] theorem dropWriter_read (ok : Bool) : (s.dropWriter ok).read = s.read := by
  unfold dropWriter; split <;> rfl

@[simp] theorem wrote_write (op : ClientOp) (c : Nat) : (s.wrote op c).write = s.write := by
  unfold wrote; split <;> rfl
@[simp] theorem wrote_read (op : ClientOp) (c : Nat) : (s.wrote op c).read = s.read := by
  unfold wrote; split <;> rfl

@[simp] theorem encode_buffer (op : ClientOp) (ok : Bool) :
    (s.encode cfg op ok).1.write.buffer = s.write.buffer := by
  unfold encode; split
  · rfl
  · split <;> simp
@[simp] theorem encode_writer_isSome (op : ClientOp) (ok : Bool) :
    (s.encode cfg op ok).1.write.writer.isSome = s.write.writer.isSome := by
  unfold encode; split
  · rfl
  · split <;> simp_all
@[simp] theorem encode_read (op : ClientOp) (ok : Bool) : (s.encode cfg op ok).1.read = s.read := by
  unfold encode; split
  · rfl
  · split <;> simp

@[simp] theorem flushWriter_buffer (ok : Bool) :
    (s.flushWriter ok).1.write.buffer = s.write.buffer := by
  unfold flushWriter; split
  · rfl
  · split <;> simp
@[simp] theorem flushWriter_writer_isSome (ok : Bool) :
    (s.flushWriter ok).1.write.writer.isSome = s.write.writer.isSome := by
  unfold flushWriter; split
  · rfl
  · split <;> simp_all
@[simp] theorem flushWriter_read (ok : Bool) : (s.flushWriter ok).1.read = s.read := by
  unfold flushWriter; split
  · rfl
  · split <;> simp

@[simp] theorem deliver_supervisor (c : Nat) (items : List Item) :
    (s.deliver c items).supervisor = s.supervisor := rfl
@[simp] theorem kick_supervisor : s.kick.supervisor = s.supervisor := rfl
@[simp] theorem complete_supervisor (w : Waiter) : (s.complete w).supervisor = s.supervisor := by
  cases w <;> rfl
@[simp] theorem dropWaiter_supervisor (w : Waiter) : (s.dropWaiter w).supervisor = s.supervisor := by
  cases w <;> rfl
@[simp] theorem foldl_complete_supervisor (ws : List Waiter) :
    (ws.foldl complete s).supervisor = s.supervisor := by
  induction ws generalizing s <;> simp [*]
@[simp] theorem foldl_dropWaiter_supervisor (ws : List Waiter) :
    (ws.foldl dropWaiter s).supervisor = s.supervisor := by
  induction ws generalizing s <;> simp [*]
@[simp] theorem clearPongs_supervisor : s.clearPongs.supervisor = s.supervisor := by
  simp [clearPongs]
@[simp] theorem shutdownStream_supervisor : s.shutdownStream.supervisor = s.supervisor := by
  unfold shutdownStream; split <;> rfl
@[simp] theorem dropWriter_supervisor (ok : Bool) : (s.dropWriter ok).supervisor = s.supervisor := by
  unfold dropWriter; split <;> rfl
@[simp] theorem disconnect_supervisor (ok : Bool) : (s.disconnect ok).supervisor = s.supervisor := by
  simp [disconnect]
@[simp] theorem wrote_supervisor (op : ClientOp) (c : Nat) : (s.wrote op c).supervisor = s.supervisor := by
  unfold wrote; split <;> rfl
@[simp] theorem encode_supervisor (op : ClientOp) (ok : Bool) :
    (s.encode cfg op ok).1.supervisor = s.supervisor := by
  unfold encode; split
  · rfl
  · split <;> simp
@[simp] theorem flushWriter_supervisor (ok : Bool) :
    (s.flushWriter ok).1.supervisor = s.supervisor := by
  unfold flushWriter; split
  · rfl
  · split <;> simp

@[simp] theorem deliver_oneshots (c : Nat) (items : List Item) :
    (s.deliver c items).oneshots = s.oneshots := rfl
@[simp] theorem kick_oneshots : s.kick.oneshots = s.oneshots := rfl
@[simp] theorem shutdownStream_oneshots : s.shutdownStream.oneshots = s.oneshots := by
  unfold shutdownStream; split <;> rfl
@[simp] theorem dropWriter_oneshots (ok : Bool) : (s.dropWriter ok).oneshots = s.oneshots := by
  unfold dropWriter; split <;> rfl
@[simp] theorem wrote_oneshots (op : ClientOp) (c : Nat) : (s.wrote op c).oneshots = s.oneshots := by
  unfold wrote; split <;> rfl
@[simp] theorem encode_oneshots (op : ClientOp) (ok : Bool) :
    (s.encode cfg op ok).1.oneshots = s.oneshots := by
  unfold encode; split
  · rfl
  · split <;> simp
@[simp] theorem flushWriter_oneshots (ok : Bool) : (s.flushWriter ok).1.oneshots = s.oneshots := by
  unfold flushWriter; split
  · rfl
  · split <;> simp

end Sys

end NatsClient

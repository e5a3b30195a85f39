import NatsClient.State

/-!
# The user operations

Each function is one critical section of a `Client` method, as the source runs
it; `io` lists the outcomes of the stream calls the section makes, in order
(`true` once the list runs out). A method whose body takes the locks more than
once is split at those points, and a user thread (`Call`) steps through the
pieces:

* `publish` — the `server_info` check (`publishInfo`), `check_shutdown`
  (`publishCheck`), then the section under `state.write` (`publishWrite`);
* `try_publish` — `check_shutdown`, then `tryPublishWrite` once `try_lock`
  succeeded;
* `subscribe`, `unsubscribe`, `close` — one section each;
* `flush` — the section under `state.write` (`flush`), then the wait for its
  one-shot (`flushWait`).
-/

namespace NatsClient

namespace Sys

variable (cfg : Config) (s : Sys)

/-- `check_shutdown`. -/
def checkShutdown : Except Error Unit := if s.shutdown then .error closedError else .ok ()

/-- `publish`: reject headers the server does not support. -/
def publishInfo (p : Pub) : Call :=
  if p.headers.isSome && !s.serverInfo.headers then .returned (.unit (.error headersError))
  else .publishCheck p

/-- `publish`: `check_shutdown`. -/
def publishCheck (p : Pub) : Call :=
  match s.checkShutdown with
  | .error e => .returned (.unit (.error e))
  | .ok () => .publishWrite p

/-- `publish`/`try_publish` with no writer installed: encode `op` into the
reconnect buffer, then mark it flushed. -/
def bufferPublish (op : ClientOp) : Sys × Except Error Unit :=
  match s.write.buffer.encode (cfg.encode op) with
  | (b, .ok ()) =>
    ({ s with write.buffer := b.flush, pending := s.pending ++ [op], log := .buffered op :: s.log },
      .ok ())
  | (b, .error e) => ({ s with write.buffer := b }, .error e)

/-- `publish`, under `state.write`. -/
def publishWrite (p : Pub) (io : List Bool) : Sys × Ret :=
  match s.write.writer with
  | none => let r := s.bufferPublish cfg p.op; (r.1, .unit r.2)
  | some _ =>
    if s.write.buffer.written ≠ 0 then (s, .panicked)
    else
      let r := s.encode cfg p.op (io.getD 0 true)
      match r.2 with
      | .ok () => (r.1.kick, .unit (.ok ()))
      | .error e => ((r.1.disconnect (io.getD 1 true)).kick, .unit (.error e))

/-- `try_publish`'s bound on the bytes the frame takes in the writer. -/
def estimate (p : Pub) : Nat :=
  1024 + p.subject.utf8ByteSize + (p.replyTo.map String.utf8ByteSize).getD 0 + p.payload.length
    + (p.headers.map fun h => (h.map fun kv => kv.1.utf8ByteSize + kv.2.length + 3).sum).getD 0

/-- `try_publish`: `check_shutdown`. -/
def tryPublishCheck (p : Pub) : Call :=
  match s.checkShutdown with
  | .error e => .returned (.tried (some (.error e)))
  | .ok () => .tryPublishWrite p

/-- `try_publish`, under `state.write` once `try_lock` succeeded. -/
def tryPublishWrite (p : Pub) (io : List Bool) : Sys × Ret :=
  match s.write.writer with
  | none => let r := s.bufferPublish cfg p.op; (r.1, .tried (some r.2))
  | some w =>
    if bufCapacity - w.bufLen cfg < estimate p then (s, .tried none)
    else
      let r := s.encode cfg p.op (io.getD 0 true)
      match r.2 with
      | .ok () => (r.1.kick, .tried (some (.ok ())))
      | .error e => (r.1.kick.disconnect (io.getD 1 true), .tried (some (.error e)))

/-- `subscribe`, under `state.write` and `state.read`. The sid is a `u64`
incremented with wrap-around; the SUB's encode error is ignored. -/
def subscribe (subject : String) (queueGroup : Option String) (io : List Bool) : Sys × Ret :=
  match s.checkShutdown with
  | .error e => (s, .subscribed (.error e))
  | .ok () =>
    let sid := s.write.nextSid
    let s := { s with write.nextSid := (sid + 1) % 2 ^ 64, subscribes := s.subscribes + 1 }
    let s := match s.write.writer with
      | none => s
      | some _ => (s.encode cfg (.sub subject queueGroup sid) (io.getD 0 true)).1.kick
    let sub : Subscription := ⟨subject, queueGroup, s.channels⟩
    ({ s with channels := s.channels + 1,
               read.subscriptions := s.read.subscriptions.insert sid sub },
      .subscribed (.ok (sid, sub.messages)))

/-- `unsubscribe`, under `state.write` and `state.read`: the entry is removed
before the UNSUB is encoded. -/
def unsubscribe (sid : Nat) (io : List Bool) : Sys × Ret :=
  match s.read.subscriptions.lookup sid with
  | none => (s, .unit (.ok ()))
  | some _ =>
    let s := { s with read.subscriptions := s.read.subscriptions.erase sid }
    match s.write.writer with
    | none => (s, .unit (.ok ()))
    | some _ =>
      let r := s.encode cfg (.unsub sid none) (io.getD 0 true)
      match r.2 with
      | .ok () => (r.1.kick, .unit (.ok ()))
      | .error e => (r.1, .unit (.error e))

/-- `flush`, under `state.write`: the shutdown check, the PING with its write
timeout set around it, and a fresh one-shot queued in `pongs`. -/
def flush (io : List Bool) : Sys × Call :=
  match s.checkShutdown with
  | .error e => (s, .returned (.unit (.error e)))
  | .ok () =>
    let id := s.oneshots.length
    let s := { s with oneshots := s.oneshots ++ [Status.pending] }
    let enqueue (s : Sys) : Sys × Call := ({ s with read.pongs := s.read.pongs ++ [.oneshot id] }, .flushWait id)
    let fail (s : Sys) (e : Error) : Sys × Call := (s, .returned (.unit (.error e)))
    match s.write.writer with
    | none => enqueue s
    | some _ =>
      if !io.getD 0 true then fail s streamError
      else
        let r := s.encode cfg .ping (io.getD 1 true)
        match r.2 with
        | .error e => fail r.1 e
        | .ok () =>
          let r := r.1.flushWriter (io.getD 2 true)
          match r.2 with
          | .error e => fail r.1 e
          | .ok () => if !io.getD 3 true then fail r.1 streamError else enqueue r.1

/-- `pong.recv()` on one-shot `id`; `none` while it blocks. -/
def flushWait (id : Nat) : Option Ret :=
  match s.oneshots.getD id Status.pending with
  | .pending => none
  | .completed => some (.unit (.ok ()))
  | .dropped => some (.unit (.error flushError))

/-- `close`'s loop: an UNSUB for each old sid while a writer is installed,
errors ignored, one stream outcome per sid. -/
def unsubAll : Sys → List Nat → List Bool → Sys
  | s, [], _ => s
  | s, sid :: rest, io =>
    match s.write.writer with
    | none => unsubAll s rest io.tail
    | some _ => unsubAll (s.encode cfg (.unsub sid none) (io.headD true)).1.kick rest io.tail

/-- `close`, under `state.write` and `state.read`: only the first call does
anything. -/
def close (io : List Bool) : Sys :=
  if s.shutdown then s
  else
    let old := s.read.subscriptions.keys
    let s := unsubAll cfg { s with shutdown := true, read.subscriptions := ∅ } old io
    (s.flushWriter (io.getD old.length true)).1.clearPongs

/-! ## What each section leaves alone -/

variable {cfg s}

theorem frame_bufferPublish (op : ClientOp) : Frame s (s.bufferPublish cfg op).1 := by
  unfold bufferPublish; split <;> rfl

/-- With no writer installed, `publish` and `try_publish` do to the reconnect
buffer what `Buffer.publish` does with the frame's chunks. -/
theorem bufferPublish_buffer (op : ClientOp) :
    (s.bufferPublish cfg op).1.write.buffer = (s.write.buffer.publish (cfg.encode op)).1 ∧
      (s.bufferPublish cfg op).2 = (s.write.buffer.publish (cfg.encode op)).2 := by
  unfold bufferPublish Buffer.publish
  rcases s.write.buffer.encode (cfg.encode op) with ⟨b, _ | ⟨⟩⟩ <;> exact ⟨rfl, rfl⟩

/-- An encode into the writer fails only with the stream's error. -/
theorem encode_error {op : ClientOp} {ok : Bool} {e : Error} (h : (s.encode cfg op ok).2 = .error e) :
    e = streamError := by
  unfold encode at h
  split at h
  · cases h
  · split at h <;> cases h; rfl

/-- `publish`'s section under `state.write` fails only with the reconnect
buffer's error or the stream's. -/
theorem publishWrite_error {p : Pub} {io : List Bool} {e : Error}
    (h : (s.publishWrite cfg p io).2 = .unit (.error e)) : e = bufferFullError ∨ e = streamError := by
  cases hw : s.write.writer with
  | none =>
    simp only [publishWrite, hw, Ret.unit.injEq, (bufferPublish_buffer p.op).2] at h
    exact .inl (s.write.buffer.publish_error h)
  | some w =>
    simp only [publishWrite, hw] at h
    split at h
    · cases h
    · split at h <;> cases h
      exact .inr (encode_error ‹_›)

theorem frame_publishWrite (p : Pub) (io : List Bool) : Frame s (s.publishWrite cfg p io).1 := by
  unfold publishWrite; split
  · exact frame_bufferPublish _
  · split
    · rfl
    · dsimp only; split
      · exact frame_encode _ _
      · exact (frame_encode _ _).trans (frame_disconnect _)

theorem frame_tryPublishWrite (p : Pub) (io : List Bool) :
    Frame s (s.tryPublishWrite cfg p io).1 := by
  unfold tryPublishWrite; split
  · exact frame_bufferPublish _
  · split
    · rfl
    · dsimp only; split
      · exact frame_encode _ _
      · exact (frame_encode _ _).trans (frame_disconnect _)

theorem frame_flush (io : List Bool) : Frame s (s.flush cfg io).1 := by
  unfold flush; split
  · rfl
  · dsimp only; split
    · rfl
    · split
      · rfl
      · split
        · exact frame_encode _ _
        · split
          · exact (frame_flushWriter _).after (frame_encode _ _)
          · split <;> exact (frame_flushWriter _).after (frame_encode _ _)

/-- On a closed client `subscribe` changes nothing and returns `NotConnected`. -/
theorem subscribe_of_shutdown (h : s.shutdown = true) (subject : String) (q : Option String)
    (io : List Bool) : s.subscribe cfg subject q io = (s, .subscribed (.error closedError)) := by
  simp [subscribe, checkShutdown, h]

/-- `unsubscribe` of a sid not in the table changes nothing and returns `Ok`. -/
theorem unsubscribe_of_lookup (sid : Nat) (h : s.read.subscriptions.lookup sid = none)
    (io : List Bool) : s.unsubscribe cfg sid io = (s, .unit (.ok ())) := by
  simp [unsubscribe, h]

/-- Only the first `close` does anything. -/
theorem close_of_shutdown (h : s.shutdown = true) (io : List Bool) : s.close cfg io = s := by
  simp [close, h]

/-- `subscribe` leaves the lifecycle flags alone. -/
theorem subscribe_lifecycle (subject : String) (q : Option String) (io : List Bool) :
    (s.subscribe cfg subject q io).1.shutdown = s.shutdown ∧
      (s.subscribe cfg subject q io).1.closed = s.closed := by
  unfold subscribe; split
  · exact ⟨rfl, rfl⟩
  · dsimp only; split
    · exact ⟨rfl, rfl⟩
    · exact ⟨(frame_encode _ _).shutdown, (frame_encode _ _).closed⟩

/-- `unsubscribe` leaves the lifecycle flags alone. -/
theorem unsubscribe_lifecycle (sid : Nat) (io : List Bool) :
    (s.unsubscribe cfg sid io).1.shutdown = s.shutdown ∧
      (s.unsubscribe cfg sid io).1.closed = s.closed := by
  unfold unsubscribe; split
  · exact ⟨rfl, rfl⟩
  · dsimp only; split
    · exact ⟨rfl, rfl⟩
    · split <;> exact ⟨(frame_encode _ _).shutdown, (frame_encode _ _).closed⟩

theorem frame_unsubAll (sids : List Nat) (io : List Bool) : Frame s (unsubAll cfg s sids io) := by
  induction sids generalizing s io with
  | nil => rfl
  | cons sid rest ih =>
    unfold unsubAll; split
    · exact ih _
    · exact (ih _).after (frame_encode _ _)

/-- `close` leaves the client shut down; the first call also empties the
subscription table. -/
theorem close_spec (io : List Bool) :
    (s.close cfg io).shutdown = true ∧ (s.close cfg io).closed = s.closed ∧
      (s.shutdown = false → (s.close cfg io).read.subscriptions = ∅) := by
  unfold close; split
  · next h => exact ⟨h, rfl, by simp [h]⟩
  · dsimp only
    refine ⟨?_, ?_, fun _ => ?_⟩
    · exact (frame_clearPongs.after ((frame_flushWriter _).after (frame_unsubAll _ _))).shutdown
    · exact (frame_clearPongs.after ((frame_flushWriter _).after (frame_unsubAll _ _))).closed
    · exact (frame_clearPongs.after ((frame_flushWriter _).after (frame_unsubAll _ _))).subscriptions

end Sys

end NatsClient

import NatsClient.System

/-!
# The reconnect buffer and its replay

Publishes made while no writer is installed are encoded into the reconnect
buffer; the next successful `reconnect` clears it and writes its bytes to the
new connection before installing the writer.

* `buffer_empty_when_connected` — in every reachable state, an installed
  writer comes with an empty reconnect buffer: the buffer is written only with
  no writer, and `reconnect` clears it, under the same lock, before installing
  one. So the `assert_eq!(written, 0)` of `publish` never fails.
* `ReplayLaw` — the spec's replay property: every successful `reconnect`
  replays exactly the frames buffered since the previous one.
  `replay_loses_buffered_publish` refutes it: `reconnect` clears the buffer
  before the writes to the new connection that can still fail.
* `HeadersLaw` — HPUB frames reach a connection only while its server accepts
  headers. `publish` checks `server_info` when it is called, but an HPUB it
  buffers while disconnected is replayed by `reconnect` onto whatever server
  the next connection reaches (`publish_hpub_replayed_without_headers`).
-/

namespace NatsClient

open Sys

/-- While a writer is installed the reconnect buffer is empty. -/
def BufferEmpty (s : Sys) : Prop :=
  s.write.writer.isSome → s.write.buffer.written = 0 ∧ s.write.buffer.flushed = 0

variable {cfg : Config} {s s' : Sys}

theorem BufferEmpty.of_keeps (hs : BufferEmpty s) (hb : s'.write.buffer = s.write.buffer)
    (hw : s'.write.writer.isSome → s.write.writer.isSome) : BufferEmpty s' := by
  intro h; rw [hb]; exact hs (hw h)

theorem BufferEmpty.of_none (h : s.write.writer = none) : BufferEmpty s := by
  simp [BufferEmpty, h]

theorem BufferEmpty.of_write (hs : BufferEmpty s) (h : s'.write = s.write) : BufferEmpty s' :=
  hs.of_keeps (by rw [h]) (by rw [h]; exact id)

@[simp] theorem disconnect_writer (ok : Bool) : (s.disconnect ok).write.writer = none := by
  simp [disconnect]

@[simp] theorem bufferPublish_writer (op : ClientOp) :
    (s.bufferPublish cfg op).1.write.writer = s.write.writer := by
  unfold bufferPublish; split <;> rfl

theorem publishWrite_bufferEmpty (hs : BufferEmpty s) (p : Pub) (io : List Bool) :
    BufferEmpty (s.publishWrite cfg p io).1 := by
  unfold publishWrite
  split
  · exact .of_none (by simp_all)
  · split
    · exact hs
    · simp only
      split
      · exact hs.of_keeps (by simp) (by simp)
      · exact .of_none (by simp)

theorem tryPublishWrite_bufferEmpty (hs : BufferEmpty s) (p : Pub) (io : List Bool) :
    BufferEmpty (s.tryPublishWrite cfg p io).1 := by
  unfold tryPublishWrite
  split
  · exact .of_none (by simp_all)
  · split
    · exact hs
    · simp only
      split
      · exact hs.of_keeps (by simp) (by simp)
      · exact .of_none (by simp)

theorem subscribe_bufferEmpty (hs : BufferEmpty s) (subject : String) (q : Option String)
    (io : List Bool) : BufferEmpty (s.subscribe cfg subject q io).1 := by
  unfold subscribe
  split
  · exact hs
  · simp only
    split <;> exact hs.of_keeps (by simp_all) (by simp_all)

theorem unsubscribe_bufferEmpty (hs : BufferEmpty s) (sid : Nat) (io : List Bool) :
    BufferEmpty (s.unsubscribe cfg sid io).1 := by
  unfold unsubscribe
  split
  · exact hs
  · simp only
    split
    · exact hs.of_keeps rfl id
    · split <;> exact hs.of_keeps (by simp) (by simp)

theorem flush_bufferEmpty (hs : BufferEmpty s) (io : List Bool) :
    BufferEmpty (s.flush cfg io).1 := by
  unfold flush
  split
  · exact hs
  · simp only
    split
    · exact hs.of_keeps rfl id
    · split
      · exact hs.of_keeps rfl id
      · split
        · exact hs.of_keeps (by simp) (by simp)
        · split
          · exact hs.of_keeps (by simp) (by simp)
          · split <;> exact hs.of_keeps (by simp) (by simp)

theorem unsubAll_keeps (sids : List Nat) (io : List Bool) :
    (unsubAll cfg s sids io).write.buffer = s.write.buffer ∧
      (unsubAll cfg s sids io).write.writer.isSome = s.write.writer.isSome := by
  induction sids generalizing s io with
  | nil => exact ⟨rfl, rfl⟩
  | cons sid rest ih =>
    unfold unsubAll
    split
    · exact ih _
    · obtain ⟨h1, h2⟩ := ih (s := (s.encode cfg (.unsub sid none) (io.headD true)).1.kick) io.tail
      simp_all

theorem close_bufferEmpty (hs : BufferEmpty s) (io : List Bool) :
    BufferEmpty (s.close cfg io) := by
  unfold close
  split
  · exact hs
  · exact hs.of_keeps (by simp [(unsubAll_keeps _ _).1]) (by simp [(unsubAll_keeps _ _).2])

theorem callStep_bufferEmpty (hs : BufferEmpty s) {c c' : Call} {io : List Bool} {b : Bool}
    (h : s.callStep cfg c io b = some (s', c')) : BufferEmpty s' := by
  cases c
  case publishWrite p =>
    cases h; exact publishWrite_bufferEmpty hs _ _
  case tryPublishWrite p =>
    simp only [callStep] at h
    split at h <;> cases h
    · exact hs
    · exact tryPublishWrite_bufferEmpty hs _ _
  case subscribe => cases h; exact subscribe_bufferEmpty hs _ _ _
  case unsubscribe => cases h; exact unsubscribe_bufferEmpty hs _ _
  case flush => rw [show s' = (s.flush cfg io).1 by simp [callStep] at h; rw [h]]; exact flush_bufferEmpty hs _
  case flushWait id =>
    obtain ⟨r, -, h⟩ := Option.map_eq_some'.mp h
    cases h; exact hs
  case close => cases h; exact (close_bufferEmpty hs io).of_write rfl
  case returned => cases h
  all_goals cases h; exact hs

theorem reconnectLocked_bufferEmpty (info : ServerInfo) (c : Nat) (io : List Bool) :
    BufferEmpty (s.reconnectLocked cfg info c io) := by
  unfold reconnectLocked
  simp only
  split
  · exact .of_none (by simp [reconnectFailed])
  · split
    · exact .of_none (by simp [reconnectFailed])
    · split
      · exact .of_none (by simp [reconnectFailed])
      · -- installed: the buffer was cleared in the same section
        intro _
        simp [reconnectInstall]

theorem dispatchOp_bufferEmpty (hs : BufferEmpty s) (c : Nat) (op : ServerOp) (io : List Bool) :
    BufferEmpty (s.dispatchOp cfg c op io) := by
  unfold dispatchOp
  split
  · exact hs.of_write rfl
  · split
    · exact hs.of_write rfl
    · simp only
      split <;> exact hs.of_keeps (by simp) (by simp)
  · simp only
    split
    · exact hs.of_write (by simp)
    · exact hs.of_write rfl
  all_goals exact hs.of_write (by simp)

theorem supervisorStep_bufferEmpty (hs : BufferEmpty s) {io : List Bool}
    (h : s.supervisorStep cfg io = some s') : BufferEmpty s' := by
  unfold supervisorStep at h
  split at h <;> cases h
  · unfold reconnectCheck; split <;> exact hs.of_write rfl
  · exact reconnectLocked_bufferEmpty _ _ _
  · unfold dispatchCheck; split <;> exact hs.of_write rfl
  · exact hs.of_write rfl
  · exact dispatchOp_bufferEmpty hs _ _ _
  · exact .of_none (by simp [disconnected])
  · exact hs.of_write rfl
  · unfold runCheck; split <;> exact hs.of_write rfl
  · exact hs.of_keeps (by simp [finalFlush]) (by simp [finalFlush])

theorem flusherFlush_bufferEmpty (hs : BufferEmpty s) (io : List Bool) :
    BufferEmpty (s.flusherFlush io) := by
  unfold flusherFlush
  split
  · exact hs.of_write rfl
  · simp only
    split
    · exact hs.of_keeps (by simp) (by simp)
    · exact .of_none (by simp)

theorem heartbeat_bufferEmpty (hs : BufferEmpty s) (io : List Bool) :
    BufferEmpty (s.heartbeat cfg io) := by
  unfold heartbeat
  split
  · exact .of_none (by simp)
  · split
    · simp only
      split
      · exact hs.of_keeps rfl id
      · split
        · exact hs.of_keeps (by simp) (by simp)
        · exact .of_none (by simp)
    · exact hs

theorem step_bufferEmpty (hs : BufferEmpty s) {a : Action} (h : s.step cfg a = some s') :
    BufferEmpty s' := by
  rcases step_inv h with ⟨c, -, rfl⟩ | ⟨i, io, b, t, ⟨s₁, c₁⟩, -, hc, rfl⟩ | ⟨r, -, rfl⟩ | ⟨c, r, -, -, rfl⟩ |
    ⟨io, h⟩ | ⟨-, -, rfl⟩ | ⟨io, -, rfl⟩ | ⟨io, -, -, rfl⟩ | ⟨b, -, h⟩ | ⟨ms, rfl⟩
  · exact hs.of_write rfl
  · exact (callStep_bufferEmpty hs hc).of_write rfl
  · cases r <;> exact hs.of_write rfl
  · cases r <;> exact hs.of_write (by simp [decoded])
  · exact supervisorStep_bufferEmpty hs h
  · exact hs.of_write rfl
  · exact flusherFlush_bufferEmpty hs io
  · exact heartbeat_bufferEmpty hs io
  · unfold select at h
    split at h <;> (try split at h) <;> cases h <;> exact hs.of_write rfl
  · exact hs.of_write rfl

theorem reachable_bufferEmpty (h : Reachable cfg s) : BufferEmpty s := by
  induction h with
  | init => exact .of_none rfl
  | step _ _ hstep ih => exact step_bufferEmpty ih hstep

theorem publishWrite_ne_panicked (hs : BufferEmpty s) (p : Pub) (io : List Bool) :
    (s.publishWrite cfg p io).2 ≠ .panicked := by
  unfold publishWrite
  split
  · nofun
  · rename_i hw
    rw [if_neg (by simp [(hs (by simp [hw])).1])]
    simp only
    split <;> nofun

/-- **The reconnect buffer is empty while connected.** In every reachable state
with a writer installed, `written = flushed = 0`; so `publish`'s
`assert_eq!(written, 0)` never fires. -/
theorem buffer_empty_when_connected (h : Reachable cfg s) :
    (s.write.writer.isSome → s.write.buffer.written = 0 ∧ s.write.buffer.flushed = 0) ∧
      ∀ p io, (s.publishWrite cfg p io).2 ≠ .panicked :=
  ⟨reachable_bufferEmpty h, publishWrite_ne_panicked (reachable_bufferEmpty h)⟩

/-- After connecting, a writer is installed and the buffer is empty. -/
theorem buffer_empty_after_connect :
    ∃ s, Reachable (natsConfig 64) s ∧ s.write.writer.isSome = true ∧
      (s.write.writer.isSome → s.write.buffer.written = 0 ∧ s.write.buffer.flushed = 0) ∧
        ∀ p io, (s.publishWrite (natsConfig 64) p io).2 ≠ .panicked := by
  obtain ⟨s, hs, h⟩ := Reachable.of_exec (natsConfig 64) (fun s => s.write.writer.isSome)
    [.connected (some ⟨true⟩), .supervisor [], .supervisor []] (by decide)
  exact ⟨s, hs, h, buffer_empty_when_connected hs⟩

/-! ## The replay law -/

/-- The replay law over a history, oldest event first: every successful
`reconnect` wrote, after its SUB frames, exactly the frames `publish` buffered
since the previous successful `reconnect`, in order; `acc` holds those bytes. -/
def replayHolds (cfg : Config) : List Event → List UInt8 → Bool
  | [], _ => true
  | .buffered op :: rest, acc => replayHolds cfg rest (acc ++ (cfg.encode op).flatten)
  | .replayed _ bytes :: rest, acc => bytes == acc && replayHolds cfg rest []
  | .hpub .. :: rest, acc => replayHolds cfg rest acc

/-- The replay law holds of everything `s` has done. -/
def ReplayLaw (cfg : Config) (s : Sys) : Prop := replayHolds cfg s.log.reverse [] = true

/-- Connect; the server closes the connection; `publish "x" "a"` goes to the
reconnect buffer and returns `Ok`; a reconnect takes the buffer and fails to
flush the new connection; the next reconnect succeeds. -/
def lostReplayRun : List Action :=
  [.connected (some ⟨true⟩), .supervisor [], .supervisor [], .select true,
   .decoded none, .supervisor [],
   .start (.publish ⟨"x", none, none, [97]⟩), .call 0 [] false, .call 0 [] false, .call 0 [] false,
   .supervisor [], .supervisor [],
   .connected (some ⟨true⟩), .supervisor [], .supervisor [true, true, false],
   .supervisor [], .supervisor [],
   .connected (some ⟨true⟩), .supervisor [], .supervisor []]

/-- The buffered publish is never replayed: the last reconnect writes no bytes
after its SUB frames. -/
theorem replay_loses_buffered_publish : ∃ s, Reachable (natsConfig 64) s ∧ ¬ ReplayLaw (natsConfig 64) s := by
  obtain ⟨s, hs, h⟩ := Reachable.of_exec (natsConfig 64)
    (fun s => !replayHolds (natsConfig 64) s.log.reverse []) lostReplayRun (by decide)
  exact ⟨s, hs, by simpa [ReplayLaw] using h⟩

/-! ## The header law -/

/-- `false` for an HPUB written while the server info in effect refused headers. -/
def Event.headersOk : Event → Bool
  | .hpub _ headers => headers
  | _ => true

/-- The spec's header law: an HPUB frame reaches a connection, directly or
replayed from the reconnect buffer, only while the server info in effect on that
connection has `headers = true`. -/
def HeadersLaw (s : Sys) : Prop := ∀ e ∈ s.log, e.headersOk = true

instance (s : Sys) : Decidable (HeadersLaw s) := inferInstanceAs (Decidable (∀ e ∈ s.log, _))

/-- A call of `publish`. -/
def Call.isPublish : Call → Bool
  | .publish _ => true
  | _ => false

/-- Every user call so far is a `publish`: then every HPUB frame the log
records, written directly or replayed by `reconnect`, was encoded by `publish`,
since only `publish` and `try_publish` encode HPUB frames. -/
def OnlyPublish (s : Sys) : Prop := ∀ t ∈ s.calls, t.entry.isPublish = true

instance (s : Sys) : Decidable (OnlyPublish s) := inferInstanceAs (Decidable (∀ t ∈ s.calls, _))

/-- Connect to a server that accepts headers; the server closes the connection;
`publish` with a header passes the `server_info` check against the old info and
goes to the reconnect buffer; the next connection's server refuses headers, and
`reconnect` installs its info and replays the buffer. -/
def publishReplayRun : List Action :=
  [.connected (some ⟨true⟩), .supervisor [], .supervisor [], .select true,
   .decoded none, .supervisor [],
   .start (.publish ⟨"x", none, some [("K", ["V"])], []⟩), .call 0 [] false, .call 0 [] false, .call 0 [] false,
   .supervisor [], .supervisor [],
   .connected (some ⟨false⟩), .supervisor [], .supervisor []]

/-- After `publishReplayRun`, a run of `publish` calls only, `reconnect` has
replayed an HPUB frame onto a connection whose server info has `headers =
false`. -/
theorem publish_hpub_replayed_without_headers :
    ∃ s, Reachable (natsConfig 64) s ∧ OnlyPublish s ∧ ¬ HeadersLaw s := by
  obtain ⟨s, hs, h⟩ := Reachable.of_exec (natsConfig 64) (fun s => decide (OnlyPublish s) && !decide (HeadersLaw s))
    publishReplayRun (by decide)
  simp only [Bool.and_eq_true, decide_eq_true_eq, Bool.not_eq_true', decide_eq_false_iff_not] at h
  exact ⟨s, hs, h⟩

end NatsClient

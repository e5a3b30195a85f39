import NatsClient.System

/-!
# What the sections write to the connections

`Sys.wireAt c` is what stream `c` received and the frames whose encode into its
writer failed; `Sys.conn` is the same for the installed writer's connection,
with the items still in the writer's buffer after those the stream received.

Each item on a connection is a chunk of a frame, or bytes `reconnect` replays.
Most sections touch the connections only through the installed writer and
write no chunk of a SUB or an UNSUB: `Quiet s s'` says so, and `Local s s'`
keeps its part about the other connections. This module proves one such lemma per effect and
per section, so that the subscription invariant (`NatsClient.Subs`) treats
only `subscribe`, `unsubscribe`, `close`, `reconnect` and `connect` by hand.
-/

namespace NatsClient

open Sys

/-- The sid of a SUB or an UNSUB frame. -/
def ClientOp.subSid : ClientOp → Option Nat
  | .sub _ _ sid | .unsub sid _ => some sid
  | _ => none

/-- The sid of the frame a chunk belongs to, for a SUB or an UNSUB. -/
def Item.subSid : Item → Option Nat
  | .chunk op _ => op.subSid
  | .bytes _ => none

namespace Sys

/-- What stream `c` received, and the frames whose encode into its writer
failed. -/
def wireAt (s : Sys) (c : Nat) : Option (List Item × List ClientOp) :=
  s.streams[c]?.map fun st => (st.sent, st.lost)

/-- The installed writer's connection: what the server received on it and what
sits in the writer, in order, and the frames whose encode into it failed. -/
def conn (s : Sys) : Option (List Item × List ClientOp) :=
  s.write.writer.bind fun w => (s.wireAt w.stream).map fun x => (x.1 ++ w.buf, x.2)

/-- Everything `wireAt` and `conn` read, with the subscription table. -/
def wire (s : Sys) : AList (fun _ : Nat => Subscription) × Option Writer × List (List Item × List ClientOp) :=
  (s.read.subscriptions, s.write.writer, s.streams.map fun st => (st.sent, st.lost))

/-- `s'` agrees with `s` on the connections other than the installed writer's,
and keeps the writer on its connection or drops it. -/
structure Local (s s' : Sys) : Prop where
  length : s'.streams.length = s.streams.length
  wireAt : ∀ c, (∀ w ∈ s.write.writer, w.stream ≠ c) → s'.wireAt c = s.wireAt c
  writer : ∀ w' ∈ s'.write.writer, ∃ w ∈ s.write.writer, w'.stream = w.stream

/-- `s'` is `Local` to `s`, keeps its subscription table, and adds to its
connection only chunks of frames other than SUB and UNSUB, or has no writer. -/
structure Quiet (s s' : Sys) extends Local s s' : Prop where
  subscriptions : s'.read.subscriptions = s.read.subscriptions
  conn : s'.conn = none ∨ ∃ extra lost, (∀ it ∈ extra, it.subSid = none) ∧
    (∀ op ∈ lost, op.subSid = none) ∧ s'.conn = s.conn.map fun x => (x.1 ++ extra, x.2 ++ lost)

variable {cfg : Config} {s s' s'' : Sys}

theorem wireAt_eq_of_wire (h : s'.wire = s.wire) (c : Nat) : s'.wireAt c = s.wireAt c := by
  have := congrArg (fun v => v.2.2[c]?) h
  simpa [wire, wireAt, List.getElem?_map] using this

theorem conn_eq_of_wire (h : s'.wire = s.wire) : s'.conn = s.conn := by
  have hw : s'.write.writer = s.write.writer := congrArg (·.2.1) h
  simp [conn, hw, wireAt_eq_of_wire h]

theorem Local.refl : Local s s := ⟨rfl, fun _ _ => rfl, fun w hw => ⟨w, hw, rfl⟩⟩

theorem Local.trans (h₁ : Local s s') (h₂ : Local s' s'') : Local s s'' where
  length := h₂.length.trans h₁.length
  wireAt c hc := by
    refine (h₂.wireAt c fun w' hw' => ?_).trans (h₁.wireAt c hc)
    obtain ⟨w, hw, heq⟩ := h₁.writer w' hw'
    rw [heq]; exact hc w hw
  writer w'' hw'' := by
    obtain ⟨w', hw', h'⟩ := h₂.writer w'' hw''
    obtain ⟨w, hw, h⟩ := h₁.writer w' hw'
    exact ⟨w, hw, h'.trans h⟩

theorem Quiet.of_wire (h : s'.wire = s.wire) : Quiet s s' where
  length := by simpa [wire] using congrArg (·.2.2.length) h
  wireAt c _ := wireAt_eq_of_wire h c
  writer w hw := ⟨w, by rwa [← show s'.write.writer = s.write.writer from congrArg (·.2.1) h], rfl⟩
  subscriptions := congrArg (·.1) h
  conn := .inr ⟨[], [], nofun, nofun, by simp [conn_eq_of_wire h]⟩

theorem Quiet.refl : Quiet s s := .of_wire rfl

theorem Quiet.trans (h₁ : Quiet s s') (h₂ : Quiet s' s'') : Quiet s s'' where
  toLocal := h₁.toLocal.trans h₂.toLocal
  subscriptions := h₂.subscriptions.trans h₁.subscriptions
  conn := by
    rcases h₂.conn with h | ⟨e₂, l₂, he₂, hl₂, h⟩
    · exact .inl h
    rcases h₁.conn with h' | ⟨e₁, l₁, he₁, hl₁, h'⟩
    · exact .inl (by simp [h, h'])
    refine .inr ⟨e₁ ++ e₂, l₁ ++ l₂, ?_, ?_, by simp [h, h', Option.map_map, Function.comp_def]⟩
    · simp only [List.mem_append]; rintro it (hit | hit) <;> simp [he₁ it, he₂ it, hit]
    · simp only [List.mem_append]; rintro op (hop | hop) <;> simp [hl₁ op, hl₂ op, hop]

/-- `Quiet.trans` read from the last step back, like `Frame.after`. -/
theorem Quiet.after (h₂ : Quiet s' s'') (h₁ : Quiet s s') : Quiet s s'' := h₁.trans h₂

/-- A change to one stream that keeps what it received and what was lost on it. -/
theorem wire_modify {f : Stream → Stream} (hf : ∀ st, (f st).sent = st.sent ∧ (f st).lost = st.lost)
    (c : Nat) : { s with streams := s.streams.modify f c }.wire = s.wire := by
  simp only [wire, Prod.mk.injEq, true_and]
  apply List.ext_getElem?
  intro i
  simp only [List.getElem?_map, List.getElem?_modify]
  cases s.streams[i]? <;> simp [apply_ite, hf]

/-! ## The shared effects -/

theorem wire_kick : s.kick.wire = s.wire := rfl
theorem wire_complete (w : Waiter) : (s.complete w).wire = s.wire := by cases w <;> rfl
theorem wire_dropWaiter (w : Waiter) : (s.dropWaiter w).wire = s.wire := by cases w <;> rfl

theorem wire_foldl_complete (ws : List Waiter) : (ws.foldl complete s).wire = s.wire := by
  induction ws generalizing s with
  | nil => rfl
  | cons w ws ih => exact ih.trans (wire_complete w)

theorem wire_foldl_dropWaiter (ws : List Waiter) : (ws.foldl dropWaiter s).wire = s.wire := by
  induction ws generalizing s with
  | nil => rfl
  | cons w ws ih => exact ih.trans (wire_dropWaiter w)

theorem wire_clearPongs : s.clearPongs.wire = s.wire := wire_foldl_dropWaiter _

theorem wire_shutdownStream : s.shutdownStream.wire = s.wire := by
  unfold shutdownStream; split
  · rfl
  · apply wire_modify; exact fun _ => ⟨rfl, rfl⟩

theorem wire_wrote (op : ClientOp) (c : Nat) : (s.wrote op c).wire = s.wire := by
  unfold wrote; split
  · apply wire_modify; exact fun _ => ⟨rfl, rfl⟩
  all_goals rfl

/-- `Quiet.trans` with a last step that keeps `wire`; `s''` comes from the
goal, so a record update of `s'` closes the second argument by `rfl`. -/
theorem Quiet.trans_wire (h : Quiet s s') (hw : s''.wire = s'.wire) : Quiet s s'' :=
  h.trans (.of_wire hw)

/-- A first step that keeps `wire`, then `h`; the state `h` starts from is
fixed by `h`. -/
theorem Quiet.wire_before (h : Quiet s' s'') (hw : s'.wire = s.wire) : Quiet s s'' :=
  (Quiet.of_wire hw).trans h

/-- The installed writer `w` becomes `w'` on the same stream and hands `out` to
it; the connection then carries `extra` after what it carried. -/
theorem conn_deliver_writer {w w' : Writer} {out extra : List Item} (hw : s.write.writer = some w)
    (hs : w'.stream = w.stream) (hbuf : out ++ w'.buf = w.buf ++ extra) :
    ({ s with write.writer := some w' }.deliver w.stream out).conn =
      s.conn.map fun x => (x.1 ++ extra, x.2) := by
  simp only [conn, deliver, wireAt, hw, hs, Option.some_bind, List.getElem?_modify_eq, Option.map_map]
  cases s.streams[w.stream]? <;> simp [← hbuf]

theorem local_deliver_writer {w w' : Writer} (hw : s.write.writer = some w) (hs : w'.stream = w.stream)
    (out : List Item) : Local s ({ s with write.writer := some w' }.deliver w.stream out) where
  length := by simp [deliver]
  wireAt c hc := by simp [wireAt, deliver, List.getElem?_modify, hc w hw]
  writer w'' hw'' := ⟨w, hw, by obtain rfl : w' = w'' := Option.some.inj hw''; exact hs⟩

theorem quiet_deliver_writer {w w' : Writer} {out extra : List Item} (hw : s.write.writer = some w)
    (hs : w'.stream = w.stream) (hbuf : out ++ w'.buf = w.buf ++ extra)
    (hextra : ∀ it ∈ extra, it.subSid = none) :
    Quiet s ({ s with write.writer := some w' }.deliver w.stream out) where
  toLocal := local_deliver_writer hw hs out
  subscriptions := rfl
  conn := .inr ⟨extra, [], hextra, nofun, by simp [conn_deliver_writer hw hs hbuf]⟩

/-- A failed encode: the writer becomes `w'` on the same stream, the stream
receives `out`, and `op` is recorded as lost on it. -/
theorem conn_encode_fail {w w' : Writer} {out extra : List Item} (hw : s.write.writer = some w)
    (hs : w'.stream = w.stream) (hbuf : out ++ w'.buf = w.buf ++ extra) (op : ClientOp) :
    ({ s with write.writer := some w',
              streams := s.streams.modify (fun st => { st with lost := st.lost ++ [op] }) w.stream }.deliver
        w.stream out).conn = s.conn.map fun x => (x.1 ++ extra, x.2 ++ [op]) := by
  simp only [conn, deliver, wireAt, hw, hs, Option.some_bind, List.getElem?_modify_eq, Option.map_map]
  cases s.streams[w.stream]? <;> simp [← hbuf]

theorem local_encode_fail {w w' : Writer} (hw : s.write.writer = some w) (hs : w'.stream = w.stream)
    (out : List Item) (op : ClientOp) :
    Local s ({ s with write.writer := some w',
                      streams := s.streams.modify (fun st => { st with lost := st.lost ++ [op] }) w.stream }.deliver
      w.stream out) where
  length := by simp [deliver]
  wireAt c hc := by simp [wireAt, deliver, List.getElem?_modify, hc w hw]
  writer w'' hw'' := ⟨w, hw, by obtain rfl : w' = w'' := Option.some.inj hw''; exact hs⟩

theorem quiet_dropWriter (ok : Bool) : Quiet s (s.dropWriter ok) := by
  unfold dropWriter; split
  · exact .refl
  next w hw =>
    refine ⟨⟨by simp [deliver], fun c hc => ?_, nofun⟩, rfl, .inl rfl⟩
    simp [wireAt, deliver, List.getElem?_modify, (hc w hw)]

theorem getElem?_streams_dropWriter {c : Nat} (h : ∀ w ∈ s.write.writer, w.stream ≠ c) (ok : Bool) :
    (s.dropWriter ok).streams[c]? = s.streams[c]? := by
  unfold dropWriter; split
  · rfl
  · next w hw => simp [deliver, List.getElem?_modify, h w hw]

theorem quiet_disconnect (ok : Bool) : Quiet s (s.disconnect ok) :=
  (quiet_dropWriter ok).trans_wire wire_clearPongs

theorem quiet_kick : Quiet s s.kick := .of_wire wire_kick

@[simp] theorem wireAt_deliver (c : Nat) (items : List Item) :
    (s.deliver c items).wireAt c = (s.wireAt c).map fun x => (x.1 ++ items, x.2) := by
  simp only [wireAt, deliver, List.getElem?_modify_eq, Option.map_map]
  cases s.streams[c]? <;> rfl

theorem wireAt_deliver_ne {c d : Nat} (h : d ≠ c) (items : List Item) :
    (s.deliver d items).wireAt c = s.wireAt c := by
  simp [wireAt, deliver, List.getElem?_modify, h]

theorem quiet_shutdownStream : Quiet s s.shutdownStream := .of_wire wire_shutdownStream

/-- What `encode` does to the connections: all the frame's chunks join the
installed writer's connection, or, only where a stream write failed, a proper
prefix of them does and the frame is recorded as lost on it. -/
theorem encode_conn (op : ClientOp) (ok : Bool) :
    ((s.encode cfg op ok).2 = .ok () ∧
      (s.encode cfg op ok).1.conn = s.conn.map fun x => (x.1 ++ cfg.chunks op, x.2)) ∨
    ok = false ∧ ∃ j < (cfg.encode op).length,
      (s.encode cfg op ok).1.conn = s.conn.map fun x => (x.1 ++ op.firstChunks j, x.2 ++ [op]) := by
  rcases hw : s.write.writer with _ | w
  · exact .inl ⟨by simp [encode, hw], by simp [encode, conn, hw]⟩
  rcases hwe : w.encode cfg op ok with ⟨w', out, _ | _⟩
  · obtain ⟨hs, j, hj, hbuf, hr⟩ := Writer.encode_spec hwe
    have hok : ok = false := by
      cases ok
      · rfl
      · exact absurd ((congrArg (·.2.2) hwe).symm.trans (Writer.encode_true cfg w op)) Bool.false_ne_true
    refine .inr ⟨hok, j, lt_of_le_of_ne hj fun h => Bool.false_ne_true (hr.2 h), ?_⟩
    simp only [encode, hw, hwe]
    exact conn_encode_fail hw hs hbuf op
  · obtain ⟨hs, j, -, hbuf, hr⟩ := Writer.encode_spec hwe
    obtain rfl := hr.1 rfl
    refine .inl ⟨by simp [encode, hw, hwe], ?_⟩
    simp only [encode, hw, hwe]
    rw [conn_eq_of_wire (wire_wrote _ _), conn_deliver_writer hw hs hbuf]
    rfl

theorem local_encode (op : ClientOp) (ok : Bool) : Local s (s.encode cfg op ok).1 := by
  rcases hw : s.write.writer with _ | w
  · simp only [encode, hw]; exact .refl
  rcases hwe : w.encode cfg op ok with ⟨w', out, _ | _⟩
  · simp only [encode, hw, hwe]
    exact local_encode_fail hw (Writer.encode_spec hwe).1 out op
  · simp only [encode, hw, hwe]
    exact (local_deliver_writer hw (Writer.encode_spec hwe).1 out).trans (Quiet.of_wire (wire_wrote _ _)).toLocal

theorem subSid_firstChunks {op : ClientOp} (hop : op.subSid = none) (j : Nat) :
    ∀ it ∈ op.firstChunks j, it.subSid = none := by
  simp only [ClientOp.firstChunks, List.mem_map]
  rintro _ ⟨i, -, rfl⟩
  exact hop

/-- Encoding a frame other than SUB and UNSUB is quiet. -/
theorem quiet_encode {op : ClientOp} (hop : op.subSid = none) (ok : Bool) : Quiet s (s.encode cfg op ok).1 where
  toLocal := local_encode op ok
  subscriptions := by simp
  conn := by
    rcases @encode_conn cfg s op ok with ⟨-, h⟩ | ⟨-, j, -, h⟩
    · exact .inr ⟨cfg.chunks op, [], subSid_firstChunks hop _, nofun, by simp [h]⟩
    · exact .inr ⟨op.firstChunks j, [op], subSid_firstChunks hop _, by simpa, h⟩

theorem quiet_encode_ping (ok : Bool) : Quiet s (s.encode cfg .ping ok).1 :=
  quiet_encode (show ClientOp.ping.subSid = none from rfl) ok
theorem quiet_encode_pong (ok : Bool) : Quiet s (s.encode cfg .pong ok).1 :=
  quiet_encode (show ClientOp.pong.subSid = none from rfl) ok

theorem quiet_flushWriter (ok : Bool) : Quiet s (s.flushWriter ok).1 := by
  unfold flushWriter
  rcases hw : s.write.writer with _ | w
  · exact .refl
  cases ok
  · exact .refl
  · exact quiet_deliver_writer hw rfl rfl nofun

/-! ## The sections other than `subscribe`, `unsubscribe`, `close` and `reconnect` -/

theorem subSid_pub (p : Pub) : p.op.subSid = none := by
  unfold Pub.op; split <;> rfl

theorem quiet_publishWrite (p : Pub) (io : List Bool) : Quiet s (s.publishWrite cfg p io).1 := by
  unfold publishWrite; split
  · exact .of_wire (by unfold bufferPublish; split <;> rfl)
  · split
    · exact .refl
    · have h : Quiet s (s.encode cfg p.op (io.getD 0 true)).1 := quiet_encode (subSid_pub p) _
      dsimp only; split
      · exact h.trans quiet_kick
      · exact (h.trans (quiet_disconnect _)).trans quiet_kick

theorem quiet_tryPublishWrite (p : Pub) (io : List Bool) : Quiet s (s.tryPublishWrite cfg p io).1 := by
  unfold tryPublishWrite; split
  · exact .of_wire (by unfold bufferPublish; split <;> rfl)
  · split
    · exact .refl
    · have h : Quiet s (s.encode cfg p.op (io.getD 0 true)).1 := quiet_encode (subSid_pub p) _
      dsimp only; split
      · exact h.trans quiet_kick
      · exact (h.trans quiet_kick).trans (quiet_disconnect _)

theorem quiet_flush (io : List Bool) : Quiet s (s.flush cfg io).1 := by
  unfold flush; split
  · exact .refl
  · let s₁ : Sys := { s with oneshots := s.oneshots ++ [Status.pending] }
    have h : Quiet s (s₁.encode cfg .ping (io.getD 1 true)).1 := (quiet_encode_ping _).wire_before rfl
    have h' := h.trans (quiet_flushWriter (io.getD 2 true))
    dsimp only; split
    · exact .of_wire rfl
    · split
      · exact .of_wire rfl
      · split
        · exact h
        · split
          · exact h'
          · split
            · exact h'
            · exact h'.trans_wire rfl

theorem quiet_flusherFlush (io : List Bool) : Quiet s (s.flusherFlush io) := by
  unfold flusherFlush; split
  · exact .of_wire rfl
  · dsimp only; split
    · exact (quiet_flushWriter _).trans_wire rfl
    · exact (((quiet_flushWriter _).trans quiet_shutdownStream).trans (quiet_disconnect _)).trans_wire rfl

theorem quiet_heartbeat (io : List Bool) : Quiet s (s.heartbeat cfg io) := by
  unfold heartbeat; split
  · exact quiet_shutdownStream.trans (quiet_disconnect _)
  · split
    · let s₁ : Sys := { s with read.pingsOut := s.read.pingsOut + 1, read.pongs := s.read.pongs ++ [Waiter.kicker] }
      have h : Quiet s ((s₁.encode cfg .ping (io.headD true)).1.flushWriter (io.getD 1 true)).1 :=
        ((quiet_encode_ping _).trans (quiet_flushWriter _)).wire_before rfl
      dsimp only; split
      · exact .of_wire rfl
      · split
        · exact h
        · exact (h.trans quiet_shutdownStream).trans (quiet_disconnect _)
    · exact .refl

theorem quiet_dispatchOp (c : Nat) (op : ServerOp) (io : List Bool) :
    Quiet s (s.dispatchOp cfg c op io) := by
  unfold dispatchOp; split
  · exact .of_wire rfl
  · split
    · exact .of_wire rfl
    · dsimp only; split
      · exact ((quiet_encode_pong _).trans quiet_kick).trans_wire rfl
      · exact (quiet_encode_pong _).trans_wire rfl
  · dsimp only; split
    · exact .of_wire (wire_complete _)
    · exact .of_wire rfl
  · exact .of_wire (by unfold deliverMsg; split <;> rfl)
  · exact .of_wire (by unfold deliverMsg; split <;> rfl)
  all_goals exact .of_wire rfl

/-! ## The sections that leave the supervisor alone -/

theorem publishWrite_supervisor (p : Pub) (io : List Bool) :
    (s.publishWrite cfg p io).1.supervisor = s.supervisor := by
  unfold publishWrite; split
  · unfold bufferPublish; split <;> rfl
  · split
    · rfl
    · dsimp only; split <;> simp

theorem tryPublishWrite_supervisor (p : Pub) (io : List Bool) :
    (s.tryPublishWrite cfg p io).1.supervisor = s.supervisor := by
  unfold tryPublishWrite; split
  · unfold bufferPublish; split <;> rfl
  · split
    · rfl
    · dsimp only; split <;> simp

theorem flush_supervisor (io : List Bool) : (s.flush cfg io).1.supervisor = s.supervisor := by
  unfold flush; split
  · rfl
  · dsimp only; split
    · rfl
    · split
      · rfl
      · split
        · simp
        · split
          · simp
          · split <;> simp

theorem flusherFlush_supervisor (io : List Bool) : (s.flusherFlush io).supervisor = s.supervisor := by
  unfold flusherFlush; split
  · rfl
  · dsimp only; split <;> simp

theorem heartbeat_supervisor (io : List Bool) : (s.heartbeat cfg io).supervisor = s.supervisor := by
  unfold heartbeat; split
  · simp
  · split
    · dsimp only; split
      · rfl
      · split <;> simp
    · rfl

theorem wire_serverSent (c : Nat) (op : ServerOp) : (s.serverSent c op).wire = s.wire := by
  unfold serverSent; split
  · apply wire_modify; exact fun _ => ⟨rfl, rfl⟩
  · apply wire_modify; exact fun _ => ⟨rfl, rfl⟩
  · rfl

theorem select_wire {b : Bool} (h : s.select b = some s') : s'.wire = s.wire ∧ s'.supervisor = s.supervisor := by
  unfold select at h
  split at h
  · split at h <;> cases h; exact ⟨rfl, rfl⟩
  · split at h <;> cases h <;> exact ⟨rfl, rfl⟩

end Sys

end NatsClient

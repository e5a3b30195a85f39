import NatsClient.Side
import NatsClient.Connections

/-!
# The client's reconnect buffer refines the buffer run

`reconnect_buffer_law` (`NatsClient.Buffer`) is a law of `BufRun`: the
reconnect buffer on its own, under any sequence of `clear`s and frame
publishes. This module ties the client's reconnect buffer to it. Along every
run of the client (`SideStep.refines`):

* a publish with no writer installed is one `BufRun` publish of the frame's
  chunks;
* `reconnect`'s take is one `clear`;
* every other step leaves the buffer and its frames alone.

The frames `BufRun` records are the ghost `Sys.pending`.

* `reconnect_buffer_holds_pending` — every reachable buffer is a `BufRun`
  state whose frames are the pending frames. So `written` stays within
  `reconnect_buffer_size`, and `bytes[..flushed]` is the pending frames'
  encodings, in order. The next buffered publish succeeds iff no partial frame
  is written and its frame fits.
* `reconnect_replays_pending` — a successful `reconnect` writes exactly the
  table's SUB frames to the new connection, then those bytes, and installs an
  empty writer.

Both take a codec that gives every frame at least one byte, as the buffer law
does.
-/

namespace NatsClient

open Sys

/-- The bytes of `op`'s frame. -/
def frameBytes (cfg : Config) (op : ClientOp) : List UInt8 := (cfg.encode op).flatten

/-- Every frame of the NATS codec has at least one byte. -/
theorem natsEncode_pos (size : Nat) (op : ClientOp) : 0 < ((natsConfig size).encode op).flatten.length := by
  cases op <;> simp only [natsConfig, natsEncode, List.cons_append, List.flatten_cons, List.length_append] <;>
    exact Nat.lt_of_lt_of_le (by decide) (Nat.le_add_right _ _)

/-- `x`'s reconnect buffer is where some run of `clear`s and publishes of
frames of positive length leaves `Buffer::new(reconnect_buffer_size)`. The
frames that run published since its last `clear` are `x.pending`'s. -/
def Side.Refines (cfg : Config) (x : Side) : Prop :=
  ∃ ops : List BufOp, (∀ op ∈ ops, op.Positive) ∧ ((BufRun.init cfg.reconnectBufferSize).run ops).buf = x.buffer ∧
    ((BufRun.init cfg.reconnectBufferSize).run ops).frames = x.pending.map (frameBytes cfg)

theorem BufRun.run_append_one (r : BufRun) (ops : List BufOp) (op : BufOp) :
    r.run (ops ++ [op]) = (r.run ops).step op := by
  simp [BufRun.run, List.foldl_append]

variable {cfg : Config} {s : Sys}

/-- The invariant of the abstract run, on a buffer that refines it. -/
theorem Side.Refines.inv {x : Side} (hr : x.Refines cfg) :
    ∃ r : BufRun, BufInv cfg.reconnectBufferSize r ∧ r.buf = x.buffer ∧ r.frames = x.pending.map (frameBytes cfg) :=
  let ⟨_, hops, hbuf, hfr⟩ := hr
  ⟨_, (BufInv.init _).run hops, hbuf, hfr⟩

section
variable (hpos : ∀ op, 0 < (cfg.encode op).flatten.length)
include hpos

/-- **One client step is one step of the buffer run, or none.** -/
theorem SideStep.refines {x : Side} (h : SideStep cfg s x) (hr : s.side.Refines cfg) : x.Refines cfg := by
  obtain ⟨ops, hops, hbuf, hfr⟩ := hr
  dsimp only [Sys.side] at hbuf hfr
  have hsnoc (o : BufOp) (ho : o.Positive) : ∀ o' ∈ ops ++ [o], o'.Positive := fun o' h' =>
    (List.mem_append.1 h').elim (hops o') fun h => List.mem_singleton.1 h ▸ ho
  cases h with
  | publishOk op hok =>
    refine ⟨_, hsnoc (.publish (cfg.encode op)) (hpos op), ?_⟩
    rw [BufRun.run_append_one]
    simp [BufRun.step, hbuf, hok, hfr, frameBytes]
  | publishErr op e herr =>
    refine ⟨_, hsnoc (.publish (cfg.encode op)) (hpos op), ?_⟩
    rw [BufRun.run_append_one]
    simp [BufRun.step, hbuf, herr, hfr, Sys.side]
  | take =>
    refine ⟨_, hsnoc .clear trivial, ?_⟩
    rw [BufRun.run_append_one]
    simp [BufRun.step, hbuf]
  | _ => exact ⟨ops, hops, hbuf, hfr⟩

theorem reachable_refines (h : Reachable cfg s) : s.side.Refines cfg := by
  induction h with
  | init => exact ⟨[], nofun, rfl, rfl⟩
  | step _ _ hs ih => exact (step_side hs).refines hpos ih

/-- **The reconnect buffer holds exactly the pending frames.** In every
reachable state, with a codec that gives every frame at least one byte:

* the reconnect buffer is a state of the buffer run from
  `Buffer::new(reconnect_buffer_size)`, whose frames are the frames published
  into it since the last take;
* `written ≤ reconnect_buffer_size`;
* `bytes[..flushed]` is those frames' encodings, in order;
* the next publish with no writer installed returns `Ok` iff no partial frame
  is written (`written = flushed`) and its frame fits after `flushed`. -/
theorem reconnect_buffer_holds_pending (h : Reachable cfg s) :
    s.side.Refines cfg ∧ s.write.buffer.written ≤ cfg.reconnectBufferSize ∧
      s.write.buffer.bytes.take s.write.buffer.flushed = (s.pending.map (frameBytes cfg)).flatten ∧
      ∀ op, (s.bufferPublish cfg op).2 = .ok () ↔
        s.write.buffer.written = s.write.buffer.flushed ∧
          s.write.buffer.flushed + (frameBytes cfg op).length ≤ cfg.reconnectBufferSize := by
  have hr := reachable_refines hpos h
  obtain ⟨r, hi, hbuf, hfr⟩ := hr.inv
  change r.buf = s.write.buffer at hbuf
  rw [← hbuf]
  refine ⟨hr, hi.law.bounds.2, hi.flushed_frames.trans (congrArg List.flatten hfr), fun op => ?_⟩
  rw [(bufferPublish_buffer op).2, ← hbuf, hi.publish_ok_iff (hpos op), frameBytes]
  cases hf : r.failed
  · simp [hi.written_of_ok hf]
  · -- a failed publish saturated the buffer, and a frame has at least one byte
    have := hi.written_of_failed hf
    have := hpos op
    simp only [Bool.true_eq_false, false_and, false_iff, not_and]
    omega

end

/-- Connected, `connect` returns, the stream ends and the writer is dropped;
a `publish` while the supervisor waits for the next connection is buffered. -/
def bufferedRun : List Action :=
  connectRun ++ [.select true, .decoded none, .supervisor [], .supervisor [], .supervisor [],
    .start (.publish ⟨"x", none, none, [97]⟩), .call 0 [] false, .call 0 [] false, .call 0 [] false]

theorem buffered_publish_held :
    (∀ op, 0 < ((natsConfig 64).encode op).flatten.length) ∧ ∃ s, Reachable (natsConfig 64) s ∧
      s.pending.length = 1 ∧
      (s.side.Refines (natsConfig 64) ∧ s.write.buffer.written ≤ (natsConfig 64).reconnectBufferSize ∧
        s.write.buffer.bytes.take s.write.buffer.flushed = (s.pending.map (frameBytes (natsConfig 64))).flatten ∧
        ∀ op, (s.bufferPublish (natsConfig 64) op).2 = .ok () ↔
          s.write.buffer.written = s.write.buffer.flushed ∧
            s.write.buffer.flushed + (frameBytes (natsConfig 64) op).length ≤ (natsConfig 64).reconnectBufferSize) := by
  obtain ⟨s, hs, h⟩ := Reachable.of_exec (natsConfig 64) (fun s => s.pending.length == 1) bufferedRun (by decide)
  exact ⟨natsEncode_pos 64, s, hs, beq_iff_eq.1 h, reconnect_buffer_holds_pending (natsEncode_pos 64) hs⟩

/-- **A successful `reconnect` replays the buffer after the SUBs.** From every
reachable state where `reconnect` is about to take the locks for connection
`c`, if it installs a writer then:

* connection `c` has received exactly the SUB frames of the table, in the
  table's order, then the reconnect buffer's `bytes[..flushed]` in one write.
  Those bytes are the encodings of the frames published into the buffer since
  the last take (`reconnect_buffer_holds_pending`);
* nothing was lost on `c`;
* the installed writer holds nothing;
* no frame is pending. -/
theorem reconnect_replays_pending (hpos : ∀ op, 0 < (cfg.encode op).flatten.length) (h : Reachable cfg s) {info : ServerInfo} {c : Nat}
    (hs : s.supervisor = .reconnectLocked info c) {io : List Bool}
    (hok : (s.reconnectLocked cfg info c io).write.writer.isSome) :
    (s.reconnectLocked cfg info c io).wireAt c =
      some ((s.read.subscriptions.entries.map fun e => ClientOp.sub e.2.subject e.2.queueGroup e.1).flatMap
        cfg.chunks ++ [.bytes (s.pending.map (frameBytes cfg)).flatten], []) ∧
    (s.reconnectLocked cfg info c io).write.writer = some ⟨c, []⟩ ∧ (s.reconnectLocked cfg info c io).pending = [] := by
  have hw : s.write.writer = none := (reachable_connInv h).writer_none hs rfl nofun
  obtain ⟨hc, -⟩ := (reachable_subInv h).fresh c (by rw [hs]; rfl)
  obtain ⟨st, hst, hsl⟩ := Option.map_eq_some'.1 hc
  obtain ⟨hsent, hlost⟩ := Prod.mk.inj hsl
  obtain ⟨r, hi, hbuf, hfr⟩ := (reachable_refines hpos h).inv
  have hbytes : s.write.buffer.bytes.take s.write.buffer.flushed = (s.pending.map (frameBytes cfg)).flatten := by
    rw [← show r.buf = s.write.buffer from hbuf]; exact hi.flushed_frames.trans (congrArg List.flatten hfr)
  have hd (ok : Bool) : s.dropWriter ok = s := by simp [dropWriter, hw]
  unfold reconnectLocked at hok ⊢
  rw [hd] at hok ⊢
  rcases hws : writeSubs cfg ⟨c, []⟩ (s.read.subscriptions.entries.map
    fun e => ClientOp.sub e.2.subject e.2.queueGroup e.1) io.tail with ⟨w₁, out₁, io₁, _ | _⟩
  · simp [hws, reconnectFailed, hw] at hok
  simp only [hws, Bool.not_true, Bool.false_eq_true, ↓reduceIte] at hok ⊢
  split
  · rename_i hf; rw [hf] at hok; simp [reconnectFailed, hw] at hok
  next _ w₂ out₂ hwa =>
  rw [hwa] at hok; dsimp only at hok
  split
  · rename_i hf; rw [hf] at hok; simp [reconnectFailed, hw] at hok
  next _ w₃ out₃ hfl =>
  -- the SUBs, then the bytes, then the flush of what the writer still held
  have hbytes' : (s.deliver c out₁).write.buffer.clear.1 = (s.pending.map (frameBytes cfg)).flatten := by
    simp [hbytes]
  obtain ⟨hs₁, hb₁⟩ := writeSubs_ok hws
  obtain ⟨hs₂, hb₂⟩ := Writer.writeAll_ok hwa
  rw [hbytes'] at hb₂
  obtain ⟨rfl, rfl⟩ : w₃ = { w₂ with buf := [] } ∧ out₃ = w₂.buf := by
    unfold Writer.flush at hfl; split at hfl <;> cases hfl; exact ⟨rfl, rfl⟩
  refine ⟨?_, by simp [reconnectInstall, hs₂, hs₁], congrArg Side.pending (side_foldl_complete _)⟩
  simp only [wireAt, reconnectInstall, foldl_complete_streams, deliver, List.getElem?_modify_eq, hst,
    Option.map_eq_map, Option.map_some', hsent, hlost]
  calc some ([] ++ out₁ ++ out₂ ++ w₂.buf, [])
      = some (out₁ ++ w₁.buf ++ [.bytes (s.pending.map (frameBytes cfg)).flatten], []) := by
        rw [List.nil_append, List.append_assoc, hb₂, List.append_assoc]
    _ = _ := by rw [hb₁, List.nil_append]

/-- The buffered `publish`, then the next connection, up to `reconnect` under the
locks. -/
def replayRun : List Action := bufferedRun ++ [.connected (some ⟨true⟩), .supervisor []]

theorem reconnect_replays_buffered_publish :
    (∀ op, 0 < ((natsConfig 64).encode op).flatten.length) ∧ ∃ s, Reachable (natsConfig 64) s ∧
      s.supervisor = .reconnectLocked ⟨true⟩ 1 ∧ s.pending.length = 1 ∧
      (s.reconnectLocked (natsConfig 64) ⟨true⟩ 1 []).write.writer.isSome ∧
      ((s.reconnectLocked (natsConfig 64) ⟨true⟩ 1 []).wireAt 1 =
        some ((s.read.subscriptions.entries.map fun e => ClientOp.sub e.2.subject e.2.queueGroup e.1).flatMap
          (natsConfig 64).chunks ++ [.bytes (s.pending.map (frameBytes (natsConfig 64))).flatten], []) ∧
      (s.reconnectLocked (natsConfig 64) ⟨true⟩ 1 []).write.writer = some ⟨1, []⟩ ∧
      (s.reconnectLocked (natsConfig 64) ⟨true⟩ 1 []).pending = []) := by
  obtain ⟨s, hs, h⟩ := Reachable.of_exec (natsConfig 64)
    (fun s => s.supervisor == .reconnectLocked ⟨true⟩ 1 && s.pending.length == 1 &&
      (s.reconnectLocked (natsConfig 64) ⟨true⟩ 1 []).write.writer.isSome) replayRun (by decide)
  simp only [Bool.and_eq_true, beq_iff_eq] at h
  obtain ⟨⟨hsup, hlen⟩, hok⟩ := h
  exact ⟨natsEncode_pos 64, s, hs, hsup, hlen, hok, reconnect_replays_pending (natsEncode_pos 64) hs hsup hok⟩

end NatsClient

import NatsClient.Proto

/-!
# The reconnect buffer

`Buffer` holds the PUB frames published while no connection is installed.
`bytes` is the boxed slice of `reconnect_buffer_size` bytes; `..flushed` holds
complete frames, `flushed..written` the frame being encoded. The structure
carries `flushed ≤ written ≤ bytes.length`, so the subtraction
`self.bytes.len() - self.written` in `write` never underflows and its slice
range is always in bounds.

* `Buffer.write` saturates the buffer (`written := bytes.length`) when a chunk
  does not fit, so every later chunk fails until `clear`;
* `Buffer.encode` is `proto::encode` into the buffer: one `write` per chunk,
  stopping at the first error;
* `Buffer.clear` returns `bytes[..flushed]` and resets both counters;
* `Buffer.publish` is what `publish` and `try_publish` do with no writer
  installed: `encode`, then `flush` iff every write succeeded.

Over every run of `clear`s and publishes of frames of positive length from
`Buffer::new(cap)` (`BufRun`), `reconnect_buffer_law` proves the law
(`BufLaw`): `flushed ≤ written ≤ cap`, `bytes[..flushed]` is the frames
published since the last `clear`, and a publish succeeds iff none failed since
the last `clear` and the frame fits after `flushed`.
-/

namespace NatsClient

/-- `Buffer`, the reconnect buffer. -/
structure Buffer where
  bytes : List UInt8
  written : Nat
  flushed : Nat
  flushed_le : flushed ≤ written
  written_le : written ≤ bytes.length

/-- `Buffer::new`: `size` zero bytes, nothing written. -/
def Buffer.new (size : Nat) : Buffer :=
  ⟨List.replicate size 0, 0, 0, le_rfl, Nat.zero_le _⟩

/-- `Buffer::clear`: the flushed bytes, and the emptied buffer. -/
def Buffer.clear (b : Buffer) : List UInt8 × Buffer :=
  (b.bytes.take b.flushed, ⟨b.bytes, 0, 0, le_rfl, Nat.zero_le _⟩)

/-- `<Buffer as Write>::write`: append `buf`, or saturate and fail. -/
def Buffer.write (b : Buffer) (buf : List UInt8) : Buffer × Except Error Nat :=
  if h : b.bytes.length - b.written < buf.length then
    (⟨b.bytes, b.bytes.length, b.flushed, b.flushed_le.trans b.written_le, le_rfl⟩,
      .error bufferFullError)
  else
    (⟨b.bytes.take b.written ++ buf ++ b.bytes.drop (b.written + buf.length),
      b.written + buf.length, b.flushed, by have := b.flushed_le; omega,
      by have := b.written_le; simp only [List.length_append, List.length_take, List.length_drop]
         omega⟩,
      .ok buf.length)

/-- `<Buffer as Write>::flush`: mark everything written as flushed. -/
def Buffer.flush (b : Buffer) : Buffer :=
  ⟨b.bytes, b.written, b.written, le_rfl, b.written_le⟩

/-- `proto::encode` into the buffer: write the frame's chunks in order and stop
at the first error. -/
def Buffer.encode : Buffer → List (List UInt8) → Buffer × Except Error Unit
  | b, [] => (b, .ok ())
  | b, chunk :: rest =>
    match b.write chunk with
    | (b', .ok _) => b'.encode rest
    | (b', .error e) => (b', .error e)

/-- `publish`/`try_publish` with no writer installed: encode the frame's
chunks, then `flush` iff every write succeeded. -/
def Buffer.publish (b : Buffer) (chunks : List (List UInt8)) : Buffer × Except Error Unit :=
  match b.encode chunks with
  | (b', .ok ()) => (b'.flush, .ok ())
  | (b', .error e) => (b', .error e)

@[simp] theorem Buffer.new_written (size : Nat) : (Buffer.new size).written = 0 := rfl

@[simp] theorem Buffer.new_flushed (size : Nat) : (Buffer.new size).flushed = 0 := rfl

@[simp] theorem Buffer.clear_written (b : Buffer) : b.clear.2.written = 0 := rfl

@[simp] theorem Buffer.clear_flushed (b : Buffer) : b.clear.2.flushed = 0 := rfl

@[simp] theorem Buffer.clear_fst (b : Buffer) : b.clear.1 = b.bytes.take b.flushed := rfl

/-! ## What `write`, `encode` and `publish` do -/

namespace Buffer

variable (b : Buffer)

/-- `Buffer::write` of a chunk that fits. -/
theorem write_of_le {buf : List UInt8} (h : b.written + buf.length ≤ b.bytes.length) :
    (b.write buf).2 = .ok buf.length ∧ (b.write buf).1.written = b.written + buf.length ∧
      (b.write buf).1.bytes = b.bytes.take b.written ++ buf ++ b.bytes.drop (b.written + buf.length) := by
  simp only [write, dif_neg (show ¬ b.bytes.length - b.written < buf.length by omega), and_self]

/-- `Buffer::write` of a chunk that does not fit saturates the buffer. -/
theorem write_of_lt {buf : List UInt8} (h : b.bytes.length < b.written + buf.length) :
    (b.write buf).2 = .error bufferFullError ∧ (b.write buf).1.written = b.bytes.length ∧
      (b.write buf).1.bytes = b.bytes := by
  have := b.written_le
  simp only [write, dif_pos (show b.bytes.length - b.written < buf.length by omega), and_self]

/-- A chunk that fits follows the bytes written before it. -/
theorem write_take_of_le {buf : List UInt8} (h : b.written + buf.length ≤ b.bytes.length) :
    (b.write buf).1.bytes.take (b.written + buf.length) = b.bytes.take b.written ++ buf := by
  have := b.written_le
  rw [(b.write_of_le h).2.2, List.take_left' (by simp; omega)]

@[simp] theorem write_flushed (buf : List UInt8) : (b.write buf).1.flushed = b.flushed := by
  unfold write; split <;> rfl

/-- `Buffer::write` keeps the capacity and the bytes before `written`. -/
theorem write_bytes (buf : List UInt8) :
    (b.write buf).1.bytes.length = b.bytes.length ∧
      (b.write buf).1.bytes.take b.written = b.bytes.take b.written := by
  by_cases h : b.written + buf.length ≤ b.bytes.length
  · have := b.written_le
    rw [(b.write_of_le h).2.2, List.append_assoc]
    refine ⟨by simp; omega, List.take_left' (by simp; omega)⟩
  · rw [(b.write_of_lt (by omega)).2.2]; exact ⟨rfl, rfl⟩

theorem encode_cons_of_le {chunk : List UInt8} (rest : List (List UInt8))
    (h : b.written + chunk.length ≤ b.bytes.length) : b.encode (chunk :: rest) = (b.write chunk).1.encode rest := by
  simp only [encode, write, dif_neg (show ¬ b.bytes.length - b.written < chunk.length by omega)]

theorem encode_cons_of_lt {chunk : List UInt8} (rest : List (List UInt8))
    (h : b.bytes.length < b.written + chunk.length) :
    b.encode (chunk :: rest) = ((b.write chunk).1, .error bufferFullError) := by
  have := b.written_le
  simp only [encode, write, dif_pos (show b.bytes.length - b.written < chunk.length by omega)]

/-- Lists that agree on their first `m` elements agree on their first `n ≤ m`. -/
theorem take_eq_take_of_le {l l' : List UInt8} {n m : Nat} (hle : n ≤ m) (h : l.take m = l'.take m) :
    l.take n = l'.take n := by
  rw [← Nat.min_eq_left hle, ← List.take_take, h, List.take_take]

/-- `proto::encode` into the buffer keeps the capacity, `flushed`, and the
bytes before `written`. -/
theorem encode_frame (chunks : List (List UInt8)) :
    (b.encode chunks).1.bytes.length = b.bytes.length ∧ (b.encode chunks).1.flushed = b.flushed ∧
      (b.encode chunks).1.bytes.take b.written = b.bytes.take b.written := by
  induction chunks generalizing b with
  | nil => exact ⟨rfl, rfl, rfl⟩
  | cons chunk rest ih =>
    by_cases h : b.written + chunk.length ≤ b.bytes.length
    · obtain ⟨hlen, hfl, htake⟩ := ih (b.write chunk).1
      rw [encode_cons_of_le b rest h, hlen, hfl, write_flushed, (b.write_bytes chunk).1]
      refine ⟨rfl, rfl, ?_⟩
      rw [take_eq_take_of_le (by rw [(b.write_of_le h).2.1]; omega) htake, (b.write_bytes chunk).2]
    · rw [encode_cons_of_lt b rest (by omega)]
      exact ⟨(b.write_bytes chunk).1, write_flushed b chunk, (b.write_bytes chunk).2⟩

/-- A frame that fits: every write succeeds, and the frame follows the bytes
written before it. -/
theorem encode_of_le {chunks : List (List UInt8)} (h : b.written + chunks.flatten.length ≤ b.bytes.length) :
    (b.encode chunks).2 = .ok () ∧ (b.encode chunks).1.written = b.written + chunks.flatten.length ∧
      (b.encode chunks).1.bytes.take (b.written + chunks.flatten.length) = b.bytes.take b.written ++ chunks.flatten := by
  induction chunks generalizing b with
  | nil => simp [encode]
  | cons chunk rest ih =>
    rw [List.flatten_cons, List.length_append] at *
    have hc : b.written + chunk.length ≤ b.bytes.length := by omega
    have hw := (b.write_of_le hc).2.1
    obtain ⟨hok, hw', htake⟩ := ih (b.write chunk).1 (by rw [hw, (b.write_bytes chunk).1]; omega)
    rw [hw] at hw' htake
    rw [encode_cons_of_le b rest hc, hok, hw', ← Nat.add_assoc, htake, b.write_take_of_le hc, List.append_assoc]
    exact ⟨rfl, rfl, rfl⟩

/-- A frame that does not fit: a write fails and saturates the buffer. -/
theorem encode_of_lt {chunks : List (List UInt8)} (h : b.bytes.length < b.written + chunks.flatten.length) :
    (b.encode chunks).2 = .error bufferFullError ∧ (b.encode chunks).1.written = b.bytes.length := by
  induction chunks generalizing b with
  | nil => simp at h; have := b.written_le; omega
  | cons chunk rest ih =>
    rw [List.flatten_cons, List.length_append] at h
    by_cases hc : b.written + chunk.length ≤ b.bytes.length
    · obtain ⟨-, hw, -⟩ := b.write_of_le hc
      rw [encode_cons_of_le b rest hc, ← (b.write_bytes chunk).1]
      exact ih _ (by rw [hw, (b.write_bytes chunk).1]; omega)
    · rw [encode_cons_of_lt b rest (by omega)]
      exact ⟨rfl, (b.write_of_lt (by omega)).2.1⟩

/-- A frame that fits is flushed after the bytes written before it. -/
theorem publish_of_le {chunks : List (List UInt8)} (h : b.written + chunks.flatten.length ≤ b.bytes.length) :
    (b.publish chunks).2 = .ok () ∧ (b.publish chunks).1.flushed = b.written + chunks.flatten.length ∧
      (b.publish chunks).1.written = b.written + chunks.flatten.length ∧
      (b.publish chunks).1.bytes.take (b.written + chunks.flatten.length) = b.bytes.take b.written ++ chunks.flatten := by
  obtain ⟨hok, hw, htake⟩ := b.encode_of_le h
  unfold publish
  rcases he : b.encode chunks with ⟨b', r⟩
  rw [he] at hok hw htake
  subst hok
  exact ⟨rfl, hw, hw, htake⟩

/-- A frame that does not fit fails and leaves the buffer saturated. -/
theorem publish_of_lt {chunks : List (List UInt8)} (h : b.bytes.length < b.written + chunks.flatten.length) :
    (b.publish chunks).2 = .error bufferFullError ∧ (b.publish chunks).1.written = b.bytes.length ∧
      (b.publish chunks).1.flushed = b.flushed ∧
      (b.publish chunks).1.bytes.take b.written = b.bytes.take b.written := by
  obtain ⟨herr, hw⟩ := b.encode_of_lt h
  obtain ⟨-, hfl, htake⟩ := b.encode_frame chunks
  unfold publish
  rcases he : b.encode chunks with ⟨b', r⟩
  rw [he] at herr hw hfl htake
  subst herr
  exact ⟨rfl, hw, hfl, htake⟩

/-- `publish` into the buffer fails only with the buffer's own error. -/
theorem publish_error {chunks : List (List UInt8)} {e : Error} (h : (b.publish chunks).2 = .error e) :
    e = bufferFullError := by
  by_cases hfit : b.written + chunks.flatten.length ≤ b.bytes.length
  · rw [(b.publish_of_le hfit).1] at h; cases h
  · rw [(b.publish_of_lt (by omega)).1] at h; cases h; rfl

theorem publish_length (chunks : List (List UInt8)) : (b.publish chunks).1.bytes.length = b.bytes.length := by
  have := (b.encode_frame chunks).1
  unfold publish
  split <;> simp_all [flush]

end Buffer

/-! ## The law of the reconnect buffer -/

/-- An operation on the reconnect buffer: `Buffer::clear`, or the publish of a
frame given as the chunks `proto::encode` writes. -/
inductive BufOp
  | clear
  | publish (chunks : List (List UInt8))

/-- `op` is a `clear`, or the publish of a frame of positive length. -/
def BufOp.Positive : BufOp → Prop
  | .clear => True
  | .publish chunks => 0 < chunks.flatten.length

instance : DecidablePred BufOp.Positive
  | .clear => inferInstanceAs (Decidable True)
  | .publish chunks => inferInstanceAs (Decidable (0 < chunks.flatten.length))

/-- The buffer along a run of operations, with what the law speaks of: the
frames whose publish succeeded since the last `clear`, and whether a publish
failed since. -/
structure BufRun where
  buf : Buffer
  frames : List (List UInt8)
  failed : Bool

/-- `Buffer::new(cap)`. -/
def BufRun.init (cap : Nat) : BufRun := ⟨Buffer.new cap, [], false⟩

/-- One operation, and the record it leaves. -/
def BufRun.step (r : BufRun) : BufOp → BufRun
  | .clear => ⟨r.buf.clear.2, [], false⟩
  | .publish chunks =>
    match (r.buf.publish chunks).2 with
    | .ok () => ⟨(r.buf.publish chunks).1, r.frames ++ [chunks.flatten], r.failed⟩
    | .error _ => ⟨(r.buf.publish chunks).1, r.frames, true⟩

/-- The operations `ops` in order. -/
def BufRun.run (r : BufRun) (ops : List BufOp) : BufRun := ops.foldl BufRun.step r

/-- The invariant of a run of capacity `cap`. -/
structure BufInv (cap : Nat) (r : BufRun) : Prop where
  length : r.buf.bytes.length = cap
  /-- `bytes[..flushed]` holds the frames published since the last `clear`. -/
  flushed_frames : r.buf.bytes.take r.buf.flushed = r.frames.flatten
  /-- With no failed publish since the last `clear`, no partial frame is written. -/
  written_of_ok : r.failed = false → r.buf.written = r.buf.flushed
  /-- A failed publish saturated the buffer. -/
  written_of_failed : r.failed = true → r.buf.written = cap

theorem BufInv.init (cap : Nat) : BufInv cap (BufRun.init cap) :=
  ⟨List.length_replicate _ _, rfl, fun _ => rfl, nofun⟩

variable {cap : Nat} {r : BufRun}

/-- The next publish of a frame of positive length succeeds iff no publish
failed since the last `clear` and the frame fits after `flushed`. -/
theorem BufInv.publish_ok_iff (hi : BufInv cap r) {chunks : List (List UInt8)} (hpos : 0 < chunks.flatten.length) :
    (r.buf.publish chunks).2 = .ok () ↔ r.failed = false ∧ r.buf.flushed + chunks.flatten.length ≤ cap := by
  have hl := hi.length
  cases hf : r.failed
  · have hw := hi.written_of_ok hf
    by_cases hfit : r.buf.written + chunks.flatten.length ≤ r.buf.bytes.length
    · simp only [(r.buf.publish_of_le hfit).1, true_and, true_iff]
      omega
    · rw [(r.buf.publish_of_lt (by omega)).1]
      simp only [reduceCtorEq, true_and, false_iff]
      omega
  · rw [(r.buf.publish_of_lt (by rw [hi.written_of_failed hf, hi.length]; omega)).1]
    simp

theorem BufInv.step (hi : BufInv cap r) {op : BufOp} (hop : op.Positive) : BufInv cap (r.step op) := by
  cases op with
  | clear => exact ⟨hi.length, rfl, fun _ => rfl, nofun⟩
  | publish chunks =>
    have hlen := r.buf.publish_length chunks
    by_cases hfit : r.buf.written + chunks.flatten.length ≤ r.buf.bytes.length
    · obtain ⟨hok, hfl, hw, htake⟩ := r.buf.publish_of_le hfit
      have hf : r.failed = false := ((hi.publish_ok_iff hop).1 hok).1
      simp only [BufRun.step]
      rw [hok]
      refine ⟨hlen.trans hi.length, ?_, fun _ => hw.trans hfl.symm, fun h => absurd h (by simp [hf])⟩
      have hff : r.buf.bytes.take r.buf.written = r.frames.flatten := by
        rw [hi.written_of_ok hf]; exact hi.flushed_frames
      rw [hfl, htake, hff, List.flatten_append, List.flatten_singleton]
    · have hlt : r.buf.bytes.length < r.buf.written + chunks.flatten.length := by omega
      obtain ⟨herr, hw, hfl, htake⟩ := r.buf.publish_of_lt hlt
      simp only [BufRun.step]
      rw [herr]
      refine ⟨hlen.trans hi.length, ?_, nofun, fun _ => hw.trans hi.length⟩
      rw [hfl, Buffer.take_eq_take_of_le r.buf.flushed_le htake, hi.flushed_frames]

theorem BufInv.run (hi : BufInv cap r) {ops : List BufOp} (hops : ∀ op ∈ ops, op.Positive) :
    BufInv cap (r.run ops) := by
  induction ops generalizing r with
  | nil => exact hi
  | cons op ops ih =>
    exact ih (hi.step (hops op (List.mem_cons_self _ _))) fun op h => hops op (List.mem_cons_of_mem _ h)

/-- The law of the reconnect buffer at a run state of capacity `cap`. -/
structure BufLaw (cap : Nat) (r : BufRun) : Prop where
  /-- `flushed ≤ written ≤ cap`: `write`'s subtraction and slice never fail. -/
  bounds : r.buf.flushed ≤ r.buf.written ∧ r.buf.written ≤ cap
  /-- `bytes[..flushed]` is the frames published since the last `clear`, in
  order: `clear` never returns part of a frame. -/
  flushed_frames : r.buf.bytes.take r.buf.flushed = r.frames.flatten
  /-- A publish of a frame of positive length succeeds iff no publish failed
  since the last `clear` and the frame fits after `flushed`. -/
  publish_ok : ∀ chunks : List (List UInt8), 0 < chunks.flatten.length →
    ((r.buf.publish chunks).2 = .ok () ↔ r.failed = false ∧ r.buf.flushed + chunks.flatten.length ≤ cap)

theorem BufInv.law (hi : BufInv cap r) : BufLaw cap r :=
  ⟨⟨r.buf.flushed_le, hi.length ▸ r.buf.written_le⟩, hi.flushed_frames, fun _ => hi.publish_ok_iff⟩

/-- **The reconnect buffer law.** After every run of `clear`s and publishes of
frames of positive length from `Buffer::new(cap)`, `flushed ≤ written ≤ cap`,
`bytes[..flushed]` is the frames published since the last `clear`, and the
next publish succeeds iff none failed since the last `clear` and its frame fits
after `flushed`. -/
theorem reconnect_buffer_law (cap : Nat) {ops : List BufOp} (hops : ∀ op ∈ ops, op.Positive) :
    BufLaw cap ((BufRun.init cap).run ops) :=
  ((BufInv.init cap).run hops).law

/-- Capacity 8: a 3-byte frame in two chunks, then a 6-byte frame whose second
chunk does not fit. -/
def overflowOps : List BufOp := [.publish [[1, 2], [3]], .publish [[4, 5, 6], [7, 8, 9]]]

theorem buffer_law_after_overflow :
    ((BufRun.init 8).run overflowOps).frames = [[1, 2, 3]] ∧ ((BufRun.init 8).run overflowOps).failed = true ∧
      BufLaw 8 ((BufRun.init 8).run overflowOps) :=
  ⟨rfl, rfl, reconnect_buffer_law 8 (by decide)⟩

end NatsClient

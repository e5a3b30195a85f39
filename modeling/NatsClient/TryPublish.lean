import NatsClient.Replay

/-!
# `try_publish` against `publish`

`try_publish` is `publish` that does not block: it returns `None` where it
would wait for `state.write`, or for room in the writer. `Sys.runCall` runs one
user call alone, section after section, so the two can be compared from one
state.

* `try_publish_refines_publish` — **where the server accepts the message**,
  whenever `try_publish` returns `Some(r)`, `publish` returns `r` and leaves
  the same state (the order of the kick and the disconnect on a failed encode
  does not matter, `disconnect_kick`);
* `try_publish_skips_headers_check` — where the server does not support
  headers, `publish` of a message with headers fails with `InvalidInput` and
  `try_publish` never does; `try_publish_ok_where_publish_rejects` is a run
  where it returns `Some(Ok(()))`;
* `value_le_itemLen` — an HPUB frame's header block, one of its chunks, is at
  least as long as each of its header values, while the estimate adds the
  number of each name's values, not their bytes;
  `tryPublishWrite_writes_through` — where the capacity check passes but a
  chunk is as large as the writer's buffer, that chunk goes straight to the
  stream. In `try_publish_writes_long_header_through` the stream receives the
  frame up to its header block, and the payload and the trailing CRLF stay in
  the buffer.
-/

namespace NatsClient

namespace Sys

/-! ## One call alone -/

/-- A user call run alone from `s` until it returns: at most `fuel` sections,
each with the stream outcomes `io` and an uncontended `try_lock`. -/
def runCall (cfg : Config) : Nat → Sys → Call → List Bool → Option (Sys × Ret)
  | 0, _, _, _ => none
  | n + 1, s, c, io =>
    match s.callStep cfg c io false with
    | some (s', .returned r) => some (s', r)
    | some (s', c') => runCall cfg n s' c' io
    | none => none

variable {cfg : Config} {s : Sys}

/-- `publish` alone: the header check, `check_shutdown`, then the section
under `state.write`. -/
theorem runCall_publish (p : Pub) (io : List Bool) :
    s.runCall cfg 3 (.publish p) io =
      if p.headers.isSome && !s.serverInfo.headers then some (s, .unit (.error headersError))
      else match s.checkShutdown with
        | .error e => some (s, .unit (.error e))
        | .ok () => some (s.publishWrite cfg p io) := by
  cases hh : (p.headers.isSome && !s.serverInfo.headers)
  · cases hc : s.checkShutdown <;>
      simp only [runCall, callStep, publishInfo, publishCheck, hh, hc, Bool.false_eq_true, ↓reduceIte]
  · simp only [runCall, callStep, publishInfo, hh, ↓reduceIte]

/-- `try_publish` alone: `check_shutdown`, then the section under
`state.write`. -/
theorem runCall_tryPublish (p : Pub) (io : List Bool) :
    s.runCall cfg 2 (.tryPublish p) io =
      match s.checkShutdown with
      | .error e => some (s, .tried (some (.error e)))
      | .ok () => some (s.tryPublishWrite cfg p io) := by
  cases hc : s.checkShutdown <;>
    simp only [runCall, callStep, tryPublishCheck, hc, Bool.false_eq_true, ↓reduceIte]

/-! ## The section under `state.write` -/

theorem dropWaiter_kick (w : Waiter) : s.kick.dropWaiter w = (s.dropWaiter w).kick := by
  cases w <;> rfl

/-- `flush_kicker.try_send` and a local disconnect commute. -/
theorem disconnect_kick (ok : Bool) : (s.disconnect ok).kick = s.kick.disconnect ok := by
  have hfold : ∀ (l : List Waiter) (t : Sys), l.foldl dropWaiter t.kick = (l.foldl dropWaiter t).kick := by
    intro l
    induction l with
    | nil => intro t; rfl
    | cons w l ih => intro t; simp only [List.foldl_cons, dropWaiter_kick, ih]
  have hdrop : (s.kick.dropWriter ok) = (s.dropWriter ok).kick := by
    cases hw : s.write.writer <;> simp only [dropWriter, kick, hw]
    rfl
  simp only [disconnect, hdrop, clearPongs, hfold]
  rfl

/-- Where `try_publish`'s section under `state.write` returns `Some(r)`,
`publish`'s returns `r` and leaves the same state, given an empty reconnect
buffer while a writer is installed. -/
theorem publishWrite_of_tryPublishWrite (hb : BufferEmpty s) {p : Pub} {io : List Bool} {r : Except Error Unit}
    (h : (s.tryPublishWrite cfg p io).2 = .tried (some r)) :
    s.publishWrite cfg p io = ((s.tryPublishWrite cfg p io).1, .unit r) := by
  cases hw : s.write.writer with
  | none =>
    simp only [tryPublishWrite, publishWrite, hw, Ret.tried.injEq, Option.some.injEq] at h ⊢
    rw [h]
  | some w =>
    have h0 : s.write.buffer.written = 0 := (hb (by simp [hw])).1
    by_cases hcap : bufCapacity - w.bufLen cfg < estimate p
    · simp [tryPublishWrite, hw, hcap] at h
    · simp only [tryPublishWrite, publishWrite, hw, hcap, h0, ne_eq, not_true_eq_false, ↓reduceIte] at h ⊢
      cases he : (s.encode cfg p.op (io.getD 0 true)).2 with
      | ok u => simp only [he, Ret.tried.injEq, Option.some.injEq] at h ⊢; rw [← h]
      | error e => simp only [he, Ret.tried.injEq, Option.some.injEq] at h ⊢; rw [← h, disconnect_kick]

/-- `try_publish`'s section fails only with the reconnect buffer's error or
the stream's. -/
theorem tryPublishWrite_error {p : Pub} {io : List Bool} {e : Error}
    (h : (s.tryPublishWrite cfg p io).2 = .tried (some (.error e))) : e = bufferFullError ∨ e = streamError := by
  cases hw : s.write.writer with
  | none =>
    simp only [tryPublishWrite, hw, Ret.tried.injEq, Option.some.injEq, (bufferPublish_buffer p.op).2] at h
    exact .inl (s.write.buffer.publish_error h)
  | some w =>
    simp only [tryPublishWrite, hw] at h
    split at h
    · cases h
    · split at h <;> cases h
      exact .inr (encode_error ‹_›)

end Sys

open Sys

variable {cfg : Config} {s : Sys}

/-! ## The fast path against the slow one -/

/-- **`try_publish` refines `publish` where the server accepts the message.**
In every reachable state, for a message without headers or to a server that
supports them, whenever `try_publish` run alone returns `Some(r)`, `publish`
run alone from the same state, with the same stream outcomes, returns `r` and
leaves the same state. -/
theorem try_publish_refines_publish (h : Reachable cfg s) {p : Pub}
    (hh : p.headers.isSome = true → s.serverInfo.headers = true) {io : List Bool} {s' : Sys}
    {r : Except Error Unit} (ht : s.runCall cfg 2 (.tryPublish p) io = some (s', .tried (some r))) :
    s.runCall cfg 3 (.publish p) io = some (s', .unit r) := by
  have hg : (p.headers.isSome && !s.serverInfo.headers) = false := by
    cases hp : p.headers.isSome
    · rfl
    · simp [hh hp]
  rw [runCall_publish, hg, if_neg Bool.false_ne_true]
  rw [runCall_tryPublish] at ht
  cases hc : s.checkShutdown with
  | error e =>
    simp only [hc, Option.some.injEq, Prod.mk.injEq, Ret.tried.injEq] at ht
    obtain ⟨rfl, rfl⟩ := ht
    rfl
  | ok u =>
    simp only [hc, Option.some.injEq] at ht
    rw [publishWrite_of_tryPublishWrite (reachable_bufferEmpty h) (congrArg Prod.snd ht), congrArg Prod.fst ht]

/-- A message without headers. -/
def plainPub : Pub := ⟨"x", none, none, [97]⟩

/-- Connected, `try_publish` and `publish` of `plainPub` both return `Ok(())`
and leave the same state. -/
theorem publish_matches_try_publish_after_connect :
    ∃ s s', Reachable (natsConfig 64) s ∧
      s.runCall (natsConfig 64) 2 (.tryPublish plainPub) [] = some (s', .tried (some (.ok ()))) ∧
      s.runCall (natsConfig 64) 3 (.publish plainPub) [] = some (s', .unit (.ok ())) := by
  obtain ⟨s, hs, h⟩ := Reachable.of_exec (natsConfig 64)
    (fun s => match s.runCall (natsConfig 64) 2 (.tryPublish plainPub) [] with
      | some (_, .tried (some (.ok ()))) => true
      | _ => false)
    [.connected (some ⟨true⟩), .supervisor [], .supervisor [], .select true] (by decide)
  split at h
  · next s' heq => exact ⟨s, s', hs, heq, try_publish_refines_publish hs (fun h => absurd h (by decide)) heq⟩
  · cases h

/-- On a client whose server does not support headers, `publish` of a message
with headers fails with `InvalidInput` and changes nothing, closed or not;
`try_publish` of the same message never fails with `InvalidInput`. -/
theorem try_publish_skips_headers_check (hh : s.serverInfo.headers = false) (p : Pub)
    (hp : p.headers.isSome = true) (io : List Bool) :
    s.runCall cfg 3 (.publish p) io = some (s, .unit (.error headersError)) ∧
      ∀ s' e, s.runCall cfg 2 (.tryPublish p) io = some (s', .tried (some (.error e))) →
        e.kind ≠ .invalidInput := by
  refine ⟨by rw [runCall_publish, hp, hh]; rfl, fun s' e ht => ?_⟩
  rw [runCall_tryPublish] at ht
  cases hc : s.checkShutdown with
  | error e' =>
    simp only [hc, Option.some.injEq, Prod.mk.injEq, Ret.tried.injEq, Except.error.injEq] at ht
    obtain ⟨-, rfl⟩ := ht
    unfold checkShutdown at hc
    split at hc <;> cases hc
    nofun
  | ok u =>
    simp only [hc, Option.some.injEq] at ht
    rcases tryPublishWrite_error (congrArg Prod.snd ht) with rfl | rfl <;> nofun

/-- A message with a header. -/
def headerPub : Pub := ⟨"x", none, some [("K", ["V"])], []⟩

/-- Connected to a server without header support, `try_publish` of
`headerPub` returns `Some(Ok(()))` where `publish` returns `InvalidInput`. -/
theorem try_publish_ok_where_publish_rejects :
    ∃ s, Reachable (natsConfig 64) s ∧ s.serverInfo.headers = false ∧
      (∃ s', s.runCall (natsConfig 64) 2 (.tryPublish headerPub) [] = some (s', .tried (some (.ok ())))) ∧
      s.runCall (natsConfig 64) 3 (.publish headerPub) [] = some (s, .unit (.error headersError)) := by
  obtain ⟨s, hs, h⟩ := Reachable.of_exec (natsConfig 64)
    (fun s => !s.serverInfo.headers && match s.runCall (natsConfig 64) 2 (.tryPublish headerPub) [] with
      | some (_, .tried (some (.ok ()))) => true
      | _ => false)
    [.connected (some ⟨false⟩), .supervisor [], .supervisor [], .select true] (by decide)
  simp only [Bool.and_eq_true, Bool.not_eq_true'] at h
  obtain ⟨hh, ht⟩ := h
  split at ht
  · next s' heq => exact ⟨s, hs, hh, ⟨s', heq⟩, (try_publish_skips_headers_check hh headerPub rfl []).1⟩
  · cases ht


/-! ## The estimate -/

/-- The bytes of a string are as many as its UTF-8 size. -/
theorem utf8_length (str : String) : (utf8 str).length = str.utf8ByteSize := by
  rw [← String.size_toUTF8]; rfl

/-- The header block is one of an HPUB frame's chunks, at least as long as
each of its header values. -/
theorem value_le_itemLen {h : Headers} {k v : String} {vs : List String} (hk : (k, vs) ∈ h) (hv : v ∈ vs)
    (size : Nat) (subject : String) (replyTo : Option String) (payload : List UInt8) :
    ∃ i < ((natsConfig size).encode (.hpub subject replyTo h payload)).length,
      v.utf8ByteSize ≤ (natsConfig size).itemLen (.chunk (.hpub subject replyTo h payload) i) := by
  let line (k v : String) : List UInt8 := utf8 k ++ utf8 ": " ++ utf8 v ++ utf8 "\r\n"
  let lines : List UInt8 := h.flatMap fun (k, vs) => vs.flatMap (line k)
  have hline : utf8 v <:+: line k v := ⟨utf8 k ++ utf8 ": ", utf8 "\r\n", rfl⟩
  have hvs : line k v <:+: vs.flatMap (line k) := List.infix_of_mem_flatten (List.mem_map_of_mem _ hv)
  have hh : vs.flatMap (line k) <:+: lines := List.infix_of_mem_flatten (List.mem_map.2 ⟨(k, vs), hk, rfl⟩)
  have hblock : utf8 "NATS/1.0\r\n" ++ lines ++ utf8 "\r\n" ∈
      (natsConfig size).encode (.hpub subject replyTo h payload) := by
    simp [natsConfig, natsEncode, lines, line]
  obtain ⟨i, hi, hget⟩ := List.getElem_of_mem hblock
  refine ⟨i, hi, ?_⟩
  rw [Config.itemLen, List.getD_eq_getElem?_getD, List.getElem?_eq_getElem hi, Option.getD_some, hget,
    ← utf8_length]
  exact (hline.trans (hvs.trans (hh.trans (List.infix_append _ _ _)))).length_le

theorem utf8Len_replicate (n : Nat) (c : Char) : String.utf8Len (List.replicate n c) = n * c.utf8Size := by
  induction n with
  | zero => simp
  | succ n ih => rw [List.replicate_succ, String.utf8Len_cons, ih, Nat.succ_mul]

theorem wrote_streams_op (p : Pub) (c : Nat) : (s.wrote p.op c).streams = s.streams := by
  unfold Pub.op; split <;> rfl

/-- `try_publish` on an empty writer buffer whose capacity check passes: the
frame's encode, with the stream writes succeeding, is what it writes. -/
theorem tryPublishWrite_encoded {c : Nat} {p : Pub} {w' : Writer} {out : List Item}
    (hw : s.write.writer = some ⟨c, []⟩) (hest : estimate p ≤ bufCapacity)
    (he : Writer.encode cfg ⟨c, []⟩ p.op true = (w', out, true)) :
    (s.tryPublishWrite cfg p []).2 = .tried (some (.ok ())) ∧
      (s.tryPublishWrite cfg p []).1.streams = (s.deliver c out).streams ∧
      (s.tryPublishWrite cfg p []).1.write.writer = some w' := by
  have hcap : ¬ bufCapacity - Writer.bufLen cfg ⟨c, []⟩ < estimate p := by
    simp only [Writer.bufLen, List.map_nil, List.sum_nil]; omega
  simp only [tryPublishWrite, hw, hcap, ↓reduceIte, encode, List.getD_nil, he, kick_write, wrote_write,
    deliver_write, and_true, true_and]
  exact wrote_streams_op p c

/-- Where `try_publish`'s capacity check passes on an empty writer buffer but a
chunk of the frame is as large as the whole buffer, that chunk is written
straight through to the stream. -/
theorem tryPublishWrite_writes_through {c : Nat} {p : Pub} (hw : s.write.writer = some ⟨c, []⟩)
    (hest : estimate p ≤ bufCapacity) {i : Nat} (hi : i < (cfg.encode p.op).length)
    (hlen : bufCapacity ≤ cfg.itemLen (.chunk p.op i)) :
    (s.tryPublishWrite cfg p []).2 = .tried (some (.ok ())) ∧
      ∃ out, .chunk p.op i ∈ out ∧ (s.tryPublishWrite cfg p []).1.streams = (s.deliver c out).streams := by
  rcases hwe : Writer.encode cfg ⟨c, []⟩ p.op true with ⟨w', out, r⟩
  obtain rfl : r = true := (congrArg (·.2.2) hwe).symm.trans (Writer.encode_true cfg _ p.op)
  obtain ⟨-, j, -, hbuf, hj⟩ := Writer.encode_spec hwe
  obtain rfl := hj.1 rfl
  have hmem : Item.chunk p.op i ∈ out ++ w'.buf := by
    rw [hbuf]; exact List.mem_append_right _ (List.mem_map.2 ⟨i, List.mem_range.2 hi, rfl⟩)
  obtain ⟨hr, hst, -⟩ := tryPublishWrite_encoded hw hest hwe
  refine ⟨hr, out, (List.mem_append.1 hmem).resolve_right fun h' => ?_, hst⟩
  exact absurd hlen (Nat.not_le.2 (Writer.writeChunks_buf_lt hwe nofun _ h'))

/-- A header value of 40000 bytes, more than `BUF_CAPACITY`. -/
def longValue : String := ⟨List.replicate 40000 'a'⟩

/-- A message with one long header value. -/
def longHeaderPub : Pub := ⟨"x", none, some [("K", [longValue])], []⟩

/-- The lengths of `longHeaderPub`'s chunks: the header block, chunk 7, is
longer than the writer's buffer. -/
theorem map_length_encode_longHeaderPub :
    ((natsConfig 64).encode longHeaderPub.op).map List.length = [5, 1, 1, 5, 1, 5, 2, 40017, 0, 2] := by
  show ((natsConfig 64).encode (.hpub "x" none [("K", [longValue])] [])).map List.length = _
  -- the value stays a variable, so that nothing evaluates its 40000 characters
  generalize hv : longValue = v
  have hlen : (utf8 v).length = 40000 := by
    rw [← hv, utf8_length, longValue, String.utf8ByteSize_mk, utf8Len_replicate]; rfl
  simp only [natsConfig, natsEncode, List.flatMap_cons, List.flatMap_nil, List.append_nil, List.length_append, hlen,
    Option.map_none', Option.getD_none, List.cons_append, List.nil_append, List.map_cons, List.map_nil]
  decide

/-- Encoded into an empty writer with the stream writes succeeding, the first
seven chunks of `longHeaderPub` are buffered; the header block does not fit, so
they and the block go to the stream, and the payload and the trailing CRLF stay
in the buffer. -/
theorem encode_longHeaderPub (c : Nat) :
    Writer.encode (natsConfig 64) ⟨c, []⟩ longHeaderPub.op true =
      (⟨c, [.chunk longHeaderPub.op 8, .chunk longHeaderPub.op 9]⟩, longHeaderPub.op.firstChunks 8, true) := by
  have hL := map_length_encode_longHeaderPub
  have hn : ((natsConfig 64).encode longHeaderPub.op).length = 10 := by simpa using congrArg List.length hL
  have hlen (i : Nat) : (natsConfig 64).itemLen (.chunk longHeaderPub.op i) =
      [5, 1, 1, 5, 1, 5, 2, 40017, 0, 2].getD i 0 := by
    rw [Config.itemLen_chunk, hL]
  have hsmall : ∀ i < 10, i ≠ 7 → [5, 1, 1, 5, 1, 5, 2, 40017, 0, 2].getD i 0 < bufCapacity := by decide
  -- chunks 0 to 6 fit
  have h₁ : Writer.writeChunks (natsConfig 64) longHeaderPub.op true ⟨c, []⟩ (List.range 7) =
      (⟨c, longHeaderPub.op.firstChunks 7⟩, [], true) := by
    rw [Writer.writeChunks_fit]
    · rfl
    · simp only [hlen, Writer.bufLen, List.map_nil, List.sum_nil]; decide
    · intro i hi
      have := List.mem_range.1 hi
      rw [hlen]; exact hsmall i (by omega) (by omega)
  -- the header block is written through, with what the buffer held
  have h₂ : Writer.writeAll (natsConfig 64) ⟨c, longHeaderPub.op.firstChunks 7⟩ (.chunk longHeaderPub.op 7) true =
      (⟨c, []⟩, longHeaderPub.op.firstChunks 8, true) := by
    rw [Writer.writeAll, if_neg fun h => absurd h.2 (by rw [hlen]; decide), if_pos rfl,
      if_pos (by rw [hlen]; decide)]
    rfl
  -- the payload and the CRLF fit
  have h₃ : Writer.writeChunks (natsConfig 64) longHeaderPub.op true ⟨c, []⟩ [8, 9] =
      (⟨c, [.chunk longHeaderPub.op 8, .chunk longHeaderPub.op 9]⟩, [], true) := by
    rw [Writer.writeChunks_fit]
    · rfl
    · simp only [hlen, Writer.bufLen, List.map_nil, List.sum_nil, List.map_cons]; decide
    · intro i hi
      simp only [List.mem_cons, List.mem_singleton, List.not_mem_nil, or_false] at hi
      rw [hlen]; rcases hi with rfl | rfl <;> decide
  rw [Writer.encode, hn, show List.range 10 = List.range 7 ++ [7, 8, 9] from rfl, Writer.writeChunks_append h₁,
    Writer.writeChunks, h₂]
  simp only [h₃, List.nil_append, List.append_nil]

/-- `longHeaderPub`'s estimate is below the length of its header block, which
is as large as the writer's buffer; connected, `try_publish` passes its
capacity check and writes the frame up to the block straight to the stream,
leaving the payload and the trailing CRLF in the buffer. -/
theorem try_publish_writes_long_header_through :
    estimate longHeaderPub < (natsConfig 64).itemLen (.chunk longHeaderPub.op 7) ∧
      bufCapacity ≤ (natsConfig 64).itemLen (.chunk longHeaderPub.op 7) ∧
      ∃ s c s', Reachable (natsConfig 64) s ∧ s.write.writer = some ⟨c, []⟩ ∧
        s.runCall (natsConfig 64) 2 (.tryPublish longHeaderPub) [] = some (s', .tried (some (.ok ()))) ∧
        s'.streams = (s.deliver c (longHeaderPub.op.firstChunks 8)).streams ∧
        s'.write.writer = some ⟨c, [.chunk longHeaderPub.op 8, .chunk longHeaderPub.op 9]⟩ := by
  have hest : estimate longHeaderPub = 1030 := by decide
  have h7 : (natsConfig 64).itemLen (.chunk longHeaderPub.op 7) = 40017 :=
    (Config.itemLen_chunk _ _ 7).trans (congrArg (fun l => l.getD 7 0) map_length_encode_longHeaderPub)
  obtain ⟨s, hs, h⟩ := Reachable.of_exec (natsConfig 64) (fun s => s.write.writer == some ⟨0, []⟩ && !s.shutdown)
    [.connected (some ⟨true⟩), .supervisor [], .supervisor [], .select true] (by decide)
  simp only [Bool.and_eq_true, beq_iff_eq, Bool.not_eq_true'] at h
  obtain ⟨hw, hsd⟩ := h
  obtain ⟨hr, hst, hwr⟩ := tryPublishWrite_encoded hw (by rw [hest]; decide) (encode_longHeaderPub 0)
  refine ⟨by rw [hest, h7]; decide, by rw [h7]; decide, s, 0, _, hs, hw, ?_, hst, hwr⟩
  rw [runCall_tryPublish, checkShutdown, hsd, ← hr]
  rfl

end NatsClient

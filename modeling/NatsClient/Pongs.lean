import NatsClient.System

/-!
# Pending PONGs and flush signals

`read.pongs` queues one sender per PING the client waits on; a PONG from the
server completes the head, a successful `reconnect` completes them all, and a
local disconnect drops them. The spec states three laws about them:

* `PongLaw` — with a writer installed, the queue matches the PINGs of its
  connection the server has not answered, one to one and in order;
* `ConnectLaw` — `connect` returns `Ok` only once a writer was installed;
* `FlushPendingLaw` — bytes sitting in the installed writer always have a
  flush pending (a signal in `flush_kicker`, or the flusher about to flush);
* `PingsOutLaw` — with a writer installed, `pings_out` counts no more than
  the PINGs written to its connection since the last PONG from it.

Each fails on the code; the runs below are the witnesses. `flush` returns early
when `writer.flush()` fails after its PING was encoded: the PING stays in the
writer with no queue entry and no signal (`orphanPingRun`). `reconnect` takes
the queue before the writes that can fail, and the `select!` in `connect`
accepts a dropped sender as readily as a completed one (`droppedHandshakeRun`).
The heartbeat counts a PING while no writer is installed, and nothing resets
the count when the next writer is installed (`stalePingsRun`).

What does hold is the other half of the PONG law:

* `blocked_receivers_stay_queued` — in every reachable state, a `flush` call
  blocked on a pending one-shot, and `connect`'s one-shot 0 while pending,
  have their sender in `pongs`; no section takes a sender out of the queue
  without completing or dropping it.
-/

namespace NatsClient

open Sys

/-- The PINGs written to `w`'s connection, received by the server or still in
`w`'s buffer, that no decoded PONG has answered yet. -/
def unansweredPings (cfg : Config) (s : Sys) (w : Writer) : Nat :=
  match s.streams[w.stream]? with
  | some st => cfg.pings (st.sent ++ w.buf) - st.pongs
  | none => 0

/-- The spec's PONG law: with a writer installed, `pongs` is in order-preserving
one-to-one correspondence with the unanswered PINGs of its connection. Two
finite sequences correspond so exactly when they have the same length. -/
def PongLaw (cfg : Config) (s : Sys) : Prop :=
  ∀ w ∈ s.write.writer, s.read.pongs.length = unansweredPings cfg s w

instance (cfg : Config) (s : Sys) : Decidable (PongLaw cfg s) :=
  inferInstanceAs (Decidable (∀ w ∈ s.write.writer, _))

/-- The spec's handshake law: `connect` returns `Ok` only once `reconnect` has
installed a writer. -/
def ConnectLaw (s : Sys) : Prop := (s.main matches .returned (.ok ())) = true → s.installed = true

instance (s : Sys) : Decidable (ConnectLaw s) := inferInstanceAs (Decidable (_ → _))

/-- The spec's flush-coalescing law: when the installed writer holds bytes the
stream has not received, `flush_kicker` holds a signal or the flusher has
received one and not yet flushed. -/
def FlushPendingLaw (s : Sys) : Prop :=
  ∀ w ∈ s.write.writer, w.buf ≠ [] → s.kicked = true ∨ s.flusher = .signalled

instance (s : Sys) : Decidable (FlushPendingLaw s) :=
  inferInstanceAs (Decidable (∀ w ∈ s.write.writer, _))

/-- Connect, then `flush`: its PING is encoded, and `writer.flush()` fails. -/
def orphanPingRun : List Action :=
  [.connected (some ⟨true⟩), .supervisor [], .supervisor [], .select true,
   .start .flush, .call 0 [true, true, false] false]

/-- After `orphanPingRun` the writer holds a PING that has no entry in `pongs`. -/
theorem flush_leaves_orphan_ping : ∃ s, Reachable (natsConfig 64) s ∧ ¬ PongLaw (natsConfig 64) s := by
  obtain ⟨s, hs, h⟩ := Reachable.of_exec (natsConfig 64) (fun s => !decide (PongLaw (natsConfig 64) s))
    orphanPingRun (by decide)
  exact ⟨s, hs, by simpa using h⟩

/-- After `orphanPingRun` the writer holds the PING with no flush pending. -/
theorem flush_leaves_unsignalled_bytes :
    ∃ s, Reachable (natsConfig 64) s ∧ ¬ FlushPendingLaw s := by
  obtain ⟨s, hs, h⟩ := Reachable.of_exec (natsConfig 64) (fun s => !decide (FlushPendingLaw s))
    orphanPingRun (by decide)
  exact ⟨s, hs, by simpa using h⟩

/-- The first `reconnect` takes the pre-seeded one-shot, then fails to flush
the new connection and drops it; `connect`'s `select!` takes the PONG arm. -/
def droppedHandshakeRun : List Action :=
  [.connected (some ⟨true⟩), .supervisor [], .supervisor [true, true, false], .select true]

/-- After `droppedHandshakeRun`, `connect` has returned `Ok` and no writer was
ever installed. -/
theorem connect_returns_before_install : ∃ s, Reachable (natsConfig 64) s ∧ ¬ ConnectLaw s := by
  obtain ⟨s, hs, h⟩ := Reachable.of_exec (natsConfig 64) (fun s => !decide (ConnectLaw s))
    droppedHandshakeRun (by decide)
  exact ⟨s, hs, by simpa using h⟩

/-- The spec's liveness law: with a writer installed, `pings_out` is at most the
number of PINGs written to its connection since the last PONG decoded from it. -/
def PingsOutLaw (s : Sys) : Prop :=
  ∀ w ∈ s.write.writer, s.read.pingsOut ≤ ((s.streams[w.stream]?).map (·.pingsSincePong)).getD 0

instance (s : Sys) : Decidable (PingsOutLaw s) :=
  inferInstanceAs (Decidable (∀ w ∈ s.write.writer, _))

/-- Connect; the server closes the connection; while `connect` is retrying, two
idle heartbeats count a PING each; then a new connection is installed. -/
def stalePingsRun : List Action :=
  [.connected (some ⟨true⟩), .supervisor [], .supervisor [], .select true,
   .decoded none, .supervisor [], .supervisor [], .supervisor [],
   .tick 200000, .flusher [], .tick 200000, .flusher [],
   .connected (some ⟨true⟩), .supervisor [], .supervisor []]

/-- After `stalePingsRun` the fresh connection has had no PING and `pings_out`
is already `MAX_PINGS_OUT`: the next idle heartbeat drops it. -/
theorem pings_out_survives_reconnect : ∃ s, Reachable (natsConfig 64) s ∧ ¬ PingsOutLaw s := by
  obtain ⟨s, hs, h⟩ := Reachable.of_exec (natsConfig 64) (fun s => !decide (PingsOutLaw s))
    stalePingsRun (by decide)
  exact ⟨s, hs, by simpa using h⟩

/-! ## What holds: no blocked receiver loses its sender

A receiver blocks until its one-shot is completed or dropped, and the senders
wait in `pongs`. Every section that takes a sender out of the queue settles it
in the same section: a PONG completes the head, `reconnect` completes or drops
everything it took, and a local disconnect drops the whole queue. `Settles`
says what a section may do to the queue; each section has its lemma, and
`WaitInv` follows over every run. -/

namespace Sys

/-- What the receiver of one-shot `n` sees now, as `flushWait` reads it. -/
def status (s : Sys) (n : Nat) : Status := s.oneshots.getD n .pending

end Sys

@[simp] theorem Status.complete_ne_pending (st : Status) : st.complete ≠ .pending := by
  cases st <;> decide
@[simp] theorem Status.drop_ne_pending (st : Status) : st.drop ≠ .pending := by
  cases st <;> decide

section
variable {s : Sys} {f : Status → Status} (hf : ∀ st, f st ≠ .pending)
include hf

/-- A one-shot pending after `f` is applied at `m` was pending before. -/
theorem status_modify_pending {m n : Nat}
    (h : ({ s with oneshots := s.oneshots.modify f m } : Sys).status n = .pending) : s.status n = .pending := by
  simp only [Sys.status, List.getD_eq_getElem?_getD, List.getElem?_modify] at h ⊢
  cases hs : s.oneshots[n]? with
  | none => rfl
  | some a =>
    simp only [hs, Option.map_eq_map, Option.map_some', Option.getD_some] at h ⊢
    split at h
    · exact absurd h (hf a)
    · exact h

/-- One-shot `m` is settled once `f` is applied at it. -/
theorem status_modify_self {m : Nat} (hm : m < s.oneshots.length) :
    ({ s with oneshots := s.oneshots.modify f m } : Sys).status m ≠ .pending := by
  simp [Sys.status, List.getD_eq_getElem?_getD, List.getElem?_modify, hm, hf]

end

/-- Between `s` and `s'`: a one-shot pending after was pending before, no new
one-shot sender enters `pongs`, and every one-shot sender that leaves `pongs`
is settled. -/
structure Settles (s s' : Sys) : Prop where
  length_le : s.oneshots.length ≤ s'.oneshots.length
  pending : ∀ n, s'.status n = .pending → s.status n = .pending
  fresh : ∀ n, .oneshot n ∈ s'.read.pongs → .oneshot n ∈ s.read.pongs
  queued : ∀ n < s.oneshots.length, .oneshot n ∈ s.read.pongs →
    .oneshot n ∈ s'.read.pongs ∨ s'.status n ≠ .pending

namespace Settles

variable {s s₁ s₂ : Sys}

theorem refl : Settles s s := ⟨le_rfl, fun _ h => h, fun _ h => h, fun _ _ h => .inl h⟩

theorem trans (h₁ : Settles s s₁) (h₂ : Settles s₁ s₂) : Settles s s₂ where
  length_le := h₁.length_le.trans h₂.length_le
  pending n h := h₁.pending n (h₂.pending n h)
  fresh n h := h₁.fresh n (h₂.fresh n h)
  queued n hn h := (h₁.queued n hn h).elim (h₂.queued n (hn.trans_le h₁.length_le))
    fun hs => .inr (mt (h₂.pending n) hs)

/-- A section that leaves the one-shots and the queue alone settles nothing
and loses nothing. -/
theorem of_eq (ho : s₁.oneshots = s.oneshots) (hp : s₁.read.pongs = s.read.pongs) : Settles s s₁ where
  length_le := ho ▸ le_rfl
  pending n := by simp only [Sys.status, ho, imp_self]
  fresh n := by simp only [hp, imp_self]
  queued _ _ h := .inl (hp ▸ h)

theorem of_modify {f : Status → Status} (hf : ∀ st, f st ≠ .pending) (m : Nat) :
    Settles s { s with oneshots := s.oneshots.modify f m } where
  length_le := (List.length_modify ..).ge
  pending _ := status_modify_pending hf
  fresh _ h := h
  queued _ _ h := .inl h

end Settles

/-! ### What each section does to the queue -/

namespace Sys

variable {cfg : Config} {s : Sys}

theorem settles_complete (w : Waiter) : Settles s (s.complete w) := by
  cases w with
  | oneshot n => exact .of_modify Status.complete_ne_pending n
  | kicker => exact .of_eq rfl rfl

theorem settles_dropWaiter (w : Waiter) : Settles s (s.dropWaiter w) := by
  cases w with
  | oneshot n => exact .of_modify Status.drop_ne_pending n
  | kicker => exact .refl

section
variable {g : Sys → Waiter → Sys} (hg : ∀ s w, Settles s (g s w))
include hg

theorem settles_foldl (ws : List Waiter) (s : Sys) : Settles s (ws.foldl g s) := by
  induction ws generalizing s with
  | nil => exact .refl
  | cons w ws ih => exact (hg s w).trans (ih _)

variable (hset : ∀ s n, n < s.oneshots.length → (g s (.oneshot n)).status n ≠ .pending)
include hset

/-- Folding a settling step over `ws` settles every one-shot sender in `ws`. -/
theorem foldl_status {ws : List Waiter} {s : Sys} {n : Nat} (hm : .oneshot n ∈ ws)
    (hn : n < s.oneshots.length) : (ws.foldl g s).status n ≠ .pending := by
  induction ws generalizing s with
  | nil => cases hm
  | cons w ws ih =>
    rcases List.mem_cons.1 hm with rfl | hm
    · exact mt ((settles_foldl hg ws _).pending n) (hset s n hn)
    · exact ih hm (hn.trans_le (hg s w).length_le)

/-- Taking the whole queue into `t`, then settling each sender taken. -/
theorem settles_take {t : Sys} (ho : t.oneshots = s.oneshots) (hp : t.read.pongs = []) :
    Settles s (s.read.pongs.foldl g t) where
  length_le := ho ▸ (settles_foldl hg _ t).length_le
  pending n h := by simpa only [status, ho] using (settles_foldl hg _ t).pending n h
  fresh n h := by simpa [hp] using (settles_foldl hg _ t).fresh n h
  queued _ hn h := .inr (foldl_status hg hset h (ho ▸ hn))

end

theorem complete_status {n : Nat} (hn : n < s.oneshots.length) :
    (s.complete (.oneshot n)).status n ≠ .pending :=
  status_modify_self Status.complete_ne_pending hn

theorem dropWaiter_status {n : Nat} (hn : n < s.oneshots.length) :
    (s.dropWaiter (.oneshot n)).status n ≠ .pending :=
  status_modify_self Status.drop_ne_pending hn

/-- `read.pongs.clear()` drops every sender in the queue. -/
theorem settles_clearPongs : Settles s s.clearPongs where
  length_le := (settles_foldl (fun _ => settles_dropWaiter) _ s).length_le
  pending n h := (settles_foldl (fun _ => settles_dropWaiter) _ s).pending n h
  fresh n h := by simp at h
  queued _ hn h := .inr (foldl_status (fun _ => settles_dropWaiter) (fun _ _ => dropWaiter_status) h hn)

theorem settles_kick : Settles s s.kick := .of_eq rfl rfl
theorem settles_shutdownStream : Settles s s.shutdownStream := .of_eq (by simp) (by simp)
theorem settles_encode (op : ClientOp) (ok : Bool) : Settles s (s.encode cfg op ok).1 :=
  .of_eq (by simp) (by simp)
theorem settles_flushWriter (ok : Bool) : Settles s (s.flushWriter ok).1 := .of_eq (by simp) (by simp)
theorem settles_disconnect (ok : Bool) : Settles s (s.disconnect ok) :=
  (Settles.of_eq (by simp) (by simp)).trans settles_clearPongs

theorem settles_bufferPublish (op : ClientOp) : Settles s (s.bufferPublish cfg op).1 := by
  unfold bufferPublish; split <;> exact .of_eq rfl rfl

theorem settles_publishWrite (p : Pub) (io : List Bool) : Settles s (s.publishWrite cfg p io).1 := by
  unfold publishWrite; split
  · exact settles_bufferPublish _
  · split
    · exact .refl
    · dsimp only; split
      · exact (settles_encode _ _).trans settles_kick
      · exact ((settles_encode _ _).trans (settles_disconnect _)).trans settles_kick

theorem settles_tryPublishWrite (p : Pub) (io : List Bool) : Settles s (s.tryPublishWrite cfg p io).1 := by
  unfold tryPublishWrite; split
  · exact settles_bufferPublish _
  · split
    · exact .refl
    · dsimp only; split
      · exact (settles_encode _ _).trans settles_kick
      · exact ((settles_encode _ _).trans settles_kick).trans (settles_disconnect _)

theorem settles_subscribe (subject : String) (q : Option String) (io : List Bool) :
    Settles s (s.subscribe cfg subject q io).1 := by
  unfold subscribe; split
  · exact .refl
  · dsimp only; split
    · exact .of_eq rfl rfl
    · exact .of_eq (by simp) (by simp)

theorem settles_unsubscribe (sid : Nat) (io : List Bool) : Settles s (s.unsubscribe cfg sid io).1 := by
  unfold unsubscribe; split
  · exact .refl
  · dsimp only; split
    · exact .of_eq rfl rfl
    · split <;> exact .of_eq (by simp) (by simp)

theorem settles_unsubAll (sids : List Nat) (io : List Bool) : Settles s (unsubAll cfg s sids io) := by
  induction sids generalizing s io with
  | nil => exact .refl
  | cons sid rest ih =>
    unfold unsubAll; split
    · exact ih _
    · exact ((settles_encode _ _).trans settles_kick).trans (ih _)

theorem settles_close (io : List Bool) : Settles s (s.close cfg io) := by
  unfold close; split
  · exact .refl
  · dsimp only
    exact (((Settles.of_eq (by rfl) (by rfl)).trans (settles_unsubAll _ _)).trans (settles_flushWriter _)).trans
      settles_clearPongs

theorem settles_reconnectFailed (c : Nat) (w : Writer) (io : List Bool) :
    Settles s (s.reconnectFailed c w io) := .of_eq rfl rfl

/-- A successful `reconnect` completes every sender it took into `t`. -/
theorem settles_reconnectInstall {t : Sys} (ho : t.oneshots = s.oneshots) (hp : t.read.pongs = [])
    (info : ServerInfo) (c : Nat) (w : Writer) (replayed : List ClientOp) (bytes : List UInt8) :
    Settles s (t.reconnectInstall info c w s.read.pongs replayed bytes) :=
  (settles_take (fun _ => settles_complete) (fun _ _ => complete_status) (by exact ho) (by exact hp)).trans
    (.of_eq rfl rfl)

theorem settles_reconnectLocked (info : ServerInfo) (c : Nat) (io : List Bool) :
    Settles s (s.reconnectLocked cfg info c io) := by
  unfold reconnectLocked; dsimp only; split
  · exact .of_eq (by simp [reconnectFailed]) (by simp [reconnectFailed])
  · split
    · exact ((Settles.of_eq (by simp) (by simp)).trans (settles_take (fun _ => settles_dropWaiter)
        (fun _ _ => dropWaiter_status) (by rfl) (by rfl))).trans (settles_reconnectFailed _ _ _)
    · split
      · exact ((Settles.of_eq (by simp) (by simp)).trans (settles_take (fun _ => settles_dropWaiter)
          (fun _ _ => dropWaiter_status) (by rfl) (by rfl))).trans (settles_reconnectFailed _ _ _)
      · exact (Settles.of_eq (by simp) (by simp)).trans (settles_reconnectInstall (by rfl) (by rfl) ..)

/-- A PONG completes the head of the queue, taken into `t`. -/
theorem settles_pop {t : Sys} {w : Waiter} {rest : List Waiter} (h : s.read.pongs = w :: rest)
    (ho : t.oneshots = s.oneshots) (hp : t.read.pongs = rest) : Settles s (t.complete w) where
  length_le := ho ▸ (settles_complete w).length_le
  pending n hn := by simpa only [status, ho] using (settles_complete w).pending n hn
  fresh n hn := by rw [h]; exact .tail _ (by simpa [hp] using hn)
  queued n hn hm := by
    rw [h] at hm
    rcases List.mem_cons.1 hm with rfl | hm
    · exact .inr (complete_status (ho ▸ hn))
    · exact .inl (by simpa [hp] using hm)

theorem settles_dispatchOp (c : Nat) (op : ServerOp) (io : List Bool) :
    Settles s (s.dispatchOp cfg c op io) := by
  unfold dispatchOp; split
  · exact .of_eq rfl rfl
  · split
    · exact .of_eq rfl rfl
    · dsimp only; split <;> exact (settles_encode _ _).trans (.of_eq rfl rfl)
  · dsimp only; split
    · next h => exact (settles_pop h (by rfl) (by rfl)).trans (.of_eq rfl rfl)
    · exact .of_eq rfl rfl
  · exact .of_eq (by unfold deliverMsg; split <;> rfl) (by unfold deliverMsg; split <;> rfl)
  · exact .of_eq (by unfold deliverMsg; split <;> rfl) (by unfold deliverMsg; split <;> rfl)
  · exact .of_eq rfl rfl
  · exact .of_eq rfl rfl

theorem settles_supervisorStep {io : List Bool} {s' : Sys} (h : s.supervisorStep cfg io = some s') :
    Settles s s' := by
  unfold supervisorStep at h
  split at h <;> cases h
  · exact .of_eq (by unfold reconnectCheck; split <;> rfl) (by unfold reconnectCheck; split <;> rfl)
  · exact settles_reconnectLocked ..
  · exact .of_eq (by unfold dispatchCheck; split <;> rfl) (by unfold dispatchCheck; split <;> rfl)
  · exact .of_eq rfl rfl
  · exact settles_dispatchOp ..
  · exact .of_eq (by simp [disconnected]) (by simp [disconnected])
  · exact .of_eq rfl rfl
  · exact .of_eq (by unfold runCheck; split <;> rfl) (by unfold runCheck; split <;> rfl)
  · exact .of_eq (by simp [finalFlush]) (by simp [finalFlush])

theorem settles_flusherFlush (io : List Bool) : Settles s (s.flusherFlush io) := by
  unfold flusherFlush; split
  · exact .of_eq rfl rfl
  · dsimp only; split
    · exact (settles_flushWriter _).trans (.of_eq rfl rfl)
    · exact ((((settles_flushWriter _).trans settles_shutdownStream).trans (settles_disconnect _))).trans
        (.of_eq rfl rfl)

/-- The heartbeat queues the flush kicker, not a one-shot. -/
theorem settles_push_kicker {t : Sys} (ho : t.oneshots = s.oneshots)
    (hp : t.read.pongs = s.read.pongs ++ [.kicker]) : Settles s t where
  length_le := ho ▸ le_rfl
  pending n := by simp only [status, ho, imp_self]
  fresh n h := by simpa [hp] using h
  queued _ _ h := .inl (by simp [hp, h])

theorem settles_heartbeat (io : List Bool) : Settles s (s.heartbeat cfg io) := by
  unfold heartbeat; split
  · exact settles_shutdownStream.trans (settles_disconnect _)
  · split
    · let s₁ : Sys := { s with read.pingsOut := s.read.pingsOut + 1, read.pongs := s.read.pongs ++ [.kicker] }
      have h : Settles s s₁ := settles_push_kicker rfl rfl
      dsimp only; split
      · exact h
      · split
        · exact (h.trans (settles_encode _ _)).trans (settles_flushWriter _)
        · exact (((h.trans (settles_encode _ _)).trans (settles_flushWriter _)).trans
            settles_shutdownStream).trans (settles_disconnect _)
    · exact .refl

theorem settles_select {b : Bool} {s' : Sys} (h : s.select b = some s') : Settles s s' := by
  unfold select at h
  split at h
  · split at h <;> cases h; exact .of_eq rfl rfl
  · split at h <;> cases h <;> exact .of_eq rfl rfl

theorem settles_decoded (c : Nat) (r : Option ServerOp) : Settles s (s.decoded c r) := by
  cases r with
  | none => exact .of_eq rfl rfl
  | some op => cases op <;> exact .of_eq rfl rfl

/-- `flush` creates one-shot `s.oneshots.length`, pending. -/
theorem settles_push_pending : Settles s { s with oneshots := s.oneshots ++ [.pending] } where
  length_le := by simp
  pending n h := by
    by_cases hn : n < s.oneshots.length
    · rwa [status, List.getD_append _ _ _ _ hn] at h
    · exact List.getD_eq_default _ _ (not_lt.1 hn)
  fresh _ h := h
  queued _ _ h := .inl h

/-- `flush` settles nothing and loses nothing. It returns, or it queues the
sender of the fresh one-shot `s.oneshots.length` and blocks on it. -/
theorem flush_cases (io : List Bool) : ∃ t, Settles s t ∧
    ((∃ r, s.flush cfg io = (t, .returned r)) ∨
      s.oneshots.length < t.oneshots.length ∧
      s.flush cfg io = ({ t with read.pongs := t.read.pongs ++ [.oneshot s.oneshots.length] },
        .flushWait s.oneshots.length)) := by
  unfold flush; split
  · exact ⟨s, .refl, .inl ⟨_, rfl⟩⟩
  · have h₀ := settles_push_pending (s := s)
    dsimp only; split
    · exact ⟨_, h₀, .inr ⟨by simp, rfl⟩⟩
    · split
      · exact ⟨_, h₀, .inl ⟨_, rfl⟩⟩
      · have h₁ := h₀.trans (@settles_encode cfg _ .ping (io.getD 1 true))
        split
        · exact ⟨_, h₁, .inl ⟨_, rfl⟩⟩
        · have h₂ := h₁.trans (settles_flushWriter (io.getD 2 true))
          split
          · exact ⟨_, h₂, .inl ⟨_, rfl⟩⟩
          · split
            · exact ⟨_, h₂, .inl ⟨_, rfl⟩⟩
            · exact ⟨_, h₂, .inr ⟨by simp, rfl⟩⟩

end Sys

/-! ### Blocked receivers -/

/-- The one-shot a call blocks on: `flush`'s, in `pong.recv()`. -/
def Call.waitsOn : Call → Option Nat
  | .flushWait id => some id
  | _ => none

/-- One-shot `n` has a receiver that blocks on it: `connect`'s one-shot 0, or
the one-shot of a `flush` call in `calls`. -/
def Awaited (calls : List UserThread) (n : Nat) : Prop := n = 0 ∨ ∃ t ∈ calls, t.call.waitsOn = some n

instance (calls : List UserThread) (n : Nat) : Decidable (Awaited calls n) :=
  inferInstanceAs (Decidable (_ ∨ _))

/-- No blocked receiver loses its sender: while its one-shot is pending, the
sender is in `pongs`, where a PONG, a `reconnect` or a local disconnect will
settle it. -/
def WaitersQueued (s : Sys) : Prop :=
  ∀ n, Awaited s.calls n → s.status n = .pending → .oneshot n ∈ s.read.pongs

theorem Awaited.of_set {l : List UserThread} {i m : Nat} {t : UserThread} {c : Call}
    (h : Awaited (l.set i { t with call := c }) m) : Awaited l m ∨ c.waitsOn = some m := by
  rcases h with h | ⟨t', ht', hw⟩
  · exact .inl (.inl h)
  · rcases List.mem_or_eq_of_mem_set ht' with ht' | rfl
    · exact .inl (.inr ⟨t', ht', hw⟩)
    · exact .inr hw

theorem Call.waitsOn_of_isEntry {c : Call} (h : c.isEntry = true) : c.waitsOn = none := by
  cases c <;> first | rfl | cases h

/-- The invariant behind `blocked_receivers_stay_queued`: every one-shot
sender in `pongs` names a one-shot that exists. -/
structure WaitInv (s : Sys) : Prop where
  lt : ∀ n, .oneshot n ∈ s.read.pongs → n < s.oneshots.length
  queued : WaitersQueued s

namespace Sys

variable {cfg : Config} {s : Sys}

/-- Every section of a user call but `flush`'s settles nothing it should not,
and leaves the call blocked on no one-shot. -/
theorem callStep_settles {c : Call} {io : List Bool} {b : Bool} {r : Sys × Call}
    (h : s.callStep cfg c io b = some r) (hc : c ≠ .flush) : Settles s r.1 ∧ r.2.waitsOn = none := by
  cases c with
  | publish p => cases h; exact ⟨.refl, by unfold publishInfo; split <;> rfl⟩
  | publishCheck p => cases h; exact ⟨.refl, by unfold publishCheck; split <;> rfl⟩
  | publishWrite p => cases h; exact ⟨settles_publishWrite _ _, rfl⟩
  | tryPublish p => cases h; exact ⟨.refl, by unfold tryPublishCheck; split <;> rfl⟩
  | tryPublishWrite p =>
    simp only [callStep] at h
    split at h <;> cases h
    · exact ⟨.refl, rfl⟩
    · exact ⟨settles_tryPublishWrite _ _, rfl⟩
  | subscribe subject q => cases h; exact ⟨settles_subscribe _ _ _, rfl⟩
  | unsubscribe sid => cases h; exact ⟨settles_unsubscribe _ _, rfl⟩
  | flush => exact absurd rfl hc
  | flushWait n => obtain ⟨_, -, rfl⟩ := Option.map_eq_some'.mp h; exact ⟨.refl, rfl⟩
  | close => cases h; exact ⟨(settles_close _).trans (.of_eq rfl rfl), rfl⟩
  | serverInfo => cases h; exact ⟨.refl, rfl⟩
  | returned => cases h

end Sys

namespace WaitInv

variable {cfg : Config} {s s' : Sys}

theorem init (cfg : Config) : WaitInv (Sys.init cfg) where
  lt n h := by simp_all [Sys.init]
  queued n ha _ := by
    rcases ha with rfl | ⟨t, ht, -⟩
    · simp [Sys.init]
    · simp [Sys.init] at ht

theorem of_settles (hi : WaitInv s) (h : Settles s s') (ha : ∀ n, Awaited s'.calls n → Awaited s.calls n) :
    WaitInv s' where
  lt n hn := (hi.lt n (h.fresh n hn)).trans_le h.length_le
  queued n han hp := by
    have hq := hi.queued n (ha n han) (h.pending n hp)
    exact (h.queued n (hi.lt n hq) hq).resolve_right (not_not.2 hp)

theorem of_frame (hi : WaitInv s) (h : Settles s s') (hf : Frame s s') : WaitInv s' :=
  hi.of_settles h fun n => by rw [hf.calls]; exact id

/-- `flush` queues the sender of one-shot `n` and blocks on it. -/
theorem enqueue (hi : WaitInv s) {n : Nat} (hn : n < s.oneshots.length)
    (ha : ∀ m, Awaited s'.calls m → Awaited s.calls m ∨ m = n) (ho : s'.oneshots = s.oneshots)
    (hp : s'.read.pongs = s.read.pongs ++ [.oneshot n]) : WaitInv s' where
  lt m hm := by
    rw [hp, List.mem_append, List.mem_singleton, Waiter.oneshot.injEq] at hm
    rw [ho]
    rcases hm with hm | rfl
    · exact hi.lt m hm
    · exact hn
  queued m ham hpm := by
    rw [hp, List.mem_append]
    rcases ha m ham with ha | rfl
    · exact .inl (hi.queued m ha (by simpa only [status, ho] using hpm))
    · exact .inr (.head _)

/-- A user call's section keeps the invariant. -/
theorem call (hi : WaitInv s) {i : Nat} {t : UserThread} {io : List Bool} {b : Bool} {r : Sys × Call}
    (hr : s.callStep cfg t.call io b = some r) :
    WaitInv { r.1 with calls := s.calls.set i { t with call := r.2 } } := by
  by_cases hc : t.call = .flush
  · rw [hc] at hr
    cases hr
    obtain ⟨u, hu, ⟨_, he⟩ | ⟨hlen, he⟩⟩ := @flush_cases cfg s io
    · rw [he]
      exact hi.of_settles (hu.trans (.of_eq rfl rfl)) fun n hn => hn.of_set.resolve_right (by simp [Call.waitsOn])
    · rw [he]
      have hu' : WaitInv { u with calls := s.calls } := hi.of_settles (hu.trans (.of_eq rfl rfl)) fun _ => id
      exact hu'.enqueue hlen (fun m hm => hm.of_set.imp_right fun h => (Option.some.inj h).symm) rfl rfl
  · obtain ⟨hs, hw⟩ := callStep_settles hr hc
    exact hi.of_settles (hs.trans (.of_eq rfl rfl)) fun n hn => hn.of_set.resolve_right (by simp [hw])

/-- **Every step keeps the invariant.** -/
theorem step (hi : WaitInv s) {a : Action} (h : s.step cfg a = some s') : WaitInv s' := by
  rcases step_inv h with ⟨c, hc, rfl⟩ | ⟨i, io, b, t, r, -, hr, rfl⟩ | ⟨r, -, rfl⟩ | ⟨c, r, -, -, rfl⟩ |
    ⟨io, h⟩ | ⟨-, -, rfl⟩ | ⟨io, -, rfl⟩ | ⟨io, -, -, rfl⟩ | ⟨b, -, h⟩ | ⟨ms, rfl⟩
  · -- a new call blocks on nothing
    refine hi.of_settles (.of_eq rfl rfl) fun n hn => hn.imp_right fun ⟨t, ht, hw⟩ => ?_
    rcases List.mem_append.1 ht with ht | ht
    · exact ⟨t, ht, hw⟩
    · rw [List.mem_singleton.1 ht, Call.waitsOn_of_isEntry hc.1] at hw
      cases hw
  · exact hi.call hr
  · cases r <;> exact hi.of_frame (.of_eq rfl rfl) rfl
  · exact hi.of_frame (settles_decoded _ _) (frame_decoded _ _)
  · exact hi.of_frame (settles_supervisorStep h) (frame_supervisorStep h)
  · exact hi.of_frame (.of_eq rfl rfl) rfl
  · exact hi.of_frame (settles_flusherFlush io) (frame_flusherFlush io)
  · exact hi.of_frame (settles_heartbeat io) (frame_heartbeat io)
  · exact hi.of_frame (settles_select h) (frame_select h)
  · exact hi.of_frame (.of_eq rfl rfl) rfl

end WaitInv

theorem reachable_waitInv {cfg : Config} {s : Sys} (h : Reachable cfg s) : WaitInv s := by
  induction h with
  | init => exact .init cfg
  | step _ _ hs ih => exact ih.step hs

/-- Connect, then `flush`: its PING is written and its one-shot 1 queued. -/
def blockedFlushRun : List Action :=
  [.connected (some ⟨true⟩), .supervisor [], .supervisor [], .select true, .start .flush, .call 0 [] false]

end NatsClient

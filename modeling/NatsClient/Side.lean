import NatsClient.System

/-!
# What a step does to the reconnect buffer, the channels and `pings_out`

A few sections change these parts of the state (`Sys.side`):

* the reconnect buffer, with the frames published into it (the ghost
  `Sys.pending`);
* the number of subscription channels;
* the messages handed to those channels;
* `read.pings_out`.

The effects the sections share never touch them: `encode`, `flushWriter`,
`disconnect` and the one-shot completions. `step_side` says once what a step
can do to them (`SideStep`), and the results over runs split on it.

* `pings_out_within_max` — `pings_out`, a `u8`, never exceeds
  `MAX_PINGS_OUT`. The heartbeat adds one only below the bound, and trips the
  connection at it. So `read.pings_out += 1` never overflows.
-/

namespace NatsClient

/-- The parts of the state that only a few sections change. -/
structure Side where
  buffer : Buffer
  pending : List ClientOp
  channels : Nat
  deliveries : List (Nat × Message)
  pingsOut : Nat

/-- The `Side` part of `s`. -/
def Sys.side (s : Sys) : Side := ⟨s.write.buffer, s.pending, s.channels, s.deliveries, s.read.pingsOut⟩

/-- What one step can do to `Sys.side`. -/
inductive SideStep (cfg : Config) (s : Sys) : Side → Prop
  | keep : SideStep cfg s s.side
  /-- `publish` or `try_publish` with no writer installed encoded a frame into
  the reconnect buffer and returned `Ok`. -/
  | publishOk (op : ClientOp) : (s.write.buffer.publish (cfg.encode op)).2 = .ok () →
      SideStep cfg s { s.side with buffer := (s.write.buffer.publish (cfg.encode op)).1, pending := s.pending ++ [op] }
  /-- ... or the reconnect buffer was full. -/
  | publishErr (op : ClientOp) (e : Error) : (s.write.buffer.publish (cfg.encode op)).2 = .error e →
      SideStep cfg s { s.side with buffer := (s.write.buffer.publish (cfg.encode op)).1 }
  /-- `reconnect` took the reconnect buffer: `buffer.clear()`. -/
  | take : SideStep cfg s { s.side with buffer := s.write.buffer.clear.2, pending := [] }
  /-- `subscribe` created a channel. -/
  | subscribe : SideStep cfg s { s.side with channels := s.channels + 1 }
  /-- `dispatch` handed a message to the subscription the table files under `sid`. -/
  | deliver (sid : Nat) (sub : Subscription) (m : Message) : s.read.subscriptions.lookup sid = some sub →
      SideStep cfg s { s.side with deliveries := (sub.messages, m) :: s.deliveries }
  /-- A PONG, or the end of a connection, cleared `pings_out`. -/
  | clearPings : SideStep cfg s { s.side with pingsOut := 0 }
  /-- The heartbeat sent a PING, below `MAX_PINGS_OUT`. -/
  | ping : s.read.pingsOut < maxPingsOut → SideStep cfg s { s.side with pingsOut := s.read.pingsOut + 1 }

variable {cfg : Config} {s : Sys}

theorem SideStep.of_side_eq {x : Side} {s' : Sys} (hs : SideStep cfg s x) (h : s'.side = x) :
    SideStep cfg s s'.side :=
  h ▸ hs

theorem SideStep.of_eq {s' : Sys} (h : s'.side = s.side) : SideStep cfg s s'.side := SideStep.keep.of_side_eq h

/-- A section that creates a channel on top of a step that kept the side. -/
theorem SideStep.of_channel {t : Sys} (ht : t.side = s.side) (X : AList fun _ : Nat => Subscription) :
    SideStep cfg s { t with channels := t.channels + 1, read.subscriptions := X }.side := by
  show SideStep cfg s { t.side with channels := t.side.channels + 1 }
  rw [ht]; exact .subscribe

/-- `reconnect` after the take: the buffer is cleared and the frames are gone,
whether the writes that follow succeed or not. -/
theorem SideStep.of_take {t s' : Sys} (ht : t.side = s.side)
    (h : s'.side = { t.side with buffer := t.write.buffer.clear.2, pending := [] }) : SideStep cfg s s'.side := by
  have hb : t.write.buffer = s.write.buffer := congrArg Side.buffer ht
  rw [h, ht, hb]; exact .take

/-! ## The shared effects leave it alone -/

namespace Sys

theorem side_deliver (c : Nat) (items : List Item) : (s.deliver c items).side = s.side := rfl
theorem side_complete (w : Waiter) : (s.complete w).side = s.side := by cases w <;> rfl
theorem side_dropWaiter (w : Waiter) : (s.dropWaiter w).side = s.side := by cases w <;> rfl

theorem side_foldl_complete (ws : List Waiter) : (ws.foldl complete s).side = s.side := by
  induction ws generalizing s with
  | nil => rfl
  | cons w ws ih => exact ih.trans (side_complete w)

theorem side_foldl_dropWaiter (ws : List Waiter) : (ws.foldl dropWaiter s).side = s.side := by
  induction ws generalizing s with
  | nil => rfl
  | cons w ws ih => exact ih.trans (side_dropWaiter w)

theorem side_clearPongs : s.clearPongs.side = s.side := side_foldl_dropWaiter s.read.pongs

theorem side_dropWriter (ok : Bool) : (s.dropWriter ok).side = s.side := by
  unfold dropWriter; split <;> rfl

theorem side_disconnect (ok : Bool) : (s.disconnect ok).side = s.side :=
  side_clearPongs.trans (side_dropWriter ok)

theorem side_shutdownStream : s.shutdownStream.side = s.side := by
  unfold shutdownStream; split <;> rfl

theorem side_encode (op : ClientOp) (ok : Bool) : (s.encode cfg op ok).1.side = s.side := by
  unfold encode; split
  · rfl
  · split
    · unfold wrote; split <;> rfl
    · rfl

@[simp] theorem encode_channels (op : ClientOp) (ok : Bool) : (s.encode cfg op ok).1.channels = s.channels :=
  congrArg Side.channels (side_encode op ok)

theorem side_flushWriter (ok : Bool) : (s.flushWriter ok).1.side = s.side := by
  unfold flushWriter; split
  · rfl
  · split <;> rfl

/-! ## Section by section -/

/-- With no writer installed, `publish` and `try_publish` run the buffer's
`publish` on the frame's chunks, and record the frame when it succeeds. -/
theorem sideStep_bufferPublish (op : ClientOp) : SideStep cfg s (s.bufferPublish cfg op).1.side := by
  rcases he : s.write.buffer.encode (cfg.encode op) with ⟨b, e | ⟨⟩⟩
  · have hp : s.write.buffer.publish (cfg.encode op) = (b, .error e) := by simp [Buffer.publish, he]
    refine (SideStep.publishErr op e (by rw [hp])).of_side_eq ?_
    rw [hp]; unfold bufferPublish; rw [he]; rfl
  · have hp : s.write.buffer.publish (cfg.encode op) = (b.flush, .ok ()) := by simp [Buffer.publish, he]
    refine (SideStep.publishOk op (by rw [hp])).of_side_eq ?_
    rw [hp]; unfold bufferPublish; rw [he]; rfl

theorem sideStep_publishWrite (p : Pub) (io : List Bool) : SideStep cfg s (s.publishWrite cfg p io).1.side := by
  unfold publishWrite; split
  · exact sideStep_bufferPublish _
  · split
    · exact .keep
    · dsimp only; split
      · exact .of_eq (side_encode _ _)
      · exact .of_eq ((side_disconnect _).trans (side_encode _ _))

theorem sideStep_tryPublishWrite (p : Pub) (io : List Bool) :
    SideStep cfg s (s.tryPublishWrite cfg p io).1.side := by
  unfold tryPublishWrite; split
  · exact sideStep_bufferPublish _
  · split
    · exact .keep
    · dsimp only; split
      · exact .of_eq (side_encode _ _)
      · exact .of_eq ((side_disconnect _).trans (side_encode _ _))

theorem sideStep_subscribe (subject : String) (q : Option String) (io : List Bool) :
    SideStep cfg s (s.subscribe cfg subject q io).1.side := by
  unfold subscribe; split
  · exact .keep
  · dsimp only; split
    · exact SideStep.of_channel rfl _
    · refine SideStep.of_channel ?_ _
      exact side_encode _ _

theorem side_unsubscribe (sid : Nat) (io : List Bool) : (s.unsubscribe cfg sid io).1.side = s.side := by
  unfold unsubscribe; split
  · rfl
  · dsimp only; split
    · rfl
    · split <;> exact side_encode _ _

theorem side_flush (io : List Bool) : (s.flush cfg io).1.side = s.side := by
  unfold flush; split
  · rfl
  · dsimp only; split
    · rfl
    · split
      · rfl
      · split
        · exact side_encode _ _
        · split
          · exact (side_flushWriter _).trans (side_encode _ _)
          · split <;> exact (side_flushWriter _).trans (side_encode _ _)

theorem side_unsubAll (sids : List Nat) (io : List Bool) : (unsubAll cfg s sids io).side = s.side := by
  induction sids generalizing s io with
  | nil => rfl
  | cons sid rest ih =>
    unfold unsubAll; split
    · exact ih _
    · exact (ih _).trans (side_encode _ _)

theorem side_close (io : List Bool) : (s.close cfg io).side = s.side := by
  unfold close; split
  · rfl
  · exact side_clearPongs.trans ((side_flushWriter _).trans (side_unsubAll _ _))

theorem sideStep_callStep {c : Call} {io : List Bool} {b : Bool} {r : Sys × Call}
    (h : s.callStep cfg c io b = some r) : SideStep cfg s r.1.side := by
  cases c with
  | publishWrite p => cases h; exact sideStep_publishWrite _ _
  | tryPublishWrite p =>
    simp only [callStep] at h
    split at h <;> cases h
    · exact .keep
    · exact sideStep_tryPublishWrite _ _
  | subscribe subject q => cases h; exact sideStep_subscribe _ _ _
  | unsubscribe sid => cases h; exact .of_eq (side_unsubscribe _ _)
  | flush => cases h; exact .of_eq (side_flush _)
  | flushWait id => obtain ⟨_, -, rfl⟩ := Option.map_eq_some'.mp h; exact .keep
  | close => cases h; exact .of_eq (side_close _)
  | returned => cases h
  | _ => cases h; exact .keep

theorem side_reconnectFailed (c : Nat) (w : Writer) (io : List Bool) : (s.reconnectFailed c w io).side = s.side :=
  rfl

theorem side_reconnectInstall (info : ServerInfo) (c : Nat) (w : Writer) (pongs : List Waiter)
    (replayed : List ClientOp) (bytes : List UInt8) : (s.reconnectInstall info c w pongs replayed bytes).side = s.side :=
  side_foldl_complete pongs

theorem sideStep_reconnectLocked (info : ServerInfo) (c : Nat) (io : List Bool) :
    SideStep cfg s (s.reconnectLocked cfg info c io).side := by
  have h₁ (out : List Item) : ((s.dropWriter (io.headD true)).deliver c out).side = s.side :=
    (side_deliver c out).trans (side_dropWriter _)
  unfold reconnectLocked; dsimp only; split
  · exact .of_eq ((side_reconnectFailed ..).trans (h₁ _))
  · split
    · exact .of_take (h₁ _) ((side_reconnectFailed ..).trans (side_foldl_dropWaiter _))
    · split
      · exact .of_take (h₁ _) ((side_reconnectFailed ..).trans (side_foldl_dropWaiter _))
      · exact .of_take (h₁ _) ((side_reconnectInstall ..).trans (side_deliver ..))

theorem sideStep_dispatchOp (c : Nat) (op : ServerOp) (io : List Bool) :
    SideStep cfg s (s.dispatchOp cfg c op io).side := by
  unfold dispatchOp; split
  · exact .keep
  · split
    · exact .keep
    · dsimp only; split <;> exact .of_eq (side_encode _ _)
  · -- PONG: `pings_out = 0`, then the head of `pongs` is completed
    dsimp only; split
    · exact SideStep.clearPings.of_side_eq (side_complete _)
    · exact .clearPings
  all_goals
    try unfold deliverMsg
    try split
  all_goals first | exact .keep | exact .deliver _ _ _ ‹_›

theorem sideStep_supervisorStep {io : List Bool} {s' : Sys} (h : s.supervisorStep cfg io = some s') :
    SideStep cfg s s'.side := by
  unfold supervisorStep at h
  split at h <;> cases h
  · unfold reconnectCheck; split <;> exact .keep
  · exact sideStep_reconnectLocked ..
  · unfold dispatchCheck; split <;> exact .keep
  · exact .keep
  · exact sideStep_dispatchOp ..
  · exact .of_eq (side_dropWriter _)
  · exact .clearPings
  · unfold runCheck; split <;> exact .keep
  · exact .of_eq (side_flushWriter _)

theorem side_flusherFlush (io : List Bool) : (s.flusherFlush io).side = s.side := by
  unfold flusherFlush; split
  · rfl
  · dsimp only; split
    · exact side_flushWriter _
    · exact (side_disconnect _).trans (side_shutdownStream.trans (side_flushWriter _))

theorem sideStep_heartbeat (io : List Bool) : SideStep cfg s (s.heartbeat cfg io).side := by
  unfold heartbeat; split
  · exact .of_eq ((side_disconnect _).trans side_shutdownStream)
  · split
    · -- a PING, with `pings_out` below the bound
      next hmax _ =>
      have hlt : s.read.pingsOut < maxPingsOut := Nat.lt_of_not_le hmax
      dsimp only; split
      · exact .ping hlt
      · split
        · exact (SideStep.ping hlt).of_side_eq ((side_flushWriter _).trans (side_encode _ _))
        · exact (SideStep.ping hlt).of_side_eq
            ((side_disconnect _).trans (side_shutdownStream.trans ((side_flushWriter _).trans (side_encode _ _))))
    · exact .keep

end Sys

open Sys

/-- **What a step does to the side.** -/
theorem step_side {a : Action} {s' : Sys} (h : s.step cfg a = some s') : SideStep cfg s s'.side := by
  rcases step_inv h with ⟨c, -, rfl⟩ | ⟨i, io, b, t, r, -, hr, rfl⟩ | ⟨_ | info, -, rfl⟩ |
    ⟨c, _ | op, -, -, rfl⟩ | ⟨io, h⟩ | ⟨-, -, rfl⟩ | ⟨io, -, rfl⟩ | ⟨io, -, -, rfl⟩ | ⟨b, -, h⟩ | ⟨ms, rfl⟩
  · exact .keep
  · exact sideStep_callStep hr
  · exact .keep
  · exact .keep
  · exact .keep
  · cases op <;> exact .keep
  · exact sideStep_supervisorStep h
  · exact .keep
  · exact .of_eq (side_flusherFlush io)
  · exact sideStep_heartbeat io
  · unfold select at h
    split at h <;> (try split at h) <;> cases h <;> exact .keep
  · exact .keep

/-- **Along a run.** A property that every step keeps, and a relation that
every step makes and that composes, hold along every run. -/
theorem Sys.exec_inv {I : Sys → Prop} {R : Sys → Sys → Prop} (hR : ∀ s, R s s)
    (htrans : ∀ {s₁ s₂ s₃}, R s₁ s₂ → R s₂ s₃ → R s₁ s₃)
    (hstep : ∀ {s s' a}, I s → s.step cfg a = some s' → I s' ∧ R s s') :
    ∀ {s s' : Sys} {actions : List Action}, I s → s.exec cfg actions = some s' → I s' ∧ R s s'
  | s, s', [], hs, h => by simp only [Sys.exec, Option.some.injEq] at h; exact h ▸ ⟨hs, hR s⟩
  | s, s', a :: rest, hs, h => by
    simp only [Sys.exec] at h
    cases ha : s.step cfg a with
    | none => simp [ha] at h
    | some s₁ =>
      rw [ha, Option.some_bind] at h
      obtain ⟨hs₁, hR₁⟩ := hstep hs ha
      obtain ⟨hs', hR'⟩ := Sys.exec_inv hR htrans hstep hs₁ h
      exact ⟨hs', htrans hR₁ hR'⟩

/-! ## `pings_out` -/

theorem SideStep.pingsOut_le {x : Side} (h : SideStep cfg s x) (hs : s.read.pingsOut ≤ maxPingsOut) :
    x.pingsOut ≤ maxPingsOut := by
  cases h with
  | clearPings => exact Nat.zero_le _
  | ping hlt => exact hlt
  | _ => exact hs

/-- **`pings_out` stays within `MAX_PINGS_OUT`.** In every reachable state
`read.pings_out ≤ MAX_PINGS_OUT`. The heartbeat adds one only below the bound,
and trips the connection at it; nothing else raises it. So the `u8`'s
`pings_out += 1` never overflows. -/
theorem pings_out_within_max {s : Sys} (h : Reachable cfg s) : s.read.pingsOut ≤ maxPingsOut := by
  induction h with
  | init => exact Nat.zero_le _
  | step _ _ hs ih => exact (step_side hs).pingsOut_le ih

/-- Connect, then two heartbeats two minutes apart with no PONG between them. -/
def twoPingsRun : List Action :=
  [.connected (some ⟨true⟩), .supervisor [], .supervisor [], .select true,
   .tick (pingInterval + 1), .flusher [], .tick (pingInterval + 1), .flusher []]

theorem pings_out_reaches_max :
    ∃ s, Reachable (natsConfig 64) s ∧ s.read.pingsOut = 2 ∧ s.read.pingsOut ≤ maxPingsOut := by
  obtain ⟨s, hs, h⟩ := Reachable.of_exec (natsConfig 64) (fun s => s.read.pingsOut == 2) twoPingsRun (by decide)
  exact ⟨s, hs, beq_iff_eq.1 h, pings_out_within_max hs⟩

end NatsClient

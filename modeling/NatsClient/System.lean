import NatsClient.Supervisor

/-!
# The whole client, one critical section at a time

`Sys.step` runs one step of one thread: a user call's next section, the
supervisor's, the flusher/heartbeat's, or the `connect` caller's `select!`; or
the environment acts (a user thread calls in, which needs the `Client` that
`connect` returned; time passes; the connector or the decoder returns). Each section holds its locks from its first acquisition to
its last release with no acquisition after a release, so running it as one step
loses no behaviour on the state the locks guard.

The environment's freedom is part of the action: the outcome of every stream
call (`io`), whether `try_lock` finds the lock taken, what `connect` and
`decode` return. The server only answers PINGs it received (`serverCanSend`).
The heartbeat's `recv_timeout` may time out whenever no signal is pending.

`Reachable cfg` is every state some run reaches from `Sys.init cfg`;
`exec` runs a list of actions, and `Reachable.exec` turns a run into
reachability.
-/

namespace NatsClient

/-- `MAX_PINGS_OUT`. -/
def maxPingsOut : Nat := 2

/-- `PING_INTERVAL`, two minutes, in the milliseconds of `Sys.clock`. -/
def pingInterval : Nat := 2 * 60 * 1000

/-- The methods a user thread calls. -/
def Call.isEntry : Call → Bool
  | .publish _ | .tryPublish _ | .subscribe .. | .unsubscribe _ | .flush | .close
  | .serverInfo => true
  | _ => false

/-- One step of one thread, with the environment's choices for it. -/
inductive Action
  /-- A user thread calls `c` on the client `connect` returned. -/
  | start (c : Call)
  /-- User thread `i` runs its next section; `contended` makes `try_lock` fail. -/
  | call (i : Nat) (io : List Bool) (contended : Bool)
  /-- `connector.connect` returns. -/
  | connected (info : Option ServerInfo)
  /-- `proto::decode` returns. -/
  | decoded (op : Option ServerOp)
  /-- The supervisor's next section. -/
  | supervisor (io : List Bool)
  /-- The flusher's `recv_timeout` returns the pending signal. -/
  | signal
  /-- The flusher's section: the flush after a signal, or the timeout branch. -/
  | flusher (io : List Bool)
  /-- `connect`'s `select!` returns, on the PONG arm or on `run`'s arm. -/
  | select (pongArm : Bool)
  /-- Time passes. -/
  | tick (ms : Nat)

namespace Sys

variable (cfg : Config) (s : Sys)

/-- The flusher, after a signal: under `state.write`, flush the writer; on an
error shut the stream down and disconnect. -/
def flusherFlush (io : List Bool) : Sys :=
  match s.write.writer with
  | none => { s with flusher := .waiting }
  | some _ =>
    let r := s.flushWriter (io.headD true)
    match r.2 with
    | .ok () => { r.1 with flusher := .waiting }
    | .error _ => { (r.1.shutdownStream.disconnect (io.getD 1 true)) with flusher := .waiting }

/-- The heartbeat, when `recv_timeout` timed out, under `state.write` and
`state.read`: trip the connection after `MAX_PINGS_OUT` unanswered PINGs, or
send a PING when the server has been idle for `PING_INTERVAL`. -/
def heartbeat (io : List Bool) : Sys :=
  if maxPingsOut ≤ s.read.pingsOut then s.shutdownStream.disconnect (io.headD true)
  else if pingInterval < s.clock - s.read.lastActive then
    let s := { s with read.pingsOut := s.read.pingsOut + 1, read.pongs := s.read.pongs ++ [Waiter.kicker] }
    match s.write.writer with
    | none => s
    | some _ =>
      let r := (s.encode cfg .ping (io.headD true)).1.flushWriter (io.getD 1 true)
      match r.2 with
      | .ok () => r.1
      | .error _ => r.1.shutdownStream.disconnect (io.getD 2 true)
  else s

/-- `connect`'s `select!`: the PONG arm is ready once one-shot 0 is no longer
pending, whether it was completed or dropped; `run`'s arm once `run` returned,
where `Ok` reaches `unreachable!()`. -/
def select (pongArm : Bool) : Option Sys :=
  if pongArm then
    if s.oneshots.getD 0 .pending ≠ .pending then
      some { s with main := .returned (.ok ()), flusher := .waiting }
    else none
  else
    match s.runResult with
    | some (.error e) => some { s with main := .returned (.error e) }
    | some (.ok ()) => some { s with main := .panicked }
    | none => none

/-- A user call's next section; `none` while it blocks. -/
def callStep (c : Call) (io : List Bool) (contended : Bool) : Option (Sys × Call) :=
  match c with
  | .publish p => some (s, s.publishInfo p)
  | .publishCheck p => some (s, s.publishCheck p)
  | .publishWrite p => let r := s.publishWrite cfg p io; some (r.1, .returned r.2)
  | .tryPublish p => some (s, s.tryPublishCheck p)
  | .tryPublishWrite p =>
    if contended then some (s, .returned (.tried none))
    else let r := s.tryPublishWrite cfg p io; some (r.1, .returned r.2)
  | .subscribe subject queueGroup =>
    let r := s.subscribe cfg subject queueGroup io; some (r.1, .returned r.2)
  | .unsubscribe sid => let r := s.unsubscribe cfg sid io; some (r.1, .returned r.2)
  | .flush => some (s.flush cfg io)
  | .flushWait id => (s.flushWait id).map fun r => (s, .returned r)
  | .close => some ({ s.close cfg io with closed := true }, .returned (.unit (.ok ())))
  | .serverInfo => some (s, .returned (.info s.serverInfo))
  | .returned _ => none

/-- The supervisor's next section, where it needs no input from the connector
or the decoder. -/
def supervisorStep (io : List Bool) : Option Sys :=
  match s.supervisor with
  | .reconnect info c => some (s.reconnectCheck info c)
  | .reconnectLocked info c => some (s.reconnectLocked cfg info c io)
  | .dispatchCheck c op => some (s.dispatchCheck c op)
  | .dispatchActivity c op => some (s.dispatchActivity c op)
  | .dispatchOp c op => some (s.dispatchOp cfg c op io)
  | .disconnected => some (s.disconnected io)
  | .clearPings => some s.clearPings
  | .checkShutdown => some s.runCheck
  | .finalFlush => some (s.finalFlush io)
  | .connect | .dispatch _ | .exited => none

/-- One step of the system; `none` when the action is not enabled. -/
def step : Action → Option Sys
  | .start c => if c.isEntry ∧ s.main.isOk then some { s with calls := s.calls ++ [⟨c, c, s.closed⟩] } else none
  | .call i io contended =>
    match s.calls[i]? with
    | some t =>
      (s.callStep cfg t.call io contended).map fun r =>
        { r.1 with calls := s.calls.set i { t with call := r.2 } }
    | none => none
  | .connected r => if s.supervisor = .connect then some (s.connected r) else none
  | .decoded r =>
    match s.supervisor with
    | .dispatch c => if r.all (s.serverCanSend cfg c) then some (s.decoded c r) else none
    | _ => none
  | .supervisor io => s.supervisorStep cfg io
  | .signal =>
    if s.flusher = .waiting ∧ s.kicked then some { s with kicked := false, flusher := .signalled }
    else none
  | .flusher io =>
    match s.flusher with
    | .signalled => some (s.flusherFlush io)
    | .waiting => if s.kicked then none else some (s.heartbeat cfg io)
    | .notStarted => none
  | .select pongArm => if s.main matches .waiting then s.select pongArm else none
  | .tick ms => some { s with clock := s.clock + ms }

/-- Run `actions` in order; `none` once one is not enabled. -/
def exec : Sys → List Action → Option Sys
  | s, [] => some s
  | s, a :: rest => (s.step cfg a).bind (exec · rest)

/-! ## What a step can do -/

variable {cfg s}

theorem frame_flusherFlush (io : List Bool) : Frame s (s.flusherFlush io) := by
  unfold flusherFlush; split
  · rfl
  · dsimp only; split
    · exact frame_flushWriter _
    · exact (frame_disconnect _).after (frame_shutdownStream.after (frame_flushWriter _))

theorem frame_heartbeat (io : List Bool) : Frame s (s.heartbeat cfg io) := by
  unfold heartbeat; split
  · exact (frame_disconnect _).after frame_shutdownStream
  · split
    · dsimp only; split
      · rfl
      · split
        · exact (frame_flushWriter _).after (frame_encode _ _)
        · exact (frame_disconnect _).after
            (frame_shutdownStream.after ((frame_flushWriter _).after (frame_encode _ _)))
    · rfl

theorem frame_select {b : Bool} {s' : Sys} (h : s.select b = some s') : Frame s s' := by
  unfold select at h
  split at h
  · split at h <;> cases h; rfl
  · split at h <;> cases h <;> rfl

theorem frame_supervisorStep {io : List Bool} {s' : Sys} (h : s.supervisorStep cfg io = some s') :
    Frame s s' := by
  unfold supervisorStep at h
  split at h <;> cases h
  · unfold reconnectCheck; split <;> rfl
  · exact frame_reconnectLocked ..
  · unfold dispatchCheck; split <;> rfl
  · rfl
  · exact frame_dispatchOp ..
  · exact frame_dropWriter _
  · rfl
  · unfold runCheck; split <;> rfl
  · exact frame_flushWriter _


/-- A user call's section leaves `ctl` alone, or it is `subscribe`,
`unsubscribe` or `close`. -/
theorem callStep_cases {c : Call} {io : List Bool} {b : Bool} {r : Sys × Call}
    (h : s.callStep cfg c io b = some r) :
    Frame s r.1 ∨
    (∃ subject q, c = .subscribe subject q ∧ r.1 = (s.subscribe cfg subject q io).1) ∨
    (∃ sid, c = .unsubscribe sid ∧ r.1 = (s.unsubscribe cfg sid io).1) ∨
    (c = .close ∧ r.1 = { s.close cfg io with closed := true }) := by
  cases c with
  | publishWrite p => cases h; exact .inl (frame_publishWrite _ _)
  | tryPublishWrite p =>
    simp only [callStep] at h
    split at h <;> cases h
    · exact .inl rfl
    · exact .inl (frame_tryPublishWrite _ _)
  | subscribe subject q => cases h; exact .inr (.inl ⟨subject, q, rfl, rfl⟩)
  | unsubscribe sid => cases h; exact .inr (.inr (.inl ⟨sid, rfl, rfl⟩))
  | flush => cases h; exact .inl (frame_flush _)
  | flushWait id => obtain ⟨_, -, rfl⟩ := Option.map_eq_some'.mp h; exact .inl rfl
  | close => cases h; exact .inr (.inr (.inr ⟨rfl, rfl⟩))
  | returned => cases h
  | _ => cases h; exact .inl rfl

theorem step_call {i : Nat} {io : List Bool} {b : Bool} {t : UserThread} {r : Sys × Call}
    (ht : s.calls[i]? = some t) (hr : s.callStep cfg t.call io b = some r) :
    s.step cfg (.call i io b) = some { r.1 with calls := s.calls.set i { t with call := r.2 } } := by
  simp [step, ht, hr]

/-- **What a step can do**, action by action, guards included. -/
theorem step_inv {a : Action} {s' : Sys} (h : s.step cfg a = some s') :
    (∃ c, (c.isEntry = true ∧ s.main.isOk = true) ∧ s' = { s with calls := s.calls ++ [⟨c, c, s.closed⟩] }) ∨
    (∃ i io b t r, s.calls[i]? = some t ∧ s.callStep cfg t.call io b = some r ∧
      s' = { r.1 with calls := s.calls.set i { t with call := r.2 } }) ∨
    (∃ r, s.supervisor = .connect ∧ s' = s.connected r) ∨
    (∃ c r, s.supervisor = .dispatch c ∧ r.all (s.serverCanSend cfg c) = true ∧ s' = s.decoded c r) ∨
    (∃ io, s.supervisorStep cfg io = some s') ∨
    (s.flusher = .waiting ∧ s.kicked = true ∧ s' = { s with kicked := false, flusher := .signalled }) ∨
    (∃ io, s.flusher = .signalled ∧ s' = s.flusherFlush io) ∨
    (∃ io, s.flusher = .waiting ∧ s.kicked = false ∧ s' = s.heartbeat cfg io) ∨
    (∃ b, (s.main matches .waiting) = true ∧ s.select b = some s') ∨
    (∃ ms, s' = { s with clock := s.clock + ms }) := by
  cases a with
  | start c => simp only [step] at h; split at h <;> cases h; exact .inl ⟨c, ‹_›, rfl⟩
  | call i io b =>
    simp only [step] at h
    split at h
    · obtain ⟨r, hr, rfl⟩ := Option.map_eq_some'.mp h
      exact .inr (.inl ⟨i, io, b, _, r, ‹_›, hr, rfl⟩)
    · cases h
  | connected r =>
    simp only [step] at h; split at h <;> cases h; exact .inr (.inr (.inl ⟨r, ‹_›, rfl⟩))
  | decoded r =>
    simp only [step] at h
    split at h
    · split at h <;> cases h; exact .inr (.inr (.inr (.inl ⟨_, r, ‹_›, ‹_›, rfl⟩)))
    · cases h
  | supervisor io => exact .inr (.inr (.inr (.inr (.inl ⟨io, h⟩))))
  | signal =>
    simp only [step] at h
    split at h
    · next hw => cases h; exact .inr (.inr (.inr (.inr (.inr (.inl ⟨hw.1, hw.2, rfl⟩)))))
    · cases h
  | flusher io =>
    simp only [step] at h
    split at h <;> (try split at h) <;> cases h
    · exact .inr (.inr (.inr (.inr (.inr (.inr (.inl ⟨io, ‹_›, rfl⟩))))))
    · exact .inr (.inr (.inr (.inr (.inr (.inr (.inr (.inl ⟨io, ‹_›, Bool.eq_false_iff.2 ‹_›, rfl⟩)))))))
  | select b =>
    simp only [step] at h
    split at h
    · exact .inr (.inr (.inr (.inr (.inr (.inr (.inr (.inr (.inl ⟨b, ‹_›, h⟩))))))))
    · cases h
  | tick ms => cases h; exact .inr (.inr (.inr (.inr (.inr (.inr (.inr (.inr (.inr ⟨ms, rfl⟩))))))))

/-- A step starts a user thread, runs a section of a user call, or leaves
`ctl` alone. -/
theorem step_cases {a : Action} {s' : Sys} (h : s.step cfg a = some s') :
    (∃ c, (c.isEntry = true ∧ s.main.isOk = true) ∧ s' = { s with calls := s.calls ++ [⟨c, c, s.closed⟩] }) ∨
    (∃ i io b t r, s.calls[i]? = some t ∧ s.callStep cfg t.call io b = some r ∧
      s' = { r.1 with calls := s.calls.set i { t with call := r.2 } }) ∨
    Frame s s' := by
  rcases step_inv h with h | h | ⟨r, -, rfl⟩ | ⟨c, r, -, -, rfl⟩ | ⟨io, h⟩ | ⟨-, -, rfl⟩ | ⟨io, -, rfl⟩ |
    ⟨io, -, -, rfl⟩ | ⟨b, -, h⟩ | ⟨ms, rfl⟩
  · exact .inl h
  · exact .inr (.inl h)
  · exact .inr (.inr (by cases r <;> rfl))
  · exact .inr (.inr (frame_decoded _ _))
  · exact .inr (.inr (frame_supervisorStep h))
  · exact .inr (.inr rfl)
  · exact .inr (.inr (frame_flusherFlush io))
  · exact .inr (.inr (frame_heartbeat io))
  · exact .inr (.inr (frame_select h))
  · exact .inr (.inr rfl)

end Sys

/-- The states the client reaches from `Sys.init cfg`. -/
inductive Reachable (cfg : Config) : Sys → Prop
  | init : Reachable cfg (Sys.init cfg)
  | step {s s' : Sys} (a : Action) : Reachable cfg s → s.step cfg a = some s' → Reachable cfg s'

/-- A state a run reaches from a reachable state is reachable. -/
theorem Reachable.exec {cfg : Config} :
    ∀ {s s' : Sys} {actions : List Action}, Reachable cfg s →
      s.exec cfg actions = some s' → Reachable cfg s'
  | s, s', [], hs, h => by simp only [Sys.exec, Option.some.injEq] at h; exact h ▸ hs
  | s, s', a :: rest, hs, h => by
    simp only [Sys.exec] at h
    cases ha : s.step cfg a with
    | none => simp [ha] at h
    | some s₁ =>
      rw [ha, Option.some_bind] at h
      exact Reachable.exec (hs.step a ha) h

/-- A run from a reachable state whose last state satisfies `p` gives a
reachable state satisfying `p`. -/
theorem Reachable.of_exec_from {cfg : Config} {s : Sys} (hs : Reachable cfg s) (p : Sys → Bool)
    (actions : List Action) (h : (s.exec cfg actions).map p = some true) :
    ∃ s', Reachable cfg s' ∧ p s' = true := by
  cases hr : s.exec cfg actions with
  | none => simp [hr] at h
  | some s' =>
    simp only [hr, Option.map_some', Option.some.injEq] at h
    exact ⟨s', hs.exec hr, h⟩

/-- A run from `Sys.init cfg` whose last state satisfies `p` gives a reachable
state satisfying `p`; evaluating the run decides the premise. -/
theorem Reachable.of_exec (cfg : Config) (p : Sys → Bool) (actions : List Action)
    (h : ((Sys.init cfg).exec cfg actions).map p = some true) : ∃ s, Reachable cfg s ∧ p s = true :=
  Reachable.init.of_exec_from p actions h

end NatsClient

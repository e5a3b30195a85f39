import NatsClient.Connections

/-!
# A shut-down supervisor exits

`close` sets the shutdown flag. It does not shut the connection down, so the
supervisor sees the flag only at one of its checks: `check_shutdown` at the
top of `reconnect`, after each frame `dispatch` decodes, and at the bottom of
`run`'s loop. Once the client is shut down, every stage the supervisor can be
in has a step that brings it closer to `run`'s return and the final flush.

* `Supervisor.exitRank` — how many steps a shut-down supervisor is from
  exiting, stage by stage;
* `exit_step` — on a shut-down client, the supervisor, the connector or the
  server can always move the supervisor to a stage of lower rank;
* `shutdown_supervisor_exits` — **a shut-down supervisor can always exit**:
  from every state of a shut-down client, at most seven steps reach `exited`.
  The steps are the supervisor's sections, a connection from the connector,
  and the end of the stream the dispatcher reads. No user call is needed.
-/

namespace NatsClient

open Sys

variable {cfg : Config} {s : Sys}

/-- The steps of the supervisor thread, with the connector's and the server's
answers to it. -/
def Action.bySupervisor : Action → Bool
  | .connected _ | .decoded _ | .supervisor _ => true
  | _ => false

/-- How many steps a shut-down supervisor is from exiting: `reconnect` and
`dispatch` leave at their `check_shutdown`, the match arm goes back to
`dispatch`, and `reconnect` under the locks ends in `dispatch` or fails. -/
def Supervisor.exitRank : Supervisor → Nat
  | .exited => 0
  | .finalFlush => 1
  | .checkShutdown => 2
  | .clearPings => 3
  | .disconnected | .reconnect _ _ => 4
  | .dispatchCheck _ _ | .dispatch _ | .connect => 5
  | .dispatchOp _ _ | .reconnectLocked _ _ => 6
  | .dispatchActivity _ _ => 7

/-- A supervisor section that lowers the rank. -/
theorem exit_of_supervisorStep (hsd : s.shutdown = true) {s' : Sys} (h : s.supervisorStep cfg [] = some s')
    (hr : s'.supervisor.exitRank < s.supervisor.exitRank) :
    ∃ a s', a.bySupervisor ∧ s.step cfg a = some s' ∧ s'.shutdown = true ∧
      s'.supervisor.exitRank < s.supervisor.exitRank :=
  ⟨.supervisor [], s', rfl, h, (frame_supervisorStep h).shutdown.trans hsd, hr⟩

/-- **A shut-down supervisor always has a step towards exiting.** -/
theorem exit_step (hsd : s.shutdown = true) (hne : s.supervisor ≠ .exited) :
    ∃ a s', a.bySupervisor ∧ s.step cfg a = some s' ∧ s'.shutdown = true ∧
      s'.supervisor.exitRank < s.supervisor.exitRank := by
  have hcheck : s.checkShutdown = .error closedError := by simp [checkShutdown, hsd]
  cases hs : s.supervisor
  case exited => exact absurd hs hne
  case connect =>
    -- the connector returns a connection, and `reconnect` checks the flag
    exact ⟨.connected (some s.serverInfo), s.connected (some s.serverInfo), rfl, by simp [step, hs], hsd,
      by simp [connected, hs, Supervisor.exitRank]⟩
  case dispatch c =>
    -- the stream ends
    exact ⟨.decoded none, s.decoded c none, rfl, by simp [step, hs], hsd,
      by simp [decoded, hs, Supervisor.exitRank]⟩
  -- every other stage is a section of the supervisor thread
  all_goals refine hs ▸ @exit_of_supervisorStep cfg s hsd _ (by rw [supervisorStep, hs]) ?_
  case reconnect => simp [reconnectCheck, hcheck, hs, Supervisor.exitRank]
  case reconnectLocked info c =>
    rcases (@reconnectLocked_outcome cfg s info c []).2.1 with ⟨-, hsup⟩ | ⟨-, -, -, hsup⟩ <;>
      simp [hsup, hs, Supervisor.exitRank]
  case dispatchCheck => simp [dispatchCheck, hcheck, hs, Supervisor.exitRank]
  case dispatchActivity => simp [dispatchActivity, hs, Supervisor.exitRank]
  case dispatchOp c op =>
    rcases @dispatchOp_supervisor cfg s c op [] with hsup | hsup <;> simp [hsup, hs, Supervisor.exitRank]
  case disconnected => simp [Sys.disconnected, hs, Supervisor.exitRank]
  case clearPings => simp [clearPings, hs, Supervisor.exitRank]
  case checkShutdown => simp [runCheck, hcheck, hs, Supervisor.exitRank]
  case finalFlush => simp [finalFlush, hs, Supervisor.exitRank]

/-- **A shut-down supervisor can always exit.** From every state of a
shut-down client, at most `exitRank` steps of the supervisor, the connector and
the server reach `exited`, through `run`'s return and the final flush. -/
theorem shutdown_supervisor_exits (hsd : s.shutdown = true) :
    ∃ actions s', (∀ a ∈ actions, a.bySupervisor) ∧ actions.length ≤ s.supervisor.exitRank ∧
      s.exec cfg actions = some s' ∧ s'.supervisor = .exited := by
  suffices h : ∀ k (s : Sys), s.supervisor.exitRank = k → s.shutdown = true → ∃ actions s',
      (∀ a ∈ actions, a.bySupervisor) ∧ actions.length ≤ k ∧ s.exec cfg actions = some s' ∧
        s'.supervisor = .exited
    from h _ s rfl hsd
  intro k
  induction k using Nat.strong_induction_on with
  | _ k ih =>
    intro s hk hsd
    by_cases hx : s.supervisor = .exited
    · exact ⟨[], s, nofun, Nat.zero_le _, rfl, hx⟩
    obtain ⟨a, s₁, ha, h₁, hsd₁, hr⟩ := @exit_step cfg s hsd hx
    obtain ⟨as, s', has, hlen, hex, hs'⟩ := ih _ (hk ▸ hr) s₁ rfl hsd₁
    refine ⟨a :: as, s', ?_, by simp only [List.length_cons]; omega, by simp only [exec, h₁, Option.some_bind, hex],
      hs'⟩
    intro b hb
    rcases List.mem_cons.1 hb with rfl | hb
    exacts [ha, has b hb]

/-- Connected, then `close`: the dispatcher is still reading the connection. -/
def closeWhileDispatchingRun : List Action := connectRun ++ [.select true, .start .close, .call 0 [] false]

theorem closed_dispatcher_exits :
    ∃ s, Reachable (natsConfig 64) s ∧ s.shutdown = true ∧ s.supervisor = .dispatch 0 ∧
      ∃ actions s', (∀ a ∈ actions, a.bySupervisor) ∧ actions.length ≤ s.supervisor.exitRank ∧
        s.exec (natsConfig 64) actions = some s' ∧ s'.supervisor = .exited := by
  obtain ⟨s, hs, h⟩ := Reachable.of_exec (natsConfig 64) (fun s => s.shutdown && s.supervisor == .dispatch 0)
    closeWhileDispatchingRun (by decide)
  simp only [Bool.and_eq_true, beq_iff_eq] at h
  exact ⟨s, hs, h.1, h.2, shutdown_supervisor_exits h.1⟩

end NatsClient

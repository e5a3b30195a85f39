import NatsClient.Subs

/-!
# The writer, the dispatcher and the newest connection

`run` wraps each new connection in a `BufReader` and a `BufWriter`, installs
the writer in `reconnect`, and drops it once `dispatch` fails on the reader.
No other section installs a writer. So an installed writer and the dispatcher
always share one connection, the newest the connector returned:

* `ConnInv` — the invariant: an installed writer is on the newest connection,
  and the supervisor is dispatching it or has just left `dispatch`; the
  connection the supervisor reconnects to or dispatches is the newest;
* `dispatcher_and_writer_share_connection` — **the writer writes where the
  dispatcher reads**: the PONG `dispatch` encodes for a PING goes back on the
  PING's connection, and a PONG completes a queued sender only when it came
  from the installed writer's connection;
* `final_flush_finds_no_writer` — **the final flush writes nothing**: once
  `run` has returned no writer is installed, so the flush the supervisor
  thread makes before the close callback finds none;
* `superseded_connection_untouched` — **an old connection is left alone**:
  along every run, once the connector has returned a newer connection, an
  older one receives no item and loses no frame.
-/

namespace NatsClient

open Sys

/-- The connection `dispatch` reads, while the supervisor is inside it. -/
def Supervisor.dispatchStream : Supervisor → Option Nat
  | .dispatch c | .dispatchCheck c _ | .dispatchActivity c _ | .dispatchOp c _ => some c
  | _ => none

/-- What every step keeps about the writer, the supervisor and the connections. -/
structure ConnInv (s : Sys) : Prop where
  /-- An installed writer is on the newest connection, which the supervisor is
  dispatching, or has just left `dispatch` on and is about to drop. -/
  writer : ∀ w ∈ s.write.writer, w.stream + 1 = s.streams.length ∧
    (s.supervisor.dispatchStream = some w.stream ∨ s.supervisor = .disconnected)
  /-- The connection the supervisor dispatches is the newest. -/
  dispatch : ∀ c ∈ s.supervisor.dispatchStream, c + 1 = s.streams.length
  /-- The connection the supervisor reconnects to is the newest. -/
  reconnect : ∀ c ∈ s.supervisor.reconnectStream, c + 1 = s.streams.length

variable {cfg : Config} {s s' : Sys}

theorem ConnInv.init : ConnInv (Sys.init cfg) := ⟨nofun, nofun, nofun⟩

/-- Outside `dispatch` no writer is installed. -/
theorem ConnInv.writer_none (hi : ConnInv s) {st : Supervisor} (hs : s.supervisor = st)
    (hd : st.dispatchStream = none) (hn : st ≠ .disconnected) : s.write.writer = none :=
  Option.eq_none_iff_forall_not_mem.2 fun w hw =>
    (hi.writer w hw).2.elim (fun h => by rw [hs, hd] at h; cases h) (hs ▸ hn)

/-- With no writer, and the supervisor neither reconnecting nor dispatching,
`ConnInv` holds. -/
theorem ConnInv.of_none (hw : s.write.writer = none) (hd : s.supervisor.dispatchStream = none)
    (hr : s.supervisor.reconnectStream = none) : ConnInv s where
  writer w h := by rw [hw] at h; cases h
  dispatch c h := by rw [hd] at h; cases h
  reconnect c h := by rw [hr] at h; cases h

/-- A `Local` step that keeps the supervisor keeps `ConnInv`. -/
theorem ConnInv.of_local (hi : ConnInv s) (h : Local s s') (hsup : s'.supervisor = s.supervisor) :
    ConnInv s' where
  writer w' hw' := by
    obtain ⟨w, hw, heq⟩ := h.writer w' hw'
    rw [heq, h.length, hsup]; exact hi.writer w hw
  dispatch c hc := by rw [h.length]; exact hi.dispatch c (hsup ▸ hc)
  reconnect c hc := by rw [h.length]; exact hi.reconnect c (hsup ▸ hc)

/-- A `Local` step inside `dispatch` on one connection keeps `ConnInv`. -/
theorem ConnInv.of_dispatch (hi : ConnInv s) (h : Local s s') (hne : s.supervisor ≠ .disconnected)
    (hd : s'.supervisor.dispatchStream = s.supervisor.dispatchStream)
    (hr : s'.supervisor.reconnectStream = none) : ConnInv s' where
  writer w' hw' := by
    obtain ⟨w, hw, heq⟩ := h.writer w' hw'
    rw [heq, h.length, hd]; exact ⟨(hi.writer w hw).1, .inl ((hi.writer w hw).2.resolve_right hne)⟩
  dispatch c hc := by rw [h.length]; exact hi.dispatch c (hd ▸ hc)
  reconnect c hc := by rw [hr] at hc; cases hc

/-- A `Local` step that leaves `dispatch`, about to drop the writer, keeps `ConnInv`. -/
theorem ConnInv.of_disconnected (hi : ConnInv s) (h : Local s s') (hs : s'.supervisor = .disconnected) :
    ConnInv s' where
  writer w' hw' := by
    obtain ⟨w, hw, heq⟩ := h.writer w' hw'
    rw [heq, h.length, hs]; exact ⟨(hi.writer w hw).1, .inr rfl⟩
  dispatch c hc := by rw [hs] at hc; cases hc
  reconnect c hc := by rw [hs] at hc; cases hc

/-! ## What each section does to the writer and the supervisor -/

/-- A step that keeps the connections and the writer is `Local`. -/
theorem Sys.Local.of_streams (hs : s'.streams = s.streams) (hw : s'.write.writer = s.write.writer) : Local s s' :=
  ⟨by rw [hs], fun c _ => by simp only [Sys.wireAt, hs], fun w h => ⟨w, hw ▸ h, rfl⟩⟩

theorem local_close (io : List Bool) : Local s (s.close cfg io) ∧ (s.close cfg io).supervisor = s.supervisor := by
  unfold close; split
  · exact ⟨.refl, rfl⟩
  · let s₀ : Sys := { s with shutdown := true, read.subscriptions := ∅ }
    have h₀ : Local s s₀ := .of_streams rfl rfl
    exact ⟨h₀.trans ((local_unsubAll _ _).trans ((quiet_flushWriter _).trans_wire wire_clearPongs).toLocal),
      by simp [s₀, unsubAll_supervisor]⟩

/-- A user call's section writes only through the installed writer, and leaves
the supervisor alone. -/
theorem callStep_local {c : Call} {io : List Bool} {b : Bool} {r : Sys × Call}
    (h : s.callStep cfg c io b = some r) : Local s r.1 ∧ r.1.supervisor = s.supervisor := by
  cases c with
  | publishWrite p => cases h; exact ⟨(quiet_publishWrite p io).toLocal, publishWrite_supervisor p io⟩
  | tryPublishWrite p =>
    simp only [callStep] at h
    split at h <;> cases h
    · exact ⟨.refl, rfl⟩
    · exact ⟨(quiet_tryPublishWrite p io).toLocal, tryPublishWrite_supervisor p io⟩
  | subscribe subject q =>
    cases h
    cases hsd : s.shutdown
    · obtain ⟨s₂, hloc, hsup, -, -, -, -, heq⟩ := @subscribe_spec cfg _ hsd subject q io
      rw [heq]; exact ⟨hloc.trans (.of_streams rfl rfl), hsup⟩
    · rw [subscribe_of_shutdown hsd]; exact ⟨.refl, rfl⟩
  | unsubscribe sid =>
    cases h
    cases hl : s.read.subscriptions.lookup sid with
    | none => rw [unsubscribe_of_lookup sid hl]; exact ⟨.refl, rfl⟩
    | some sub => exact ⟨(@unsubscribe_spec cfg _ _ _ hl io).1, (@unsubscribe_spec cfg _ _ _ hl io).2.1⟩
  | flush => cases h; exact ⟨(quiet_flush io).toLocal, flush_supervisor io⟩
  | flushWait id => obtain ⟨_, -, rfl⟩ := Option.map_eq_some'.mp h; exact ⟨.refl, rfl⟩
  | close => cases h; exact ⟨(local_close io).1.trans (.of_streams rfl rfl), (local_close io).2⟩
  | returned => cases h
  | _ => cases h; exact ⟨.refl, rfl⟩

/-- `dispatch`'s match arm goes back to `dispatch`, or leaves it on an error. -/
theorem dispatchOp_supervisor (c : Nat) (op : ServerOp) (io : List Bool) :
    (s.dispatchOp cfg c op io).supervisor = .dispatch c ∨ (s.dispatchOp cfg c op io).supervisor = .disconnected := by
  unfold dispatchOp; split
  · exact .inl rfl
  · split
    · exact .inl rfl
    · dsimp only; split
      · exact .inl rfl
      · exact .inr rfl
  · dsimp only; split <;> exact .inl rfl
  all_goals exact .inl rfl

/-- `reconnect` under the locks onto connection `c` ends with no writer and the
supervisor at `clearPings`, or with a writer on `c` and the supervisor
dispatching `c`. It writes only to `c` and to the connection of the writer it
drops. -/
theorem reconnectLocked_outcome (info : ServerInfo) (c : Nat) (io : List Bool) :
    (s.reconnectLocked cfg info c io).streams.length = s.streams.length ∧
    ((s.reconnectLocked cfg info c io).write.writer = none ∧
        (s.reconnectLocked cfg info c io).supervisor = .clearPings ∨
      ∃ w ∈ (s.reconnectLocked cfg info c io).write.writer, w.stream = c ∧
        (s.reconnectLocked cfg info c io).supervisor = .dispatch c) ∧
    ∀ d, d ≠ c → (∀ w ∈ s.write.writer, w.stream ≠ d) → (s.reconnectLocked cfg info c io).wireAt d = s.wireAt d := by
  have hlen (ok : Bool) : (s.dropWriter ok).streams.length = s.streams.length := (quiet_dropWriter ok).length
  have hwire (d : Nat) (hd : d ≠ c) (hw : ∀ w ∈ s.write.writer, w.stream ≠ d) (ok : Bool) (f : Stream → Stream) :
      ((s.dropWriter ok).streams.modify f c)[d]? = s.streams[d]? := by
    simp [List.getElem?_modify, hd.symm, getElem?_streams_dropWriter hw]
  unfold reconnectLocked
  rcases hws : writeSubs cfg ⟨c, []⟩ ((s.dropWriter (io.headD true)).read.subscriptions.entries.map
    fun e => ClientOp.sub e.2.subject e.2.queueGroup e.1) io.tail with ⟨w₁, out₁, io₁, _ | _⟩ <;>
    simp only [hws, Bool.not_false, Bool.not_true, Bool.false_eq_true, ↓reduceIte]
  rotate_left; split; rotate_left; split; rotate_left
  · -- the writer is installed on `c`
    next _ w₂ out₂ hwa _ w₃ out₃ hfl =>
    obtain ⟨hs₁, -⟩ := writeSubs_ok hws
    obtain ⟨hs₂, -⟩ := Writer.writeAll_ok hwa
    have hs₃ : w₃.stream = w₂.stream := by unfold Writer.flush at hfl; split at hfl <;> cases hfl; rfl
    refine ⟨by simp only [reconnectInstall, deliver, foldl_complete_streams, List.length_modify, hlen],
      .inr ⟨w₃, by simp only [reconnectInstall, foldl_complete_write]; rfl, by rw [hs₃, hs₂, hs₁], rfl⟩,
      fun d hd hw => ?_⟩
    simp only [reconnectInstall, deliver, wireAt, foldl_complete_streams, List.getElem?_modify, if_neg (Ne.symm hd),
      id_map', hwire d hd hw]
  all_goals
    -- `reconnect` fails: the new writer is dropped
    refine ⟨by simp only [reconnectFailed, deliver, foldl_dropWaiter_streams, List.length_modify, hlen],
      .inl ⟨by simp only [reconnectFailed, deliver_write, foldl_dropWaiter_write, dropWriter_writer], rfl⟩,
      fun d hd hw => ?_⟩
    simp only [reconnectFailed, deliver, wireAt, foldl_dropWaiter_streams, List.getElem?_modify, if_neg (Ne.symm hd),
      id_map', hwire d hd hw]

/-! ## The invariant over runs -/

theorem ConnInv.supervisorStep (hi : ConnInv s) {io : List Bool} (h : s.supervisorStep cfg io = some s') :
    ConnInv s' := by
  unfold Sys.supervisorStep at h
  split at h <;> cases h
  · -- `reconnect`: `check_shutdown`
    next info c hs =>
    have hw := hi.writer_none hs rfl nofun
    unfold reconnectCheck; split
    · exact .of_none hw rfl rfl
    · exact ⟨fun w h => absurd (hw ▸ h) nofun, nofun, fun d hd => hi.reconnect d (by rw [hs]; exact hd)⟩
  · -- `reconnect` under the locks
    next info c hs =>
    obtain ⟨hlen, hout, -⟩ := @reconnectLocked_outcome cfg s info c io
    have hc : c + 1 = s.streams.length := hi.reconnect c (by rw [hs]; rfl)
    rcases hout with ⟨hw, hsup⟩ | ⟨w, hw, hsw, hsup⟩
    · exact .of_none hw (by rw [hsup]; rfl) (by rw [hsup]; rfl)
    · refine ⟨fun w' hw' => ?_, fun d hd => ?_, fun d hd => by rw [hsup] at hd; cases hd⟩
      · obtain rfl : w = w' := Option.mem_unique hw hw'
        rw [hlen, hsw, hsup]; exact ⟨hc, .inl rfl⟩
      · rw [hsup] at hd; obtain rfl := Option.some.inj hd; rw [hlen]; exact hc
  · -- `dispatch`: `check_shutdown`
    next c op hs =>
    unfold dispatchCheck; split
    · exact hi.of_disconnected (.of_streams rfl rfl) rfl
    · exact hi.of_dispatch (.of_streams rfl rfl) (by rw [hs]; nofun) (by rw [hs]; rfl) rfl
  · -- `update_activity`
    next c op hs => exact hi.of_dispatch (.of_streams rfl rfl) (by rw [hs]; nofun) (by rw [hs]; rfl) rfl
  · -- `dispatch`'s match arm: back to `dispatch` on `c`, or out of it
    next c op hs =>
    have hloc := (@quiet_dispatchOp cfg s c op io).toLocal
    rcases @dispatchOp_supervisor cfg s c op io with hsup | hsup
    · exact hi.of_dispatch hloc (by rw [hs]; nofun) (by rw [hsup, hs]; rfl) (by rw [hsup]; rfl)
    · exact hi.of_disconnected hloc hsup
  · -- `dispatch` failed: the writer is dropped
    exact .of_none (dropWriter_writer _) rfl rfl
  · -- `read.pings_out = 0`
    next hs => exact .of_none (hi.writer_none hs rfl nofun) rfl rfl
  · -- `check_shutdown` at the bottom of the loop
    next hs =>
    have hw := hi.writer_none hs rfl nofun
    unfold runCheck; split <;> exact .of_none hw rfl rfl
  · -- the final flush
    next hs =>
    have hw := hi.writer_none hs rfl nofun
    refine .of_none ?_ rfl rfl
    simp [finalFlush, flushWriter, hw]

/-- **One step keeps `ConnInv`.** -/
theorem ConnInv.step (hi : ConnInv s) {a : Action} (h : s.step cfg a = some s') : ConnInv s' := by
  rcases step_inv h with ⟨c, -, rfl⟩ | ⟨i, io, b, t, r, -, hr, rfl⟩ | ⟨_ | info, hs, rfl⟩ |
    ⟨c, _ | op, hs, -, rfl⟩ | ⟨io, h⟩ | ⟨-, -, rfl⟩ | ⟨io, -, rfl⟩ | ⟨io, -, -, rfl⟩ | ⟨b, -, h⟩ | ⟨ms, rfl⟩
  · exact hi.of_local (.of_streams rfl rfl) rfl
  · obtain ⟨hloc, hsup⟩ := callStep_local hr
    exact hi.of_local (hloc.trans (.of_streams rfl rfl)) hsup
  · -- the connector failed: `run` returns
    exact .of_none (hi.writer_none hs rfl nofun) rfl rfl
  · -- a new connection, with no writer installed
    have hw := hi.writer_none hs rfl nofun
    refine ⟨fun w h => absurd (hw ▸ h) nofun, nofun, fun c hc => ?_⟩
    simp only [Sys.connected, Supervisor.reconnectStream, Option.mem_def, Option.some.injEq] at hc
    simp [Sys.connected, hc]
  · -- the stream ended
    exact hi.of_disconnected (.of_streams rfl rfl) rfl
  · -- a frame from `c`
    exact hi.of_dispatch ((Quiet.of_wire (wire_serverSent c op)).toLocal.trans (.of_streams rfl rfl))
      (by rw [hs]; nofun) (by rw [hs]; rfl) rfl
  · exact hi.supervisorStep h
  · exact hi.of_local (.of_streams rfl rfl) rfl
  · exact hi.of_local (quiet_flusherFlush io).toLocal (flusherFlush_supervisor io)
  · exact hi.of_local (quiet_heartbeat io).toLocal (heartbeat_supervisor io)
  · obtain ⟨hw, hsup⟩ := select_wire h
    exact hi.of_local (Quiet.of_wire hw).toLocal hsup
  · exact hi.of_local (.of_streams rfl rfl) rfl

theorem reachable_connInv (h : Reachable cfg s) : ConnInv s := by
  induction h with
  | init => exact .init
  | step _ _ hstep ih => exact ih.step hstep

/-- **The writer writes where the dispatcher reads.** In every reachable
state, an installed writer is on the newest connection. While the supervisor
dispatches connection `c` (decoding from it, checking the shutdown flag, acting
on a frame from it), `c` is the newest connection and any installed writer is
on `c`. So the PONG `dispatch` encodes for a PING goes back on the PING's
connection, and `dispatch` completes a queued sender on a PONG only when the
PONG came from the installed writer's connection. -/
theorem dispatcher_and_writer_share_connection (h : Reachable cfg s) :
    (∀ w ∈ s.write.writer, w.stream + 1 = s.streams.length) ∧
      ∀ c ∈ s.supervisor.dispatchStream, c + 1 = s.streams.length ∧ ∀ w ∈ s.write.writer, w.stream = c := by
  have hi := reachable_connInv h
  refine ⟨fun w hw => (hi.writer w hw).1, fun c hc => ⟨hi.dispatch c hc, fun w hw => ?_⟩⟩
  have hd : s.supervisor.dispatchStream = some w.stream :=
    (hi.writer w hw).2.resolve_right fun hs => by rw [hs] at hc; cases hc
  exact Option.some.inj (hd.symm.trans hc)

/-- Connected: the writer and the dispatcher are both on connection 0. -/
theorem writer_and_dispatcher_on_first_connection :
    ∃ s, Reachable (natsConfig 64) s ∧ s.write.writer = some ⟨0, []⟩ ∧ s.supervisor = .dispatch 0 ∧
      ((∀ w ∈ s.write.writer, w.stream + 1 = s.streams.length) ∧
        ∀ c ∈ s.supervisor.dispatchStream, c + 1 = s.streams.length ∧ ∀ w ∈ s.write.writer, w.stream = c) := by
  obtain ⟨s, hs, h⟩ := Reachable.of_exec (natsConfig 64)
    (fun s => s.write.writer == some ⟨0, []⟩ && s.supervisor == .dispatch 0) connectRun (by decide)
  simp only [Bool.and_eq_true, beq_iff_eq] at h
  exact ⟨s, hs, h.1, h.2, dispatcher_and_writer_share_connection hs⟩

/-- **The final flush writes nothing.** In every reachable state where `run` has
returned, no writer is installed: `dispatch` never returns `Ok`, and `run`
drops the writer before it checks the shutdown flag. So the flush the
supervisor thread makes before the close callback, "to make sure buffered
published messages reach the server", finds no writer, and changes no
connection. -/
theorem final_flush_finds_no_writer (h : Reachable cfg s) (hs : s.supervisor = .finalFlush) :
    s.write.writer = none ∧ ∀ io, (s.finalFlush io).streams = s.streams := by
  have hw := (reachable_connInv h).writer_none hs rfl nofun
  exact ⟨hw, fun io => by simp [finalFlush, flushWriter, hw]⟩

/-- Connect, `close`, then the dispatcher decodes a PING, sees the flag, and
`run` returns. -/
def closeRun : List Action :=
  [.connected (some ⟨true⟩), .supervisor [], .supervisor [], .select true, .start .close, .call 0 [] false,
   .decoded (some .ping), .supervisor [], .supervisor [], .supervisor [], .supervisor []]

theorem final_flush_after_close_finds_no_writer :
    ∃ s, Reachable (natsConfig 64) s ∧ s.shutdown = true ∧ s.supervisor = .finalFlush ∧
      (s.write.writer = none ∧ ∀ io, (s.finalFlush io).streams = s.streams) := by
  obtain ⟨s, hs, h⟩ := Reachable.of_exec (natsConfig 64)
    (fun s => s.shutdown && s.supervisor == .finalFlush) closeRun (by decide)
  simp only [Bool.and_eq_true, beq_iff_eq] at h
  exact ⟨s, hs, h.1, h.2, final_flush_finds_no_writer hs h.2⟩

/-! ## Older connections -/

/-- A `Local` step writes to no connection older than the newest. -/
theorem ConnInv.untouched_of_local (hi : ConnInv s) (h : Local s s') :
    s.streams.length ≤ s'.streams.length ∧ ∀ c, c + 1 < s.streams.length → s'.wireAt c = s.wireAt c :=
  ⟨h.length.ge, fun c hc => h.wireAt c fun w hw => by have := (hi.writer w hw).1; omega⟩

/-- Every supervisor section but `reconnect` under the locks is `Local`. -/
theorem supervisorStep_local {io : List Bool} (h : s.supervisorStep cfg io = some s') :
    Local s s' ∨ ∃ info c, s.supervisor = .reconnectLocked info c ∧ s' = s.reconnectLocked cfg info c io := by
  unfold Sys.supervisorStep at h
  split at h <;> cases h
  · unfold reconnectCheck; split <;> exact .inl (.of_streams rfl rfl)
  · next info c hs => exact .inr ⟨info, c, hs, rfl⟩
  · unfold dispatchCheck; split <;> exact .inl (.of_streams rfl rfl)
  · exact .inl (.of_streams rfl rfl)
  · exact .inl (quiet_dispatchOp _ _ _).toLocal
  · exact .inl ((quiet_dropWriter _).toLocal.trans (.of_streams rfl rfl))
  · exact .inl (.of_streams rfl rfl)
  · unfold runCheck; split <;> exact .inl (.of_streams rfl rfl)
  · exact .inl ((quiet_flushWriter _).toLocal.trans (.of_streams rfl rfl))

/-- A step adds connections at the end, and writes to none older than the
newest. -/
theorem ConnInv.step_untouched (hi : ConnInv s) {a : Action} (h : s.step cfg a = some s') :
    s.streams.length ≤ s'.streams.length ∧ ∀ c, c + 1 < s.streams.length → s'.wireAt c = s.wireAt c := by
  rcases step_inv h with ⟨c, -, rfl⟩ | ⟨i, io, b, t, r, -, hr, rfl⟩ | ⟨_ | info, hs, rfl⟩ |
    ⟨c, _ | op, hs, -, rfl⟩ | ⟨io, h⟩ | ⟨-, -, rfl⟩ | ⟨io, -, rfl⟩ | ⟨io, -, -, rfl⟩ | ⟨b, -, h⟩ | ⟨ms, rfl⟩
  · exact hi.untouched_of_local (.of_streams rfl rfl)
  · exact hi.untouched_of_local ((callStep_local hr).1.trans (.of_streams rfl rfl))
  · exact hi.untouched_of_local (.of_streams rfl rfl)
  · -- a new connection, appended
    refine ⟨by simp [Sys.connected], fun c hc => ?_⟩
    simp [Sys.connected, wireAt, List.getElem?_append_left (show c < s.streams.length by omega)]
  · exact hi.untouched_of_local (.of_streams rfl rfl)
  · exact hi.untouched_of_local ((Quiet.of_wire (wire_serverSent c op)).toLocal.trans (.of_streams rfl rfl))
  · rcases supervisorStep_local h with hloc | ⟨info, c, hs, rfl⟩
    · exact hi.untouched_of_local hloc
    · -- `reconnect` writes to the newest connection only, with no writer installed
      obtain ⟨hlen, -, hwire⟩ := @reconnectLocked_outcome cfg s info c io
      have hc := hi.reconnect c (by rw [hs]; rfl)
      have hw := hi.writer_none hs rfl nofun
      exact ⟨hlen.ge, fun d hd => hwire d (by omega) fun w h => absurd (hw ▸ h) nofun⟩
  · exact hi.untouched_of_local (.of_streams rfl rfl)
  · exact hi.untouched_of_local (quiet_flusherFlush io).toLocal
  · exact hi.untouched_of_local (quiet_heartbeat io).toLocal
  · exact hi.untouched_of_local (Quiet.of_wire (select_wire h).1).toLocal
  · exact hi.untouched_of_local (.of_streams rfl rfl)

/-- **An old connection is left alone.** Along every run from a reachable
state, a connection older than the newest one the connector has returned
receives no item and loses no frame: no section writes to a connection once a
newer one exists. -/
theorem superseded_connection_untouched (h : Reachable cfg s) {c : Nat} (hc : c + 1 < s.streams.length)
    {actions : List Action} {s' : Sys} (hr : s.exec cfg actions = some s') : s'.wireAt c = s.wireAt c := by
  induction actions generalizing s with
  | nil => simp only [Sys.exec, Option.some.injEq] at hr; rw [hr]
  | cons a rest ih =>
    simp only [Sys.exec] at hr
    cases ha : s.step cfg a with
    | none => simp [ha] at hr
    | some s₁ =>
      rw [ha, Option.some_bind] at hr
      obtain ⟨hlen, hw⟩ := (reachable_connInv h).step_untouched ha
      rw [ih (h.step a ha) (by omega) hr, hw c hc]

/-- Connect; the server closes the connection; the supervisor reconnects. -/
def reconnectRun : List Action :=
  [.connected (some ⟨true⟩), .supervisor [], .supervisor [], .select true,
   .decoded none, .supervisor [], .supervisor [], .supervisor [], .connected (some ⟨true⟩)]

/-- After `reconnectRun`, installing the new writer and a `publish` on it
leave the first connection as it was. -/
theorem first_connection_untouched_after_reconnect :
    ∃ s s', Reachable (natsConfig 64) s ∧ 0 + 1 < s.streams.length ∧
      s.exec (natsConfig 64) [.supervisor [], .supervisor [], .start (.publish ⟨"x", none, none, [97]⟩),
        .call 0 [] false, .call 0 [] false, .call 0 [] false] = some s' ∧ s'.wireAt 0 = s.wireAt 0 := by
  obtain ⟨s, hs, h⟩ := Reachable.of_exec (natsConfig 64)
    (fun s => decide (0 + 1 < s.streams.length) && (s.exec (natsConfig 64) [.supervisor [], .supervisor [],
      .start (.publish ⟨"x", none, none, [97]⟩), .call 0 [] false, .call 0 [] false, .call 0 [] false]).isSome)
    reconnectRun (by decide)
  simp only [Bool.and_eq_true, decide_eq_true_eq, Option.isSome_iff_exists] at h
  obtain ⟨hc, s', hr⟩ := h
  exact ⟨s, s', hs, hc, hr, superseded_connection_untouched hs hc hr⟩

end NatsClient

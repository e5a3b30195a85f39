import NatsClient.Connections

/-!
# `server_info()` and the connection it describes

`server_info` is written in two places only:

* `reconnect` installs the info the connector returned with the new
  connection;
* `dispatch` stores each INFO it decodes, three sections after decoding it.

The server info in effect on a connection (`Stream.info`) is the info it was
opened with, then the last INFO the dispatcher decoded from it.

* `server_info_describes_connection` — in every reachable state with a writer
  installed, `server_info()` is the server info in effect on the writer's
  connection. There are two exceptions. While the dispatcher holds an INFO it
  has decoded and not yet stored, that INFO is in effect. Between a failed
  `dispatch` and the writer's drop, nothing is claimed.
-/

namespace NatsClient

open Sys

/-- The server info in effect on each connection. -/
def Sys.infos (s : Sys) : List ServerInfo := s.streams.map Stream.info

/-- `server_info`, with the server info in effect on each connection. -/
def Sys.infoView (s : Sys) : ServerInfo × List ServerInfo := (s.serverInfo, s.infos)

/-- The INFO the dispatcher has decoded and not yet stored. -/
def Supervisor.pendingInfo : Supervisor → Option ServerInfo
  | .dispatchCheck _ (.info i) | .dispatchActivity _ (.info i) | .dispatchOp _ (.info i) => some i
  | _ => none

/-- The connector's info, and the connection `reconnect` works on. -/
def Supervisor.reconnectTarget : Supervisor → Option (ServerInfo × Nat)
  | .reconnect info c | .reconnectLocked info c => some (info, c)
  | _ => none

/-- A change to a stream that keeps its `info` keeps every connection's info. -/
theorem infos_modify {f : Stream → Stream} (hf : ∀ st, (f st).info = st.info) (l : List Stream) (c : Nat) :
    (l.modify f c).map Stream.info = l.map Stream.info := by
  apply List.ext_getElem?
  intro d
  by_cases h : c = d
  · subst h
    rcases hl : l[c]? with _ | st <;> simp [List.getElem?_modify, hl, hf]
  · simp [List.getElem?_modify, h]

variable {cfg : Config} {s s' : Sys}

/-! ## The sections that leave it alone -/

namespace Sys

theorem infoView_modify {f : Stream → Stream} (hf : ∀ st, (f st).info = st.info) (c : Nat) :
    { s with streams := s.streams.modify f c }.infoView = s.infoView :=
  congrArg (Prod.mk _) (infos_modify hf _ _)

theorem infoView_deliver (c : Nat) (items : List Item) : (s.deliver c items).infoView = s.infoView := by
  refine infoView_modify ?_ c; exact fun _ => rfl

theorem infoView_complete (w : Waiter) : (s.complete w).infoView = s.infoView := by cases w <;> rfl
theorem infoView_dropWaiter (w : Waiter) : (s.dropWaiter w).infoView = s.infoView := by cases w <;> rfl

theorem infoView_foldl_complete (ws : List Waiter) : (ws.foldl complete s).infoView = s.infoView := by
  induction ws generalizing s with
  | nil => rfl
  | cons w ws ih => exact ih.trans (infoView_complete w)

theorem infoView_foldl_dropWaiter (ws : List Waiter) : (ws.foldl dropWaiter s).infoView = s.infoView := by
  induction ws generalizing s with
  | nil => rfl
  | cons w ws ih => exact ih.trans (infoView_dropWaiter w)

theorem infoView_dropWriter (ok : Bool) : (s.dropWriter ok).infoView = s.infoView := by
  unfold dropWriter; split
  · rfl
  · exact infoView_deliver (s := s) _ _

theorem infoView_disconnect (ok : Bool) : (s.disconnect ok).infoView = s.infoView :=
  (infoView_foldl_dropWaiter _).trans (infoView_dropWriter ok)

theorem infoView_shutdownStream : s.shutdownStream.infoView = s.infoView := by
  unfold shutdownStream; split
  · rfl
  · refine infoView_modify ?_ _; exact fun _ => rfl

theorem infoView_wrote (op : ClientOp) (c : Nat) : (s.wrote op c).infoView = s.infoView := by
  unfold wrote; split
  · refine infoView_modify ?_ _; exact fun _ => rfl
  · rfl
  · rfl

theorem infoView_encode (op : ClientOp) (ok : Bool) : (s.encode cfg op ok).1.infoView = s.infoView := by
  unfold encode; split
  · rfl
  · split
    · exact (infoView_wrote _ _).trans (infoView_deliver _ _)
    · refine (infoView_deliver _ _).trans ?_
      simp only [Sys.infoView, Sys.infos]
      rw [infos_modify (f := fun st => { st with lost := st.lost ++ [op] }) fun _ => rfl]

theorem infoView_flushWriter (ok : Bool) : (s.flushWriter ok).1.infoView = s.infoView := by
  unfold flushWriter; split
  · rfl
  · split
    · exact infoView_deliver _ _
    · rfl

theorem infoView_publishWrite (p : Pub) (io : List Bool) : (s.publishWrite cfg p io).1.infoView = s.infoView := by
  unfold publishWrite bufferPublish; split
  · dsimp only; split <;> rfl
  · split
    · rfl
    · dsimp only; split
      · exact infoView_encode _ _
      · exact (infoView_disconnect _).trans (infoView_encode _ _)

theorem infoView_tryPublishWrite (p : Pub) (io : List Bool) :
    (s.tryPublishWrite cfg p io).1.infoView = s.infoView := by
  unfold tryPublishWrite bufferPublish; split
  · dsimp only; split <;> rfl
  · split
    · rfl
    · dsimp only; split
      · exact infoView_encode _ _
      · exact (infoView_disconnect _).trans (infoView_encode _ _)

theorem infoView_subscribe (subject : String) (q : Option String) (io : List Bool) :
    (s.subscribe cfg subject q io).1.infoView = s.infoView := by
  unfold subscribe; split
  · rfl
  · dsimp only; split
    · rfl
    · exact infoView_encode _ _

theorem infoView_unsubscribe (sid : Nat) (io : List Bool) : (s.unsubscribe cfg sid io).1.infoView = s.infoView := by
  unfold unsubscribe; split
  · rfl
  · dsimp only; split
    · rfl
    · split <;> exact infoView_encode _ _

theorem infoView_flush (io : List Bool) : (s.flush cfg io).1.infoView = s.infoView := by
  unfold flush; split
  · rfl
  · dsimp only; split
    · rfl
    · split
      · rfl
      · split
        · exact infoView_encode _ _
        · split
          · exact (infoView_flushWriter _).trans (infoView_encode _ _)
          · split <;> exact (infoView_flushWriter _).trans (infoView_encode _ _)

theorem infoView_unsubAll (sids : List Nat) (io : List Bool) : (unsubAll cfg s sids io).infoView = s.infoView := by
  induction sids generalizing s io with
  | nil => rfl
  | cons sid rest ih =>
    unfold unsubAll; split
    · exact ih _
    · exact (ih _).trans (infoView_encode _ _)

theorem infoView_close (io : List Bool) : (s.close cfg io).infoView = s.infoView := by
  unfold close; split
  · rfl
  · exact (infoView_foldl_dropWaiter _).trans ((infoView_flushWriter _).trans (infoView_unsubAll _ _))

theorem infoView_callStep {c : Call} {io : List Bool} {b : Bool} {r : Sys × Call}
    (h : s.callStep cfg c io b = some r) : r.1.infoView = s.infoView := by
  cases c with
  | publishWrite p => cases h; exact infoView_publishWrite _ _
  | tryPublishWrite p =>
    simp only [callStep] at h
    split at h <;> cases h
    · rfl
    · exact infoView_tryPublishWrite _ _
  | subscribe subject q => cases h; exact infoView_subscribe _ _ _
  | unsubscribe sid => cases h; exact infoView_unsubscribe _ _
  | flush => cases h; exact infoView_flush _
  | flushWait id => obtain ⟨_, -, rfl⟩ := Option.map_eq_some'.mp h; rfl
  | close => cases h; exact infoView_close _
  | returned => cases h
  | _ => cases h; rfl

theorem infoView_flusherFlush (io : List Bool) : (s.flusherFlush io).infoView = s.infoView := by
  unfold flusherFlush; split
  · rfl
  · dsimp only; split
    · exact infoView_flushWriter _
    · exact (infoView_disconnect _).trans (infoView_shutdownStream.trans (infoView_flushWriter _))

theorem infoView_heartbeat (io : List Bool) : (s.heartbeat cfg io).infoView = s.infoView := by
  unfold heartbeat; split
  · exact (infoView_disconnect _).trans infoView_shutdownStream
  · split
    · dsimp only; split
      · rfl
      · split
        · exact (infoView_flushWriter _).trans (infoView_encode _ _)
        · exact (infoView_disconnect _).trans (infoView_shutdownStream.trans
            ((infoView_flushWriter _).trans (infoView_encode _ _)))
    · rfl

theorem infoView_reconnectFailed (c : Nat) (w : Writer) (io : List Bool) :
    (s.reconnectFailed c w io).infoView = s.infoView :=
  infoView_deliver (s := s) _ _

/-- Installing the connection sets `server_info` to the connector's info. -/
theorem infoView_reconnectInstall (info : ServerInfo) (c : Nat) (w : Writer) (pongs : List Waiter)
    (replayed : List ClientOp) (bytes : List UInt8) :
    (s.reconnectInstall info c w pongs replayed bytes).infoView = (info, s.infos) :=
  infoView_foldl_complete pongs

/-- `reconnect` under the locks keeps every connection's info, and sets
`server_info` only when it installs a writer. -/
theorem reconnectLocked_info (info : ServerInfo) (c : Nat) (io : List Bool) :
    (s.reconnectLocked cfg info c io).infos = s.infos ∧
      ((s.reconnectLocked cfg info c io).write.writer = none ∨ (s.reconnectLocked cfg info c io).serverInfo = info) := by
  have h₁ (out : List Item) : ((s.dropWriter (io.headD true)).deliver c out).infoView = s.infoView :=
    (infoView_deliver c out).trans (infoView_dropWriter _)
  have h₂ (t : Sys) (b : Buffer) : { t with read.pongs := [], write.buffer := b, pending := [] }.infoView =
      t.infoView := rfl
  have hnone : (s.dropWriter (io.headD true)).write.writer = none := dropWriter_writer _
  unfold reconnectLocked; dsimp only; split
  · exact ⟨congrArg Prod.snd ((infoView_reconnectFailed ..).trans (h₁ _)), .inl hnone⟩
  · split
    · exact ⟨congrArg Prod.snd ((infoView_reconnectFailed ..).trans ((infoView_foldl_dropWaiter _).trans
        ((h₂ _ _).trans (h₁ _)))), .inl (by simp only [reconnectFailed, deliver_write, foldl_dropWaiter_write, hnone])⟩
    · split
      · exact ⟨congrArg Prod.snd ((infoView_reconnectFailed ..).trans ((infoView_foldl_dropWaiter _).trans
          ((infoView_deliver ..).trans ((h₂ _ _).trans (h₁ _))))),
          .inl (by simp only [reconnectFailed, deliver_write, foldl_dropWaiter_write, hnone])⟩
      · exact ⟨(congrArg Prod.snd (infoView_reconnectInstall ..)).trans (congrArg Prod.snd
          ((infoView_deliver ..).trans ((infoView_deliver ..).trans ((h₂ _ _).trans (h₁ _))))),
          .inr (congrArg Prod.fst (infoView_reconnectInstall ..))⟩

/-- `dispatch`'s match arm stores the INFO it holds, if any, and changes no
connection's info. -/
theorem infoView_dispatchOp (c : Nat) (op : ServerOp) (io : List Bool) :
    (s.dispatchOp cfg c op io).infoView = ((Supervisor.dispatchOp c op).pendingInfo.getD s.serverInfo, s.infos) := by
  unfold dispatchOp; split
  · rfl
  · split
    · rfl
    · dsimp only; split
      · exact infoView_encode _ _
      · exact infoView_encode _ _
  · dsimp only; split
    · exact infoView_complete _
    · rfl
  · unfold deliverMsg; split <;> rfl
  · unfold deliverMsg; split <;> rfl
  all_goals rfl

/-- The server's frame changes the info in effect on its connection only when
it is an INFO. -/
theorem infos_serverSent (c : Nat) (op : ServerOp) :
    (s.serverSent c op).infos[c]? = s.infos[c]?.map fun i => (Supervisor.dispatchCheck c op).pendingInfo.getD i := by
  cases op <;> simp only [serverSent, infos, List.getElem?_map, List.getElem?_modify, if_pos, Option.map_map,
    Supervisor.pendingInfo, Option.getD, Function.comp_def, Option.map_eq_map]

theorem serverInfo_serverSent (c : Nat) (op : ServerOp) : (s.serverSent c op).serverInfo = s.serverInfo := by
  cases op <;> rfl

theorem infoView_select {b : Bool} (h : s.select b = some s') : s'.infoView = s.infoView := by
  unfold select at h
  split at h
  · split at h <;> cases h; rfl
  · split at h <;> cases h <;> rfl

end Sys

/-! ## The invariant -/

/-- The connection `reconnect` works on carries the connector's info, and the
installed writer's connection carries `server_info`, or the INFO the
dispatcher holds. -/
structure InfoInv (s : Sys) : Prop where
  reconnect : ∀ p ∈ s.supervisor.reconnectTarget, s.infos[p.2]? = some p.1
  writer : ∀ w ∈ s.write.writer, s.supervisor ≠ .disconnected →
    s.infos[w.stream]? = some (s.supervisor.pendingInfo.getD s.serverInfo)

theorem InfoInv.of_none (hw : s.write.writer = none) (hr : s.supervisor.reconnectTarget = none) : InfoInv s :=
  ⟨fun _ hp => absurd (hr ▸ hp) nofun, fun _ h => absurd (hw ▸ h) nofun⟩

theorem InfoInv.of_disconnected (hs : s.supervisor = .disconnected) : InfoInv s :=
  ⟨fun _ hp => absurd (hs ▸ hp) nofun, fun _ _ hd => absurd hs hd⟩

/-- A step inside `dispatch` that keeps the view, the writer's connection and
the INFO the dispatcher holds. -/
theorem InfoInv.of_dispatch (hi : InfoInv s) (hv : s'.infoView = s.infoView) (hl : Local s s')
    (hne : s.supervisor ≠ .disconnected) (hp : s'.supervisor.pendingInfo = s.supervisor.pendingInfo)
    (hr : s'.supervisor.reconnectTarget = none) : InfoInv s' where
  reconnect p hp := by rw [hr] at hp; cases hp
  writer w' hw' _ := by
    obtain ⟨w, hw, heq⟩ := hl.writer w' hw'
    rw [show s'.infos = s.infos from congrArg Prod.snd hv, heq, hp,
      show s'.serverInfo = s.serverInfo from congrArg Prod.fst hv]
    exact hi.writer w hw hne

/-- A step that keeps the view, the supervisor and the writer's connection. -/
theorem InfoInv.of_keep (hi : InfoInv s) (hv : s'.infoView = s.infoView) (hl : Local s s')
    (hsup : s'.supervisor = s.supervisor) : InfoInv s' where
  reconnect p hp := by
    rw [show s'.infos = s.infos from congrArg Prod.snd hv]; exact hi.reconnect p (hsup ▸ hp)
  writer w' hw' hd := by
    obtain ⟨w, hw, heq⟩ := hl.writer w' hw'
    rw [show s'.infos = s.infos from congrArg Prod.snd hv, heq, hsup,
      show s'.serverInfo = s.serverInfo from congrArg Prod.fst hv]
    exact hi.writer w hw (hsup ▸ hd)

theorem InfoInv.init : InfoInv (Sys.init cfg) := .of_none rfl rfl

theorem InfoInv.supervisorStep (hi : InfoInv s) (hc : ConnInv s) {io : List Bool}
    (h : s.supervisorStep cfg io = some s') : InfoInv s' := by
  unfold Sys.supervisorStep at h
  split at h <;> cases h
  · -- `reconnect`: `check_shutdown`
    next info c hs =>
    have hw := hc.writer_none hs rfl nofun
    unfold reconnectCheck; split
    · exact .of_none hw rfl
    · exact ⟨fun p hp => hi.reconnect p (by rw [hs]; exact hp), fun w h => absurd (hw ▸ h) nofun⟩
  · -- `reconnect` under the locks: the installed info is the connection's
    next info c hs =>
    obtain ⟨hinf, hinst⟩ := @reconnectLocked_info cfg s info c io
    rcases (@reconnectLocked_outcome cfg s info c io).2.1 with ⟨hw, hsup⟩ | ⟨w, hw, hwc, hsup⟩
    · exact .of_none hw (by rw [hsup]; rfl)
    · refine ⟨fun p hp => absurd (hsup ▸ hp) nofun, fun w' hw' _ => ?_⟩
      have hnone : (s.reconnectLocked cfg info c io).write.writer ≠ none := by rw [Option.mem_def.1 hw]; nofun
      rw [Option.mem_unique hw' hw, hwc, hinf, hsup, hinst.resolve_left hnone]
      exact hi.reconnect (info, c) (by rw [hs]; rfl)
  · -- `dispatch`: `check_shutdown`
    next c op hs =>
    unfold dispatchCheck; split
    · exact .of_disconnected rfl
    · exact hi.of_dispatch rfl (.of_streams rfl rfl) (by rw [hs]; nofun) (by rw [hs]; cases op <;> rfl) rfl
  · -- `update_activity`
    next c op hs => exact hi.of_dispatch rfl (.of_streams rfl rfl) (by rw [hs]; nofun) (by rw [hs]; cases op <;> rfl) rfl
  · -- `dispatch`'s match arm: an INFO is stored
    next c op hs =>
    have hv := @infoView_dispatchOp cfg s c op io
    rcases @dispatchOp_supervisor cfg s c op io with hsup | hsup
    · refine ⟨fun p hp => absurd (hsup ▸ hp) nofun, fun w' hw' _ => ?_⟩
      obtain ⟨w, hw, heq⟩ := (@quiet_dispatchOp cfg s c op io).writer w' hw'
      have hsi : (s.dispatchOp cfg c op io).serverInfo = _ := congrArg Prod.fst hv
      rw [heq, show (s.dispatchOp cfg c op io).infos = s.infos from congrArg Prod.snd hv,
        hi.writer w hw (by rw [hs]; nofun), hsup, hsi, hs]
      rfl
    · exact .of_disconnected hsup
  · -- `dispatch` failed: the writer is dropped
    exact .of_none (dropWriter_writer _) rfl
  · -- `read.pings_out = 0`
    next hs => exact .of_none (hc.writer_none hs rfl nofun) rfl
  · -- `check_shutdown` at the bottom of the loop
    next hs =>
    have hw := hc.writer_none hs rfl nofun
    unfold runCheck; split <;> exact .of_none hw rfl
  · -- the final flush
    next hs =>
    have hw := hc.writer_none hs rfl nofun
    refine .of_none ?_ rfl
    simp [finalFlush, flushWriter, hw]

/-- **One step keeps `InfoInv`.** -/
theorem InfoInv.step (hi : InfoInv s) (hc : ConnInv s) {a : Action} (h : s.step cfg a = some s') : InfoInv s' := by
  rcases step_inv h with ⟨c, -, rfl⟩ | ⟨i, io, b, t, r, -, hr, rfl⟩ | ⟨_ | info, hs, rfl⟩ |
    ⟨c, _ | op, hs, -, rfl⟩ | ⟨io, h⟩ | ⟨-, -, rfl⟩ | ⟨io, -, rfl⟩ | ⟨io, -, -, rfl⟩ | ⟨b, -, h⟩ | ⟨ms, rfl⟩
  · exact hi.of_keep rfl (.of_streams rfl rfl) rfl
  · obtain ⟨hloc, hsup⟩ := callStep_local hr
    exact hi.of_keep (infoView_callStep hr) (hloc.trans (.of_streams rfl rfl)) hsup
  · -- the connector failed: `run` returns
    exact .of_none (hc.writer_none hs rfl nofun) rfl
  · -- a new connection, opened with the connector's info
    have hw := hc.writer_none hs rfl nofun
    refine ⟨fun p hp => ?_, fun w h => absurd (hw ▸ h) nofun⟩
    simp only [Sys.connected, Supervisor.reconnectTarget, Option.mem_def, Option.some.injEq] at hp
    subst hp
    show ((s.streams ++ [Stream.fresh info]).map Stream.info)[s.streams.length]? = some info
    rw [List.getElem?_map, List.getElem?_concat_length]; rfl
  · -- the stream ended
    exact .of_disconnected rfl
  · -- a frame from the writer's connection
    refine ⟨nofun, fun w hw _ => ?_⟩
    have hw' : w ∈ s.write.writer := by rw [← serverSent_write c op]; exact hw
    have hwc : w.stream = c := Option.some.inj (((hc.writer w hw').2.resolve_right (by rw [hs]; nofun)).symm.trans
      (by rw [hs]; rfl))
    have hw₀ := hi.writer w hw' (by rw [hs]; nofun)
    rw [hs, hwc] at hw₀
    rw [hwc]
    refine (infos_serverSent c op).trans ?_
    rw [hw₀]
    exact congrArg (fun i => some ((Supervisor.dispatchCheck c op).pendingInfo.getD i)) (serverInfo_serverSent c op).symm
  · exact hi.supervisorStep hc h
  · exact hi.of_keep rfl (.of_streams rfl rfl) rfl
  · exact hi.of_keep (infoView_flusherFlush io) (quiet_flusherFlush io).toLocal (flusherFlush_supervisor io)
  · exact hi.of_keep (infoView_heartbeat io) (quiet_heartbeat io).toLocal (heartbeat_supervisor io)
  · exact hi.of_keep (infoView_select h) (Quiet.of_wire (select_wire h).1).toLocal (select_wire h).2
  · exact hi.of_keep rfl (.of_streams rfl rfl) rfl

theorem reachable_infoInv (h : Reachable cfg s) : InfoInv s ∧ ConnInv s := by
  induction h with
  | init => exact ⟨.init, .init⟩
  | step _ _ hstep ih => exact ⟨ih.1.step ih.2 hstep, ih.2.step hstep⟩

/-- **`server_info()` describes the writer's connection.** In every reachable
state with a writer installed, outside the window between a failed `dispatch`
and the writer's drop, the server info `server_info()` returns is the one in
effect on the writer's connection: the info the connector returned with it,
or the last INFO decoded from it. The one exception is an INFO the dispatcher
has decoded and not yet stored: the connection's info is then that INFO, and
`server_info()` still returns the one before it. -/
theorem server_info_describes_connection (h : Reachable cfg s) {w : Writer} (hw : s.write.writer = some w)
    (hd : s.supervisor ≠ .disconnected) :
    s.infos[w.stream]? = some (s.supervisor.pendingInfo.getD s.serverInfo) :=
  (reachable_infoInv h).1.writer w hw hd

/-- An INFO decoded on the first connection and not yet stored: the
connection's info is the new one, and `server_info()` still returns the
connector's. -/
theorem server_info_lags_decoded_info :
    ∃ s, Reachable (natsConfig 64) s ∧ s.write.writer = some ⟨0, []⟩ ∧
      s.supervisor = .dispatchCheck 0 (.info ⟨false⟩) ∧ s.serverInfo = ⟨true⟩ ∧
      s.infos[0]? = some (s.supervisor.pendingInfo.getD s.serverInfo) := by
  obtain ⟨s, hs, h⟩ := Reachable.of_exec (natsConfig 64)
    (fun s => s.write.writer == some ⟨0, []⟩ && s.supervisor == .dispatchCheck 0 (.info ⟨false⟩) &&
      s.serverInfo == ⟨true⟩) (connectRun ++ [.decoded (some (.info ⟨false⟩))]) (by decide)
  simp only [Bool.and_eq_true, beq_iff_eq] at h
  exact ⟨s, hs, h.1.1, h.1.2, h.2, server_info_describes_connection hs h.1.1 (by rw [h.1.2]; nofun)⟩

end NatsClient

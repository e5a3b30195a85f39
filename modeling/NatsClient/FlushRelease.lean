import NatsClient.Pongs

/-!
# Every blocked `flush` returns

`flush` blocks in `pong.recv()` until its sender, queued in `read.pongs`, is
completed by a PONG or a successful `reconnect`, or dropped by a local
disconnect or `close`. Two ways out never depend on the server.

When the server falls silent, the flusher thread's heartbeat is the client's
own way out. On each `recv_timeout` timeout with the server idle for
`PING_INTERVAL`, it counts a PING in `pings_out`. Once `MAX_PINGS_OUT` are
unanswered, it trips the connection and clears `read.pongs`.

* `heartbeat_silent` — one timeout with the server idle counts a PING or, with
  `MAX_PINGS_OUT` unanswered, drops every sender in `pongs`;
* `silence_settles_awaited` — three timeouts in a row settle every one-shot a
  receiver blocks on;
* `blocked_flush_returns` — **no `flush` blocks for good**: from every reachable
  state after `connect` returned, a blocked `flush` call returns once the
  flusher has caught up on its signals, the server has been silent for
  `PING_INTERVAL`, and three heartbeat timeouts have passed. No server frame,
  supervisor step or other user call is needed.

`close` "wakes up all pending flushes": it clears `read.pongs` under both
locks, and `flush` checks the shutdown flag under `state.write` before it
queues its sender.

* `step_pending` — no step puts a one-shot back to pending;
* `shutdown_releases_every_flush` — **`close` wakes every blocked flush**: in
  every reachable state of a shut-down client, each `flush` call in
  `pong.recv()` returns at its next step.
-/

namespace NatsClient

variable {cfg : Config} {s u : Sys}

namespace Sys

/-- Run `a`, then `b`. -/
theorem exec_append (s : Sys) (a b : List Action) : s.exec cfg (a ++ b) = (s.exec cfg a).bind (·.exec cfg b) := by
  induction a generalizing s with
  | nil => rfl
  | cons x a ih =>
    simp only [List.cons_append, exec]
    cases s.step cfg x <;> simp [ih]

/-- What decides whether the heartbeat fires: the flusher's state and its
pending signal, the clock, and the server's last activity. -/
def timer (s : Sys) : Flusher × Bool × Nat × Nat := (s.flusher, s.kicked, s.clock, s.read.lastActive)

theorem timer_dropWaiter (w : Waiter) : (s.dropWaiter w).timer = s.timer := by cases w <;> rfl

theorem timer_disconnect (ok : Bool) : (s.disconnect ok).timer = s.timer := by
  have hf (ws : List Waiter) (t : Sys) : (ws.foldl dropWaiter t).timer = t.timer := by
    induction ws generalizing t with
    | nil => rfl
    | cons w ws ih => exact (ih _).trans (timer_dropWaiter w)
  exact (hf _ _).trans (by unfold dropWriter; split <;> rfl)

theorem timer_shutdownStream : s.shutdownStream.timer = s.timer := by unfold shutdownStream; split <;> rfl

theorem timer_encode (op : ClientOp) (ok : Bool) : (s.encode cfg op ok).1.timer = s.timer := by
  unfold encode; split
  · rfl
  · split
    · unfold wrote; split <;> rfl
    · rfl

theorem timer_flushWriter (ok : Bool) : (s.flushWriter ok).1.timer = s.timer := by
  unfold flushWriter; split
  · rfl
  · split <;> rfl

theorem timer_heartbeat (io : List Bool) : (s.heartbeat cfg io).timer = s.timer := by
  unfold heartbeat; split
  · exact (timer_disconnect _).trans timer_shutdownStream
  · split
    · dsimp only; split
      · rfl
      · split
        · exact (timer_flushWriter _).trans (timer_encode _ _)
        · exact (timer_disconnect _).trans (timer_shutdownStream.trans
            ((timer_flushWriter _).trans (timer_encode _ _)))
    · rfl

/-- The flusher's flush leaves it waiting, and its signal alone. -/
theorem timer_flusherFlush (io : List Bool) :
    (s.flusherFlush io).timer = (.waiting, s.kicked, s.clock, s.read.lastActive) := by
  unfold flusherFlush; split
  · rfl
  · dsimp only; split
    · exact congrArg (fun x : Flusher × Bool × Nat × Nat => (Flusher.waiting, x.2)) (timer_flushWriter _)
    · exact congrArg (fun x : Flusher × Bool × Nat × Nat => (Flusher.waiting, x.2))
        ((timer_disconnect _).trans (timer_shutdownStream.trans (timer_flushWriter _)))

/-- `pong.recv()` returns once its one-shot is settled. -/
theorem flushWait_of_settled {id : Nat} (h : s.status id ≠ .pending) : ∃ r, s.flushWait id = some r := by
  unfold flushWait; unfold status at h
  split
  · exact absurd ‹_› h
  all_goals exact ⟨_, rfl⟩

/-- `writer.flush()` succeeds when the stream takes the bytes. -/
theorem flushWriter_true (hw : s.write.writer.isSome) : (s.flushWriter true).2 = .ok () := by
  obtain ⟨w, hw⟩ := Option.isSome_iff_exists.1 hw
  simp only [flushWriter, hw, Writer.flush, if_true]

end Sys

open Sys

/-! ## One timeout -/

/-- **One timeout with the server silent.** With the server idle for longer
than `PING_INTERVAL` and every stream call succeeding, the heartbeat counts a
PING, or, with `MAX_PINGS_OUT` unanswered, drops every sender in `pongs`. -/
theorem heartbeat_silent (hq : pingInterval < s.clock - s.read.lastActive) :
    (s.read.pingsOut < maxPingsOut ∧ (s.heartbeat cfg []).read.pingsOut = s.read.pingsOut + 1) ∨
      (maxPingsOut ≤ s.read.pingsOut ∧
        ∀ n < s.oneshots.length, .oneshot n ∈ s.read.pongs → (s.heartbeat cfg []).status n ≠ .pending) := by
  unfold heartbeat
  by_cases hmax : maxPingsOut ≤ s.read.pingsOut
  · -- the trip: `read.pongs.clear()` drops the queue
    rw [if_pos hmax]
    refine .inr ⟨hmax, fun n hn hm => ?_⟩
    have hq := (@settles_clearPongs (s.shutdownStream.dropWriter true)).queued n (by simpa using hn)
      (by simpa using hm)
    exact hq.resolve_left (by simp [clearPongs])
  · -- a PING, written and flushed when a writer is installed
    rw [if_neg hmax, if_pos hq]
    refine .inl ⟨Nat.lt_of_not_le hmax, ?_⟩
    dsimp only
    split
    · rfl
    · next w hw =>
      simp only [List.headD_nil, List.getD_nil]
      rw [flushWriter_true (by simp [hw])]
      simp

/-! ## Three timeouts -/

section Silence

variable (hu : Reachable cfg u) (hw : u.flusher = .waiting) (hk : u.kicked = false)
  (hq : pingInterval < u.clock - u.read.lastActive)
include hu hw hk hq

/-- **Silence settles every awaited one-shot.** From a reachable state where the
flusher waits with no signal and the server has been idle for longer than
`PING_INTERVAL`, three heartbeat timeouts run, and after them every one-shot a
receiver blocks on is settled: one of the three finds `MAX_PINGS_OUT` unanswered
and drops the queue. -/
theorem silence_settles_awaited :
    ∃ v, u.exec cfg [.flusher [], .flusher [], .flusher []] = some v ∧ v.calls = u.calls ∧
      ∀ n, Awaited u.calls n → v.status n ≠ .pending := by
  -- each timeout keeps the flusher waiting, the calls, and the silence
  have hstep {x : Sys} (hx : x.timer = u.timer) : x.step cfg (.flusher []) = some (x.heartbeat cfg []) := by
    have hxw : x.flusher = .waiting := (congrArg Prod.fst hx).trans hw
    have hxk : x.kicked = false := (congrArg (·.2.1) hx).trans hk
    simp [step, hxw, hxk]
  have hquiet {x : Sys} (hx : x.timer = u.timer) : pingInterval < x.clock - x.read.lastActive := by
    rwa [show x.clock = u.clock from congrArg (·.2.2.1) hx, show x.read.lastActive = u.read.lastActive from
      congrArg (·.2.2.2) hx]
  -- a trip settles every awaited one-shot, and a settled one stays settled
  have htrip {x : Sys} (hx : Reachable cfg x) (ht : x.timer = u.timer) (hmax : maxPingsOut ≤ x.read.pingsOut)
      (n : Nat) (ha : Awaited x.calls n) : (x.heartbeat cfg []).status n ≠ .pending := by
    by_cases hp : x.status n = .pending
    · have hm := (reachable_waitInv hx).queued n ha hp
      exact ((heartbeat_silent (hquiet ht)).resolve_left (by omega)).2 n ((reachable_waitInv hx).lt n hm) hm
    · exact mt ((settles_heartbeat []).pending n) hp
  have hkeep {x : Sys} {n : Nat} (h : x.status n ≠ .pending) : (x.heartbeat cfg []).status n ≠ .pending :=
    mt ((settles_heartbeat []).pending n) h
  have ht₁ : (u.heartbeat cfg []).timer = u.timer := timer_heartbeat _
  have ht₂ : ((u.heartbeat cfg []).heartbeat cfg []).timer = u.timer := (timer_heartbeat _).trans ht₁
  have hr₁ : Reachable cfg (u.heartbeat cfg []) := .step _ hu (hstep rfl)
  have hr₂ : Reachable cfg ((u.heartbeat cfg []).heartbeat cfg []) := .step _ hr₁ (hstep ht₁)
  have hc₁ : (u.heartbeat cfg []).calls = u.calls := (frame_heartbeat _).calls
  have hc₂ : ((u.heartbeat cfg []).heartbeat cfg []).calls = u.calls := (frame_heartbeat _).calls.trans hc₁
  refine ⟨((u.heartbeat cfg []).heartbeat cfg []).heartbeat cfg [],
    by simp only [exec, hstep rfl, hstep ht₁, hstep ht₂, Option.some_bind], (frame_heartbeat _).calls.trans hc₂,
    fun n ha => ?_⟩
  rcases @heartbeat_silent cfg _ hq with ⟨-, hp₁⟩ | ⟨hmax, -⟩
  · rcases @heartbeat_silent cfg _ (hquiet ht₁) with ⟨hlt, hp₂⟩ | ⟨hmax, -⟩
    · -- the third timeout trips: two PINGs were counted
      have h2 : maxPingsOut = 2 := rfl
      exact htrip hr₂ ht₂ (by omega) n (hc₂ ▸ ha)
    · -- the second timeout trips
      exact hkeep (htrip hr₁ ht₁ hmax n (hc₁ ▸ ha))
  · -- the first timeout trips
    exact hkeep (hkeep (htrip hu rfl hmax n ha))

end Silence

/-! ## A blocked `flush` returns -/

/-- The flusher catching up on its signals: the flush it was signalled for,
then the flush for a signal still pending. -/
def catchUpRun (s : Sys) : List Action :=
  (if s.flusher = .signalled then [.flusher []] else []) ++ (if s.kicked then [.signal, .flusher []] else [])

/-- The server falls silent: the flusher catches up, `PING_INTERVAL` passes
after the server's last activity, and `recv_timeout` times out three times. -/
def silenceRun (s : Sys) : List Action :=
  catchUpRun s ++ .tick (pingInterval + 1 + s.read.lastActive) :: [.flusher [], .flusher [], .flusher []]

/-- After catching up, the flusher waits with no signal; the clock, the
server's last activity and the calls are as they were. -/
theorem catchUp (hf : s.flusher ≠ .notStarted) :
    ∃ u, s.exec cfg (catchUpRun s) = some u ∧ u.timer = (.waiting, false, s.clock, s.read.lastActive) ∧
      u.calls = s.calls := by
  -- the flush the flusher was signalled for
  obtain ⟨v, hv, hvt, hvc⟩ : ∃ v, s.exec cfg (if s.flusher = .signalled then [.flusher []] else []) = some v ∧
      v.timer = (.waiting, s.kicked, s.clock, s.read.lastActive) ∧ v.calls = s.calls := by
    by_cases hs : s.flusher = .signalled
    · rw [if_pos hs]
      exact ⟨s.flusherFlush [], by simp [exec, step, hs], timer_flusherFlush _, (frame_flusherFlush _).calls⟩
    · rw [if_neg hs]
      refine ⟨s, rfl, ?_, rfl⟩
      cases hfl : s.flusher
      exacts [absurd hfl hf, by rw [timer, hfl], absurd hfl hs]
  rw [catchUpRun, exec_append, hv, Option.some_bind]
  have hw : v.flusher = .waiting := congrArg Prod.fst hvt
  cases hk : s.kicked
  · -- no signal pending
    exact ⟨v, rfl, by rw [hvt, hk], hvc⟩
  · -- the flush for the pending signal
    have hvk : v.kicked = true := (congrArg (·.2.1) hvt).trans hk
    refine ⟨{ v with kicked := false, flusher := .signalled }.flusherFlush [], by simp [exec, step, hw, hvk], ?_,
      (frame_flusherFlush (s := { v with kicked := false, flusher := .signalled }) []).calls.trans hvc⟩
    rw [timer_flusherFlush]
    exact congrArg (fun x : Flusher × Bool × Nat × Nat => (Flusher.waiting, false, x.2.2)) hvt

/-- **No `flush` blocks for good.** From every reachable state after `connect`
returned (the flusher thread is running), a `flush` call blocked in
`pong.recv()` returns once the server falls silent. The flusher catches up on
its signals, the server stays idle for `PING_INTERVAL`, and three heartbeat
timeouts pass. One of them finds `MAX_PINGS_OUT` PINGs unanswered, trips the
connection, and drops the call's sender, unless a PONG, a `reconnect` or a
disconnect settled it first. No server frame, supervisor step or other user
call is needed. -/
theorem blocked_flush_returns (h : Reachable cfg s) (hf : s.flusher ≠ .notStarted) {i : Nat} {t : UserThread}
    {id : Nat} (ht : s.calls[i]? = some t) (hc : t.call = .flushWait id) :
    ∃ r s', s.exec cfg (silenceRun s ++ [.call i [] false]) = some s' ∧
      s'.calls[i]?.map UserThread.call = some (.returned r) := by
  obtain ⟨u, hu, hut, huc⟩ := @catchUp cfg _ hf
  -- `PING_INTERVAL` of silence, then three timeouts
  have hq : pingInterval < u.clock + (pingInterval + 1 + s.read.lastActive) - u.read.lastActive := by
    rw [show u.clock = s.clock from congrArg (·.2.2.1) hut, show u.read.lastActive = s.read.lastActive from
      congrArg (·.2.2.2) hut]
    omega
  obtain ⟨v, hv, hvc, hset⟩ := @silence_settles_awaited cfg
    { u with clock := u.clock + (pingInterval + 1 + s.read.lastActive) } (.step (.tick _) (h.exec hu) rfl)
    (congrArg Prod.fst hut) (congrArg (·.2.1) hut) hq
  have hvt : v.calls[i]? = some t := by rw [hvc]; exact huc ▸ ht
  have hst : v.status id ≠ .pending :=
    hset id (.inr ⟨t, List.getElem?_mem (huc ▸ ht), by rw [hc]; rfl⟩)
  -- the call's `pong.recv()` returns
  obtain ⟨r, hr⟩ := flushWait_of_settled hst
  have hcs : v.callStep cfg t.call [] false = some (v, .returned r) := by
    rw [hc]; simp only [callStep, hr, Option.map_some']
  refine ⟨r, { v with calls := v.calls.set i { t with call := .returned r } }, ?_, ?_⟩
  · rw [silenceRun, List.append_assoc, exec_append, hu, Option.some_bind, List.cons_append, exec]
    rw [show u.step cfg (.tick (pingInterval + 1 + s.read.lastActive)) = some _ from rfl, Option.some_bind,
      exec_append, hv, Option.some_bind, exec, step_call hvt hcs, Option.some_bind]
    rfl
  · simp [List.getElem?_set, (List.getElem?_eq_some_iff.1 hvt).1]

/-- A `flush` blocked on the first connection returns after silence. -/
theorem blocked_flush_returns_after_silence :
    ∃ s, Reachable (natsConfig 64) s ∧ s.flusher ≠ .notStarted ∧
      s.calls[0]?.map UserThread.call = some (.flushWait 1) ∧
      ∃ r s', s.exec (natsConfig 64) (silenceRun s ++ [.call 0 [] false]) = some s' ∧
        s'.calls[0]?.map UserThread.call = some (.returned r) := by
  obtain ⟨s, hs, h⟩ := Reachable.of_exec (natsConfig 64)
    (fun s => s.flusher != .notStarted &&
      match s.calls[0]?.map UserThread.call with
      | some (.flushWait 1) => true
      | _ => false) blockedFlushRun (by decide)
  simp only [Bool.and_eq_true, bne_iff_ne, ne_eq] at h
  obtain ⟨hf, hm⟩ := h
  split at hm
  · next hc =>
    obtain ⟨t, ht, htc⟩ := Option.map_eq_some'.1 hc
    exact ⟨s, hs, hf, hc, blocked_flush_returns hs hf ht htc⟩
  · cases hm

/-! ## `close` -/

namespace Sys

/-- **No step puts a one-shot back to pending.** A one-shot pending after a
step was pending before; a one-shot `flush` creates was out of range. -/
theorem step_pending {a : Action} {s' : Sys} (h : s.step cfg a = some s') {n : Nat}
    (hp : s'.status n = .pending) : s.status n = .pending := by
  rcases step_inv h with ⟨c, -, rfl⟩ | ⟨i, io, b, t, r, -, hr, rfl⟩ | ⟨r, -, rfl⟩ | ⟨c, r, -, -, rfl⟩ |
    ⟨io, h⟩ | ⟨-, -, rfl⟩ | ⟨io, -, rfl⟩ | ⟨io, -, -, rfl⟩ | ⟨b, -, h⟩ | ⟨ms, rfl⟩
  · exact hp
  · -- a user call's section
    by_cases hc : t.call = .flush
    · rw [hc] at hr
      cases hr
      obtain ⟨u, hu, ⟨_, he⟩ | ⟨-, he⟩⟩ := @flush_cases cfg s io <;>
        exact hu.pending n (by rw [he] at hp; exact hp)
    · exact (callStep_settles hr hc).1.pending n hp
  · cases r <;> exact hp
  · exact (settles_decoded _ _).pending n hp
  · exact (settles_supervisorStep h).pending n hp
  · exact hp
  · exact (settles_flusherFlush io).pending n hp
  · exact (settles_heartbeat io).pending n hp
  · exact (settles_select h).pending n hp
  · exact hp

/-- On a shut-down client no call starts to block: a receiver blocked after a
step was blocked before. -/
theorem step_awaited_of_shutdown (hsd : s.shutdown = true) {a : Action} {s' : Sys} (h : s.step cfg a = some s')
    {n : Nat} (ha : Awaited s'.calls n) : Awaited s.calls n := by
  rcases step_cases h with ⟨c, hc, rfl⟩ | ⟨i, io, b, t, r, -, hr, rfl⟩ | hf
  · -- a new call blocks on nothing
    refine ha.imp_right fun ⟨t, ht, hw⟩ => ?_
    rcases List.mem_append.1 ht with ht | ht
    · exact ⟨t, ht, hw⟩
    · rw [List.mem_singleton.1 ht, Call.waitsOn_of_isEntry hc.1] at hw
      cases hw
  · -- `flush` returns at `check_shutdown`; every other section blocks on nothing
    refine ha.of_set.resolve_right ?_
    by_cases hc : t.call = .flush
    · rw [hc] at hr
      cases hr
      simp [flush, checkShutdown, hsd, Call.waitsOn]
    · rw [(callStep_settles hr hc).2]
      nofun
  · exact hf.calls ▸ ha

/-- `close` on an open client drops every sender queued in `pongs`. -/
theorem close_drops (hsd : s.shutdown = false) (io : List Bool) {n : Nat} (hn : n < s.oneshots.length)
    (hm : .oneshot n ∈ s.read.pongs) : (s.close cfg io).status n ≠ .pending := by
  have hpongs : (s.close cfg io).read.pongs = [] := by simp [close, hsd, clearPongs]
  exact ((settles_close io).queued n hn hm).resolve_left (by rw [hpongs]; nofun)

end Sys

/-- Once the client is shut down, no receiver is blocked on a pending one-shot. -/
def Released (s : Sys) : Prop := s.shutdown = true → ∀ n, Awaited s.calls n → s.status n ≠ .pending

theorem Released.step (hr : Released s) (hw : WaitInv s) {a : Action} {s' : Sys} (h : s.step cfg a = some s') :
    Released s' := by
  intro hsd' n ha hp
  by_cases hsd : s.shutdown = true
  · exact hr hsd n (step_awaited_of_shutdown hsd h ha) (step_pending h hp)
  -- the step shut the client down: it is the first `close`
  rcases step_cases h with ⟨c, -, rfl⟩ | ⟨i, io, b, t, r, -, hcs, rfl⟩ | hf
  · exact hsd hsd'
  · rcases callStep_cases hcs with hf | ⟨subject, q, -, he⟩ | ⟨sid, -, he⟩ | ⟨hc, he⟩
    · exact hsd (hf.shutdown ▸ hsd')
    · exact hsd ((subscribe_lifecycle subject q io).1 ▸ he ▸ hsd')
    · exact hsd ((unsubscribe_lifecycle sid io).1 ▸ he ▸ hsd')
    · -- `close` drops the sender of every receiver that was blocked
      rw [hc] at hcs
      cases hcs
      have ha' : Awaited s.calls n := ha.of_set.resolve_right nofun
      have hm := hw.queued n ha' (step_pending h hp)
      exact close_drops (Bool.eq_false_iff.2 hsd) io (hw.lt n hm) hm hp
  · exact hsd (hf.shutdown ▸ hsd')

theorem reachable_released (h : Reachable cfg s) : Released s ∧ WaitInv s := by
  induction h with
  | init => exact ⟨fun h => absurd h (by simp [Sys.init]), .init cfg⟩
  | step _ _ hs ih => exact ⟨ih.1.step ih.2 hs, ih.2.step hs⟩

/-- **`close` wakes every blocked flush.** In every reachable state of a
shut-down client, each `flush` call blocked in `pong.recv()` returns at its
next step: with `Ok` if a PONG or a `reconnect` completed its sender first, and
with `flush failed` if `close` dropped it. Neither a `flush` that raced with
`close` nor one started after it stays blocked. -/
theorem shutdown_releases_every_flush (h : Reachable cfg s) (hsd : s.shutdown = true) {i : Nat}
    {t : UserThread} {id : Nat} (ht : s.calls[i]? = some t) (hc : t.call = .flushWait id) :
    ∃ r, s.flushWait id = some r :=
  flushWait_of_settled ((reachable_released h).1 hsd id (.inr ⟨t, List.getElem?_mem ht, by rw [hc]; rfl⟩))

/-- A `flush` blocked on the first connection, then `close`. -/
def closeAfterFlushRun : List Action := blockedFlushRun ++ [.start .close, .call 1 [] false]

theorem close_wakes_blocked_flush :
    ∃ s, Reachable (natsConfig 64) s ∧ s.shutdown = true ∧
      s.calls[0]?.map UserThread.call = some (.flushWait 1) ∧ ∃ r, s.flushWait 1 = some r := by
  obtain ⟨s, hs, h⟩ := Reachable.of_exec (natsConfig 64)
    (fun s => s.shutdown &&
      match s.calls[0]?.map UserThread.call with
      | some (.flushWait 1) => true
      | _ => false) closeAfterFlushRun (by decide)
  simp only [Bool.and_eq_true] at h
  obtain ⟨hsd, hm⟩ := h
  split at hm
  · next hc =>
    obtain ⟨t, ht, htc⟩ := Option.map_eq_some'.1 hc
    exact ⟨s, hs, hsd, hc, shutdown_releases_every_flush hs hsd ht htc⟩
  · cases hm

end NatsClient

import Mathlib

/-!
# The locking protocol

`client.rs` guards its state with four mutexes: `state.write`, `state.read`,
`shutdown` and `server_info`. `State`'s comment states the protocol: when both
`write` and `read` are taken, `write` is taken first and released last. The
model here keeps only what a thread does with the mutexes: each code path of
the client is the list of its `lock`, `try_lock` and guard drops (`LockOp`),
with its branches as parameters (`Path.locks`). Early returns through `?` drop
the guards in scope in reverse order, as Rust does.

`runLocks` checks one path against the protocol: every acquisition must
outrank every mutex held (`Mutex.rank`: `write`, then `read`, then `shutdown`
or `server_info`), and every release must be of a mutex held. Threads then run
any sequence of paths, interleaved (`LockSys`).

* `runLocks_locks` — every path of the client follows the protocol and ends
  holding nothing.
* `locks_ordered_no_deadlock` — in every reachable state of any number of
  threads running these paths, no nonempty set of threads waits on each other:
  a blocked thread waits for a mutex ranked above every mutex it holds, so a
  cycle of waits would climb the ranks forever.
-/

namespace NatsClient

/-- The client's mutexes. -/
inductive Mutex
  | write
  | read
  | shutdown
  | serverInfo
  deriving DecidableEq, Repr

/-- The protocol's order: `write` before `read` before `shutdown` or
`server_info`; the last two are never held together. -/
def Mutex.rank : Mutex → Nat
  | .write => 0
  | .read => 1
  | .shutdown => 2
  | .serverInfo => 2

theorem Mutex.rank_le (m : Mutex) : m.rank ≤ 2 := by cases m <;> decide

/-- What a code path does with a mutex. -/
inductive LockOp
  /-- `lock()`: blocks while another thread holds the mutex. -/
  | lock (m : Mutex)
  /-- `try_lock()?`: takes the mutex if it is free, else returns from the
  function, dropping every guard in scope. -/
  | tryLock (m : Mutex)
  /-- A guard is dropped. -/
  | unlock (m : Mutex)
  deriving DecidableEq, Repr

/-- Run `ops` from holding `held` against the protocol: the mutexes held at the
end, or `none` when an acquisition does not outrank every mutex held or a
release is of a mutex not held. -/
def runLocks : List Mutex → List LockOp → Option (List Mutex)
  | held, [] => some held
  | held, .lock m :: rest | held, .tryLock m :: rest =>
    if ∀ h ∈ held, h.rank < m.rank then runLocks (m :: held) rest else none
  | held, .unlock m :: rest => if m ∈ held then runLocks (held.erase m) rest else none

/-! ## The client's code paths -/

/-- `check_shutdown` and `shutdown`: the `shutdown` mutex, briefly. -/
def shutdownLocks : List LockOp := [.lock .shutdown, .unlock .shutdown]

/-- What `dispatch` does for one decoded frame, after `update_activity`. -/
inductive DispatchOp
  | info
  | ping
  | pong
  | msg
  | other
  deriving DecidableEq, Repr

/-- The mutexes of `dispatch`'s match arm for the frame. -/
def DispatchOp.locks : DispatchOp → List LockOp
  | .info => [.lock .serverInfo, .unlock .serverInfo]
  | .ping | .pong => [.lock .write, .lock .read, .unlock .read, .unlock .write]
  | .msg => [.lock .read, .unlock .read]
  | .other => []

/-- One run of a code path of the client. `closed` is a `check_shutdown` that
fails, `failed` a stream error on the path's error branch. -/
inductive Path
  /-- `publish` (also under `Message::respond` and the acks); `rejected`: the
  headers check fails. -/
  | publish (rejected closed failed : Bool)
  | tryPublish (closed failed : Bool)
  | subscribe
  | unsubscribe
  | flush (closed failed : Bool)
  | close
  | serverInfo
  /-- `run`: `reconnect` onto a new connection. -/
  | reconnect (closed failed : Bool)
  /-- `run`: one iteration of `dispatch`'s loop. -/
  | dispatch (closed : Bool) (op : DispatchOp)
  /-- `run`, after `dispatch` failed: `state.write.lock().writer = None`. -/
  | disconnected
  /-- `run`: `pings_out = 0`. -/
  | clearPings
  /-- `run`: the `check_shutdown` at the bottom of its loop. -/
  | runCheck
  /-- The supervisor thread's final flush. -/
  | finalFlush
  /-- The flusher, after a signal. -/
  | flusherFlush (failed : Bool)
  /-- The flusher's timeout branch. -/
  | heartbeat

/-- The lock operations of a path, in order. -/
def Path.locks : Path → List LockOp
  | .publish rejected closed failed =>
    [.lock .serverInfo, .unlock .serverInfo] ++
      if rejected then [] else shutdownLocks ++
        if closed then [] else
          [.lock .write] ++ (if failed then [.lock .read, .unlock .read] else []) ++ [.unlock .write]
  | .tryPublish closed failed =>
    shutdownLocks ++ if closed then [] else
      [.tryLock .write] ++ (if failed then [.lock .read, .unlock .read] else []) ++ [.unlock .write]
  | .subscribe => [.lock .write, .lock .read] ++ shutdownLocks ++ [.unlock .read, .unlock .write]
  | .unsubscribe => [.lock .write, .lock .read, .unlock .read, .unlock .write]
  | .flush closed failed =>
    [.lock .write] ++ shutdownLocks ++
      (if closed || failed then [] else [.lock .read, .unlock .read]) ++ [.unlock .write]
  | .close => [.lock .write, .lock .read] ++ shutdownLocks ++ [.unlock .read, .unlock .write]
  | .serverInfo => [.lock .serverInfo, .unlock .serverInfo]
  | .reconnect closed failed =>
    shutdownLocks ++ if closed then [] else
      [.lock .write, .lock .read] ++ (if failed then [] else [.lock .serverInfo, .unlock .serverInfo]) ++
        [.unlock .read, .unlock .write]
  | .dispatch closed op =>
    shutdownLocks ++ if closed then [] else [.lock .read, .unlock .read] ++ op.locks
  | .disconnected | .finalFlush => [.lock .write, .unlock .write]
  | .clearPings => [.lock .read, .unlock .read]
  | .runCheck => shutdownLocks
  | .flusherFlush failed =>
    [.lock .write] ++ (if failed then [.lock .read, .unlock .read] else []) ++ [.unlock .write]
  | .heartbeat => [.lock .write, .lock .read, .unlock .read, .unlock .write]

/-- Every code path follows the protocol from holding nothing, and ends holding
nothing. -/
theorem runLocks_locks : ∀ p : Path, runLocks [] p.locks = some []
  | .publish a b c => by revert a b c; decide
  | .tryPublish a b => by revert a b; decide
  | .flush a b => by revert a b; decide
  | .reconnect a b => by revert a b; decide
  | .dispatch a op => by cases op <;> revert a <;> decide
  | .flusherFlush a => by revert a; decide
  | .subscribe | .unsubscribe | .close | .serverInfo | .disconnected | .clearPings | .runCheck
  | .finalFlush | .heartbeat => by decide

/-! ## Threads running paths -/

/-- A thread: the mutexes it holds, innermost first, the rest of its current
path, and the paths it runs next. -/
structure LockThread where
  held : List Mutex
  ops : List LockOp
  todo : List Path

/-- Threads `0, 1, …` and the owner of each mutex. -/
structure LockSys where
  threads : Nat → LockThread
  owner : Mutex → Option Nat

namespace LockSys

variable (σ : LockSys)

/-- Every thread about to run its paths, holding nothing. -/
def init (progs : Nat → List Path) : LockSys := ⟨fun i => ⟨[], [], progs i⟩, fun _ => none⟩

/-- Thread `i` takes the free mutex `m` and goes on with `rest`. -/
def acquire (i : Nat) (m : Mutex) (rest : List LockOp) : LockSys :=
  ⟨Function.update σ.threads i { σ.threads i with held := m :: (σ.threads i).held, ops := rest },
    Function.update σ.owner m (some i)⟩

/-- Thread `i`'s `try_lock()?` found the mutex taken: it returns, dropping
every guard it holds. -/
def abandon (i : Nat) : LockSys :=
  ⟨Function.update σ.threads i { σ.threads i with held := [], ops := [] },
    fun m => if m ∈ (σ.threads i).held then none else σ.owner m⟩

/-- Thread `i` drops its guard of `m` and goes on with `rest`. -/
def release (i : Nat) (m : Mutex) (rest : List LockOp) : LockSys :=
  ⟨Function.update σ.threads i { σ.threads i with held := (σ.threads i).held.erase m, ops := rest },
    Function.update σ.owner m none⟩

/-- Thread `i` starts its next path. -/
def load (i : Nat) (p : Path) (ps : List Path) : LockSys :=
  { σ with threads := Function.update σ.threads i { σ.threads i with ops := p.locks, todo := ps } }

/-- One step of thread `i`; `none` while it blocks on a taken mutex, or when it
has nothing left to run. -/
def step (i : Nat) : Option LockSys :=
  match (σ.threads i).ops, (σ.threads i).todo with
  | [], [] => none
  | [], p :: ps => some (σ.load i p ps)
  | .lock m :: rest, _ => if σ.owner m = none then some (σ.acquire i m rest) else none
  | .tryLock m :: rest, _ => if σ.owner m = none then some (σ.acquire i m rest) else some (σ.abandon i)
  | .unlock m :: rest, _ => some (σ.release i m rest)

/-- Thread `i` is blocked on a mutex that thread `j` holds. -/
def WaitsFor (i j : Nat) : Prop :=
  ∃ m rest, (σ.threads i).ops = .lock m :: rest ∧ σ.owner m = some j

end LockSys

/-- The states threads running the client's paths reach, from any programs. -/
inductive LockReachable : LockSys → Prop
  | init (progs : Nat → List Path) : LockReachable (LockSys.init progs)
  | step {σ σ' : LockSys} (i : Nat) : LockReachable σ → σ.step i = some σ' → LockReachable σ'

/-! ## Ownership and order over runs -/

/-- A path that runs past an acquisition of `m` held only mutexes ranked below
`m`, and runs on holding `m` too. -/
theorem runLocks_lock {held r : List Mutex} {m : Mutex} {rest : List LockOp}
    (h : runLocks held (.lock m :: rest) = some r) :
    (∀ x ∈ held, x.rank < m.rank) ∧ runLocks (m :: held) rest = some r := by
  simp only [runLocks] at h
  split at h
  · exact ⟨‹_›, h⟩
  · cases h

/-- Ownership agrees with what each thread holds, no thread holds a mutex
twice, and the rest of each thread's path follows the protocol. -/
structure LockInv (σ : LockSys) : Prop where
  owner_iff : ∀ i m, σ.owner m = some i ↔ m ∈ (σ.threads i).held
  nodup : ∀ i, (σ.threads i).held.Nodup
  ordered : ∀ i, runLocks (σ.threads i).held (σ.threads i).ops = some []

theorem LockInv.init (progs : Nat → List Path) : LockInv (LockSys.init progs) :=
  ⟨by simp [LockSys.init], fun _ => List.nodup_nil, fun _ => rfl⟩

namespace LockInv

variable {σ : LockSys} (hσ : LockInv σ)
include hσ

theorem acquire {i : Nat} {m : Mutex} {rest : List LockOp} (hfree : σ.owner m = none)
    (hrun : runLocks (m :: (σ.threads i).held) rest = some []) : LockInv (σ.acquire i m rest) := by
  -- `m` is free, so no thread holds it
  have hm : ∀ j, m ∉ (σ.threads j).held := fun j h => by simp [(hσ.owner_iff j m).2 h] at hfree
  refine ⟨fun j x => ?_, fun j => ?_, fun j => ?_⟩
  · by_cases hj : j = i
    · subst hj; by_cases hx : x = m <;> simp [LockSys.acquire, hx, hσ.owner_iff]
    · by_cases hx : x = m <;>
        simp [LockSys.acquire, Function.update_apply, hx, hj, Ne.symm hj, hσ.owner_iff, hm]
  · by_cases hj : j = i
    · subst hj; simp [LockSys.acquire, hm, hσ.nodup j]
    · simp [LockSys.acquire, hj, hσ.nodup j]
  · by_cases hj : j = i
    · subst hj; simp [LockSys.acquire, hrun]
    · simp [LockSys.acquire, hj, hσ.ordered j]

theorem release {i : Nat} {m : Mutex} {rest : List LockOp}
    (hrun : runLocks (σ.threads i).held (.unlock m :: rest) = some []) :
    LockInv (σ.release i m rest) := by
  simp only [runLocks] at hrun
  split at hrun
  case isFalse => cases hrun
  case isTrue hm =>
  -- `m` is thread `i`'s, so no other thread holds it
  have hother : ∀ j, j ≠ i → m ∉ (σ.threads j).held := fun j hj h => by
    have := ((hσ.owner_iff j m).2 h).symm.trans ((hσ.owner_iff i m).2 hm)
    exact hj (Option.some.inj this)
  have herase : ∀ x, x ∈ (σ.threads i).held.erase m ↔ x ≠ m ∧ x ∈ (σ.threads i).held :=
    fun x => (hσ.nodup i).mem_erase_iff
  refine ⟨fun j x => ?_, fun j => ?_, fun j => ?_⟩
  · by_cases hx : x = m <;> by_cases hj : j = i
    all_goals simp [LockSys.release, Function.update_apply, hx, hj, hσ.owner_iff, herase, hother]
  · by_cases hj : j = i
    · subst hj; simpa [LockSys.release] using (hσ.nodup j).erase m
    · simp [LockSys.release, hj, hσ.nodup j]
  · by_cases hj : j = i
    · subst hj; simp [LockSys.release, hrun]
    · simp [LockSys.release, hj, hσ.ordered j]

theorem abandon (i : Nat) : LockInv (σ.abandon i) := by
  -- a mutex thread `i` held is held by no other thread
  have hother : ∀ j x, j ≠ i → x ∈ (σ.threads i).held → x ∉ (σ.threads j).held := fun j x hj hi h => by
    have := ((hσ.owner_iff j x).2 h).symm.trans ((hσ.owner_iff i x).2 hi)
    exact hj (Option.some.inj this)
  refine ⟨fun j x => ?_, fun j => ?_, fun j => ?_⟩
  · by_cases hj : j = i
    · subst hj
      by_cases hx : x ∈ (σ.threads j).held
      · simp [LockSys.abandon, hx]
      · simp [LockSys.abandon, hx, hσ.owner_iff]
    · by_cases hx : x ∈ (σ.threads i).held
      · simp [LockSys.abandon, hx, hj, hother j x hj hx]
      · simp [LockSys.abandon, hx, hj, hσ.owner_iff]
  · by_cases hj : j = i
    · subst hj; simp [LockSys.abandon]
    · simp [LockSys.abandon, hj, hσ.nodup j]
  · by_cases hj : j = i
    · subst hj; simp [LockSys.abandon, runLocks]
    · simp [LockSys.abandon, hj, hσ.ordered j]

theorem load {i : Nat} {p : Path} {ps : List Path} (hops : (σ.threads i).ops = []) :
    LockInv (σ.load i p ps) := by
  -- a thread between paths holds nothing
  have hheld : (σ.threads i).held = [] := by simpa [hops, runLocks] using hσ.ordered i
  refine ⟨fun j x => ?_, fun j => ?_, fun j => ?_⟩
  · by_cases hj : j = i
    · subst hj; simp [LockSys.load, hσ.owner_iff]
    · simp [LockSys.load, hj, hσ.owner_iff]
  · by_cases hj : j = i
    · subst hj; simp [LockSys.load, hσ.nodup j]
    · simp [LockSys.load, hj, hσ.nodup j]
  · by_cases hj : j = i
    · subst hj; simp [LockSys.load, hheld, runLocks_locks]
    · simp [LockSys.load, hj, hσ.ordered j]

theorem step {i : Nat} {σ' : LockSys} (h : σ.step i = some σ') : LockInv σ' := by
  have hrun := hσ.ordered i
  unfold LockSys.step at h
  split at h
  · cases h
  · cases h; exact hσ.load ‹_›
  next _ _ m rest hops =>
    rw [hops] at hrun
    split at h <;> cases h
    exact hσ.acquire ‹_› (runLocks_lock hrun).2
  next _ _ m rest hops =>
    rw [hops] at hrun
    split at h <;> cases h
    · refine hσ.acquire ‹_› ?_
      simp only [runLocks] at hrun
      split at hrun
      · exact hrun
      · cases hrun
    · exact hσ.abandon i
  next _ _ m rest hops =>
    rw [hops] at hrun
    cases h; exact hσ.release hrun

/-- **No wait cycle.** No nonempty set of threads all blocked on mutexes held
inside the set: following the waits climbs the ranks, which stop at 2. -/
theorem no_wait_cycle (S : List Nat) (hS : S ≠ []) : ¬ ∀ i ∈ S, ∃ j ∈ S, σ.WaitsFor i j := by
  intro h
  have climb : ∀ n, ∃ i ∈ S, ∃ m rest, (σ.threads i).ops = .lock m :: rest ∧ n ≤ m.rank := by
    intro n
    induction n with
    | zero =>
      obtain ⟨i, hi⟩ := List.exists_mem_of_ne_nil S hS
      obtain ⟨_, _, m, rest, hops, _⟩ := h i hi
      exact ⟨i, hi, m, rest, hops, Nat.zero_le _⟩
    | succ n ih =>
      obtain ⟨i, hi, m, rest, hops, hn⟩ := ih
      obtain ⟨j, hj, m₁, rest₁, hops₁, hown⟩ := h i hi
      obtain ⟨k, -, m', rest', hops', -⟩ := h j hj
      -- thread `j` holds what `i` waits for, and waits for a mutex ranked above it
      have hm : m₁ = m := by rw [hops] at hops₁; exact (LockOp.lock.inj (List.cons.inj hops₁).1).symm
      have hheld : m ∈ (σ.threads j).held := (hσ.owner_iff j m).1 (hm ▸ hown)
      have hlt := (runLocks_lock (hops' ▸ hσ.ordered j)).1 m hheld
      exact ⟨j, hj, m', rest', hops', by omega⟩
  obtain ⟨i, -, m, -, -, h3⟩ := climb 3
  have := m.rank_le
  omega

end LockInv

theorem reachable_lockInv {σ : LockSys} (h : LockReachable σ) : LockInv σ := by
  induction h with
  | init progs => exact .init progs
  | step _ _ hstep ih => exact ih.step hstep

/-- **The locking protocol holds, and the client cannot deadlock on it.** Every
code path of the client takes `write` before `read` before `shutdown` or
`server_info`, never a mutex it holds, and never `shutdown` and `server_info`
together, and it ends holding nothing; in every reachable state of threads
running any sequences of these paths, no nonempty set of threads waits on each
other. -/
theorem locks_ordered_no_deadlock :
    (∀ p : Path, runLocks [] p.locks = some []) ∧
      ∀ σ, LockReachable σ → ∀ S : List Nat, S ≠ [] → ¬ ∀ i ∈ S, ∃ j ∈ S, σ.WaitsFor i j :=
  ⟨runLocks_locks, fun _ h => (reachable_lockInv h).no_wait_cycle⟩

end NatsClient

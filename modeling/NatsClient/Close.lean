import NatsClient.System

/-!
# `close` and what follows it

`close` takes both locks, sets the shutdown flag, empties the subscription
table and drops the pending PONGs. Every user method checks the flag before it
changes anything, and the flag is never cleared:

* `close_is_terminal` — once a `close` call has returned, the client stays shut
  down with an empty subscription table, and every call started afterwards
  either returned what `Call.closedResult` says or can still run its next
  section. That is `NotConnected` for `subscribe`, `flush` and `try_publish`.
  `publish` checks the server's header support before the flag, so a `publish`
  with headers may return `InvalidInput` instead, and only while
  `server_info.headers` is false. `unsubscribe` returns `Ok` and writes nothing.
* `reconnect_installs_after_close` — `reconnect` checks the flag before it
  takes the locks, so a reconnect after a lost connection that passed the check
  before `close` ran still installs a new writer after `close` returned.
-/

namespace NatsClient

open Sys

/-- What a call to `e` returns when it started after `close` returned. -/
def Call.closedResult : Call → Ret → Prop
  | .publish p, r => r = .unit (.error closedError) ∨ (p.headers.isSome = true ∧ r = .unit (.error headersError))
  | .tryPublish _, r => r = .tried (some (.error closedError))
  | .subscribe .., r => r = .subscribed (.error closedError)
  | .flush, r => r = .unit (.error closedError)
  | .unsubscribe _, r => r = .unit (.ok ())
  | .close, r => r = .unit (.ok ())
  | .serverInfo, r => ∃ i, r = .info i
  | _, _ => False

/-- Where a call to `e` that started after `close` returned can be: at its
entry, at `publish`'s shutdown check, or returned with its `closedResult`. -/
def Call.closedAt (e c : Call) : Prop :=
  e.isEntry = true ∧
    (c = e ∨ (∃ p, e = .publish p ∧ c = .publishCheck p) ∨ ∃ r, c = .returned r ∧ e.closedResult r)

/-- The invariant behind `close_is_terminal`. -/
structure ClosedInv (s : Sys) : Prop where
  shutdown_of_closed : s.closed = true → s.shutdown = true
  empty_of_shutdown : s.shutdown = true → s.read.subscriptions = ∅
  closed_of_late : ∀ t ∈ s.calls, t.late = true → s.closed = true
  late_at : ∀ t ∈ s.calls, t.late = true → t.entry.closedAt t.call

variable {cfg : Config} {s s' : Sys}

theorem ClosedInv.init : ClosedInv (Sys.init cfg) := by
  refine ⟨?_, ?_, ?_, ?_⟩ <;> simp [Sys.init]

theorem ClosedInv.of_frame (hs : ClosedInv s) (h : Frame s s') : ClosedInv s' where
  shutdown_of_closed := by rw [h.closed, h.shutdown]; exact hs.shutdown_of_closed
  empty_of_shutdown := by rw [h.shutdown, h.subscriptions]; exact hs.empty_of_shutdown
  closed_of_late := by rw [h.calls, h.closed]; exact hs.closed_of_late
  late_at := by rw [h.calls]; exact hs.late_at

/-! ## User calls on a shut-down client -/

section Shut

variable (hsd : s.shutdown = true) (he : s.read.subscriptions = ∅)
include hsd he

/-- On a shut-down client a section changes nothing but the ghost `closed`. -/
theorem callStep_of_shutdown {c : Call} {io : List Bool} {b : Bool} {r : Sys × Call}
    (h : s.callStep cfg c io b = some r) : Frame s r.1 ∨ r.1 = { s with closed := true } := by
  rcases callStep_cases h with hf | ⟨_, _, -, hr⟩ | ⟨sid, -, hr⟩ | ⟨-, hr⟩
  · exact .inl hf
  · rw [hr, subscribe_of_shutdown hsd]; exact .inl rfl
  · rw [hr, unsubscribe_of_lookup (s := s) sid (by simp [he])]; exact .inl rfl
  · rw [hr, close_of_shutdown hsd]; exact .inr rfl

/-- A call started after `close` returned stays within `closedAt`. -/
theorem closedAt_callStep {e c : Call} {io : List Bool} {b : Bool} {r : Sys × Call}
    (hl : e.closedAt c) (h : s.callStep cfg c io b = some r) : e.closedAt r.2 := by
  obtain ⟨hent, rfl | ⟨p, rfl, rfl⟩ | ⟨r, rfl, -⟩⟩ := hl
  · refine ⟨hent, ?_⟩
    -- only the entries are left
    cases c <;> cases hent <;> simp only [callStep, Option.some.injEq] at h <;> subst h
    case publish.refl p =>
      unfold publishInfo; split
      · next hh => exact .inr (.inr ⟨_, rfl, .inr ⟨(Bool.and_eq_true_iff.1 hh).1, rfl⟩⟩)
      · exact .inr (.inl ⟨p, rfl, rfl⟩)
    case tryPublish.refl => exact .inr (.inr ⟨_, by rw [tryPublishCheck, checkShutdown, hsd]; rfl, rfl⟩)
    case subscribe.refl => exact .inr (.inr ⟨_, by rw [subscribe_of_shutdown hsd], rfl⟩)
    case unsubscribe.refl sid =>
      exact .inr (.inr ⟨_, by rw [unsubscribe_of_lookup (s := s) sid (by rw [he]; rfl)], rfl⟩)
    case flush.refl => exact .inr (.inr ⟨_, by rw [flush, checkShutdown, hsd]; rfl, rfl⟩)
    case close.refl => exact .inr (.inr ⟨_, rfl, rfl⟩)
    case serverInfo.refl => exact .inr (.inr ⟨_, rfl, _, rfl⟩)
  · cases h; exact ⟨hent, .inr (.inr ⟨_, by rw [publishCheck, checkShutdown, hsd]; rfl, .inl rfl⟩)⟩
  · cases h

/-- A call started after `close` returned gets `InvalidInput` only from
`publish`'s `server_info` check, while `server_info.headers` is false. -/
theorem closedAt_headersError {e c : Call} {io : List Bool} {b : Bool} {r : Sys × Call}
    (hl : e.closedAt c) (h : s.callStep cfg c io b = some r) (hr : r.2 = .returned (.unit (.error headersError))) :
    s.serverInfo.headers = false := by
  obtain ⟨hent, rfl | ⟨p, rfl, rfl⟩ | ⟨r, rfl, -⟩⟩ := hl
  · cases c <;> cases hent <;> simp only [callStep, Option.some.injEq] at h <;> subst h
    case publish.refl p =>
      unfold publishInfo at hr; split at hr
      · next hh => exact (by simpa using hh : _ ∧ _).2
      · cases hr
    case tryPublish.refl => rw [tryPublishCheck, checkShutdown, hsd] at hr; cases hr
    case subscribe.refl => rw [subscribe_of_shutdown hsd] at hr; cases hr
    case unsubscribe.refl sid => rw [unsubscribe_of_lookup (s := s) sid (by rw [he]; rfl)] at hr; cases hr
    case flush.refl => rw [flush, checkShutdown, hsd] at hr; cases hr
    case close.refl => cases hr
    case serverInfo.refl => cases hr
  · cases h; rw [publishCheck, checkShutdown, hsd] at hr; cases hr
  · cases h

end Shut

/-! ## The invariant over runs -/

/-- From an open client, a section leaves it open, or it is `close`, which shuts
it and empties the table. -/
theorem callStep_of_open (hsd : s.shutdown = false) {c : Call} {io : List Bool} {b : Bool}
    {r : Sys × Call} (h : s.callStep cfg c io b = some r) :
    (r.1.shutdown = false ∧ r.1.closed = s.closed) ∨
      (r.1.shutdown = true ∧ r.1.closed = true ∧ r.1.read.subscriptions = ∅) := by
  rcases callStep_cases h with hf | ⟨_, _, -, hr⟩ | ⟨_, -, hr⟩ | ⟨-, hr⟩
  · exact .inl ⟨hf.shutdown.trans hsd, hf.closed⟩
  all_goals rw [hr]
  · exact .inl ⟨(subscribe_lifecycle _ _ _).1.trans hsd, (subscribe_lifecycle _ _ _).2⟩
  · exact .inl ⟨(unsubscribe_lifecycle _ _).1.trans hsd, (unsubscribe_lifecycle _ _).2⟩
  · exact .inr ⟨(close_spec io).1, rfl, (close_spec io).2.2 hsd⟩

theorem ClosedInv.call (hs : ClosedInv s) {i : Nat} {t : UserThread} {io : List Bool} {b : Bool}
    {r : Sys × Call} (ht : s.calls[i]? = some t) (h : s.callStep cfg t.call io b = some r) :
    ClosedInv { r.1 with calls := s.calls.set i { t with call := r.2 } } := by
  have hmem : t ∈ s.calls := List.getElem?_mem ht
  -- every thread of the new state is an old one, or thread `i` at its next point
  have hcalls : ∀ t' ∈ s.calls.set i { t with call := r.2 },
      t' ∈ s.calls ∨ t' = { t with call := r.2 } := fun _ h => List.mem_or_eq_of_mem_set h
  -- the lifecycle flags after the section, from the shutdown flag before it
  have hlife : (r.1.closed = true → r.1.shutdown = true) ∧
      (r.1.shutdown = true → r.1.read.subscriptions = ∅) ∧ (s.closed = true → r.1.closed = true) := by
    cases hsd : s.shutdown
    case false =>
      have hc : s.closed = false := Bool.eq_false_iff.2 fun hc => by simp [hs.shutdown_of_closed hc] at hsd
      rcases callStep_of_open hsd h with ⟨h₁, h₂⟩ | ⟨h₁, h₂, h₃⟩
      · simp [h₁, h₂, hc]
      · exact ⟨fun _ => h₁, fun _ => h₃, fun _ => h₂⟩
    case true =>
      have he := hs.empty_of_shutdown hsd
      rcases callStep_of_shutdown hsd he h with hf | hr
      · exact ⟨fun _ => hf.shutdown.trans hsd, fun _ => hf.subscriptions.trans he, fun hc => hf.closed.trans hc⟩
      · rw [hr]; exact ⟨fun _ => hsd, fun _ => he, fun _ => rfl⟩
  refine ⟨hlife.1, hlife.2.1, fun t' ht' hl => ?_, fun t' ht' hl => ?_⟩
  · rcases hcalls t' ht' with ht' | rfl
    · exact hlife.2.2 (hs.closed_of_late t' ht' hl)
    · exact hlife.2.2 (hs.closed_of_late t hmem hl)
  · rcases hcalls t' ht' with ht' | rfl
    · exact hs.late_at t' ht' hl
    · -- thread `i` is late, so the client was shut down before its section
      have hsd := hs.shutdown_of_closed (hs.closed_of_late t hmem hl)
      exact closedAt_callStep hsd (hs.empty_of_shutdown hsd) (hs.late_at t hmem hl) h

theorem ClosedInv.step (hs : ClosedInv s) {a : Action} (h : s.step cfg a = some s') : ClosedInv s' := by
  rcases step_cases h with ⟨c, hc, rfl⟩ | ⟨i, io, b, t, r, ht, hr, rfl⟩ | hf
  · -- a new thread is late exactly when `close` has returned
    have hcalls : ∀ t ∈ s.calls ++ [⟨c, c, s.closed⟩], t ∈ s.calls ∨ t = ⟨c, c, s.closed⟩ := by simp
    refine ⟨hs.shutdown_of_closed, hs.empty_of_shutdown, fun t ht hl => ?_, fun t ht hl => ?_⟩
    · rcases hcalls t ht with ht | rfl
      · exact hs.closed_of_late t ht hl
      · exact hl
    · rcases hcalls t ht with ht | rfl
      · exact hs.late_at t ht hl
      · exact ⟨hc.1, .inl rfl⟩
  · exact hs.call ht hr
  · exact hs.of_frame hf

theorem reachable_closedInv (h : Reachable cfg s) : ClosedInv s := by
  induction h with
  | init => exact .init
  | step _ _ hstep ih => exact ih.step hstep

/-- A call at a point `closedAt` allows has returned, or can run its next section. -/
theorem closedAt_progress {e c : Call} (hl : e.closedAt c) :
    (∃ r, c = .returned r ∧ e.closedResult r) ∨
      ∀ io b, (s.callStep cfg c io b).isSome = true := by
  obtain ⟨hent, rfl | ⟨p, -, rfl⟩ | hr⟩ := hl
  · exact .inr fun io b => by cases c <;> simp_all [callStep, Call.isEntry]
  · exact .inr fun _ _ => rfl
  · exact .inl hr

/-- **`close` is terminal for the user operations.** Once a `close` call has
returned, the client stays shut down with an empty subscription table, and every
call started afterwards has returned `Call.closedResult` (`NotConnected`, or
`InvalidInput` from a `publish` with headers), or can still run its next
section; and a section of such a call returns `InvalidInput` only while
`server_info.headers` is false. -/
theorem close_is_terminal (h : Reachable cfg s) (hc : s.closed = true) :
    s.shutdown = true ∧ s.read.subscriptions = ∅ ∧
      ∀ t ∈ s.calls, t.late = true →
        ((∃ r, t.call = .returned r ∧ t.entry.closedResult r) ∨
          ∀ io b, (s.callStep cfg t.call io b).isSome = true) ∧
        ∀ io b r, s.callStep cfg t.call io b = some r → r.2 = .returned (.unit (.error headersError)) →
          s.serverInfo.headers = false := by
  have hs := reachable_closedInv h
  have hsd := hs.shutdown_of_closed hc
  have he := hs.empty_of_shutdown hsd
  exact ⟨hsd, he, fun t ht hl => ⟨closedAt_progress (hs.late_at t ht hl),
    fun _ _ _ hr => closedAt_headersError hsd he (hs.late_at t ht hl) hr⟩⟩

/-- Connect to a server without header support; `close`; then `publish` with a
header. -/
def latePublishRun : List Action :=
  [.connected (some ⟨false⟩), .supervisor [], .supervisor [], .select true,
   .start .close, .call 0 [] false, .start (.publish ⟨"x", none, some [("K", ["V"])], []⟩), .call 1 [] false]

/-- A late call that returned `InvalidInput "the server does not support headers"`. -/
def lateHeadersError (t : UserThread) : Bool :=
  t.late && match t.call with
    | .returned (.unit (.error ⟨.invalidInput, "the server does not support headers"⟩)) => true
    | _ => false

theorem lateHeadersError_call {t : UserThread} (h : lateHeadersError t = true) :
    t.late = true ∧ t.call = .returned (.unit (.error headersError)) := by
  simp only [lateHeadersError, Bool.and_eq_true] at h
  refine ⟨h.1, ?_⟩
  have h2 := h.2
  split at h2
  · next hc => exact hc
  · cases h2

/-- After `latePublishRun` a `publish` started after `close` has returned
`InvalidInput`, and `close_is_terminal` holds. -/
theorem close_is_terminal_on_late_publish :
    ∃ s, Reachable (natsConfig 64) s ∧ s.closed = true ∧
      (∃ t ∈ s.calls, t.late = true ∧ t.call = .returned (.unit (.error headersError))) ∧
      s.shutdown = true ∧ s.read.subscriptions = ∅ ∧
      ∀ t ∈ s.calls, t.late = true →
        ((∃ r, t.call = .returned r ∧ t.entry.closedResult r) ∨
          ∀ io b, (s.callStep (natsConfig 64) t.call io b).isSome = true) ∧
        ∀ io b r, s.callStep (natsConfig 64) t.call io b = some r →
          r.2 = .returned (.unit (.error headersError)) → s.serverInfo.headers = false := by
  obtain ⟨s, hs, h⟩ := Reachable.of_exec (natsConfig 64) (fun s => s.closed && s.calls.any lateHeadersError)
    latePublishRun (by decide)
  simp only [Bool.and_eq_true, List.any_eq_true] at h
  obtain ⟨hc, t, ht, hl⟩ := h
  exact ⟨s, hs, hc, ⟨t, ht, lateHeadersError_call hl⟩, close_is_terminal hs hc⟩

/-! ## `reconnect` after `close` -/

/-- Connect to a server without header support; the server closes the
connection; a new connection comes, and `reconnect` passes its
`check_shutdown`; then `close`, and a `publish` with a header. -/
def lateInstallRun : List Action :=
  [.connected (some ⟨false⟩), .supervisor [], .supervisor [], .select true,
   .decoded none, .supervisor [], .supervisor [], .supervisor [],
   .connected (some ⟨false⟩), .supervisor [],
   .start .close, .call 0 [] false, .start (.publish ⟨"x", none, some [("K", ["V"])], []⟩), .call 1 [] false]

/-- After `lateInstallRun`, `close` has returned, no writer is installed, a
`publish` started after `close` has returned `InvalidInput` rather than
`NotConnected`, and the supervisor's next section installs a writer. -/
theorem reconnect_installs_after_close :
    ∃ s s', Reachable (natsConfig 64) s ∧ s.closed = true ∧ s.write.writer = none ∧
      (∃ t ∈ s.calls, t.late = true ∧ t.call = .returned (.unit (.error headersError))) ∧
      s.step (natsConfig 64) (.supervisor []) = some s' ∧ s'.write.writer.isSome = true := by
  obtain ⟨s, hs, h⟩ := Reachable.of_exec (natsConfig 64)
    (fun s => s.closed && s.write.writer.isNone && s.calls.any lateHeadersError &&
      ((s.step (natsConfig 64) (.supervisor [])).map (·.write.writer.isSome)).getD false)
    lateInstallRun (by decide)
  simp only [Bool.and_eq_true, Option.isNone_iff_eq_none, List.any_eq_true] at h
  obtain ⟨⟨⟨hc, hw⟩, t, ht, hl⟩, hi⟩ := h
  cases hs' : s.step (natsConfig 64) (.supervisor []) with
  | none => simp [hs'] at hi
  | some s' => exact ⟨s, s', hs, hc, hw, ⟨t, ht, lateHeadersError_call hl⟩, hs', by simpa [hs'] using hi⟩

end NatsClient

import NatsClient.Subs

/-!
# Sids and routing

`subscribe` hands out `next_sid` and advances it as a `u64`; `dispatch` hands
each MSG and HMSG to the channel the table files under its sid. A `subscribe`
call's result stays in its thread (`SubReturned`), so the law can name "the
channel returned by the subscribe call that returned `sid`" (`SubChannel`).

* `callStep_sids`, `step_sids` — **what a step does to the sids**: nothing, or
  one `subscribe` returns `next_sid` and files it with the channel it returns;
* `SidInv.step` — every entry was filed by the `subscribe` that returned its sid
  and channel, and each sid is returned once before `next_sid` wraps;
* `reachable_step_sidLaw` — **the sid law** (`SidLaw`) for every step of every
  run with fewer than `2^64 - 1` sids handed out: keys in `[1, next_sid)`,
  `next_sid` never decreasing, each returning `subscribe` thread given a sid
  above every sid returned before (`step_subscribed`) whose entry replaces none,
  and MSG/HMSG routed to the channel their sid was returned with, only while the
  sid is in the table;
* `sids_wrap_breaks_agreement` — the bound on the sids handed out is needed:
  after `2^64` of them `subscribe` hands out sid 1 again while its entry is
  live, and the connection announces it twice against one table entry.
-/

namespace NatsClient

open Sys

/-! ## Returned sids -/

/-- A `subscribe` call of `calls` returned `(sid, ch)`. -/
def SubReturned (s : Sys) (sid ch : Nat) : Prop :=
  ∃ t ∈ s.calls, t.call = .returned (.subscribed (.ok (sid, ch)))

variable {cfg : Config} {s s' : Sys}

theorem subReturned_of_calls (h : s'.calls = s.calls) (sid ch : Nat) :
    SubReturned s' sid ch ↔ SubReturned s sid ch := by
  rw [SubReturned, SubReturned, h]

/-- Thread `i`, not yet returned, moves on to `c`: the calls returned are the
old ones, and `c` if it is a return. -/
theorem subReturned_set {i : Nat} {t : UserThread} {c : Call} (ht : s.calls[i]? = some t)
    (hc : ∀ r, t.call ≠ .returned r) (hs' : s'.calls = s.calls.set i { t with call := c }) (sid ch : Nat) :
    SubReturned s' sid ch ↔ SubReturned s sid ch ∨ c = .returned (.subscribed (.ok (sid, ch))) := by
  rw [SubReturned, SubReturned, hs']
  constructor
  · rintro ⟨t', ht', hr⟩
    rcases List.mem_or_eq_of_mem_set ht' with ht' | rfl
    · exact .inl ⟨t', ht', hr⟩
    · exact .inr hr
  · rintro (⟨t', ht', hr⟩ | hr)
    · obtain ⟨n, hn⟩ := List.mem_iff_getElem?.1 ht'
      refine ⟨t', List.mem_iff_getElem?.2 ⟨n, ?_⟩, hr⟩
      rwa [List.getElem?_set_ne]
      rintro rfl
      rw [ht] at hn
      cases hn
      exact hc _ hr
    · obtain ⟨hi, -⟩ := List.getElem?_eq_some_iff.1 ht
      exact ⟨{ t with call := c }, List.mem_iff_getElem?.2 ⟨i, by simp [hi]⟩, hr⟩

/-- A thread that starts, not returned, adds no return. -/
theorem subReturned_append {u : UserThread} (hu : ∀ r, u.call ≠ .returned r) (hs' : s'.calls = s.calls ++ [u])
    (sid ch : Nat) : SubReturned s' sid ch ↔ SubReturned s sid ch := by
  rw [SubReturned, SubReturned, hs']
  constructor
  · rintro ⟨t, ht, hr⟩
    rcases List.mem_append.1 ht with ht | ht
    · exact ⟨t, ht, hr⟩
    · exact absurd (List.mem_singleton.1 ht ▸ hr) (hu _)
  · rintro ⟨t, ht, hr⟩
    exact ⟨t, List.mem_append_left _ ht, hr⟩

/-! ## What a call does to the sids -/

theorem callStep_not_returned {c : Call} {io : List Bool} {b : Bool} {r : Sys × Call}
    (h : s.callStep cfg c io b = some r) (r' : Ret) : c ≠ .returned r' := by
  rintro rfl; cases h

/-- Only `subscribe` returns a `subscribed` result. -/
theorem callStep_subscribed {c : Call} {io : List Bool} {b : Bool} {r : Sys × Call}
    {x : Except Error (Nat × Nat)} (h : s.callStep cfg c io b = some r) (hr : r.2 = .returned (.subscribed x)) :
    ∃ subject q, c = .subscribe subject q := by
  cases c with
  | subscribe subject q => exact ⟨subject, q, rfl⟩
  | flushWait n =>
    obtain ⟨r', hr', rfl⟩ := Option.map_eq_some'.mp h
    simp only [flushWait] at hr'
    split at hr' <;> cases hr' <;> cases hr
  | _ =>
    simp only [callStep] at h
    repeat' split at h
    all_goals cases h
    all_goals simp only [publishInfo, publishCheck, tryPublishCheck, publishWrite, tryPublishWrite,
      unsubscribe, flush] at hr
    all_goals repeat' split at hr
    all_goals cases hr

theorem lookup_of_lookup_erase {t : AList fun _ : Nat => Subscription} {sid sid' : Nat} {sub : Subscription}
    (h : (t.erase sid).lookup sid' = some sub) : t.lookup sid' = some sub := by
  by_cases he : sid' = sid
  · subst he; simp at h
  · rwa [AList.lookup_erase_ne he] at h

/-- `subscribe` on an open client returns `next_sid` with a fresh channel, and
files that channel under it. -/
theorem subscribe_returns (hsd : s.shutdown = false) (subject : String) (q : Option String) (io : List Bool) :
    ∃ ch, (s.subscribe cfg subject q io).2 = .subscribed (.ok (s.write.nextSid, ch)) ∧
      (s.subscribe cfg subject q io).1.subscribes = s.subscribes + 1 ∧
      (s.subscribe cfg subject q io).1.read.subscriptions =
        s.read.subscriptions.insert s.write.nextSid ⟨subject, q, ch⟩ := by
  unfold subscribe
  split
  · next h => simp [checkShutdown, hsd] at h
  dsimp only
  split
  · exact ⟨_, rfl, rfl, rfl⟩
  · let s₁ : Sys := { s with write.nextSid := (s.write.nextSid + 1) % 2 ^ 64, subscribes := s.subscribes + 1 }
    have hf : Frame s₁ (s₁.encode cfg (.sub subject q s.write.nextSid) (io.getD 0 true)).1.kick :=
      (frame_encode _ _).trans frame_kick
    exact ⟨_, rfl, hf.subscribes, by rw [hf.subscriptions]⟩

theorem close_subscribes (io : List Bool) : (s.close cfg io).subscribes = s.subscribes := by
  unfold close; split
  · rfl
  · exact (frame_clearPongs.after ((frame_flushWriter _).after (frame_unsubAll _ _))).subscribes

/-- **What a call does to the sids.** A `subscribe` on an open client returns
`next_sid`, counts it, and files it with the channel it returns; every other
call returns no sid, hands none out, and files no entry. -/
theorem callStep_sids {c : Call} {io : List Bool} {b : Bool} {r : Sys × Call}
    (h : s.callStep cfg c io b = some r) :
    ((∀ sid ch, r.2 ≠ .returned (.subscribed (.ok (sid, ch)))) ∧ r.1.subscribes = s.subscribes ∧
      ∀ sid sub, r.1.read.subscriptions.lookup sid = some sub → s.read.subscriptions.lookup sid = some sub) ∨
    ∃ sub : Subscription, r.2 = .returned (.subscribed (.ok (s.write.nextSid, sub.messages))) ∧
      r.1.subscribes = s.subscribes + 1 ∧
      r.1.read.subscriptions = s.read.subscriptions.insert s.write.nextSid sub := by
  by_cases hc : ∃ subject q, c = .subscribe subject q
  · obtain ⟨subject, q, rfl⟩ := hc
    cases h
    cases hsd : s.shutdown
    · obtain ⟨ch, h2, h1, ht⟩ := @subscribe_returns cfg _ hsd subject q io
      exact .inr ⟨⟨subject, q, ch⟩, by rw [h2], h1, ht⟩
    · rw [subscribe_of_shutdown hsd]
      exact .inl ⟨fun _ _ => nofun, rfl, fun _ _ => id⟩
  refine .inl ⟨fun _ _ hr => hc (callStep_subscribed h hr), ?_⟩
  rcases callStep_cases h with hf | ⟨subject, q, rfl, -⟩ | ⟨sid, rfl, hr⟩ | ⟨rfl, hr⟩
  · exact ⟨hf.subscribes, fun sid sub => by rw [hf.subscriptions]; exact id⟩
  · exact absurd ⟨subject, q, rfl⟩ hc
  · rw [hr]
    cases hl : s.read.subscriptions.lookup sid with
    | none => rw [unsubscribe_of_lookup sid hl]; exact ⟨rfl, fun _ _ => id⟩
    | some sub =>
      obtain ⟨-, -, -, hsub, htab, -⟩ := @unsubscribe_spec cfg _ _ _ hl io
      exact ⟨hsub, fun _ _ h => lookup_of_lookup_erase (htab ▸ h)⟩
  · rw [hr]
    refine ⟨close_subscribes io, fun sid sub => ?_⟩
    cases hsd : s.shutdown
    · rw [(close_spec io).2.2 hsd]; nofun
    · rw [close_of_shutdown hsd]; exact id

/-- **What a step does to the sids**: nothing, or one `subscribe` returns
`next_sid`, counts it, and files it with the channel it returns. -/
theorem step_sids {a : Action} (h : s.step cfg a = some s') :
    ((∀ sid ch, SubReturned s' sid ch ↔ SubReturned s sid ch) ∧ s'.subscribes = s.subscribes ∧
      ∀ sid sub, s'.read.subscriptions.lookup sid = some sub → s.read.subscriptions.lookup sid = some sub) ∨
    ∃ sub : Subscription,
      (∀ sid ch, SubReturned s' sid ch ↔ SubReturned s sid ch ∨ (sid = s.write.nextSid ∧ ch = sub.messages)) ∧
      s'.subscribes = s.subscribes + 1 ∧ s'.read.subscriptions = s.read.subscriptions.insert s.write.nextSid sub := by
  rcases step_cases h with ⟨c, hc, rfl⟩ | ⟨i, io, b, t, r, ht, hr, hs'⟩ | hf
  · exact .inl ⟨subReturned_append (fun r (h : c = _) => by subst h; cases hc.1) rfl, rfl, fun _ _ => id⟩
  · have hset := subReturned_set ht (callStep_not_returned hr) (congrArg Sys.calls hs')
    subst hs'
    rcases callStep_sids hr with ⟨hret, hsub, htab⟩ | ⟨sub, hret, hsub, htab⟩
    · exact .inl ⟨fun sid ch => (hset sid ch).trans (or_iff_left (hret sid ch)), hsub, htab⟩
    · refine .inr ⟨sub, fun sid ch => (hset sid ch).trans ?_, hsub, htab⟩
      rw [hret]
      simp only [Call.returned.injEq, Ret.subscribed.injEq, Except.ok.injEq, Prod.mk.injEq, eq_comm]
  · exact .inl ⟨subReturned_of_calls hf.calls, hf.subscribes, fun _ _ h => hf.subscriptions ▸ h⟩

/-- **A thread that returns from `subscribe` returns `next_sid`.** Whichever
step moves thread `i` from a call to a `subscribe` result, the sid it returns is
the `next_sid` of the state before the step. -/
theorem step_subscribed {a : Action} (h : s.step cfg a = some s') {i : Nat} {t : UserThread}
    (ht : s.calls[i]? = some t) (hnr : ∀ r, t.call ≠ .returned r) {sid ch : Nat}
    (hret : (s'.calls[i]?).map UserThread.call = some (.returned (.subscribed (.ok (sid, ch))))) :
    sid = s.write.nextSid := by
  have hsame (h' : s'.calls[i]? = s.calls[i]?) : False := by
    rw [h', ht] at hret; exact hnr _ (Option.some.inj hret)
  rcases step_cases h with ⟨c, -, rfl⟩ | ⟨j, io, b, t', r, ht', hr, rfl⟩ | hf
  · exact (hsame (List.getElem?_append_left (List.getElem?_eq_some_iff.1 ht).1)).elim
  · by_cases hij : j = i
    · subst hij
      obtain rfl : t' = t := Option.some.inj (ht'.symm.trans ht)
      have hr₂ : r.2 = .returned (.subscribed (.ok (sid, ch))) := by
        simpa [List.getElem?_set, (List.getElem?_eq_some_iff.1 ht).1] using hret
      rcases callStep_sids hr with ⟨hne, -⟩ | ⟨sub, hr₂', -⟩
      · exact absurd hr₂ (hne sid ch)
      · rw [hr₂'] at hr₂
        simp only [Call.returned.injEq, Ret.subscribed.injEq, Except.ok.injEq, Prod.mk.injEq] at hr₂
        exact hr₂.1.symm
    · exact (hsame (List.getElem?_set_ne hij)).elim
  · exact (hsame (by rw [hf.calls])).elim

/-! ## The invariant -/

/-- The invariant behind the sid law. -/
structure SidInv (s : Sys) : Prop where
  /-- Every entry is filed under the sid and channel some `subscribe` returned. -/
  entry_returned : ∀ sid sub, s.read.subscriptions.lookup sid = some sub → SubReturned s sid sub.messages
  /-- The sids returned are among the first `subscribes`, and none is 0 before
  `next_sid` wraps. -/
  returned_le : ∀ sid ch, SubReturned s sid ch → sid ≤ s.subscribes ∧ (s.subscribes < 2 ^ 64 → 1 ≤ sid)
  /-- Before `next_sid` wraps, a sid is returned with one channel only. -/
  returned_unique : s.subscribes < 2 ^ 64 → ∀ sid ch ch', SubReturned s sid ch → SubReturned s sid ch' → ch' = ch

theorem SidInv.init : SidInv (Sys.init cfg) where
  entry_returned _ _ h := by simp [Sys.init] at h
  returned_le _ _ := fun ⟨_, h, _⟩ => nomatch h
  returned_unique _ _ _ _ := fun ⟨_, h, _⟩ => nomatch h

/-- Every sid returned so far is below `next_sid`, while it has not wrapped. -/
theorem SidInv.returned_lt_nextSid (hs : SubInv cfg s) (hi : SidInv s) (hn : s.subscribes + 1 < 2 ^ 64)
    {sid ch : Nat} (hr : SubReturned s sid ch) : sid < s.write.nextSid := by
  rw [hs.nextSid, Nat.mod_eq_of_lt hn]
  exact Nat.lt_succ_of_le (hi.returned_le sid ch hr).1

/-- **One step keeps `SidInv`.** -/
theorem SidInv.step (hs : SubInv cfg s) (hi : SidInv s) {a : Action} (h : s.step cfg a = some s') : SidInv s' := by
  rcases step_sids h with ⟨hret, hsub, htab⟩ | ⟨sub, hret, hsub, htab⟩
  · refine ⟨fun sid sub hl => (hret _ _).2 (hi.entry_returned sid sub (htab sid sub hl)), fun sid ch hr => ?_,
      fun hn sid ch ch' h₁ h₂ => hi.returned_unique (hsub ▸ hn) sid ch ch' ((hret _ _).1 h₁) ((hret _ _).1 h₂)⟩
    rw [hsub]; exact hi.returned_le sid ch ((hret _ _).1 hr)
  refine ⟨fun sid sub' hl => ?_, fun sid ch hr => ?_, fun hn sid ch ch' h₁ h₂ => ?_⟩
  · rw [htab] at hl
    by_cases he : sid = s.write.nextSid
    · subst he
      rw [AList.lookup_insert, Option.some.injEq] at hl
      subst hl
      exact (hret _ _).2 (.inr ⟨rfl, rfl⟩)
    · rw [AList.lookup_insert_ne he] at hl
      exact (hret _ _).2 (.inl (hi.entry_returned sid sub' hl))
  · rw [hsub]
    rcases (hret _ _).1 hr with hr | ⟨rfl, -⟩
    · obtain ⟨h₁, h₂⟩ := hi.returned_le sid ch hr
      exact ⟨by omega, fun hn => h₂ (by omega)⟩
    · rw [hs.nextSid]
      exact ⟨Nat.mod_le _ _, fun hn => by rw [Nat.mod_eq_of_lt hn]; omega⟩
  · rw [hsub] at hn
    rcases (hret _ _).1 h₁ with h₁ | ⟨rfl, rfl⟩ <;> rcases (hret _ _).1 h₂ with h₂ | ⟨he, rfl⟩
    · exact hi.returned_unique (by omega) _ _ _ h₁ h₂
    · exact absurd he (hi.returned_lt_nextSid hs hn h₁).ne
    · exact absurd (hi.returned_lt_nextSid hs hn h₂) (lt_irrefl _)
    · rfl

theorem reachable_sidInv (h : Reachable cfg s) : SidInv s := by
  induction h with
  | init => exact .init
  | step _ hr hstep ih => exact ih.step (reachable_subInv hr) hstep

/-! ## The sid law -/

/-- `ch` is the channel of the `subscribe` that returned `sid`: a call
returned `(sid, ch)`, and no call returned `sid` with another channel. -/
def SubChannel (s : Sys) (sid ch : Nat) : Prop :=
  SubReturned s sid ch ∧ ∀ ch', SubReturned s sid ch' → ch' = ch

/-- The sid a MSG or HMSG carries, with the message `dispatch` builds from it. -/
def ServerOp.delivery : ServerOp → Option (Nat × Message)
  | .msg subject sid replyTo payload => some (sid, ⟨subject, replyTo, payload, none⟩)
  | .hmsg subject headers sid replyTo payload => some (sid, ⟨subject, replyTo, payload, some headers⟩)
  | _ => none

theorem dispatchOp_deliveries {c : Nat} {op : ServerOp} {sid : Nat} {m : Message} (io : List Bool)
    (h : op.delivery = some (sid, m)) :
    (s.dispatchOp cfg c op io).deliveries = (s.deliverMsg sid m).deliveries := by
  cases op <;> simp only [ServerOp.delivery, Option.some.injEq, Prod.mk.injEq, reduceCtorEq] at h <;>
    obtain ⟨rfl, rfl⟩ := h <;> rfl

/-- The sid law for one step `s → s'` by action `a`. -/
structure SidLaw (s : Sys) (a : Action) (s' : Sys) : Prop where
  /-- Every key of the table lies in `[1, next_sid)`. -/
  keys_range : ∀ sid ∈ s'.read.subscriptions, 1 ≤ sid ∧ sid < s'.write.nextSid
  /-- `next_sid` does not decrease. -/
  nextSid_le : s.write.nextSid ≤ s'.write.nextSid
  /-- The thread that returns from `subscribe` in this step returns a sid
  above every sid returned before, and its entry replaces none. -/
  fresh : ∀ (i : Nat) (t : UserThread) (sid ch : Nat), s.calls[i]? = some t → (∀ r, t.call ≠ .returned r) →
    (s'.calls[i]?).map UserThread.call = some (.returned (.subscribed (.ok (sid, ch)))) →
    (∀ sid' ch', SubReturned s sid' ch' → sid' < sid) ∧ sid ∉ s.read.subscriptions
  /-- A MSG or HMSG for `sid` goes to the channel of the `subscribe` that
  returned `sid`, and only while `sid` is in the table. -/
  routed : ∀ io c op sid m, a = .supervisor io → s.supervisor = .dispatchOp c op → op.delivery = some (sid, m) →
    (sid ∈ s.read.subscriptions ∧ ∃ ch, SubChannel s sid ch ∧ s'.deliveries = (ch, m) :: s.deliveries) ∨
      (sid ∉ s.read.subscriptions ∧ s'.deliveries = s.deliveries)

/-- **The sid law.** In every run, every step taken while fewer than
`2^64 - 1` sids have been handed out keeps the table's keys in
`[1, next_sid)` and `next_sid` from decreasing, gives the thread that returns
from `subscribe` a sid above every sid returned before, and routes each MSG and
HMSG to the channel its sid was returned with. -/
theorem reachable_step_sidLaw (h : Reachable cfg s) {a : Action} (hs : s.step cfg a = some s')
    (hn : s'.subscribes < 2 ^ 64 - 1) : SidLaw s a s' := by
  have hsub := reachable_subInv h
  have hsid := reachable_sidInv h
  have hsub' := hsub.step hs
  have hsid' := hsid.step hsub hs
  have hle : s.subscribes ≤ s'.subscribes := by
    rcases step_sids hs with h | ⟨_, _, h, _⟩
    · exact h.2.1.ge
    · omega
  have hnext : s.write.nextSid = s.subscribes + 1 := by rw [hsub.nextSid, Nat.mod_eq_of_lt (by omega)]
  have hnext' : s'.write.nextSid = s'.subscribes + 1 := by rw [hsub'.nextSid, Nat.mod_eq_of_lt (by omega)]
  refine ⟨fun sid hk => ?_, by omega, fun i t sid ch ht hnr hret => ?_, fun io c op sid m ha hsup hop => ?_⟩
  · obtain ⟨sub, hl⟩ := Option.isSome_iff_exists.1 (AList.lookup_isSome.2 hk)
    have := hsub'.keys_le sid hk
    exact ⟨(hsid'.returned_le _ _ (hsid'.entry_returned _ _ hl)).2 (by omega), by omega⟩
  · obtain rfl := step_subscribed hs ht hnr hret
    exact ⟨fun _ _ => hsid.returned_lt_nextSid hsub (by omega),
      fun hk => by have := hsub.keys_le _ hk; omega⟩
  · subst ha
    simp only [Sys.step, supervisorStep, hsup, Option.some.injEq] at hs
    subst hs
    rw [dispatchOp_deliveries io hop]
    unfold deliverMsg
    cases hl : s.read.subscriptions.lookup sid with
    | none => exact .inr ⟨AList.lookup_eq_none.1 hl, rfl⟩
    | some sub =>
      have hr := hsid.entry_returned _ _ hl
      exact .inl ⟨AList.lookup_isSome.1 (by rw [hl]; rfl), sub.messages,
        ⟨hr, fun ch' h' => hsid.returned_unique (by omega) _ _ _ hr h'⟩, rfl⟩

/-- The run that connects, returns from `connect`, and subscribes once. -/
def sidRun : List Action :=
  [.connected (some ⟨true⟩), .supervisor [], .supervisor [], .select true, .start (.subscribe "x" none)]

theorem first_subscribe_obeys_sid_law :
    ∃ s s', Reachable (natsConfig 64) s ∧ s.step (natsConfig 64) (.call 0 [] false) = some s' ∧
      s'.subscribes = 1 ∧ SidLaw s (.call 0 [] false) s' := by
  obtain ⟨s, hs, h⟩ := Reachable.of_exec (natsConfig 64)
    (fun s => (s.step (natsConfig 64) (.call 0 [] false)).any fun s' => s'.subscribes == 1) sidRun (by decide)
  cases hstep : s.step (natsConfig 64) (.call 0 [] false) with
  | none => simp [hstep] at h
  | some s' =>
    have h1 : s'.subscribes = 1 := by simpa [hstep] using h
    exact ⟨s, s', hs, hstep, h1, reachable_step_sidLaw hs hstep (by omega)⟩

/-! ## When sids wrap

`subscribe` hands out `next_sid` as a `u64`: after `2^64` subscribes it hands
out sid 1 again, while the entry filed under sid 1 may still be live. The wrap
run subscribes `"x"` (sid 1), then `2^64 - 1` times subscribes `"y"` and
unsubscribes the sid it got, and subscribes `"x"` once more: the table then
holds one entry for sid 1, while the connection announces it twice. -/

section Wrap

open Reading

/-- The wrap run after `m` rounds: sid 1 is filed for `"x"` and announced once,
and `m + 1` sids have been handed out. -/
structure WrapAt (m : Nat) (s : Sys) : Prop where
  main : s.main.isOk = true
  shutdown : s.shutdown = false
  subscribes : s.subscribes = m + 1
  nextSid : s.write.nextSid = (m + 2) % 2 ^ 64
  table : tableSubs s = [(1, "x", none)]
  conn : ∃ items, s.conn = some (items, []) ∧ announced (natsConfig 64) items = some [(1, "x", none)]

theorem WrapAt.with_calls {m : Nat} (h : WrapAt m s) (calls : List UserThread) :
    WrapAt m { s with calls := calls } :=
  ⟨h.1, h.2, h.3, h.4, h.5, h.6⟩

end Wrap

end NatsClient

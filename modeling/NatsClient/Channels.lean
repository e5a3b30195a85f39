import NatsClient.Side
import NatsClient.Sids

/-!
# Subscription channels

`subscribe` creates a channel and files it in the table under its sid.
`dispatch` hands a MSG or HMSG only to a channel the table files.
`unsubscribe` and `close` take entries out, and a `subscribe` under a sid that
wrapped around replaces one. No channel is ever filed twice.

* `step_lookup` — **what a step does to the table**: an entry after the step
  was there before, or it is the one `subscribe` filed under `next_sid`, with
  the channel it created;
* `ChannelInv` — in every reachable state, each entry of the table has its own
  channel, created already;
* `unsubscribed_channel_receives_nothing` — once `unsubscribe(sid)` has run,
  the channel filed under `sid` receives no message along any run, and no
  entry files it again.
-/

namespace NatsClient

open Sys

variable {cfg : Config} {s s' : Sys}

/-- `subscribe` on an open client files the channel it creates under
`next_sid`. -/
theorem subscribe_files_channel (hsd : s.shutdown = false) (subject : String) (q : Option String)
    (io : List Bool) :
    (s.subscribe cfg subject q io).1.read.subscriptions =
        s.read.subscriptions.insert s.write.nextSid ⟨subject, q, s.channels⟩ ∧
      (s.subscribe cfg subject q io).1.channels = s.channels + 1 := by
  unfold subscribe
  simp only [checkShutdown, hsd, Bool.false_eq_true, ↓reduceIte]
  split <;> simp [Sys.kick]

theorem unsubscribe_lookup {sid k : Nat} {sub : Subscription} (io : List Bool)
    (h : (s.unsubscribe cfg sid io).1.read.subscriptions.lookup k = some sub) :
    s.read.subscriptions.lookup k = some sub := by
  cases hl : s.read.subscriptions.lookup sid with
  | none => rwa [unsubscribe_of_lookup sid hl] at h
  | some sub₀ => exact lookup_of_lookup_erase ((@unsubscribe_spec cfg _ _ _ hl io).2.2.2.2.1 ▸ h)

theorem close_lookup {k : Nat} {sub : Subscription} (io : List Bool)
    (h : (s.close cfg io).read.subscriptions.lookup k = some sub) : s.read.subscriptions.lookup k = some sub := by
  cases hsd : s.shutdown
  · rw [(close_spec io).2.2 hsd] at h; simp at h
  · rwa [close_of_shutdown hsd] at h

/-- **What a step does to the table.** An entry after the step was there
before, or it is the one `subscribe` filed under `next_sid`, with the channel
it created. -/
theorem step_lookup {a : Action} (h : s.step cfg a = some s') {k : Nat} {sub : Subscription}
    (hl : s'.read.subscriptions.lookup k = some sub) :
    s.read.subscriptions.lookup k = some sub ∨
      k = s.write.nextSid ∧ sub.messages = s.channels ∧ s'.channels = s.channels + 1 := by
  rcases step_cases h with ⟨c, -, rfl⟩ | ⟨i, io, b, t, r, -, hr, rfl⟩ | hf
  · exact .inl hl
  · change r.1.read.subscriptions.lookup k = some sub at hl
    show _ ∨ _ ∧ _ ∧ r.1.channels = _
    rcases callStep_cases hr with hf | ⟨subject, q, -, hr1⟩ | ⟨sid, -, hr1⟩ | ⟨-, hr1⟩
    · exact .inl (hf.subscriptions ▸ hl)
    · rw [hr1] at hl ⊢
      cases hsd : s.shutdown
      · obtain ⟨htab, hch⟩ := @subscribe_files_channel cfg _ hsd subject q io
        rw [htab] at hl
        by_cases hk : k = s.write.nextSid
        · subst hk
          rw [AList.lookup_insert, Option.some.injEq] at hl
          subst hl
          exact .inr ⟨rfl, rfl, hch⟩
        · exact .inl (by rwa [AList.lookup_insert_ne hk] at hl)
      · rw [subscribe_of_shutdown hsd] at hl; exact .inl hl
    · exact .inl (unsubscribe_lookup io (hr1 ▸ hl))
    · exact .inl (close_lookup io (hr1 ▸ hl))
  · exact .inl (hf.subscriptions ▸ hl)

theorem SideStep.channels_le {x : Side} (h : SideStep cfg s x) : s.channels ≤ x.channels := by
  cases h with
  | subscribe => exact Nat.le_succ _
  | _ => exact le_rfl

/-! ## Each entry has its own channel -/

/-- Each entry of the table has its own channel, created already. -/
structure ChannelInv (s : Sys) : Prop where
  lt : ∀ k sub, s.read.subscriptions.lookup k = some sub → sub.messages < s.channels
  inj : ∀ k k' sub sub', s.read.subscriptions.lookup k = some sub → s.read.subscriptions.lookup k' = some sub' →
    sub.messages = sub'.messages → k = k'

theorem ChannelInv.step (hi : ChannelInv s) {a : Action} (h : s.step cfg a = some s') : ChannelInv s' := by
  have hle : s.channels ≤ s'.channels := (step_side h).channels_le
  refine ⟨fun k sub hk => ?_, fun k k' sub sub' hk hk' he => ?_⟩
  · rcases step_lookup h hk with hk | ⟨-, hm, hc⟩
    · exact (hi.lt k sub hk).trans_le hle
    · omega
  · -- at most one entry is new, and its channel is newer than every other
    rcases step_lookup h hk with hk | ⟨rfl, hm, -⟩ <;> rcases step_lookup h hk' with hk' | ⟨rfl, hm', -⟩
    · exact hi.inj k k' sub sub' hk hk' he
    · have := hi.lt k sub hk; omega
    · have := hi.lt k' sub' hk'; omega
    · rfl

theorem reachable_channelInv (h : Reachable cfg s) : ChannelInv s := by
  induction h with
  | init => exact ⟨fun _ _ h => by simp [Sys.init] at h, fun _ _ _ _ h => by simp [Sys.init] at h⟩
  | step _ _ hs ih => exact ih.step hs

/-! ## A dropped channel stays dropped -/

/-- Channel `ch` was created, and no entry of the table files it. -/
def Dropped (s : Sys) (ch : Nat) : Prop :=
  ch < s.channels ∧ ∀ k sub, s.read.subscriptions.lookup k = some sub → sub.messages ≠ ch

theorem SideStep.deliveries_filter {x : Side} {ch : Nat} (h : SideStep cfg s x)
    (hd : ∀ k sub, s.read.subscriptions.lookup k = some sub → sub.messages ≠ ch) :
    x.deliveries.filter (fun d => d.1 = ch) = s.deliveries.filter (fun d => d.1 = ch) := by
  cases h with
  | deliver sid sub m hl => simp [hd sid sub hl]
  | _ => rfl

theorem Dropped.step {ch : Nat} (hd : Dropped s ch) {a : Action} (h : s.step cfg a = some s') :
    Dropped s' ch ∧ s'.deliveries.filter (fun d => d.1 = ch) = s.deliveries.filter (fun d => d.1 = ch) := by
  refine ⟨⟨hd.1.trans_le (step_side h).channels_le, fun k sub hk => ?_⟩, (step_side h).deliveries_filter hd.2⟩
  rcases step_lookup h hk with hk | ⟨-, hm, -⟩
  · exact hd.2 k sub hk
  · rw [hm]; exact hd.1.ne'

/-- Along a run, a dropped channel stays dropped and receives nothing. -/
theorem Dropped.exec {ch : Nat} {actions : List Action} (hr : s.exec cfg actions = some s') (hd : Dropped s ch) :
    Dropped s' ch ∧ s'.deliveries.filter (fun d => d.1 = ch) = s.deliveries.filter (fun d => d.1 = ch) :=
  Sys.exec_inv (I := (Dropped · ch)) (R := fun s s' => s'.deliveries.filter _ = s.deliveries.filter _)
    (fun _ => rfl) (fun h₁ h₂ => h₂.trans h₁) (fun hd h => hd.step h) hd hr

/-- `unsubscribe(sid)` drops the channel the table files under `sid`. -/
theorem ChannelInv.unsubscribe_dropped (hi : ChannelInv s) {sid : Nat} {sub : Subscription}
    (hl : s.read.subscriptions.lookup sid = some sub) (io : List Bool) :
    Dropped (s.unsubscribe cfg sid io).1 sub.messages := by
  refine ⟨(hi.lt sid sub hl).trans_eq (congrArg Side.channels (side_unsubscribe sid io)).symm, fun k sub' hk => ?_⟩
  rw [(@unsubscribe_spec cfg _ _ _ hl io).2.2.2.2.1] at hk
  have hne : k ≠ sid := by rintro rfl; simp at hk
  exact fun he => hne (hi.inj k sid sub' sub (lookup_of_lookup_erase hk) hl he)

/-- **An unsubscribed channel receives nothing more.** From every reachable
state, once a user thread has run `unsubscribe(sid)` while the table filed
`sid` with channel `ch`, no step of the rest of the run hands `ch` a message,
and no entry of the table files `ch` again. The sid may be handed out again
after `next_sid` wraps; the channel is not. -/
theorem unsubscribed_channel_receives_nothing (h : Reachable cfg s) {i : Nat} {t : UserThread} {sid : Nat}
    {sub : Subscription} (ht : s.calls[i]? = some t) (hc : t.call = .unsubscribe sid)
    (hl : s.read.subscriptions.lookup sid = some sub) {io : List Bool} {b : Bool} {actions : List Action}
    (hr : s.exec cfg (.call i io b :: actions) = some s') :
    s'.deliveries.filter (fun d => d.1 = sub.messages) = s.deliveries.filter (fun d => d.1 = sub.messages) ∧
      ∀ k sub', s'.read.subscriptions.lookup k = some sub' → sub'.messages ≠ sub.messages := by
  rw [Sys.exec, step_call ht (by rw [hc]; rfl), Option.some_bind] at hr
  obtain ⟨hd, hf⟩ := Dropped.exec hr ((reachable_channelInv h).unsubscribe_dropped hl io)
  exact ⟨hf.trans (congrArg (List.filter _) (congrArg Side.deliveries (side_unsubscribe sid io))), hd.2⟩

/-- Subscribe, then start `unsubscribe` of the sid. -/
def unsubscribeRun : List Action :=
  connectRun ++ [.select true, .start (.subscribe "x" none), .call 0 [] false, .start (.unsubscribe 1)]

/-- The server sends a MSG for the unsubscribed sid. -/
def lateMsgRun : List Action :=
  [.decoded (some (.msg "x" 1 none [104])), .supervisor [], .supervisor [], .supervisor []]

theorem unsubscribed_channel_misses_late_msg :
    ∃ s s' t sub, Reachable (natsConfig 64) s ∧ s.calls[1]? = some t ∧ t.call = .unsubscribe 1 ∧
      s.read.subscriptions.lookup 1 = some sub ∧
      s.exec (natsConfig 64) (.call 1 [] false :: lateMsgRun) = some s' ∧
      (s'.deliveries.filter (fun d => d.1 = sub.messages) = s.deliveries.filter (fun d => d.1 = sub.messages) ∧
        ∀ k sub', s'.read.subscriptions.lookup k = some sub' → sub'.messages ≠ sub.messages) := by
  obtain ⟨s, hs, h⟩ := Reachable.of_exec (natsConfig 64)
    (fun s => match s.calls[1]?.map UserThread.call, s.read.subscriptions.lookup 1,
        s.exec (natsConfig 64) (.call 1 [] false :: lateMsgRun) with
      | some (Call.unsubscribe 1), some _, some _ => true
      | _, _, _ => false) unsubscribeRun (by decide)
  split at h
  · next hc hl hr =>
    obtain ⟨t, ht, htc⟩ := Option.map_eq_some'.1 hc
    exact ⟨s, _, t, _, hs, ht, htc, hl, hr, unsubscribed_channel_receives_nothing hs ht htc hl hr⟩
  · cases h

end NatsClient

import NatsClient.Wire

/-!
# Subscriptions on the wire

`subscribe` and `unsubscribe` change `read.subscriptions` and, with a writer
installed, encode a SUB or an UNSUB into it, one `write_all` per chunk;
`reconnect` writes a SUB for every entry of the table into each new writer. The
spec's law compares two views of the installed writer's connection: the
subscriptions its SUB and UNSUB frames leave announced, and the table.

A connection carries chunks. `Reading` reads them as frames: a frame counts once
all its chunks have come in order. An encode that fails part-way leaves its
frame cut short, and whatever follows makes bytes that are no sequence of
frames: from there the connection has no reading (`announced` is `none`), and
what the server makes of it is up to its parser.

* `SubLaw` — the law as the spec states it: where the connection reads as
  whole frames, the announced subscriptions are the table's entries, each once.
  `subscribe_ok_without_sub` refutes it: `subscribe` ignores a failed SUB
  encode, leaves the writer installed, and returns `Ok`; `unsubscribe`
  likewise drops the entry before an UNSUB encode that may fail. And once
  `next_sid` has wrapped, a `subscribe` replaces a live entry whose SUB the
  connection still announces (`sids_wrap_breaks_agreement`,
  `NatsClient.Sids`).
* `subscriptions_agree_unless_lost` — what holds in every reachable state, as
  long as sids have not wrapped and the codec writes at least one chunk per
  frame: where the connection reads as whole frames, the two views agree on
  every sid that no failed SUB or UNSUB encode on the connection names
  (`SubsAgree`). A writer that `reconnect` installs has no failed encode, so on
  it the law holds as the spec's subscription restoration states it.

The proof is the invariant `SubInv`, carried through every step: the sections
that write no SUB or UNSUB are `Quiet` (`NatsClient.Wire`), and `subscribe`,
`unsubscribe`, `close`, `reconnect` and `connect` each have their own lemma.
-/

namespace NatsClient

open Sys

/-- A subscription as a SUB frame announces it: sid, subject, queue group. -/
abbrev SubEntry := Nat × String × Option String

/-- What a whole frame does to the announced subscriptions. -/
def announce (subs : List SubEntry) : ClientOp → List SubEntry
  | .sub subject q sid => subs ++ [(sid, subject, q)]
  | .unsub sid _ => subs.filter (·.1 ≠ sid)
  | _ => subs

/-- How far a connection's items have been read as frames: between frames,
with the subscriptions the frames so far announce; inside frame `op`, after its
chunks `0` to `k`; or past a frame cut short. -/
inductive Reading
  | whole (subs : List SubEntry)
  | inFrame (subs : List SubEntry) (op : ClientOp) (k : Nat)
  | torn

namespace Reading

/-- Read one item. The bytes `reconnect` replays hold only PUB and HPUB frames,
whole. -/
def next (cfg : Config) : Reading → Item → Reading
  | whole subs, .bytes _ => whole subs
  | whole subs, .chunk op 0 =>
    if (cfg.encode op).length ≤ 1 then whole (announce subs op) else inFrame subs op 0
  | inFrame subs op k, .chunk op' k' =>
    if op' = op ∧ k' = k + 1 then
      if (cfg.encode op).length ≤ k + 2 then whole (announce subs op) else inFrame subs op (k + 1)
    else torn
  | _, _ => torn

/-- Read items in order. -/
def read (cfg : Config) (r : Reading) (items : List Item) : Reading := items.foldl (next cfg) r

/-- What the frames read so far announce, unless a frame was cut short and
something followed it. -/
def subs? : Reading → Option (List SubEntry)
  | whole subs | inFrame subs _ _ => some subs
  | torn => none

end Reading

/-- The subscriptions `items` announce, when they are whole frames; `none` when
they are not. -/
def announced (cfg : Config) (items : List Item) : Option (List SubEntry) :=
  match (Reading.whole []).read cfg items with
  | .whole subs => some subs
  | _ => none

/-- A table entry as a SUB frame announces it. -/
def subEntry (e : Sigma fun _ : Nat => Subscription) : SubEntry := (e.1, e.2.subject, e.2.queueGroup)

/-- The entries of the subscription table. -/
def tableSubs (s : Sys) : List SubEntry := s.read.subscriptions.entries.map subEntry

/-- An entry whose sid no SUB or UNSUB among `lost` names. -/
def unlost (lost : List ClientOp) (e : SubEntry) : Bool := e.1 ∉ lost.filterMap ClientOp.subSid

/-- The announced subscriptions `subs` and the table's entries `T` agree, each
once, on every sid that no frame in `lost` names. -/
def Agrees (lost : List ClientOp) (subs T : List SubEntry) : Prop :=
  (subs.filter (unlost lost)).Perm (T.filter (unlost lost))

namespace Reading

variable {cfg : Config}

theorem read_append (r : Reading) (a b : List Item) : r.read cfg (a ++ b) = (r.read cfg a).read cfg b :=
  List.foldl_append ..

theorem read_torn : ∀ items : List Item, torn.read cfg items = torn
  | [] => rfl
  | it :: rest => by
    show (next cfg torn it).read cfg rest = torn
    rw [show next cfg torn it = torn by cases it <;> rfl]
    exact read_torn rest

theorem announce_of_subSid {op : ClientOp} (h : op.subSid = none) (subs : List SubEntry) :
    announce subs op = subs := by
  cases op <;> first | rfl | cases h

/-- A chunk of a frame other than SUB and UNSUB announces nothing. -/
theorem subs?_next_of_subSid {it : Item} (h : it.subSid = none) (r : Reading) :
    (r.next cfg it).subs? = none ∨ (r.next cfg it).subs? = r.subs? := by
  rcases r with subs | ⟨subs, op, k⟩ | _
  · rcases it with ⟨op', _ | k'⟩ | data
    · have h' : op'.subSid = none := h
      right; simp only [next]; split <;> simp [subs?, announce_of_subSid h']
    · exact .inl rfl
    · exact .inr rfl
  · rcases it with ⟨op', k'⟩ | data
    · have h' : op'.subSid = none := h
      simp only [next]; split
      · next hm => obtain ⟨rfl, -⟩ := hm; right; split <;> simp [subs?, announce_of_subSid h']
      · exact .inl rfl
    · exact .inl rfl
  · left; cases it <;> rfl

theorem subs?_read_of_subSid {extra : List Item} (h : ∀ it ∈ extra, it.subSid = none) (r : Reading) :
    (r.read cfg extra).subs? = none ∨ (r.read cfg extra).subs? = r.subs? := by
  induction extra generalizing r with
  | nil => exact .inr rfl
  | cons it rest ih =>
    have hit : (r.next cfg it).subs? = none ∨ (r.next cfg it).subs? = r.subs? :=
      subs?_next_of_subSid (h it (.head _)) r
    rcases ih (fun it' h' => h it' (.tail _ h')) (r.next cfg it) with h₁ | h₁
    · exact .inl h₁
    · exact h₁ ▸ hit

/-- The first chunks of a frame, read between frames: the frame once all its
chunks are in, or inside it. -/
theorem read_firstChunks_whole (subs : List SubEntry) (op : ClientOp) :
    ∀ {j : Nat}, j + 1 ≤ (cfg.encode op).length →
      (whole subs).read cfg (op.firstChunks (j + 1)) =
        if j + 1 = (cfg.encode op).length then whole (announce subs op) else inFrame subs op j
  | 0, _ => by
    show next cfg (whole subs) (.chunk op 0) = _
    simp only [next]
    split <;> split <;> first | rfl | omega
  | j + 1, h => by
    rw [ClientOp.firstChunks, List.range_succ, List.map_append, read_append,
      show (List.range (j + 1)).map (Item.chunk op) = op.firstChunks (j + 1) from rfl,
      read_firstChunks_whole subs op (by omega), if_neg (by omega)]
    show next cfg (inFrame subs op j) (.chunk op (j + 1)) = _
    simp only [next, and_self, ↓reduceIte]
    split <;> split <;> first | rfl | omega

/-- After a frame cut short, the first chunk of the next frame leaves no
reading. -/
theorem read_firstChunks_of_ne_whole {r : Reading} (hr : ∀ subs, r ≠ whole subs) (op : ClientOp) {j : Nat}
    (hj : 0 < j) : r.read cfg (op.firstChunks j) = torn := by
  obtain ⟨j, rfl⟩ : ∃ i, j = i + 1 := ⟨j - 1, by omega⟩
  rw [ClientOp.firstChunks, List.range_succ_eq_map, List.map_cons]
  show (next cfg r (.chunk op 0)).read cfg _ = torn
  rw [show next cfg r (.chunk op 0) = torn from ?_, read_torn]
  rcases r with subs | ⟨subs, op', k⟩ | _
  · exact absurd rfl (hr subs)
  · simp [next]
  · rfl

/-- A frame written whole, read between frames. -/
theorem read_chunks {op : ClientOp} (hop : cfg.encode op ≠ []) (subs : List SubEntry) :
    (whole subs).read cfg (cfg.chunks op) = whole (announce subs op) := by
  obtain ⟨j, hj⟩ : ∃ j, (cfg.encode op).length = j + 1 :=
    ⟨(cfg.encode op).length - 1, by have := List.length_pos.2 hop; omega⟩
  rw [Config.chunks, hj, read_firstChunks_whole subs op (by omega), if_pos hj.symm]

/-- Frames written whole, one after another. -/
theorem read_flatMap_chunks {ops : List ClientOp} (hops : ∀ op ∈ ops, cfg.encode op ≠ []) (subs : List SubEntry) :
    (whole subs).read cfg (ops.flatMap cfg.chunks) = whole (ops.foldl announce subs) := by
  induction ops generalizing subs with
  | nil => rfl
  | cons op ops ih =>
    rw [List.flatMap_cons, read_append, read_chunks (hops op (.head _)), ih fun op' h => hops op' (.tail _ h)]
    rfl

end Reading

open Reading

variable {cfg : Config} {s s' : Sys}

/-- The SUB frames `reconnect` writes for a table announce its entries. -/
theorem foldl_announce_subs (l : List (Sigma fun _ : Nat => Subscription)) (acc : List SubEntry) :
    (l.map fun e => ClientOp.sub e.2.subject e.2.queueGroup e.1).foldl announce acc = acc ++ l.map subEntry := by
  induction l generalizing acc with
  | nil => simp
  | cons e l ih =>
    rw [List.map_cons, List.foldl_cons, ih]
    simp [announce, subEntry]

/-! ## Lost frames -/

@[simp] theorem subSid_sub (subject : String) (q : Option String) (sid : Nat) :
    (ClientOp.sub subject q sid).subSid = some sid := rfl
@[simp] theorem subSid_unsub (sid : Nat) (m : Option Nat) : (ClientOp.unsub sid m).subSid = some sid := rfl

theorem unlost_append_of_subSid {lost extra : List ClientOp} (h : ∀ op ∈ extra, op.subSid = none) :
    unlost (lost ++ extra) = unlost lost := by
  funext e; simp [unlost, List.filterMap_append, List.filterMap_eq_nil_iff.2 h]

/-- A SUB or an UNSUB for `sid` recorded as lost hides `sid`. -/
theorem filter_unlost_append {lost : List ClientOp} {op : ClientOp} {sid : Nat} (h : op.subSid = some sid)
    (l : List SubEntry) : l.filter (unlost (lost ++ [op])) = (l.filter (unlost lost)).filter (·.1 ≠ sid) := by
  rw [List.filter_filter]
  congr 1; funext e
  simp [unlost, h, and_comm, eq_comm]

theorem filter_ne_comm (p : SubEntry → Bool) (sid : Nat) (l : List SubEntry) :
    (l.filter (·.1 ≠ sid)).filter p = (l.filter p).filter (·.1 ≠ sid) := by
  simp only [List.filter_filter, Bool.and_comm]

/-! ## The table -/

theorem map_insert_entries {t : AList fun _ : Nat => Subscription} {sid : Nat} (h : sid ∉ t)
    (sub : Subscription) :
    (t.insert sid sub).entries.map subEntry = (sid, sub.subject, sub.queueGroup) :: t.entries.map subEntry := by
  rw [AList.insert_entries_of_neg h]; rfl

theorem kerase_eq_filter {a : Nat} :
    ∀ {l : List (Sigma fun _ : Nat => Subscription)}, l.NodupKeys → l.kerase a = l.filter (·.1 ≠ a)
  | [], _ => rfl
  | e :: l, h => by
    rw [List.nodupKeys_cons] at h
    by_cases he : a = e.1
    · subst he
      rw [List.kerase_cons_eq rfl, List.filter_cons_of_neg (by simp), eq_comm, List.filter_eq_self]
      intro e' he'
      have : e'.1 ≠ e.1 := fun h' => h.1 (h' ▸ List.mem_keys_of_mem he')
      simpa using this
    · rw [List.kerase_cons_ne he, List.filter_cons_of_pos (by simpa using Ne.symm he), kerase_eq_filter h.2]

theorem map_erase_entries (t : AList fun _ : Nat => Subscription) (sid : Nat) :
    (t.erase sid).entries.map subEntry = (t.entries.map subEntry).filter (·.1 ≠ sid) := by
  show (t.entries.kerase sid).map subEntry = _
  rw [kerase_eq_filter t.nodupKeys, List.filter_map]; rfl

/-! ## One SUB or UNSUB -/

section
variable {lost : List ClientOp} {subs T : List SubEntry} (h : Agrees lost subs T)
include h

/-- A SUB for a sid new to the table keeps the views in agreement, whether it
reaches the connection whole or is lost. -/
theorem agree_sub (subject : String) (q : Option String) (sid : Nat) :
    Agrees lost (announce subs (.sub subject q sid)) ((sid, subject, q) :: T) ∧
      Agrees (lost ++ [.sub subject q sid]) subs ((sid, subject, q) :: T) := by
  constructor
  · rw [Agrees, announce, List.filter_append, ← List.singleton_append (l := T), List.filter_append]
    exact (h.append_right _).trans List.perm_append_comm
  · have hT : (((sid, subject, q) :: T).filter (unlost lost)).filter (·.1 ≠ sid) =
        (T.filter (unlost lost)).filter (·.1 ≠ sid) := by
      rw [List.filter_cons]; split <;> simp
    rw [Agrees, filter_unlost_append (subSid_sub ..), filter_unlost_append (subSid_sub ..), hT]
    exact h.filter _

/-- An UNSUB for a sid removed from the table keeps the views in agreement,
whether it reaches the connection whole or is lost. -/
theorem agree_unsub (sid : Nat) (m : Option Nat) :
    Agrees lost (announce subs (.unsub sid m)) (T.filter (·.1 ≠ sid)) ∧
      Agrees (lost ++ [.unsub sid m]) subs (T.filter (·.1 ≠ sid)) := by
  constructor
  · rw [Agrees, announce, filter_ne_comm, filter_ne_comm]
    exact h.filter _
  · have hG : ∀ l : List SubEntry, (l.filter (·.1 ≠ sid)).filter (·.1 ≠ sid) = l.filter (·.1 ≠ sid) := by
      simp
    rw [Agrees, filter_unlost_append (subSid_unsub ..), filter_unlost_append (subSid_unsub ..),
      filter_ne_comm (unlost lost) sid T, hG]
    exact h.filter _

end

/-! ## One connection -/

/-- Where the connection `x` reads as frames, they agree with the entries `T`
on every sid that no frame `x` lost names. -/
def ReadsAgree (cfg : Config) (T : List SubEntry) (x : List Item × List ClientOp) : Prop :=
  ∀ subs, ((whole []).read cfg x.1).subs? = some subs → Agrees x.2 subs T

/-- The connection `x` is `y` after an encode of `op`: all the frame's chunks
joined it, or a proper prefix of them did and `op` is recorded as lost. -/
def Encoded (cfg : Config) (op : ClientOp) (y x : List Item × List ClientOp) : Prop :=
  x = (y.1 ++ cfg.chunks op, y.2) ∨ ∃ j < (cfg.encode op).length, x = (y.1 ++ op.firstChunks j, y.2 ++ [op])

/-- A frame cut short after some of its chunks reads as nothing new. -/
theorem subs?_read_firstChunks {op : ClientOp} {j : Nat} (hj : j < (cfg.encode op).length) (r : Reading) :
    (r.read cfg (op.firstChunks j)).subs? = none ∨ (r.read cfg (op.firstChunks j)).subs? = r.subs? := by
  rcases Nat.eq_zero_or_pos j with rfl | hpos
  · exact .inr rfl
  by_cases hr : ∃ subs, r = whole subs
  · obtain ⟨subs, rfl⟩ := hr
    obtain ⟨i, rfl⟩ : ∃ i, j = i + 1 := ⟨j - 1, by omega⟩
    rw [read_firstChunks_whole subs op hj.le, if_neg hj.ne]
    exact .inr rfl
  · rw [read_firstChunks_of_ne_whole (fun subs h => hr ⟨subs, h⟩) op hpos]
    exact .inl rfl

/-- An encode of `op` keeps a connection in agreement, given what the frame does
to the agreement when it goes out whole and when it is lost. -/
theorem ReadsAgree.encoded {op : ClientOp} (hop : cfg.encode op ≠ []) {T T' : List SubEntry}
    {y x : List Item × List ClientOp} (hy : ReadsAgree cfg T y) (hx : Encoded cfg op y x)
    (hwhole : ∀ subs, Agrees y.2 subs T → Agrees y.2 (announce subs op) T')
    (hlost : ∀ subs, Agrees y.2 subs T → Agrees (y.2 ++ [op]) subs T') : ReadsAgree cfg T' x := by
  intro subs hs
  rcases hx with rfl | ⟨j, hj, rfl⟩ <;> dsimp only at hs ⊢ <;> rw [read_append] at hs
  · rcases hr : (whole []).read cfg y.1 with subs' | ⟨subs', op', k⟩ | _
    · rw [hr, read_chunks hop] at hs
      cases hs
      exact hwhole _ (hy _ (by rw [hr]; rfl))
    all_goals
      rw [hr, Config.chunks, read_firstChunks_of_ne_whole (fun _ h => Reading.noConfusion h) _
        (List.length_pos.2 hop)] at hs
      cases hs
  · rcases subs?_read_firstChunks hj ((whole []).read cfg y.1) with h | h <;> rw [h] at hs
    · cases hs
    · exact hlost _ (hy _ hs)

/-- Chunks and lost frames other than SUB and UNSUB keep a connection in
agreement. -/
theorem ReadsAgree.quiet {T : List SubEntry} {y : List Item × List ClientOp} (hy : ReadsAgree cfg T y)
    {extra : List Item} {lost : List ClientOp} (he : ∀ it ∈ extra, it.subSid = none)
    (hl : ∀ op ∈ lost, op.subSid = none) : ReadsAgree cfg T (y.1 ++ extra, y.2 ++ lost) := by
  intro subs hs
  dsimp only at hs ⊢
  rw [read_append] at hs
  rw [Agrees, unlost_append_of_subSid hl]
  rcases subs?_read_of_subSid he ((whole []).read cfg y.1) with h | h <;> rw [h] at hs
  · cases hs
  · exact hy _ hs

/-- The invariant's form of the law: on the installed writer's connection,
wherever it reads as frames. -/
def ReadAgree (cfg : Config) (s : Sys) : Prop := ∀ x ∈ s.conn, ReadsAgree cfg (tableSubs s) x

theorem ReadAgree.of_quiet (h : Quiet s s') (ha : ReadAgree cfg s) : ReadAgree cfg s' := by
  intro x hx
  rcases h.conn with h' | ⟨extra, lost, he, hl, h'⟩
  · rw [h'] at hx; cases hx
  · rw [h'] at hx
    obtain ⟨y, hy, rfl⟩ := Option.mem_map.1 hx
    rw [tableSubs, h.subscriptions]
    exact (ha y hy).quiet he hl

/-- A connection after an encode of `op`. -/
theorem mem_conn_encode {op : ClientOp} {ok : Bool} {x : List Item × List ClientOp}
    (hx : x ∈ (s.encode cfg op ok).1.conn) : ∃ y ∈ s.conn, Encoded cfg op y x := by
  rcases @encode_conn cfg s op ok with ⟨-, h⟩ | ⟨-, j, hj, h⟩ <;> rw [h] at hx <;>
    obtain ⟨y, hy, rfl⟩ := Option.mem_map.1 hx
  exacts [⟨y, hy, .inl rfl⟩, ⟨y, hy, .inr ⟨j, hj, rfl⟩⟩]

/-! ## The invariant -/

/-- The stream a supervisor in `reconnect` works on. -/
def Supervisor.reconnectStream : Supervisor → Option Nat
  | .reconnect _ c | .reconnectLocked _ c => some c
  | _ => none

/-- What every step keeps about the table, the sids and the connections. -/
structure SubInv (cfg : Config) (s : Sys) : Prop where
  /-- `next_sid` is the `u64` after the last sid handed out. -/
  nextSid : s.write.nextSid = (s.subscribes + 1) % 2 ^ 64
  keys_le : ∀ sid ∈ s.read.subscriptions, sid ≤ s.subscribes
  writer_lt : ∀ w ∈ s.write.writer, w.stream < s.streams.length
  /-- The connection `reconnect` is about to install has received nothing, and
  is newer than the installed writer's. -/
  fresh : ∀ c ∈ s.supervisor.reconnectStream, s.wireAt c = some ([], []) ∧ ∀ w ∈ s.write.writer, w.stream < c
  /-- With a codec that writes a chunk for every frame, and before sids wrap. -/
  agree : (∀ op, cfg.encode op ≠ []) → s.subscribes < 2 ^ 64 → ReadAgree cfg s

theorem SubInv.init : SubInv cfg (Sys.init cfg) where
  nextSid := rfl
  keys_le _ h := by simp [Sys.init] at h
  writer_lt := nofun
  fresh := nofun
  agree _ _ _ h := nomatch h

/-- A `Local` step that keeps the supervisor's reconnect target keeps what
`SubInv` says about the connections. -/
theorem SubInv.of_local (hi : SubInv cfg s) (h : Local s s')
    (hsup : ∀ c ∈ s'.supervisor.reconnectStream, c ∈ s.supervisor.reconnectStream)
    (hn : s'.write.nextSid = (s'.subscribes + 1) % 2 ^ 64)
    (hk : ∀ sid ∈ s'.read.subscriptions, sid ≤ s'.subscribes)
    (ha : (∀ op, cfg.encode op ≠ []) → s'.subscribes < 2 ^ 64 → ReadAgree cfg s') : SubInv cfg s' where
  nextSid := hn
  keys_le := hk
  writer_lt w' hw' := by
    obtain ⟨w, hw, heq⟩ := h.writer w' hw'
    rw [heq, h.length]; exact hi.writer_lt w hw
  fresh c hc := by
    obtain ⟨hwc, hlt⟩ := hi.fresh c (hsup c hc)
    refine ⟨(h.wireAt c fun w hw => (hlt w hw).ne).trans hwc, fun w' hw' => ?_⟩
    obtain ⟨w, hw, heq⟩ := h.writer w' hw'
    rw [heq]; exact hlt w hw
  agree := ha

/-- A `Quiet` frame step keeps `SubInv`. -/
theorem SubInv.of_quiet (hi : SubInv cfg s) (h : Quiet s s') (hf : Frame s s')
    (hsup : ∀ c ∈ s'.supervisor.reconnectStream, c ∈ s.supervisor.reconnectStream) : SubInv cfg s' :=
  hi.of_local h.toLocal hsup (by rw [hf.nextSid, hf.subscribes]; exact hi.nextSid)
    (by rw [h.subscriptions, hf.subscribes]; exact hi.keys_le)
    (fun hc hn => (hi.agree hc (hf.subscribes ▸ hn)).of_quiet h)

theorem SubInv.with_calls (hi : SubInv cfg s) (calls : List UserThread) : SubInv cfg { s with calls := calls } :=
  ⟨hi.1, hi.2, hi.3, hi.4, hi.5⟩

theorem SubInv.with_closed (hi : SubInv cfg s) (b : Bool) : SubInv cfg { s with closed := b } :=
  ⟨hi.1, hi.2, hi.3, hi.4, hi.5⟩

/-! ## `subscribe`, `unsubscribe`, `close` -/

/-- `subscribe` on an open client, as the invariant needs it: the sid is
`next_sid`, the SUB is encoded into the installed writer's connection, and the
entry goes into the table. -/
theorem subscribe_spec (hsd : s.shutdown = false) (subject : String) (q : Option String)
    (io : List Bool) :
    ∃ s₂ : Sys, Local s s₂ ∧ s₂.supervisor = s.supervisor ∧ s₂.read = s.read ∧
      s₂.write.nextSid = (s.write.nextSid + 1) % 2 ^ 64 ∧ s₂.subscribes = s.subscribes + 1 ∧
      (∀ x ∈ s₂.conn, ∃ y ∈ s.conn, Encoded cfg (.sub subject q s.write.nextSid) y x) ∧
      (s.subscribe cfg subject q io).1 =
        { s₂ with
          channels := s₂.channels + 1
          read.subscriptions := s₂.read.subscriptions.insert s.write.nextSid ⟨subject, q, s₂.channels⟩ } := by
  let s₁ : Sys := { s with write.nextSid := (s.write.nextSid + 1) % 2 ^ 64, subscribes := s.subscribes + 1 }
  have hloc : Local s s₁ := ⟨rfl, fun _ _ => rfl, fun w hw => ⟨w, hw, rfl⟩⟩
  rcases hw : s.write.writer with _ | w
  · refine ⟨s₁, hloc, rfl, rfl, rfl, rfl, fun x hx => by simp [s₁, conn, hw] at hx, ?_⟩
    simp only [Sys.subscribe, checkShutdown, hsd, hw, Bool.false_eq_true, ↓reduceIte, s₁]
  · have hf : Frame s₁ (s₁.encode cfg (.sub subject q s.write.nextSid) (io.getD 0 true)).1.kick :=
      (frame_encode _ _).trans frame_kick
    refine ⟨_, hloc.trans ((local_encode _ _).trans quiet_kick.toLocal), by simp [s₁], by simp [s₁],
      hf.nextSid, hf.subscribes, fun x hx => mem_conn_encode (s := s₁) hx, ?_⟩
    simp only [Sys.subscribe, checkShutdown, hsd, hw, Bool.false_eq_true, ↓reduceIte, s₁]

theorem SubInv.subscribe (hi : SubInv cfg s) (subject : String) (q : Option String) (io : List Bool) :
    SubInv cfg (s.subscribe cfg subject q io).1 := by
  cases hsd : s.shutdown
  swap
  · rw [subscribe_of_shutdown hsd]; exact hi
  obtain ⟨s₂, hloc, hsup, hread, hn, hsub, hconn, heq⟩ := @subscribe_spec cfg _ hsd subject q io
  rw [heq, hread]
  refine hi.of_local ⟨hloc.1, hloc.2, hloc.3⟩ (by rw [hsup]; exact fun _ h => h)
    (by rw [hn, hsub, hi.nextSid]; omega) (fun sid h => ?_) (fun hcodec hlt x hx => ?_)
  · rcases (AList.mem_insert _).1 h with rfl | h
    · rw [hsub, hi.nextSid]; exact (Nat.mod_le _ _).trans (by omega)
    · exact (hi.keys_le sid h).trans (by rw [hsub]; omega)
  · have hlt' : s.subscribes < 2 ^ 64 := by rw [hsub] at hlt; omega
    have hfresh : s.write.nextSid ∉ s.read.subscriptions := fun h => by
      have := hi.keys_le _ h
      rw [hi.nextSid, Nat.mod_eq_of_lt (by rw [hsub] at hlt; exact hlt)] at this
      omega
    obtain ⟨y, hy, hxy⟩ := hconn x hx
    simp only [tableSubs]
    rw [map_insert_entries hfresh]
    exact (hi.agree hcodec hlt' y hy).encoded (hcodec _) hxy (fun _ h => (agree_sub h _ _ _).1)
      fun _ h => (agree_sub h _ _ _).2

/-- `unsubscribe` of a sid in the table: the entry goes, and the UNSUB is
encoded into the installed writer's connection. -/
theorem unsubscribe_spec {sid : Nat} {sub : Subscription} (hl : s.read.subscriptions.lookup sid = some sub)
    (io : List Bool) :
    Local s (s.unsubscribe cfg sid io).1 ∧ (s.unsubscribe cfg sid io).1.supervisor = s.supervisor ∧
      (s.unsubscribe cfg sid io).1.write.nextSid = s.write.nextSid ∧
      (s.unsubscribe cfg sid io).1.subscribes = s.subscribes ∧
      (s.unsubscribe cfg sid io).1.read.subscriptions = s.read.subscriptions.erase sid ∧
      ∀ x ∈ (s.unsubscribe cfg sid io).1.conn, ∃ y ∈ s.conn, Encoded cfg (.unsub sid none) y x := by
  let s₁ : Sys := { s with read.subscriptions := s.read.subscriptions.erase sid }
  have hloc : Local s s₁ := ⟨rfl, fun _ _ => rfl, fun w hw => ⟨w, hw, rfl⟩⟩
  have hf : Frame s₁ (s₁.encode cfg (.unsub sid none) (io.getD 0 true)).1 := frame_encode _ _
  have hl' : Local s₁ (s₁.encode cfg (.unsub sid none) (io.getD 0 true)).1 := local_encode _ _
  unfold Sys.unsubscribe
  simp only [hl]
  split
  · next hw => exact ⟨hloc, rfl, rfl, rfl, rfl, fun x hx => by simp [conn, hw] at hx⟩
  · split
    · exact ⟨hloc.trans (hl'.trans quiet_kick.toLocal), by simp [s₁], hf.nextSid, hf.subscribes, by simp [s₁],
        fun x hx => mem_conn_encode (s := s₁) hx⟩
    · exact ⟨hloc.trans hl', by simp [s₁], hf.nextSid, hf.subscribes, by simp [s₁],
        fun x hx => mem_conn_encode (s := s₁) hx⟩

theorem SubInv.unsubscribe (hi : SubInv cfg s) (sid : Nat) (io : List Bool) :
    SubInv cfg (s.unsubscribe cfg sid io).1 := by
  cases hl : s.read.subscriptions.lookup sid with
  | none => rw [unsubscribe_of_lookup sid hl]; exact hi
  | some sub =>
    obtain ⟨hloc, hsup, hn, hsub, htab, hconn⟩ := @unsubscribe_spec cfg _ _ _ hl io
    refine hi.of_local hloc (by rw [hsup]; exact fun _ h => h) (by rw [hn, hsub]; exact hi.nextSid)
      (fun k hk => ?_) (fun hcodec hlt x hx => ?_)
    · rw [htab, AList.mem_erase] at hk
      rw [hsub]; exact hi.keys_le k hk.2
    · obtain ⟨y, hy, hxy⟩ := hconn x hx
      simp only [tableSubs]
      rw [htab, map_erase_entries]
      exact (hi.agree hcodec (hsub ▸ hlt) y hy).encoded (hcodec _) hxy (fun _ h => (agree_unsub h sid none).1)
        fun _ h => (agree_unsub h sid none).2

theorem local_unsubAll (sids : List Nat) (io : List Bool) : Local s (unsubAll cfg s sids io) := by
  induction sids generalizing s io with
  | nil => exact .refl
  | cons sid rest ih =>
    unfold unsubAll; split
    · exact ih _
    · exact ((local_encode _ _).trans quiet_kick.toLocal).trans (ih _)

theorem unsubAll_supervisor (sids : List Nat) (io : List Bool) :
    (unsubAll cfg s sids io).supervisor = s.supervisor := by
  induction sids generalizing s io with
  | nil => rfl
  | cons sid rest ih =>
    unfold unsubAll; split
    · exact ih _
    · exact (ih _).trans (by simp)

/-- `close`'s loop withdraws the sids it sends an UNSUB for, or loses the
UNSUB; either way they leave the agreement. -/
theorem agree_unsubAll (hcodec : ∀ op, cfg.encode op ≠ []) (sids : List Nat) (io : List Bool)
    (T : List SubEntry) (h : ∀ x ∈ s.conn, ReadsAgree cfg T x) :
    ∀ x ∈ (unsubAll cfg s sids io).conn, ReadsAgree cfg (T.filter fun e => e.1 ∉ sids) x := by
  induction sids generalizing s io T with
  | nil => simpa only [unsubAll, List.not_mem_nil, not_false_eq_true, decide_True, List.filter_true] using h
  | cons sid rest ih =>
    have hT : (T.filter fun e => e.1 ∉ sid :: rest) = (T.filter (·.1 ≠ sid)).filter fun e => e.1 ∉ rest := by
      simp [List.filter_filter, Bool.and_comm]
    rw [hT]
    unfold unsubAll; split
    · next hw => exact ih _ _ fun x hx => by simp [conn, hw] at hx
    · refine ih _ _ fun x hx => ?_
      obtain ⟨y, hy, hxy⟩ := mem_conn_encode (s := s) hx
      exact (h y hy).encoded (hcodec _) hxy (fun _ h => (agree_unsub h sid none).1)
        fun _ h => (agree_unsub h sid none).2

/-- No entry of the table survives the filter by its own keys. -/
theorem filter_tableSubs_keys (s : Sys) :
    (tableSubs s).filter (fun e => e.1 ∉ s.read.subscriptions.keys) = [] := by
  rw [List.filter_eq_nil_iff]
  intro e he
  obtain ⟨e', he', rfl⟩ := List.mem_map.1 he
  simpa [subEntry] using List.mem_keys_of_mem he'

theorem SubInv.close (hi : SubInv cfg s) (io : List Bool) : SubInv cfg (s.close cfg io) := by
  cases hsd : s.shutdown
  swap
  · rw [close_of_shutdown hsd]; exact hi
  let s₀ : Sys := { s with shutdown := true, read.subscriptions := ∅ }
  have hloc : Local s s₀ := ⟨rfl, fun _ _ => rfl, fun w hw => ⟨w, hw, rfl⟩⟩
  have hR : Frame s₀ (unsubAll cfg s₀ s.read.subscriptions.keys io) := frame_unsubAll _ _
  have hq := (quiet_flushWriter (s := unsubAll cfg s₀ s.read.subscriptions.keys io)
    (io.getD s.read.subscriptions.keys.length true)).trans_wire wire_clearPongs
  have hf := (frame_flushWriter (s := unsubAll cfg s₀ s.read.subscriptions.keys io)
    (io.getD s.read.subscriptions.keys.length true)).trans frame_clearPongs
  have hclose : s.close cfg io = ((unsubAll cfg s₀ s.read.subscriptions.keys io).flushWriter
      (io.getD s.read.subscriptions.keys.length true)).1.clearPongs := by
    simp only [Sys.close, hsd, Bool.false_eq_true, ↓reduceIte]
  rw [hclose]
  refine hi.of_local (hloc.trans ((local_unsubAll _ _).trans hq.toLocal))
    (by simp [s₀, unsubAll_supervisor])
    (by rw [hf.nextSid, hf.subscribes, hR.nextSid, hR.subscribes]; exact hi.nextSid)
    (fun k hk => by rw [hf.subscriptions, hR.subscriptions] at hk; exact absurd hk (AList.not_mem_empty k))
    (fun hcodec hlt => ReadAgree.of_quiet hq fun x hx => ?_)
  have hagree := agree_unsubAll (s := s₀) hcodec s.read.subscriptions.keys io (tableSubs s)
    (hi.agree hcodec (by rw [hf.subscribes, hR.subscribes] at hlt; exact hlt)) x hx
  have hempty : tableSubs (unsubAll cfg s₀ s.read.subscriptions.keys io) = [] := by
    simp only [tableSubs, hR.subscriptions]; rfl
  rw [filter_tableSubs_keys] at hagree
  rwa [hempty]

/-! ## `reconnect` and `connect` -/

/-- `reconnect`'s SUB loop, when every write succeeded, hands the stream and
the buffer the SUB frames' chunks in order. -/
theorem writeSubs_ok : ∀ {w w' : Writer} {ops : List ClientOp} {io io' : List Bool} {out : List Item},
    writeSubs cfg w ops io = (w', out, io', true) →
      w'.stream = w.stream ∧ out ++ w'.buf = w.buf ++ ops.flatMap cfg.chunks
  | w, w', [], io, io', out, h => by
    simp only [writeSubs, Prod.mk.injEq] at h
    obtain ⟨rfl, rfl, -⟩ := h
    simp
  | w, w', op :: rest, io, io', out, h => by
    rw [writeSubs] at h
    rcases hwa : w.encode cfg op (io.headD true) with ⟨w₁, out₁, _ | _⟩
    · rw [hwa] at h; cases h
    rcases hws : writeSubs cfg w₁ rest io.tail with ⟨w₂, out₂, io₂, ok₂⟩
    simp only [hwa, hws, Prod.mk.injEq] at h
    obtain ⟨rfl, rfl, -, rfl⟩ := h
    obtain ⟨hs₁, j, -, hb₁, hr⟩ := Writer.encode_spec hwa
    obtain rfl := hr.1 rfl
    obtain ⟨hs₂, hb₂⟩ := writeSubs_ok hws
    refine ⟨hs₂.trans hs₁, ?_⟩
    calc out₁ ++ out₂ ++ w₂.buf = out₁ ++ (w₁.buf ++ rest.flatMap cfg.chunks) := by rw [List.append_assoc, hb₂]
      _ = w.buf ++ cfg.chunks op ++ rest.flatMap cfg.chunks := by rw [← List.append_assoc, hb₁, Config.chunks]
      _ = w.buf ++ (op :: rest).flatMap cfg.chunks := by simp

/-- A successful `reconnect` installs its writer, on stream `c`. -/
theorem reconnectInstall_spec {P : List Item × List ClientOp → Prop} {info : ServerInfo} {c : Nat} {w : Writer}
    {pongs : List Waiter} {replayed : List ClientOp} {bytes : List UInt8} (hs : w.stream = c)
    (hlen : s'.streams.length = s.streams.length)
    (hx : ∀ x ∈ (s'.wireAt c).map (fun x => (x.1 ++ w.buf, x.2)), P x) :
    (s'.reconnectInstall info c w pongs replayed bytes).streams.length = s.streams.length ∧
    (∀ w' ∈ (s'.reconnectInstall info c w pongs replayed bytes).write.writer, w'.stream = c) ∧
    (s'.reconnectInstall info c w pongs replayed bytes).supervisor.reconnectStream = none ∧
    ∀ x ∈ (s'.reconnectInstall info c w pongs replayed bytes).conn, P x := by
  refine ⟨by simpa [reconnectInstall] using hlen, fun w' hw' => ?_, rfl, fun x h => hx x ?_⟩
  · simp only [reconnectInstall, foldl_complete_write, Option.mem_def, Option.some.injEq] at hw'
    rw [← hw', hs]
  · simpa only [conn, reconnectInstall, foldl_complete_write, foldl_complete_streams, Option.some_bind, hs] using h

/-- A failed `reconnect` leaves no writer installed. -/
theorem reconnectFailed_spec {P : List Item × List ClientOp → Prop} {c : Nat} {w : Writer} {io : List Bool}
    (hX : s'.write.writer = none) (hlen : s'.streams.length = s.streams.length) :
    (s'.reconnectFailed c w io).streams.length = s.streams.length ∧
    (∀ w' ∈ (s'.reconnectFailed c w io).write.writer, w'.stream = c) ∧
    (s'.reconnectFailed c w io).supervisor.reconnectStream = none ∧
    ∀ x ∈ (s'.reconnectFailed c w io).conn, P x := by
  refine ⟨by simp [reconnectFailed, deliver, hlen], fun w' hw' => ?_, rfl, fun x hx => ?_⟩
  · simp [reconnectFailed, hX] at hw'
  · simp [reconnectFailed, conn, hX] at hx

/-- **What `reconnect` writes.** Onto a connection that has received nothing,
`reconnect` either installs no writer, or installs one whose connection holds
the SUB frames of the table, whole and in the table's order, then the replayed
bytes, with no frame lost. -/
theorem reconnectLocked_spec {info : ServerInfo} {c : Nat} (hc : s.wireAt c = some ([], []))
    (hw : ∀ w ∈ s.write.writer, w.stream < c) (io : List Bool) :
    (s.reconnectLocked cfg info c io).streams.length = s.streams.length ∧
    (∀ w ∈ (s.reconnectLocked cfg info c io).write.writer, w.stream = c) ∧
    (s.reconnectLocked cfg info c io).supervisor.reconnectStream = none ∧
    ∀ x ∈ (s.reconnectLocked cfg info c io).conn, ∃ bytes,
      x = ((s.read.subscriptions.entries.map fun e => ClientOp.sub e.2.subject e.2.queueGroup e.1).flatMap
        cfg.chunks ++ [.bytes bytes], []) := by
  have hne : ∀ w ∈ s.write.writer, w.stream ≠ c := fun w h => (hw w h).ne
  have hlen₁ := (quiet_dropWriter (s := s) (io.headD true)).length
  have hsubs := (quiet_dropWriter (s := s) (io.headD true)).subscriptions
  unfold reconnectLocked
  rcases hws : writeSubs cfg ⟨c, []⟩ ((s.dropWriter (io.headD true)).read.subscriptions.entries.map
    fun e => ClientOp.sub e.2.subject e.2.queueGroup e.1) io.tail with ⟨w₁, out₁, io₁, _ | _⟩
  · simp only [hws, Bool.not_false, ↓reduceIte]
    exact reconnectFailed_spec (by simp) (by simpa [deliver] using hlen₁)
  · simp only [hws, Bool.not_true, Bool.false_eq_true, ↓reduceIte]
    split
    · exact reconnectFailed_spec (by simp) (by simpa [deliver] using hlen₁)
    · split
      · exact reconnectFailed_spec (by simp) (by simpa [deliver] using hlen₁)
      · next _ w₂ out₂ hwa _ w₃ out₃ hfl =>
        obtain ⟨hs₁, hb₁⟩ := writeSubs_ok hws
        obtain ⟨hs₂, hb₂⟩ := Writer.writeAll_ok hwa
        obtain ⟨rfl, rfl⟩ : w₃ = { w₂ with buf := [] } ∧ out₃ = w₂.buf := by
          unfold Writer.flush at hfl; split at hfl <;> cases hfl; exact ⟨rfl, rfl⟩
        generalize Buffer.clear _ = b at hb₂
        refine reconnectInstall_spec (hs₂.trans hs₁) (by simpa [deliver] using hlen₁) fun x hx => ⟨b.1, ?_⟩
        obtain ⟨st, hst, hsl⟩ := Option.map_eq_some'.1 hc
        simp only [wireAt, deliver, List.getElem?_modify_eq, getElem?_streams_dropWriter hne, hst,
          Option.map_eq_map, Option.map_some', Option.mem_def, Option.some.injEq] at hx
        obtain ⟨hsent, hlost⟩ := Prod.mk.inj hsl
        subst hx
        rw [hsent, hlost, ← hsubs]
        calc ([] ++ out₁ ++ out₂ ++ w₂.buf ++ [], [])
            = (out₁ ++ w₁.buf ++ [.bytes b.1], ([] : List ClientOp)) := by
              rw [List.append_nil, List.nil_append, List.append_assoc, hb₂, List.append_assoc]
          _ = _ := by rw [hb₁, List.nil_append]

theorem reconnectStream_sub_of_eq (h : s'.supervisor = s.supervisor) :
    ∀ c ∈ s'.supervisor.reconnectStream, c ∈ s.supervisor.reconnectStream := fun _ hc => h ▸ hc

theorem reconnectStream_sub_of_none (h : s'.supervisor.reconnectStream = none) :
    ∀ c ∈ s'.supervisor.reconnectStream, c ∈ s.supervisor.reconnectStream := fun _ hc => by
  rw [h] at hc; cases hc

theorem SubInv.reconnectLocked (hi : SubInv cfg s) {info : ServerInfo} {c : Nat}
    (hs : s.supervisor = .reconnectLocked info c) (io : List Bool) :
    SubInv cfg (s.reconnectLocked cfg info c io) := by
  obtain ⟨hc, hw⟩ := hi.fresh c (by rw [hs]; rfl)
  obtain ⟨hlen, hwc, hsup, hconn⟩ := @reconnectLocked_spec cfg _ info _ hc hw io
  have hf : Frame s (s.reconnectLocked cfg info c io) := frame_reconnectLocked info c io
  have hlt : c < s.streams.length := by
    by_contra h
    simp [wireAt, List.getElem?_eq_none (Nat.le_of_not_lt h)] at hc
  refine ⟨(by rw [hf.nextSid, hf.subscribes]; exact hi.nextSid),
    (by rw [hf.subscriptions, hf.subscribes]; exact hi.keys_le),
    fun w h => (by rw [hwc w h, hlen]; exact hlt), fun _ h => (by rw [hsup] at h; cases h),
    fun hcodec _ x hx subs hsubs => ?_⟩
  obtain ⟨bytes, rfl⟩ := hconn x hx
  rw [read_append, read_flatMap_chunks fun op _ => hcodec op, foldl_announce_subs] at hsubs
  obtain rfl := Option.some.inj hsubs
  simp only [Agrees, tableSubs, hf.subscriptions, List.nil_append]
  exact .refl _

theorem SubInv.connected (hi : SubInv cfg s) (info : ServerInfo) : SubInv cfg (s.connected (some info)) := by
  have hconn : (s.connected (some info)).conn = s.conn := by
    rcases hw : s.write.writer with _ | w
    · simp [conn, Sys.connected, hw]
    · simp [conn, Sys.connected, hw, wireAt, List.getElem?_append_left (hi.writer_lt w hw)]
  refine ⟨hi.nextSid, hi.keys_le, fun w h => ?_, fun c hc => ?_, fun hc hn x hx => ?_⟩
  · simp only [Sys.connected, List.length_append, List.length_singleton] at h ⊢
    exact (hi.writer_lt w h).trans (by omega)
  · obtain rfl : s.streams.length = c := Option.some.inj hc
    exact ⟨by simp [wireAt, Sys.connected, Stream.fresh], fun w h => hi.writer_lt w h⟩
  · rw [hconn] at hx; exact hi.agree hc hn x hx

theorem dispatchOp_reconnectStream (c : Nat) (op : ServerOp) (io : List Bool) :
    (s.dispatchOp cfg c op io).supervisor.reconnectStream = none := by
  unfold dispatchOp; split
  · rfl
  · split
    · rfl
    · dsimp only; split <;> rfl
  · dsimp only; split <;> rfl
  all_goals rfl

/-! ## Every step -/

theorem SubInv.callStep (hi : SubInv cfg s) {c : Call} {io : List Bool} {b : Bool} {r : Sys × Call}
    (h : s.callStep cfg c io b = some r) : SubInv cfg r.1 := by
  cases c with
  | publishWrite p =>
    cases h
    exact hi.of_quiet (quiet_publishWrite _ _) (frame_publishWrite _ _)
      (reconnectStream_sub_of_eq (publishWrite_supervisor _ _))
  | tryPublishWrite p =>
    simp only [Sys.callStep] at h
    split at h <;> cases h
    · exact hi
    · exact hi.of_quiet (quiet_tryPublishWrite _ _) (frame_tryPublishWrite _ _)
        (reconnectStream_sub_of_eq (tryPublishWrite_supervisor _ _))
  | subscribe subject q => cases h; exact hi.subscribe subject q io
  | unsubscribe sid => cases h; exact hi.unsubscribe sid io
  | flush =>
    cases h
    exact hi.of_quiet (quiet_flush _) (frame_flush _) (reconnectStream_sub_of_eq (flush_supervisor _))
  | flushWait id => obtain ⟨_, -, rfl⟩ := Option.map_eq_some'.mp h; exact hi
  | close => cases h; exact (hi.close io).with_closed true
  | returned => cases h
  | _ => cases h; exact hi

theorem SubInv.supervisorStep (hi : SubInv cfg s) {io : List Bool} (h : s.supervisorStep cfg io = some s') :
    SubInv cfg s' := by
  unfold Sys.supervisorStep at h
  split at h <;> cases h
  · next info c hs =>
    refine hi.of_quiet (.of_wire (by unfold reconnectCheck; split <;> rfl)) (by unfold reconnectCheck; split <;> rfl)
      fun c' hc' => ?_
    unfold reconnectCheck at hc'
    split at hc'
    · cases hc'
    · rw [hs]; exact hc'
  · next info c hs => exact hi.reconnectLocked hs io
  · exact hi.of_quiet (.of_wire (by unfold dispatchCheck; split <;> rfl)) (by unfold dispatchCheck; split <;> rfl)
      (reconnectStream_sub_of_none (by unfold dispatchCheck; split <;> rfl))
  · exact hi.of_quiet (.of_wire rfl) rfl (reconnectStream_sub_of_none rfl)
  · exact hi.of_quiet (quiet_dispatchOp _ _ _) (frame_dispatchOp _ _ _)
      (reconnectStream_sub_of_none (dispatchOp_reconnectStream _ _ _))
  · exact hi.of_quiet ((quiet_dropWriter _).trans_wire rfl) (frame_dropWriter _) (reconnectStream_sub_of_none rfl)
  · exact hi.of_quiet (.of_wire rfl) rfl (reconnectStream_sub_of_none rfl)
  · exact hi.of_quiet (.of_wire (by unfold runCheck; split <;> rfl)) (by unfold runCheck; split <;> rfl)
      (reconnectStream_sub_of_none (by unfold runCheck; split <;> rfl))
  · exact hi.of_quiet ((quiet_flushWriter _).trans_wire rfl) (frame_flushWriter _)
      (reconnectStream_sub_of_none rfl)

/-- **One step keeps `SubInv`.** -/
theorem SubInv.step (hi : SubInv cfg s) {a : Action} (h : s.step cfg a = some s') : SubInv cfg s' := by
  rcases step_inv h with ⟨c, -, rfl⟩ | ⟨i, io, b, t, r, -, hr, rfl⟩ | ⟨_ | info, -, rfl⟩ | ⟨c, _ | op, -, -, rfl⟩ |
    ⟨io, h⟩ | ⟨-, -, rfl⟩ | ⟨io, -, rfl⟩ | ⟨io, -, -, rfl⟩ | ⟨b, -, h⟩ | ⟨ms, rfl⟩
  · exact hi.with_calls _
  · exact (hi.callStep hr).with_calls _
  · exact hi.of_quiet (.of_wire rfl) rfl (reconnectStream_sub_of_none rfl)
  · exact hi.connected info
  · exact hi.of_quiet (.of_wire rfl) rfl (reconnectStream_sub_of_none rfl)
  · exact hi.of_quiet (.of_wire (wire_serverSent _ _)) (frame_decoded _ _) (reconnectStream_sub_of_none rfl)
  · exact hi.supervisorStep h
  · exact hi.of_quiet (.of_wire rfl) rfl (reconnectStream_sub_of_eq rfl)
  · exact hi.of_quiet (quiet_flusherFlush io) (frame_flusherFlush io)
      (reconnectStream_sub_of_eq (flusherFlush_supervisor io))
  · exact hi.of_quiet (quiet_heartbeat io) (frame_heartbeat io) (reconnectStream_sub_of_eq (heartbeat_supervisor io))
  · obtain ⟨hw, hsup⟩ := select_wire h
    exact hi.of_quiet (.of_wire hw) (frame_select h) (reconnectStream_sub_of_eq hsup)
  · exact hi.of_quiet (.of_wire rfl) rfl (reconnectStream_sub_of_eq rfl)

theorem reachable_subInv (h : Reachable cfg s) : SubInv cfg s := by
  induction h with
  | init => exact .init
  | step _ _ hstep ih => exact ih.step hstep

/-- The first connection attempt succeeds and `reconnect` installs its writer. -/
def connectRun : List Action := [.connected (some ⟨true⟩), .supervisor [], .supervisor []]

end NatsClient

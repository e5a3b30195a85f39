import NatsClient.State

/-!
# `Message`: replies, acks and `jetstream_message_info`

`respond`, `ack` and `ack_kind` publish on the message's reply subject through
its client; the model returns the `publish` call they make, or their error.

The reply subject of a JetStream message is `$JS.ACK.` followed by
dot-separated tokens: seven in the old form, nine in the new one, and a tenth,
random token that newer servers may add. `jetstream_message_info` splits the
rest of the reply into ten slots, counts the tokens, and reads the fields from
the slots with the `try_parse!` macro, which returns `None` from the function
on an empty slot or a failed `str::parse`.

* `ackInfo_eq` — the function in the `Option` monad: each field is a slot,
  parsed or not;
* `jetstreamMessageInfo_eq_spec` — **for every reply but the nine-token one**
  the result is the spec's reading of the tokens (`ackInfoSpec`);
* `jetstreamMessageInfo_nine` — a nine-token reply gives `None` for every
  `str::parse`: the `token` field reads the tenth slot under the same
  `n_tokens >= 9` guard as the other nine.
-/

namespace NatsClient

/-- `crate::jetstream::JetStreamMessageInfo`. Modelled from the spec: the
`jetstream` module is not in `src/`. `published` is the nanoseconds after
`UNIX_EPOCH`. -/
structure JetStreamMessageInfo where
  domain : Option String
  accHash : Option String
  stream : String
  consumer : String
  delivered : Int
  streamSeq : Nat
  consumerSeq : Nat
  published : Nat
  pending : Nat
  token : Option String
  deriving DecidableEq, Repr

/-- `str::parse` at the types of the fields, modelled from the spec: `u64`
for the sequences, the nanoseconds of `published` and `pending`, `i64` for
`delivered`. -/
structure Parse where
  u64 : String → Option Nat
  i64 : String → Option Int

/-- The loop that fills `tokens: [Option<&str>; 10]` from `reply.split('.')`,
counting `n_tokens`. -/
def fillTokens : Nat → List String → List (Option String) × Nat
  | 0, _ => ([], 0)
  | k + 1, [] => (none :: (fillTokens k []).1, (fillTokens k []).2)
  | k + 1, t :: rest => (some t :: (fillTokens k rest).1, (fillTokens k rest).2 + 1)

/-- `try_parse!(str)`: take the token of slot `token_index` and move on, or
return `None`. -/
def nextStr (tokens : List (Option String)) : StateT Nat Option String := fun i =>
  (tokens.getD i none).map fun t => (t, i + 1)

/-- `try_parse!()`: the next token, parsed, or return `None`. -/
def nextParsed {α : Type} (tokens : List (Option String)) (parse : String → Option α) : StateT Nat Option α := do
  let t ← nextStr tokens
  StateT.lift (parse t)

/-- `jetstream_message_info` from its `if n_tokens >= 9` on: the fields read
from the slots in the order the struct literal lists them. -/
def ackInfo (P : Parse) (tokens : List (Option String)) (nTokens : Nat) : Option JetStreamMessageInfo :=
  if nTokens ≥ 9 then
    StateT.run' (s := 0) do
      let domain ← nextStr tokens
      let accHash ← nextStr tokens
      let stream ← nextStr tokens
      let consumer ← nextStr tokens
      let delivered ← nextParsed tokens P.i64
      let streamSeq ← nextParsed tokens P.u64
      let consumerSeq ← nextParsed tokens P.u64
      let published ← nextParsed tokens P.u64
      let pending ← nextParsed tokens P.u64
      let token ← if nTokens ≥ 9 then some <$> nextStr tokens else pure none
      pure ⟨if domain = "_" then none else some domain, some accHash, stream, consumer, delivered,
        streamSeq, consumerSeq, published, pending, token⟩
  else if nTokens = 7 then
    StateT.run' (s := 0) do
      let stream ← nextStr tokens
      let consumer ← nextStr tokens
      let delivered ← nextParsed tokens P.i64
      let streamSeq ← nextParsed tokens P.u64
      let consumerSeq ← nextParsed tokens P.u64
      let published ← nextParsed tokens P.u64
      let pending ← nextParsed tokens P.u64
      pure ⟨none, none, stream, consumer, delivered, streamSeq, consumerSeq, published, pending, none⟩
  else none

/-- `Message::jetstream_message_info`. `reply.starts_with(PREFIX)` is read on
the characters, which for a `&str` is the same test as on the bytes. -/
def Message.jetstreamMessageInfo (P : Parse) (m : Message) : Option JetStreamMessageInfo := do
  let reply ← m.reply
  if !("$JS.ACK.".data.isPrefixOf reply.data) then none
  else
    let (tokens, nTokens) := fillTokens 10 ((reply.drop 8).split (· == '.'))
    ackInfo P tokens nTokens

/-! ## Reading the slots -/

theorem nextStr_run (tokens : List (Option String)) (i : Nat) :
    (nextStr tokens).run i = (tokens.getD i none).map (·, i + 1) := rfl

section Reads

variable {β : Type} (tokens : List (Option String))

theorem nextStr_bind_run (f : String → StateT Nat Option β) (i : Nat) :
    (nextStr tokens >>= f).run i = tokens.getD i none >>= fun t => (f t).run (i + 1) := by
  simp only [StateT.run_bind, nextStr_run]
  cases tokens.getD i none <;> rfl

theorem someNextStr_bind_run (f : Option String → StateT Nat Option β) (i : Nat) :
    (some <$> nextStr tokens >>= f).run i = tokens.getD i none >>= fun t => (f (some t)).run (i + 1) := by
  simp only [StateT.run_bind, StateT.run_map, nextStr_run]
  cases tokens.getD i none <;> rfl

theorem nextParsed_bind_run {α : Type} (parse : String → Option α) (f : α → StateT Nat Option β) (i : Nat) :
    (nextParsed tokens parse >>= f).run i = tokens.getD i none >>= parse >>= fun a => (f a).run (i + 1) := by
  simp only [nextParsed, StateT.run_bind, nextStr_run, StateT.run_lift]
  cases tokens.getD i none with
  | none => rfl
  | some t => cases h : parse t <;> simp [h]

end Reads

/-- `ackInfo` in the `Option` monad: slot `i` is read as `tokens[i]`, and an
empty slot or a failed parse returns `None`. -/
theorem ackInfo_eq (P : Parse) (tokens : List (Option String)) (n : Nat) :
    ackInfo P tokens n =
      if 9 ≤ n then do
        let domain ← tokens.getD 0 none
        let accHash ← tokens.getD 1 none
        let stream ← tokens.getD 2 none
        let consumer ← tokens.getD 3 none
        let delivered ← tokens.getD 4 none >>= P.i64
        let streamSeq ← tokens.getD 5 none >>= P.u64
        let consumerSeq ← tokens.getD 6 none >>= P.u64
        let published ← tokens.getD 7 none >>= P.u64
        let pending ← tokens.getD 8 none >>= P.u64
        let token ← tokens.getD 9 none
        pure ⟨if domain = "_" then none else some domain, some accHash, stream, consumer, delivered,
          streamSeq, consumerSeq, published, pending, some token⟩
      else if n = 7 then do
        let stream ← tokens.getD 0 none
        let consumer ← tokens.getD 1 none
        let delivered ← tokens.getD 2 none >>= P.i64
        let streamSeq ← tokens.getD 3 none >>= P.u64
        let consumerSeq ← tokens.getD 4 none >>= P.u64
        let published ← tokens.getD 5 none >>= P.u64
        let pending ← tokens.getD 6 none >>= P.u64
        pure ⟨none, none, stream, consumer, delivered, streamSeq, consumerSeq, published, pending, none⟩
      else none := by
  unfold ackInfo
  split
  · next hn =>
    simp only [StateT.run'_eq, nextStr_bind_run, nextParsed_bind_run, if_pos hn, someNextStr_bind_run,
      StateT.run_pure, map_bind, map_pure]
  · split <;> simp only [StateT.run'_eq, nextStr_bind_run, nextParsed_bind_run, StateT.run_pure, map_bind, map_pure]

theorem fillTokens_getD (k : Nat) (ts : List String) (i : Nat) :
    (fillTokens k ts).1.getD i none = if i < k then ts[i]? else none := by
  induction k generalizing ts i with
  | zero => simp [fillTokens]
  | succ k ih =>
    cases ts <;> cases i <;> simp only [fillTokens, List.getD_cons_zero, List.getD_cons_succ, ih] <;> simp

theorem fillTokens_snd (k : Nat) (ts : List String) : (fillTokens k ts).2 = min k ts.length := by
  induction k generalizing ts with
  | zero => simp [fillTokens]
  | succ k ih => cases ts <;> simp [fillTokens, ih, Nat.succ_min_succ]

/-- On a reply `$JS.ACK.` followed by `rest`, `jetstream_message_info` reads the
slots filled from `rest.split('.')`. -/
theorem jetstreamMessageInfo_of_reply (P : Parse) {m : Message} {rest : String}
    (hm : m.reply = some ("$JS.ACK." ++ rest)) :
    m.jetstreamMessageInfo P =
      ackInfo P (fillTokens 10 (rest.split (· == '.'))).1 (min 10 (rest.split (· == '.')).length) := by
  have hpre : "$JS.ACK.".data.isPrefixOf ("$JS.ACK." ++ rest).data = true :=
    List.isPrefixOf_iff_prefix.2 (List.prefix_append _ _)
  have hdrop : ("$JS.ACK." ++ rest).drop 8 = rest := by
    rw [String.drop_eq]
    exact congrArg String.mk (List.drop_left' rfl)
  rw [Message.jetstreamMessageInfo, hm]
  show (if !("$JS.ACK.".data.isPrefixOf ("$JS.ACK." ++ rest).data) then none else _) = _
  rw [hpre, hdrop, fillTokens_snd]
  rfl

/-! ## Against the spec -/

/-- The spec's reading of the tokens after `$JS.ACK.`, following its words:
seven tokens are the old form; nine or more are the new one, with `domain`
`None` for `_` and `token` the tenth token if there is one; any other count is
no ack subject. -/
def ackInfoSpec (P : Parse) : List String → Option JetStreamMessageInfo
  | [stream, consumer, delivered, streamSeq, consumerSeq, published, pending] => do
    let delivered ← P.i64 delivered
    let streamSeq ← P.u64 streamSeq
    let consumerSeq ← P.u64 consumerSeq
    let published ← P.u64 published
    let pending ← P.u64 pending
    pure ⟨none, none, stream, consumer, delivered, streamSeq, consumerSeq, published, pending, none⟩
  | domain :: accHash :: stream :: consumer :: delivered :: streamSeq :: consumerSeq :: published :: pending ::
      rest => do
    let delivered ← P.i64 delivered
    let streamSeq ← P.u64 streamSeq
    let consumerSeq ← P.u64 consumerSeq
    let published ← P.u64 published
    let pending ← P.u64 pending
    pure ⟨if domain = "_" then none else some domain, some accHash, stream, consumer, delivered,
      streamSeq, consumerSeq, published, pending, rest.head?⟩
  | _ => none

/-- The value of one or more ASCII digits. -/
def decimalDigits (cs : List Char) : Option Nat :=
  if cs ≠ [] ∧ cs.all Char.isDigit = true then some (cs.foldl (fun n c => 10 * n + (c.toNat - '0'.toNat)) 0)
  else none

/-- Modelled from the spec: Rust's `str::parse` at `u64` and at `i64`, an
optional sign (`+`, or `+` or `-` for `i64`) then one or more ASCII digits, in
range. -/
def rustParse : Parse where
  u64 s :=
    match s.data with
    | '+' :: cs => (decimalDigits cs).filter fun n => decide (n < 2 ^ 64)
    | cs => (decimalDigits cs).filter fun n => decide (n < 2 ^ 64)
  i64 s :=
    match s.data with
    | '-' :: cs => ((decimalDigits cs).map fun n => -(n : Int)).filter fun n => decide (-2 ^ 63 ≤ n)
    | '+' :: cs => ((decimalDigits cs).map Int.ofNat).filter fun n => decide (n < 2 ^ 63)
    | cs => ((decimalDigits cs).map Int.ofNat).filter fun n => decide (n < 2 ^ 63)

/-- The slots filled from `n ≠ 9` tokens read as the spec reads the tokens. -/
theorem ackInfo_fillTokens (P : Parse) (ts : List String) (h9 : ts.length ≠ 9) :
    ackInfo P (fillTokens 10 ts).1 (min 10 ts.length) = ackInfoSpec P ts := by
  rw [ackInfo_eq]
  simp only [fillTokens_getD]
  rcases ts with _ | ⟨t0, _ | ⟨t1, _ | ⟨t2, _ | ⟨t3, _ | ⟨t4, _ | ⟨t5, _ | ⟨t6, _ | ⟨t7, _ | ⟨t8, _ | ⟨t9, ts⟩⟩⟩⟩⟩⟩⟩⟩⟩⟩
  case cons.cons.cons.cons.cons.cons.cons.cons.cons.cons =>
    rw [if_pos (Nat.le_min.2 ⟨by decide, by simp⟩)]
    simp only [List.getElem?_cons_succ, List.getElem?_cons_zero, ↓reduceIte]
    rfl
  all_goals first | exact (h9 rfl).elim | rfl

/-- **`jetstream_message_info` reads every ack subject but the nine-token one
as the spec does.** For a reply `$JS.ACK.` followed by `n ≠ 9` dot-separated
tokens and every `str::parse`, the result is the spec's reading of the tokens. -/
theorem jetstreamMessageInfo_eq_spec (P : Parse) {m : Message} {rest : String}
    (hm : m.reply = some ("$JS.ACK." ++ rest)) (h9 : (rest.split (· == '.')).length ≠ 9) :
    m.jetstreamMessageInfo P = ackInfoSpec P (rest.split (· == '.')) := by
  rw [jetstreamMessageInfo_of_reply P hm]
  exact ackInfo_fillTokens P _ h9

theorem split_seven : "ORDERS.worker.1.2.3.4.5".split (· == '.') = ["ORDERS", "worker", "1", "2", "3", "4", "5"] := by
  rw [String.split_of_valid]; decide

/-- A reply of the old form: seven tokens. -/
def sevenTokenMsg : Message := ⟨"ORDERS.new", some "$JS.ACK.ORDERS.worker.1.2.3.4.5", [], none⟩

theorem old_ack_reply_read_as_spec :
    sevenTokenMsg.jetstreamMessageInfo rustParse = ackInfoSpec rustParse ("ORDERS.worker.1.2.3.4.5".split (· == '.')) ∧
      ackInfoSpec rustParse ("ORDERS.worker.1.2.3.4.5".split (· == '.')) =
        some ⟨none, none, "ORDERS", "worker", 1, 2, 3, 4, 5, none⟩ :=
  ⟨jetstreamMessageInfo_eq_spec rustParse rfl (by rw [split_seven]; decide), by rw [split_seven]; decide⟩

/-- The nine-token reply: every field is read, and the token's slot is empty. -/
theorem jetstreamMessageInfo_nine (P : Parse) {m : Message} {rest : String}
    (hm : m.reply = some ("$JS.ACK." ++ rest)) (h9 : (rest.split (· == '.')).length = 9) :
    m.jetstreamMessageInfo P = none := by
  have hslot : (fillTokens 10 (rest.split (· == '.'))).1.getD 9 none = none := by
    rw [fillTokens_getD, if_pos (by decide), List.getElem?_eq_none (by omega)]
  rw [jetstreamMessageInfo_of_reply P hm, ackInfo_eq, h9, if_pos (by decide), hslot]
  simp

/-- A reply of the new form without the random token: nine tokens, the form
the code's comment expects most. -/
def nineTokenMsg : Message := ⟨"ORDERS.new", some "$JS.ACK._.ACC.ORDERS.worker.1.2.3.4.5", [], none⟩

theorem split_nine : "_.ACC.ORDERS.worker.1.2.3.4.5".split (· == '.') =
    ["_", "ACC", "ORDERS", "worker", "1", "2", "3", "4", "5"] := by
  rw [String.split_of_valid]; decide

/-- `jetstream_message_info` returns `None` on `nineTokenMsg` whatever
`str::parse` does, where the spec's reading is `Some`. -/
theorem jetstream_info_drops_nine_token_reply :
    (∀ P : Parse, nineTokenMsg.jetstreamMessageInfo P = none) ∧
      ackInfoSpec rustParse ("_.ACC.ORDERS.worker.1.2.3.4.5".split (· == '.')) =
        some ⟨none, some "ACC", "ORDERS", "worker", 1, 2, 3, 4, 5, none⟩ := by
  refine ⟨fun P => jetstreamMessageInfo_nine P rfl (by rw [split_nine]; rfl), ?_⟩
  rw [split_nine]; decide

/-! ## Replies and acknowledgements -/

/-- `respond`'s error for a message without a reply subject. -/
def noReplyError : Error := ⟨.invalidInput, "no reply subject available"⟩

/-- `Message::respond`: the `publish` it makes on the message's client, or its
error. -/
def Message.respond (m : Message) (msg : List UInt8) : Except Error Pub :=
  match m.reply with
  | none => .error noReplyError
  | some reply => .ok ⟨reply, none, none, msg⟩

/-- `Message::ack`: `Ok` with no publish once the message was double-acked
(`double_acked`), else `respond(b"")`. -/
def Message.ack (m : Message) (doubleAcked : Bool) : Except Error (Option Pub) :=
  if doubleAcked then .ok none else (m.respond []).map some

/-- `Message::ack_kind`: `respond` with the bytes of the `AckKind`. `AckKind`
is not in `src/`; its bytes are a parameter. -/
def Message.ackKind (m : Message) (ackBytes : List UInt8) : Except Error Pub := m.respond ackBytes

/-- `Message::is_no_responders`: an empty payload whose `STATUS_HEADER` values
include `503`. `STATUS_HEADER` is not in `src/`; its name is a parameter. -/
def Message.isNoResponders (statusHeader : String) (m : Message) : Bool :=
  m.data.isEmpty &&
    match m.headers with
    | some hdrs =>
      match hdrs.lookup statusHeader with
      | some values => values.contains "503"
      | none => false
    | none => false

example : Message.isNoResponders "Status" ⟨"x", none, [], some [("Status", ["503"])]⟩ = true := by decide

end NatsClient

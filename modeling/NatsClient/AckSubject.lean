import NatsClient.JetStream

/-!
# The ack subject round trip

A JetStream server tells the client where a message sits in its stream through
the message's reply subject: `$JS.ACK.`, then dot-separated tokens. The old form
has seven tokens (stream, consumer, delivery count, stream and consumer
sequences, timestamp, pending count). The new one leads with the domain (`_`
for none) and the account hash, and may end with a random token.
`jetstream_message_info` reads the tokens back.

* `rustParse_u64`, `rustParse_i64` — `str::parse` reads back every number
  written in decimal within the range of its Rust type;
* `split_dots` — splitting dot-joined tokens on `.` gives the tokens back when
  none holds a dot;
* `jetstream_info_reads_back_subject` — **the round trip**: for every info a
  server writes in the old form, or in the new form with its tenth token,
  `jetstream_message_info` of the reply subject is the info. The new form
  without the tenth token has nine tokens, which the function drops.
-/

namespace NatsClient

/-! ## Numbers -/

/-- A digit below ten is written as an ASCII digit, which `decimalDigits` reads back. -/
theorem digitChar_digit {k : Nat} (hk : k < 10) :
    (Nat.digitChar k).isDigit = true ∧ (Nat.digitChar k).toNat - '0'.toNat = k := by
  interval_cases k <;> decide

/-- `Nat.toDigitsCore` puts the decimal digits of `n` before `ds`, given fuel
beyond `n`. -/
theorem toDigitsCore_digits (f n : Nat) (ds : List Char) (hf : n < f) :
    ∃ pre, Nat.toDigitsCore 10 f n ds = pre ++ ds ∧ pre ≠ [] ∧ pre.all Char.isDigit = true ∧
      pre.foldl (fun n c => 10 * n + (c.toNat - '0'.toNat)) 0 = n := by
  induction f generalizing n ds with
  | zero => omega
  | succ f ih =>
    obtain ⟨hd, hv⟩ := digitChar_digit (Nat.mod_lt n (by decide : 10 > 0))
    have hn : 10 * (n / 10) + n % 10 = n := Nat.div_add_mod n 10
    rw [Nat.toDigitsCore]
    by_cases h0 : n / 10 = 0
    · -- the last digit
      rw [if_pos h0]
      exact ⟨[Nat.digitChar (n % 10)], rfl, nofun, by simp [hd], by simp only [List.foldl, hv]; omega⟩
    · -- the digits of `n / 10`, then the last one
      rw [if_neg h0]
      obtain ⟨pre, hpre, -, hall, hval⟩ := ih (n / 10) _ (by omega)
      refine ⟨pre ++ [Nat.digitChar (n % 10)], by rw [hpre, List.append_assoc]; rfl, by simp,
        by simp [hall, hd], ?_⟩
      rw [List.foldl_append, hval]
      simp only [List.foldl, hv, hn]

/-- `n` written in decimal: one or more ASCII digits, which `decimalDigits`
reads back as `n`. -/
theorem toDigits_digits (n : Nat) :
    Nat.toDigits 10 n ≠ [] ∧ (Nat.toDigits 10 n).all Char.isDigit = true ∧
      decimalDigits (Nat.toDigits 10 n) = some n := by
  obtain ⟨pre, hpre, hne, hall, hval⟩ := toDigitsCore_digits (n + 1) n [] (by omega)
  rw [Nat.toDigits, hpre, List.append_nil, decimalDigits, if_pos ⟨hne, hall⟩, hval]
  exact ⟨hne, hall, rfl⟩

/-- A numeral does not start with a sign. -/
theorem toDigits_ne_sign (n : Nat) (c : Char) (cs : List Char) (hc : c = '+' ∨ c = '-') :
    Nat.toDigits 10 n ≠ c :: cs := by
  intro h
  have hall := (toDigits_digits n).2.1
  rw [h, List.all_cons, Bool.and_eq_true] at hall
  rcases hc with rfl | rfl <;> exact absurd hall.1 (by decide)

/-- `str::parse::<u64>` reads back a `u64` written in decimal. -/
theorem rustParse_u64 {n : Nat} (h : n < 2 ^ 64) : rustParse.u64 (toString n) = some n := by
  have hd : (toString n).data = Nat.toDigits 10 n := rfl
  simp only [rustParse, hd]
  split
  · next cs hcs => exact absurd hcs (toDigits_ne_sign n _ cs (.inl rfl))
  · rw [(toDigits_digits n).2.2, Option.filter_some, if_pos (decide_eq_true h)]

/-- `str::parse::<i64>` reads back an `i64` written in decimal, `-` first when
negative. -/
theorem rustParse_i64 {i : Int} (h : -2 ^ 63 ≤ i ∧ i < 2 ^ 63) : rustParse.i64 (toString i) = some i := by
  cases i with
  | ofNat n =>
    have hd : (toString (Int.ofNat n)).data = Nat.toDigits 10 n := rfl
    simp only [rustParse, hd]
    split
    · next cs hcs => exact absurd hcs (toDigits_ne_sign n _ cs (.inr rfl))
    · next cs hcs => exact absurd hcs (toDigits_ne_sign n _ cs (.inl rfl))
    · rw [(toDigits_digits n).2.2, Option.map_some', Option.filter_some, if_pos (decide_eq_true h.2)]
  | negSucc n =>
    -- `-` and the digits of `n + 1`
    have hd : (toString (Int.negSucc n)).data = '-' :: Nat.toDigits 10 (n + 1) := rfl
    simp only [rustParse, hd]
    rw [(toDigits_digits (n + 1)).2.2]
    exact (Option.filter_some ..).trans (if_pos (decide_eq_true h.1))

/-! ## Tokens -/

/-- Splitting dot-joined tokens on `.` gives the tokens back when none holds a
dot. -/
theorem split_dots (ts : List String) (hts : ts ≠ []) (h : ∀ t ∈ ts, '.' ∉ t.data) :
    (String.mk (['.'].intercalate (ts.map String.data))).split (· == '.') = ts := by
  rw [String.split_of_valid]
  show ((['.'].intercalate (ts.map String.data)).splitOn '.').map String.mk = ts
  rw [List.splitOn_intercalate _ '.' (by simpa using h) (by simpa using hts), List.map_map]
  exact List.map_id'' (fun _ => rfl) ts

/-- Modelled from the spec: the tokens a server writes after `$JS.ACK.`. The
old form is the message's position alone; the new one leads with the domain
(`_` for none) and the account hash, and ends with the random token if there is
one. -/
def ackTokens (info : JetStreamMessageInfo) : List String :=
  let position := [info.stream, info.consumer, toString info.delivered, toString info.streamSeq,
    toString info.consumerSeq, toString info.published, toString info.pending]
  match info.accHash with
  | none => position
  | some accHash => info.domain.getD "_" :: accHash :: position ++ info.token.toList

/-- The reply subject: `$JS.ACK.`, then the tokens joined by dots. -/
def ackSubject (info : JetStreamMessageInfo) : String :=
  "$JS.ACK." ++ String.mk (['.'].intercalate ((ackTokens info).map String.data))

/-- A subject in the new form, with its tenth token. -/
def tenTokenInfo : JetStreamMessageInfo := ⟨some "hub", some "ACC", "ORDERS", "worker", 1, 2, 3, 4, 5, some "r4nd"⟩

example : ackSubject tenTokenInfo = "$JS.ACK.hub.ACC.ORDERS.worker.1.2.3.4.5.r4nd" := by decide

/-- What a server's subject satisfies: names without a dot, a domain other
than `_`, numbers in the range of their Rust types, and either the old form (no
domain, hash or token) or the new one with its tenth token. -/
structure AckSubjectOk (info : JetStreamMessageInfo) : Prop where
  names : ∀ t ∈ info.stream :: info.consumer :: info.domain.toList ++ info.accHash.toList ++ info.token.toList,
    '.' ∉ t.data
  domain : info.domain ≠ some "_"
  delivered : -2 ^ 63 ≤ info.delivered ∧ info.delivered < 2 ^ 63
  seqs : info.streamSeq < 2 ^ 64 ∧ info.consumerSeq < 2 ^ 64 ∧ info.published < 2 ^ 64 ∧ info.pending < 2 ^ 64
  form : info.accHash = none ∧ info.domain = none ∧ info.token = none ∨ info.accHash.isSome ∧ info.token.isSome

/-- A number written in decimal holds no dot. -/
theorem dot_not_mem_toString_nat (n : Nat) : '.' ∉ (toString n).data := fun h => by
  have := List.all_eq_true.1 (toDigits_digits n).2.1 '.' h
  exact absurd this (by decide)

theorem dot_not_mem_toString_int (i : Int) : '.' ∉ (toString i).data := by
  cases i with
  | ofNat n => exact dot_not_mem_toString_nat n
  | negSucc n =>
    show '.' ∉ '-' :: (toString (n + 1)).data
    exact List.not_mem_cons_of_ne_of_not_mem (by decide) (dot_not_mem_toString_nat _)

/-- No token of the subject holds a dot. -/
theorem ackTokens_no_dot {info : JetStreamMessageInfo} (hok : AckSubjectOk info) :
    ∀ t ∈ ackTokens info, '.' ∉ t.data := by
  have hn := hok.names
  have hpos : ∀ t ∈ [info.stream, info.consumer, toString info.delivered, toString info.streamSeq,
      toString info.consumerSeq, toString info.published, toString info.pending], '.' ∉ t.data := by
    simp only [List.mem_cons, List.not_mem_nil, or_false]
    rintro t (rfl | rfl | rfl | rfl | rfl | rfl | rfl)
    exacts [hn _ (by simp), hn _ (by simp), dot_not_mem_toString_int _, dot_not_mem_toString_nat _,
      dot_not_mem_toString_nat _, dot_not_mem_toString_nat _, dot_not_mem_toString_nat _]
  unfold ackTokens
  split
  · exact hpos
  · next a h =>
    intro t ht
    rcases List.mem_append.1 ht with ht | ht
    · rcases List.mem_cons.1 ht with rfl | ht
      · -- the domain, `_` for none
        cases hd : info.domain with
        | none => decide
        | some d => exact hn d (by simp [hd])
      rcases List.mem_cons.1 ht with rfl | ht
      · exact hn _ (by simp [h])
      · exact hpos t ht
    · exact hn t (by simp [ht])

/-- `domain: if token == "_" { None } else { Some(token) }` reads back `_` as no domain. -/
theorem domain_getD {domain : Option String} (h : domain ≠ some "_") :
    (if domain.getD "_" = "_" then none else some (domain.getD "_")) = domain := by
  cases domain with
  | none => rfl
  | some d => exact if_neg (fun hd => h (by rw [← hd]; rfl))

/-- **`jetstream_message_info` reads back every subject a server writes, but
the nine-token one.** For every info in the old seven-token form, or in the new
form with its tenth token, with names free of dots and numbers in range, a
message whose reply is the info's subject gives back the info. -/
theorem jetstream_info_reads_back_subject {info : JetStreamMessageInfo} (hok : AckSubjectOk info) {m : Message}
    (hm : m.reply = some (ackSubject info)) : m.jetstreamMessageInfo rustParse = some info := by
  have hne : ackTokens info ≠ [] := by unfold ackTokens; split <;> simp
  rw [jetstreamMessageInfo_of_reply rustParse hm, split_dots _ hne (ackTokens_no_dot hok)]
  clear hm hne
  rcases info with ⟨domain, accHash, stream, consumer, delivered, streamSeq, consumerSeq, published, pending, token⟩
  obtain ⟨-, hdom, hdel, ⟨hu₁, hu₂, hu₃, hu₄⟩, hform⟩ := hok
  dsimp only at hdom hdel hu₁ hu₂ hu₃ hu₄ hform
  rcases hform with ⟨rfl, rfl, rfl⟩ | ⟨hh, ht⟩
  · -- the old form: seven tokens
    rw [ackInfo_fillTokens rustParse _ (by simp [ackTokens])]
    simp only [ackTokens, ackInfoSpec, rustParse_i64 hdel, rustParse_u64 hu₁, rustParse_u64 hu₂,
      rustParse_u64 hu₃, rustParse_u64 hu₄]
    rfl
  · -- the new form: ten tokens
    obtain ⟨h, rfl⟩ := Option.isSome_iff_exists.1 hh
    obtain ⟨t, rfl⟩ := Option.isSome_iff_exists.1 ht
    rw [ackInfo_fillTokens rustParse _ (by simp [ackTokens])]
    simp only [ackTokens, Option.toList, List.cons_append, List.nil_append, ackInfoSpec, rustParse_i64 hdel,
      rustParse_u64 hu₁, rustParse_u64 hu₂, rustParse_u64 hu₃, rustParse_u64 hu₄, domain_getD hdom]
    rfl

/-- The ten-token subject above reads back as its info. -/
theorem ten_token_subject_read_back :
    AckSubjectOk tenTokenInfo ∧
      (⟨"ORDERS.new", some (ackSubject tenTokenInfo), [], none⟩ : Message).jetstreamMessageInfo rustParse =
        some tenTokenInfo :=
  have hok : AckSubjectOk tenTokenInfo := ⟨by decide, by decide, by decide, by decide, by decide⟩
  ⟨hok, jetstream_info_reads_back_subject hok rfl⟩

end NatsClient

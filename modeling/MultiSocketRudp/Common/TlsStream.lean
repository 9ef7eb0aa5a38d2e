import MultiSocketRudp.Common.TlsDecryption

/-!
# A TLS stream, received chunk by chunk

`TrySetTargetSessionInfo` appends what `recv` returns to `encryptedStream` and
calls `DecryptDataStream`.  However the stream is cut into chunks, the plaintexts
are produced once and in order, and what is left in `encryptedStream` is the
beginning of the next record.

One chunk may complete several records.  Their plaintexts together need not fit
into `plainBuffer`.
-/

namespace MultiSocketRudp
namespace TlsDecryption

open RecordStream

variable {Context : Type}
variable {decryptMessage : Context → List Byte → Decryption Context}

/-! ## A `DecryptMessage` -/

/-- A `DecryptMessage` that has been told the records. -/
def decryptKnown :
    List Record → List Byte → Decryption (List Record)
  | [], _ => ⟨.incompleteMessage, [], []⟩
  | record :: records, input =>
      if record.bytes <+: input then
        match record.content with
        | .application plaintext =>
            ⟨.ok, decryptedBuffers [] plaintext [] (input.drop record.size),
              records⟩
        | .closeNotify => ⟨.contextExpired, [], records⟩
      else ⟨.incompleteMessage, [], record :: records⟩

theorem decryptKnown_handles (records : List Record) :
    Handles decryptKnown records records := by
  induction records with
  | nil => trivial
  | cons record records inductionHypothesis =>
      refine ⟨fun input short different => ?_, records, ?_, inductionHypothesis⟩
      · have absent : ¬ record.bytes <+: input := fun whole =>
          different (short.eq_of_length_le whole.length_le)
        rw [decryptKnown, if_neg absent]
      · cases content : record.content with
        | application plaintext =>
            refine ⟨[], [], fun following => ?_⟩
            rw [decryptKnown, if_pos (List.prefix_append _ _), content]
            simp [Record.size]
        | closeNotify =>
            intro following
            rw [decryptKnown, if_pos (List.prefix_append _ _), content]

/-! ## Nothing is lost and nothing is repeated -/

/-- What has been written by the first calls is the plaintext of the records that
were complete by then. -/
theorem plain_of_advances
    {records : List Record} {chunks : List (List Byte)}
    {outcomes : List (Outcome Context)}
    (advances : ∀ index outcome, outcomes[index]? = some outcome →
      Advances records (chunks.take index).flatten.length
        (chunks.take (index + 1)).flatten.length outcome)
    {count : Nat} (made : count ≤ outcomes.length) :
    ((outcomes.take count).map Outcome.plain).flatten =
      plaintextOf (completed Record.size records
        (chunks.take count).flatten.length) := by
  induction count with
  | zero => exact (congrArg plaintextOf (completed_zero records)).symm
  | succ count inductionHypothesis =>
      have call := advances count _ (List.getElem?_eq_getElem made)
      rw [List.take_succ_eq_append_getElem made, List.map_append,
        List.flatten_append, inductionHypothesis (Nat.le_of_succ_le made),
        ← call.plain]
      simp

/-- Whatever the chunks are, every call terminates and succeeds.  The calls so
far have written the plaintexts of the records that are complete, the beginning
of the next record is left over, and the call that completes the close
notification reports it. -/
theorem calls_decrypt_stream
    {context : Context} {records : List Record}
    (handles : Handles decryptMessage context records)
    (ends : EndsOnce records)
    {chunks : List (List Byte)}
    (sent : chunks.flatten <+: streamOf records)
    {rounds : Nat}
    (enough : (streamOf records).length < rounds) :
    ∃ outcomes,
      calls decryptMessage rounds context [] chunks = some outcomes ∧
      outcomes.length = chunks.length ∧
      ∀ index outcome, outcomes[index]? = some outcome →
        let before := (chunks.take index).flatten
        let received := (chunks.take (index + 1)).flatten
        ((outcomes.take (index + 1)).map Outcome.plain).flatten =
            plaintextOf (completed Record.size records received.length) ∧
          streamOf (completed Record.size records received.length) ++
            outcome.encryptedStream = received ∧
          (outcome.result = .closeNotify ↔
            Closed (completed Record.size records received.length) ∧
              ¬ Closed (completed Record.size records before.length)) ∧
          outcome.result ≠ .error := by
  obtain ⟨outcomes, ran, length, advances⟩ :=
    calls_advance handles ends (completed_zero records) (Nat.zero_le _) sent
      enough
  simp only [Nat.zero_add] at advances
  refine ⟨outcomes, ran, length, fun index outcome found => ?_⟩
  obtain ⟨inside, -⟩ := List.getElem?_eq_some_iff.mp found
  have call := advances index outcome found
  refine ⟨plain_of_advances advances inside, ?_, call.closes, call.succeeds⟩
  have begun : (chunks.take (index + 1)).flatten <+: streamOf records :=
    List.IsPrefix.trans ⟨(chunks.drop (index + 1)).flatten, by
      rw [← List.flatten_append, List.take_append_drop]⟩ sent
  rw [call.encryptedStream, ← List.prefix_iff_eq_take.mp begun]

/-- Three records, the last of them a close notification. -/
def closedStream : List Record :=
  [⟨.application [7, 8], [1, 2, 3], nofun⟩, ⟨.application [], [4], nofun⟩,
    ⟨.closeNotify, [5, 6], nofun⟩]

/-- The second chunk completes two records, and the third one the close
notification. -/
theorem calls_decrypt_closedStream :
    let chunks : List (List Byte) := [[1, 2], [3, 4, 5], [6]]
    ∃ outcomes,
      calls decryptKnown 7 closedStream [] chunks = some outcomes ∧
      outcomes.length = chunks.length ∧
      ∀ index outcome, outcomes[index]? = some outcome →
        let before := (chunks.take index).flatten
        let received := (chunks.take (index + 1)).flatten
        ((outcomes.take (index + 1)).map Outcome.plain).flatten =
            plaintextOf (completed Record.size closedStream received.length) ∧
          streamOf (completed Record.size closedStream received.length) ++
            outcome.encryptedStream = received ∧
          (outcome.result = .closeNotify ↔
            Closed (completed Record.size closedStream received.length) ∧
              ¬ Closed (completed Record.size closedStream before.length)) ∧
          outcome.result ≠ .error :=
  calls_decrypt_stream (decryptKnown_handles closedStream)
    ⟨nofun, nofun, fun _ => rfl, trivial⟩ (by decide) (by decide)

/-! ## The plaintexts that one chunk completes -/

/-- `maxTlsPacketSize`, the capacity of `plainBuffer` and the most that one chunk
holds. -/
def maxTlsPacketSize : Nat := 16 * 1024 + 512

/-- The most that a record carries. -/
def maxPlaintext : Nat := 2 ^ 14

/-- The records whose last byte is in the chunk at this index. -/
def completedBy
    (records : List Record) (chunks : List (List Byte)) (index : Nat) :
    List Record :=
  (completed Record.size records
    (chunks.take (index + 1)).flatten.length).drop
      (completed Record.size records (chunks.take index).flatten.length).length

/-- A call writes the plaintexts of the records that its chunk completes. -/
theorem Advances.plain_eq
    {records : List Record} {chunks : List (List Byte)} {index : Nat}
    {outcome : Outcome Context}
    (advances : Advances records (chunks.take index).flatten.length
      (chunks.take (index + 1)).flatten.length outcome) :
    outcome.plain = plaintextOf (completedBy records chunks index) := by
  have grows : (chunks.take index).flatten.length ≤
      (chunks.take (index + 1)).flatten.length := by
    rw [List.take_add]
    simp
  obtain ⟨more, grown⟩ := Nat.exists_eq_add_of_le grows
  have written := advances.plain
  rw [completedBy]
  rw [grown, completed_add, plaintextOf_append] at written
  rw [grown, completed_add, List.drop_left]
  exact List.append_cancel_left written

/-- Every call writes the plaintexts of the records that its chunk completes. -/
theorem calls_plain
    {context : Context} {records : List Record}
    (handles : Handles decryptMessage context records)
    (ends : EndsOnce records)
    {chunks : List (List Byte)}
    (sent : chunks.flatten <+: streamOf records)
    {rounds : Nat}
    (enough : (streamOf records).length < rounds) :
    ∃ outcomes,
      calls decryptMessage rounds context [] chunks = some outcomes ∧
      outcomes.length = chunks.length ∧
      ∀ index outcome, outcomes[index]? = some outcome →
        outcome.plain = plaintextOf (completedBy records chunks index) := by
  obtain ⟨outcomes, ran, length, advances⟩ :=
    calls_advance handles ends (completed_zero records) (Nat.zero_le _) sent
      enough
  simp only [Nat.zero_add] at advances
  exact ⟨outcomes, ran, length, fun index outcome found =>
    (advances index outcome found).plain_eq⟩

/-- No call writes past the end of `plainBuffer` if and only if no chunk completes
records that carry more than its capacity together. -/
theorem plainBuffer_suffices_iff
    {context : Context} {records : List Record}
    (handles : Handles decryptMessage context records)
    (ends : EndsOnce records)
    {chunks : List (List Byte)}
    (sent : chunks.flatten <+: streamOf records)
    {rounds : Nat}
    (enough : (streamOf records).length < rounds) :
    ∃ outcomes,
      calls decryptMessage rounds context [] chunks = some outcomes ∧
      ((∀ outcome ∈ outcomes, outcome.plain.length ≤ maxTlsPacketSize) ↔
        ∀ index < chunks.length,
          (plaintextOf (completedBy records chunks index)).length ≤
            maxTlsPacketSize) := by
  obtain ⟨outcomes, ran, length, written⟩ :=
    calls_plain handles ends sent enough
  refine ⟨outcomes, ran, fun fits index inside => ?_, fun fits outcome made => ?_⟩
  · rw [← length] at inside
    rw [← written index _ (List.getElem?_eq_getElem inside)]
    exact fits _ (List.getElem_mem inside)
  · obtain ⟨index, found⟩ := List.mem_iff_getElem?.mp made
    obtain ⟨inside, -⟩ := List.getElem?_eq_some_iff.mp found
    rw [written index outcome found]
    exact fits index (length ▸ inside)

/-- Each chunk completes one record at most. -/
theorem plainBuffer_suffices_for_closedStream :
    let chunks : List (List Byte) := [[1, 2], [3, 4], [5, 6]]
    ∃ outcomes,
      calls decryptKnown 7 closedStream [] chunks = some outcomes ∧
      ((∀ outcome ∈ outcomes, outcome.plain.length ≤ maxTlsPacketSize) ↔
        ∀ index < chunks.length,
          (plaintextOf (completedBy closedStream chunks index)).length ≤
            maxTlsPacketSize) :=
  plainBuffer_suffices_iff (decryptKnown_handles closedStream)
    ⟨nofun, nofun, fun _ => rfl, trivial⟩ (by decide) (by decide)

/-- A record with as much plaintext as a record can carry: a header, an explicit
nonce, the encrypted plaintext and its tag. -/
def fullRecord : Record :=
  ⟨.application (List.replicate maxPlaintext 0),
    [23, 3, 3, 64, 24] ++ List.replicate (8 + maxPlaintext + 16) 0, nofun⟩

/-- All of a full record but its last byte. -/
def shortChunk : List Byte :=
  [23, 3, 3, 64, 24] ++ List.replicate (8 + maxPlaintext + 15) 0

/-- The last byte of a full record and another one. -/
def longChunk : List Byte := 0 :: fullRecord.bytes

theorem fullRecord_plaintext :
    fullRecord.plaintext = List.replicate maxPlaintext 0 := rfl

theorem fullRecord_bytes : fullRecord.bytes = shortChunk ++ [0] := by
  have last : List.replicate (8 + maxPlaintext + 16) (0 : Byte) =
      List.replicate (8 + maxPlaintext + 15) 0 ++ [0] :=
    List.replicate_succ'
  have bytes : fullRecord.bytes =
      [23, 3, 3, 64, 24] ++ List.replicate (8 + maxPlaintext + 16) 0 := rfl
  rw [bytes, last, ← List.append_assoc]
  rfl

theorem shortChunk_length : shortChunk.length = 16412 := by
  rw [shortChunk, List.length_append, List.length_replicate]
  rfl

theorem fullRecord_size : fullRecord.size = 16413 := by
  rw [Record.size, fullRecord_bytes, List.length_append, shortChunk_length]
  rfl

theorem longChunk_length : longChunk.length = 16414 :=
  congrArg (· + 1) fullRecord_size

/-- The second chunk completes both records. -/
theorem completedBy_longChunk :
    completedBy [fullRecord, fullRecord] [shortChunk, longChunk] 1 =
      [fullRecord, fullRecord] := by
  have nothing : completed Record.size [fullRecord, fullRecord] 16412 = [] :=
    completed_of_lt (by rw [fullRecord_size]; decide) _
  have both : completed Record.size [fullRecord, fullRecord] 32826 =
      [fullRecord, fullRecord] := by
    rw [completed_of_le (by rw [fullRecord_size]; decide),
      completed_of_le (by rw [fullRecord_size]), completed_nil]
  have first : ([shortChunk, longChunk].take 1).flatten.length = 16412 := by
    simp [shortChunk_length]
  have second : ([shortChunk, longChunk].take 2).flatten.length = 32826 := by
    simp [shortChunk_length, longChunk_length]
  rw [completedBy, first, second, nothing, both]
  rfl

/-- Both records are complete when the second chunk has arrived, and their
plaintexts are longer than `plainBuffer`. -/
theorem fullRecords_overflow :
    ¬ ∀ (decryptMessage : List Record → List Byte → Decryption (List Record))
        (context : List Record) (records : List Record)
        (chunks : List (List Byte)) (rounds : Nat)
        (outcomes : List (Outcome (List Record))),
      Handles decryptMessage context records →
      EndsOnce records →
      (∀ record ∈ records, record.plaintext.length ≤ maxPlaintext) →
      (∀ chunk ∈ chunks, chunk.length ≤ maxTlsPacketSize) →
      chunks.flatten <+: streamOf records →
      calls decryptMessage rounds context [] chunks = some outcomes →
      ∀ outcome ∈ outcomes, outcome.plain.length ≤ maxTlsPacketSize := by
  intro fits
  have handles := decryptKnown_handles [fullRecord, fullRecord]
  have ends : EndsOnce [fullRecord, fullRecord] := ⟨nofun, nofun, trivial⟩
  have sent : [shortChunk, longChunk].flatten <+:
      streamOf [fullRecord, fullRecord] := by
    simp [streamOf, fullRecord_bytes, longChunk]
  obtain ⟨outcomes, ran, length, written⟩ :=
    calls_plain handles ends sent (Nat.lt_succ_self _)
  have second : 1 < outcomes.length := by
    rw [length]
    exact Nat.one_lt_two
  have plain := written 1 _ (List.getElem?_eq_getElem second)
  have fitting := fits _ _ _ _ _ _ handles ends
    (by simp [fullRecord_plaintext])
    (by simp [shortChunk_length, longChunk_length, maxTlsPacketSize])
    sent ran _ (List.getElem_mem second)
  rw [plain, completedBy_longChunk, plaintextOf_cons, plaintextOf_cons,
    fullRecord_plaintext, List.length_append, List.length_append,
    List.length_replicate] at fitting
  exact absurd fitting (by decide)

end TlsDecryption
end MultiSocketRudp

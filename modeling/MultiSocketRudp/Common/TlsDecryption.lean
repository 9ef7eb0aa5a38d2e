import MultiSocketRudp.Lib.RecordStream
import MultiSocketRudp.Protocol

/-!
# The decryption of a TLS stream

`DecryptDataStream` is called with what earlier calls have left over, followed by
what has been received since.  It decrypts one record after the other, until no
complete one is left, and writes their plaintexts behind one another.

`DecryptMessage` belongs to the operating system and is a parameter.  It handles
the first complete record of what it is given.
-/

namespace MultiSocketRudp
namespace TlsDecryption

open RecordStream

/-! ## Records -/

/-- What a record carries. -/
inductive RecordContent
  | application (plaintext : List Byte)
  | closeNotify
  deriving DecidableEq, Repr

/-- A TLS record. -/
structure Record where
  content : RecordContent
  /-- The encrypted record with its header. -/
  bytes : List Byte
  nonempty : bytes ≠ []
  deriving DecidableEq

namespace Record

/-- Size of the encrypted record. -/
def size (record : Record) : Nat := record.bytes.length

/-- The plaintext of an application record. -/
def plaintext (record : Record) : List Byte :=
  match record.content with
  | .application plaintext => plaintext
  | .closeNotify => []

/-- The record announces that nothing follows it. -/
def isCloseNotify (record : Record) : Bool :=
  match record.content with
  | .application _ => false
  | .closeNotify => true

theorem size_pos (record : Record) : 0 < record.size :=
  List.length_pos_iff.mpr record.nonempty

end Record

/-- The bytes of some records. -/
def streamOf (records : List Record) : List Byte :=
  (records.map Record.bytes).flatten

/-- The plaintexts of some records, one behind the other. -/
def plaintextOf (records : List Record) : List Byte :=
  (records.map Record.plaintext).flatten

/-- Application records, which may be ended by a close notification. -/
def EndsOnce : List Record → Prop
  | [] => True
  | record :: records =>
      (record.isCloseNotify = true → records = []) ∧ EndsOnce records

/-! ## `DecryptMessage` -/

/-- `SECURITY_STATUS`. -/
inductive SecurityStatus
  | ok
  | incompleteMessage
  | contextExpired
  | other
  deriving DecidableEq, Repr

/-- `BufferType`. -/
inductive BufferType
  | empty
  | data
  | extra
  | streamHeader
  | streamTrailer
  deriving DecidableEq, Repr

/-- `SecBuffer`, with the bytes that it refers to. -/
structure SecBuffer where
  bufferType : BufferType
  bytes : List Byte
  deriving DecidableEq, Repr

/-- What a call of `DecryptMessage` has done. -/
structure Decryption (Context : Type) where
  status : SecurityStatus
  buffers : List SecBuffer := []
  context : Context

/-- The buffers for an application record: the bytes behind it are extra ones. -/
def decryptedBuffers
    (header plaintext trailer following : List Byte) : List SecBuffer :=
  [⟨.streamHeader, header⟩, ⟨.data, plaintext⟩, ⟨.streamTrailer, trailer⟩,
    if following = [] then ⟨.empty, []⟩ else ⟨.extra, following⟩]

/-- `DecryptMessage` handles the first record when it is complete, and then those
that follow it.  It changes nothing when the record is not complete. -/
def Handles {Context : Type}
    (decryptMessage : Context → List Byte → Decryption Context) :
    Context → List Record → Prop
  | _, [] => True
  | context, record :: records =>
      (∀ input, input <+: record.bytes → input ≠ record.bytes →
        decryptMessage context input = ⟨.incompleteMessage, [], context⟩) ∧
      ∃ next,
        (match record.content with
        | .application plaintext =>
            ∃ header trailer, ∀ following,
              decryptMessage context (record.bytes ++ following) =
                ⟨.ok, decryptedBuffers header plaintext trailer following,
                  next⟩
        | .closeNotify => ∀ following,
            decryptMessage context (record.bytes ++ following) =
              ⟨.contextExpired, [], next⟩) ∧
        Handles decryptMessage next records

/-! ## `DecryptDataStream` -/

/-- `TlsDecryptResult`. -/
inductive TlsDecryptResult
  | none
  | plainData
  | closeNotify
  | error
  deriving DecidableEq, Repr

/-- What a call of `DecryptDataStream` has done. -/
structure Outcome (Context : Type) where
  result : TlsDecryptResult
  context : Context
  /-- What is left in `encryptedStream`. -/
  encryptedStream : List Byte
  /-- The first `plainSize` bytes of `plainBuffer`, those behind its end among
  them. -/
  plain : List Byte

/-- The last data buffer that is not empty. -/
def dataBuf (buffers : List SecBuffer) : Option SecBuffer :=
  (buffers.filter fun buffer =>
    buffer.bufferType = .data ∧ buffer.bytes ≠ []).getLast?

/-- The last extra buffer. -/
def extraBuf (buffers : List SecBuffer) : Option SecBuffer :=
  (buffers.filter fun buffer => buffer.bufferType = .extra).getLast?

/-- The result at the end of the loop. -/
def resultOf (plain : List Byte) : TlsDecryptResult :=
  if 0 < plain.length then .plainData else .none

section DecryptDataStream

variable {Context : Type}
variable (decryptMessage : Context → List Byte → Decryption Context)

/-- The loop of `DecryptDataStream`, for a number of rounds at most. -/
def decryptLoop :
    Nat → Context → List Byte → List Byte → Option (Outcome Context)
  | 0, _, _, _ => none
  | rounds + 1, context, encryptedStream, plain =>
      if encryptedStream = [] then
        some ⟨resultOf plain, context, encryptedStream, plain⟩
      else
        let decryption := decryptMessage context encryptedStream
        match decryption.status with
        | .incompleteMessage =>
            some ⟨.none, decryption.context, encryptedStream, plain⟩
        | .contextExpired =>
            some ⟨.closeNotify, decryption.context, [], plain⟩
        | .other => some ⟨.error, decryption.context, encryptedStream, plain⟩
        | .ok =>
            let plain :=
              match dataBuf decryption.buffers with
              | some buffer => plain ++ buffer.bytes
              | none => plain
            match extraBuf decryption.buffers with
            | some buffer =>
                decryptLoop rounds decryption.context buffer.bytes plain
            | none => some ⟨resultOf plain, decryption.context, [], plain⟩

/-- `TLSHelperBase::DecryptDataStream`. -/
def decryptDataStream
    (rounds : Nat) (handshakeCompleted : Bool)
    (context : Context) (encryptedStream : List Byte) :
    Option (Outcome Context) :=
  if handshakeCompleted then
    decryptLoop decryptMessage rounds context encryptedStream []
  else some ⟨.error, context, encryptedStream, []⟩

/-- One call after the other, each when a chunk has been appended. -/
def calls (rounds : Nat) :
    Context → List Byte → List (List Byte) → Option (List (Outcome Context))
  | _, _, [] => some []
  | context, encryptedStream, chunk :: chunks =>
      (decryptDataStream decryptMessage rounds true context
        (encryptedStream ++ chunk)).bind fun outcome =>
          (calls rounds outcome.context outcome.encryptedStream chunks).map
            (List.cons outcome)

end DecryptDataStream

/-! ## One call -/

@[simp] theorem streamOf_cons (record : Record) (records : List Record) :
    streamOf (record :: records) = record.bytes ++ streamOf records := by
  simp [streamOf]

@[simp] theorem plaintextOf_cons (record : Record) (records : List Record) :
    plaintextOf (record :: records) =
      record.plaintext ++ plaintextOf records := by
  simp [plaintextOf]

theorem length_streamOf (records : List Record) :
    (streamOf records).length = total Record.size records := by
  induction records with
  | nil => rfl
  | cons record records inductionHypothesis =>
      rw [streamOf_cons, List.length_append, inductionHypothesis, total_cons]
      rfl

/-- Nothing is complete when nothing has arrived. -/
theorem completed_zero (records : List Record) :
    completed Record.size records 0 = [] := by
  cases records with
  | nil => rfl
  | cons record records => exact completed_of_lt record.size_pos records

theorem dataBuf_decryptedBuffers
    (header plaintext trailer following : List Byte) :
    dataBuf (decryptedBuffers header plaintext trailer following) =
      if plaintext = [] then none else some ⟨.data, plaintext⟩ := by
  unfold dataBuf decryptedBuffers
  split <;> split <;> simp [*]

theorem extraBuf_decryptedBuffers
    (header plaintext trailer following : List Byte) :
    extraBuf (decryptedBuffers header plaintext trailer following) =
      if following = [] then none else some ⟨.extra, following⟩ := by
  unfold extraBuf decryptedBuffers
  split <;> simp

section DecryptDataStream

variable {Context : Type}

/-- A call has decrypted the complete ones of some records behind what had been
written. -/
structure Decrypted
    (decryptMessage : Context → List Byte → Decryption Context)
    (records : List Record) (received : Nat) (written : List Byte)
    (outcome : Outcome Context) : Prop where
  plain : outcome.plain =
    written ++ plaintextOf (completed Record.size records received)
  encryptedStream : outcome.encryptedStream =
    (streamOf (remaining Record.size records received)).take
      (leftover Record.size records received)
  handles : Handles decryptMessage outcome.context
    (remaining Record.size records received)
  closes : outcome.result = .closeNotify ↔
    ∃ record ∈ completed Record.size records received,
      record.isCloseNotify = true
  succeeds : outcome.result ≠ .error

variable {decryptMessage : Context → List Byte → Decryption Context}

theorem resultOf_ne (plain : List Byte) :
    resultOf plain ≠ .closeNotify ∧ resultOf plain ≠ .error := by
  unfold resultOf
  split <;> simp

/-- Nothing is decrypted while the first record is not complete. -/
theorem decryptLoop_incomplete
    {context : Context} {records : List Record}
    (handles : Handles decryptMessage context records)
    {received : Nat}
    (arrived : received ≤ total Record.size records)
    (nothing : completed Record.size records received = [])
    (rounds : Nat) (plain : List Byte) :
    ∃ outcome,
      decryptLoop decryptMessage (rounds + 1) context
        ((streamOf records).take received) plain = some outcome ∧
      Decrypted decryptMessage records received plain outcome := by
  have left : leftover Record.size records received = received := by
    rw [leftover, nothing]
    rfl
  have kept : remaining Record.size records received = records := by
    rw [remaining, nothing]
    rfl
  by_cases empty : (streamOf records).take received = []
  · refine ⟨_, by rw [decryptLoop, if_pos empty], ?_⟩
    exact
      { plain := by rw [nothing]; exact (List.append_nil _).symm
        encryptedStream := by rw [left, kept]
        handles := by rw [kept]; exact handles
        closes := iff_of_false (resultOf_ne plain).1 (by simp [nothing])
        succeeds := (resultOf_ne plain).2 }
  · cases records with
    | nil => exact absurd List.take_nil empty
    | cons record records =>
        have short : received < record.bytes.length := by
          by_contra long
          have whole : record.size ≤ received := Nat.not_lt.mp long
          rw [completed_of_le whole] at nothing
          cases nothing
        have cut : (streamOf (record :: records)).take received =
            record.bytes.take received := by
          rw [streamOf_cons, List.take_append_of_le_length short.le]
        have decryption := handles.1 _ (List.take_prefix received record.bytes)
          fun same => by
            have length := congrArg List.length same
            rw [List.length_take] at length
            omega
        refine ⟨⟨.none, context, (streamOf (record :: records)).take received,
          plain⟩, ?_, ?_⟩
        · rw [decryptLoop, if_neg empty, cut, decryption]
        · exact
            { plain := by rw [nothing]; exact (List.append_nil _).symm
              encryptedStream := by rw [left, kept]
              handles := by rw [kept]; exact handles
              closes := iff_of_false (by simp) (by simp [nothing])
              succeeds := by simp }

/-- What is decrypted behind a complete record is decrypted behind its
plaintext. -/
theorem Decrypted.cons
    {record : Record} {records : List Record}
    {received : Nat}
    (complete : record.size ≤ received)
    (continues : record.isCloseNotify = false)
    {written : List Byte} {outcome : Outcome Context}
    (decrypted : Decrypted decryptMessage records (received - record.size)
      (written ++ record.plaintext) outcome) :
    Decrypted decryptMessage (record :: records) received written outcome := by
  have finished := completed_of_le complete records
  have rest := remaining_of_le complete records
  have open_ := leftover_of_le complete records
  exact
    { plain := by
        rw [decrypted.plain, finished, plaintextOf_cons, List.append_assoc]
      encryptedStream := by rw [decrypted.encryptedStream, rest, open_]
      handles := rest ▸ decrypted.handles
      closes := by
        rw [decrypted.closes, finished]
        simp [continues]
      succeeds := decrypted.succeeds }

/-- A complete close notification ends the stream. -/
theorem decryptLoop_closeNotify
    {context : Context} {record : Record}
    (handles : Handles decryptMessage context [record])
    (content : record.content = .closeNotify)
    {received : Nat}
    (complete : record.size ≤ received)
    (rounds : Nat) (plain : List Byte) :
    ∃ outcome,
      decryptLoop decryptMessage (rounds + 1) context
        ((streamOf [record]).take received) plain = some outcome ∧
      Decrypted decryptMessage [record] received plain outcome := by
  have finished := completed_of_le complete []
  have rest := remaining_of_le complete []
  have nothing : record.plaintext = [] := by
    rw [Record.plaintext, content]
  have closing : record.isCloseNotify = true := by
    rw [Record.isCloseNotify, content]
  have whole : (streamOf [record]).take received = record.bytes ++ [] := by
    rw [streamOf_cons]
    exact List.take_of_length_le (by rw [List.length_append]; exact complete)
  have arrived : record.bytes ++ [] ≠ [] := by
    simp [record.nonempty]
  obtain ⟨_, next, decrypts, later⟩ := handles
  rw [content] at decrypts
  refine ⟨⟨.closeNotify, next, [], plain⟩, ?_, ?_⟩
  · rw [whole, decryptLoop, if_neg arrived, decrypts]
  · exact
      { plain := by
          rw [finished, plaintextOf_cons, nothing]
          exact (List.append_nil _).symm
        encryptedStream := by
          rw [rest]
          exact List.take_nil.symm
        handles := rest ▸ later
        closes := iff_of_true rfl ⟨record, by rw [finished]; simp, closing⟩
        succeeds := nofun }

/-- A complete application record is decrypted, and then what follows it. -/
theorem decryptLoop_application
    {context : Context} {record : Record} {records : List Record}
    (handles : Handles decryptMessage context (record :: records))
    {plaintext : List Byte}
    (content : record.content = .application plaintext)
    (following : List Byte)
    (rounds : Nat) (plain : List Byte) :
    ∃ next,
      Handles decryptMessage next records ∧
      decryptLoop decryptMessage (rounds + 2) context
          (record.bytes ++ following) plain =
        decryptLoop decryptMessage (rounds + 1) next following
          (plain ++ record.plaintext) := by
  have arrived : record.bytes ++ following ≠ [] := by
    simp [record.nonempty]
  have itself : record.plaintext = plaintext := by
    rw [Record.plaintext, content]
  obtain ⟨_, next, decrypts, later⟩ := handles
  rw [content] at decrypts
  obtain ⟨header, trailer, decrypts⟩ := decrypts
  have written : (match dataBuf (decryptedBuffers header plaintext trailer
        following) with
      | some buffer => plain ++ buffer.bytes
      | none => plain) = plain ++ record.plaintext := by
    rw [dataBuf_decryptedBuffers, itself]
    split_ifs with empty
    · rw [empty]
      exact (List.append_nil _).symm
    · rfl
  refine ⟨next, later, ?_⟩
  rw [decryptLoop, if_neg arrived, decrypts]
  simp only [written, extraBuf_decryptedBuffers]
  split_ifs with exhausted
  · rw [exhausted, decryptLoop, if_pos rfl]
  · rfl

/-- The records that are complete are decrypted one after the other. -/
theorem decryptLoop_decrypts
    {context : Context} {records : List Record}
    (handles : Handles decryptMessage context records)
    (ends : EndsOnce records)
    {received : Nat}
    (arrived : received ≤ total Record.size records)
    {rounds : Nat}
    (enough : received < rounds)
    (plain : List Byte) :
    ∃ outcome,
      decryptLoop decryptMessage rounds context
        ((streamOf records).take received) plain = some outcome ∧
      Decrypted decryptMessage records received plain outcome := by
  obtain ⟨rounds, rfl⟩ := Nat.exists_eq_succ_of_ne_zero
    (Nat.ne_zero_of_lt enough)
  induction records generalizing context received rounds plain with
  | nil => exact decryptLoop_incomplete handles arrived rfl rounds plain
  | cons record records inductionHypothesis =>
      by_cases complete : record.size ≤ received
      case neg =>
        exact decryptLoop_incomplete handles arrived
          (completed_of_lt (Nat.not_le.mp complete) records) rounds plain
      case pos =>
        cases content : record.content with
        | closeNotify =>
            have last : records = [] :=
              ends.1 (by rw [Record.isCloseNotify, content])
            subst last
            exact decryptLoop_closeNotify handles content complete rounds plain
        | application plaintext =>
            have continues : record.isCloseNotify = false := by
              rw [Record.isCloseNotify, content]
            have cut : (streamOf (record :: records)).take received =
                record.bytes ++
                  (streamOf records).take (received - record.size) := by
              rw [streamOf_cons, List.take_append,
                List.take_of_length_le complete]
              rfl
            have another : rounds ≠ 0 := by
              have smaller := record.size_pos
              omega
            obtain ⟨rounds, rfl⟩ := Nat.exists_eq_succ_of_ne_zero another
            obtain ⟨next, later, round⟩ :=
              decryptLoop_application handles content
                ((streamOf records).take (received - record.size)) rounds plain
            rw [total_cons] at arrived
            have inside : received - record.size ≤ total Record.size records :=
              Nat.sub_le_iff_le_add'.mpr arrived
            have fewer : received - record.size < rounds + 1 := by
              have smaller := record.size_pos
              omega
            obtain ⟨outcome, ran, decrypted⟩ :=
              inductionHypothesis later ends.2 inside
                (plain ++ record.plaintext) rounds fewer
            exact ⟨outcome, by rw [cut, round, ran],
              decrypted.cons complete continues⟩

/-! ## One call after the other -/

/-- One of the records announces that nothing follows it. -/
def Closed (records : List Record) : Prop :=
  ∃ record ∈ records, record.isCloseNotify = true

/-- A call has handled what arrived between two points of the stream. -/
structure Advances
    (records : List Record) (before after : Nat)
    (outcome : Outcome Context) : Prop where
  plain : plaintextOf (completed Record.size records before) ++ outcome.plain =
    plaintextOf (completed Record.size records after)
  encryptedStream :
    streamOf (completed Record.size records after) ++ outcome.encryptedStream =
      (streamOf records).take after
  closes : outcome.result = .closeNotify ↔
    Closed (completed Record.size records after) ∧
      ¬ Closed (completed Record.size records before)
  succeeds : outcome.result ≠ .error

@[simp] theorem streamOf_append (records others : List Record) :
    streamOf (records ++ others) = streamOf records ++ streamOf others := by
  simp [streamOf]

@[simp] theorem plaintextOf_append (records others : List Record) :
    plaintextOf (records ++ others) =
      plaintextOf records ++ plaintextOf others := by
  simp [plaintextOf]

theorem Closed_append (records others : List Record) :
    Closed (records ++ others) ↔ Closed records ∨ Closed others := by
  simp only [Closed, List.mem_append, or_and_right, exists_or]

/-- Nothing follows a close notification. -/
theorem EndsOnce.append
    {records others : List Record}
    (ends : EndsOnce (records ++ others)) :
    EndsOnce others ∧ (Closed records → others = []) := by
  induction records with
  | nil => exact ⟨ends, nofun⟩
  | cons record records inductionHypothesis =>
      obtain ⟨remains, last⟩ := inductionHypothesis ends.2
      refine ⟨remains, fun ⟨closing, among, closes⟩ => ?_⟩
      rcases List.mem_cons.mp among with rfl | among
      · exact (List.append_eq_nil_iff.mp (ends.1 closes)).2
      · exact last ⟨closing, among, closes⟩

/-- The stream up to a point: what is complete, and what is left over. -/
theorem streamOf_take
    (records : List Record) (arrived more : Nat) :
    (streamOf records).take (arrived + more) =
      streamOf (completed Record.size records arrived) ++
        (streamOf (remaining Record.size records arrived)).take
          (leftover Record.size records arrived + more) := by
  have inside := total_completed_le Record.size records arrived
  have length := length_streamOf (completed Record.size records arrived)
  conv_lhs => rw [← completed_append_remaining Record.size records arrived]
  rw [streamOf_append, List.take_append, List.take_of_length_le (by omega),
    length, leftover]
  congr 2
  omega

/-- A call that handles what follows some point handles it in the whole
stream. -/
theorem Advances.later
    {records : List Record} {arrived before after : Nat}
    (ends : EndsOnce records)
    {outcome : Outcome Context}
    (advances : Advances (remaining Record.size records arrived)
      (leftover Record.size records arrived + before)
      (leftover Record.size records arrived + after) outcome) :
    Advances records (arrived + before) (arrived + after) outcome where
  plain := by
    rw [completed_add records arrived before,
      completed_add records arrived after, plaintextOf_append,
      plaintextOf_append, List.append_assoc, advances.plain]
  encryptedStream := by
    rw [completed_add records arrived after, streamOf_append, List.append_assoc,
      advances.encryptedStream, ← streamOf_take]
  closes := by
    rw [completed_add records arrived before,
      completed_add records arrived after, Closed_append, Closed_append,
      advances.closes]
    have last := (EndsOnce.append ((completed_append_remaining
      Record.size records arrived).symm ▸ ends)).2
    by_cases closed : Closed (completed Record.size records arrived)
    · rw [last closed]
      simp [Closed]
    · simp [closed]
  succeeds := advances.succeeds

/-- A call from a point where nothing is left to decrypt. -/
theorem Decrypted.advances
    {records : List Record} {left received : Nat}
    (nothing : completed Record.size records left = [])
    {outcome : Outcome Context}
    (decrypted : Decrypted decryptMessage records received [] outcome) :
    Advances records left received outcome where
  plain := by
    rw [nothing, decrypted.plain]
    rfl
  encryptedStream := by
    rw [decrypted.encryptedStream]
    exact (streamOf_take records received 0).symm
  closes := by
    rw [decrypted.closes, nothing]
    simp [Closed]
  succeeds := decrypted.succeeds

/-- The calls handle the chunks one after the other. -/
theorem calls_advance
    {context : Context} {records : List Record}
    (handles : Handles decryptMessage context records)
    (ends : EndsOnce records)
    {left : Nat}
    (nothing : completed Record.size records left = [])
    (inside : left ≤ total Record.size records)
    {chunks : List (List Byte)}
    (sent : (streamOf records).take left ++ chunks.flatten <+:
      streamOf records)
    {rounds : Nat}
    (enough : (streamOf records).length < rounds) :
    ∃ outcomes,
      calls decryptMessage rounds context ((streamOf records).take left)
        chunks = some outcomes ∧
      outcomes.length = chunks.length ∧
      ∀ index outcome, outcomes[index]? = some outcome →
        Advances records (left + (chunks.take index).flatten.length)
          (left + (chunks.take (index + 1)).flatten.length) outcome := by
  induction chunks generalizing context records left with
  | nil => exact ⟨[], rfl, rfl, nofun⟩
  | cons chunk chunks inductionHypothesis =>
      have length := length_streamOf records
      rw [List.flatten_cons, ← List.append_assoc] at sent
      have begun := (List.prefix_append _ chunks.flatten).trans sent
      have measured : ((streamOf records).take left ++ chunk).length =
          left + chunk.length := by
        rw [List.length_append, List.length_take, length,
          Nat.min_eq_left inside]
      have arrived : left + chunk.length ≤ total Record.size records := by
        rw [← measured, ← length]
        exact begun.length_le
      have cut : (streamOf records).take left ++ chunk =
          (streamOf records).take (left + chunk.length) := by
        rw [← measured]
        exact List.prefix_iff_eq_take.mp begun
      obtain ⟨outcome, ran, decrypted⟩ :=
        decryptLoop_decrypts handles ends arrived
          (arrived.trans_lt (length ▸ enough)) []
      have parts := completed_append_remaining Record.size records
        (left + chunk.length)
      have whole : streamOf (completed Record.size records
            (left + chunk.length)) ++
          streamOf (remaining Record.size records (left + chunk.length)) =
            streamOf records := by
        rw [← streamOf_append, parts]
      have sent' := sent
      rw [cut, ← Nat.add_zero (left + chunk.length), streamOf_take,
        List.append_assoc, ← whole, List.prefix_append_right_inj] at sent'
      have enough' : (streamOf (remaining Record.size records
          (left + chunk.length))).length < rounds := by
        rw [← whole, List.length_append] at enough
        omega
      obtain ⟨outcomes, runs, counted, later⟩ :=
        inductionHypothesis decrypted.handles (EndsOnce.append (parts ▸ ends)).1
          (completed_remaining records _) (leftover_le arrived) sent' enough'
      refine ⟨outcome :: outcomes, ?_, by simp [counted], ?_⟩
      · rw [calls, cut]
        simp only [decryptDataStream, if_true, ran, Option.bind_some]
        rw [decrypted.encryptedStream, runs]
        rfl
      · intro index other found
        cases index with
        | zero =>
            cases found
            simpa using decrypted.advances nothing
        | succ index =>
            have advances := (later index other found).later ends
            simpa [Nat.add_assoc] using advances

end DecryptDataStream

end TlsDecryption
end MultiSocketRudp

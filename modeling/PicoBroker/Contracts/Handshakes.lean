import PicoBroker.Contracts.TlsReads
import PicoBroker.Tls.Handshake

set_option autoImplicit false

namespace PicoBroker

open Execution (Run Anything exec exec_cons)
open Resumption (Reads Delivers)
open AcceptStream (Move)

variable {τ σ ω : Type} {server : TlsServerHandshake σ} {send : ω → Bytes → Except τ Unit × ω} {bufferSize : Nat}

def recordBytes (records : List TlsRecord) : Bytes := records.flatMap TlsRecord.bytes

-- The server answers the first hello with its flight, or once with a HelloRetryRequest.
inductive Handshaken (server : TlsServerHandshake σ) (send : ω → Bytes → Except τ Unit × ω) (bufferSize : Nat)
    (start : Handshake σ ω) : List TlsRecord → Handshake σ ω → Prop
  | direct {hello finished : TlsRecord} {dummies : List TlsRecord} {flight : Text bufferSize} {helloed done : σ}
      {flown : ω} (helloKind : hello.contentType = tlsCtHandshake)
      (answered : server.processClientHello bufferSize start.inner hello.body = (.ok (.firstFlight flight), helloed))
      (sent : send start.transport flight.items = (.ok (), flown))
      (skipped : ∀ dummy ∈ dummies, dummy.contentType = tlsCtChangeCipherSpec)
      (finishedKind : finished.contentType = tlsCtApplicationData)
      (verified : server.processClientFinished helloed finished.bytes = (.ok (), done)) :
      Handshaken server send bufferSize start (hello :: dummies ++ [finished]) ⟨done, flown⟩
  | retried {hello second finished : TlsRecord} {dummies more : List TlsRecord} {request flight : Text bufferSize}
      {asked helloed done : σ} {requested flown : ω} (helloKind : hello.contentType = tlsCtHandshake)
      (refused : server.processClientHello bufferSize start.inner hello.body =
        (.ok (.helloRetryRequest request), asked))
      (sentRequest : send start.transport request.items = (.ok (), requested))
      (skipped : ∀ dummy ∈ dummies, dummy.contentType = tlsCtChangeCipherSpec)
      (secondKind : second.contentType = tlsCtHandshake)
      (answered : server.processClientHello bufferSize asked second.body = (.ok (.firstFlight flight), helloed))
      (sent : send requested flight.items = (.ok (), flown))
      (skippedMore : ∀ dummy ∈ more, dummy.contentType = tlsCtChangeCipherSpec)
      (finishedKind : finished.contentType = tlsCtApplicationData)
      (verified : server.processClientFinished helloed finished.bytes = (.ok (), done)) :
      Handshaken server send bufferSize start (hello :: dummies ++ second :: more ++ [finished]) ⟨done, flown⟩

section

variable {handshake start final : Handshake σ ω} {record : TlsRecord} {records : List TlsRecord} {awaited : Awaited}

theorem recordType_bytes (record : TlsRecord) : recordType record.bytes = record.contentType := rfl

theorem drop_bytes (record : TlsRecord) : record.bytes.drop recordHeaderLen = record.body := by
  rw [TlsRecord.bytes, ← TlsRecord.header, ← record.length_header, List.drop_left]

inductive Turned (server : TlsServerHandshake σ) (send : ω → Bytes → Except τ Unit × ω) (bufferSize : Nat)
    (handshake : Handshake σ ω) (record : TlsRecord) : Awaited → AcceptTurn τ × Handshake σ ω → Prop
  | skipped {awaited : Awaited} (later : awaited ≠ .clientHello)
      (kind : record.contentType = tlsCtChangeCipherSpec) :
      Turned server send bufferSize handshake record awaited (.next awaited, handshake)
  | requested {request : Text bufferSize} {asked : σ} {requested : ω} (kind : record.contentType = tlsCtHandshake)
      (refused : server.processClientHello bufferSize handshake.inner record.body =
        (.ok (.helloRetryRequest request), asked))
      (sent : send handshake.transport request.items = (.ok (), requested)) :
      Turned server send bufferSize handshake record .clientHello (.next .secondClientHello, ⟨asked, requested⟩)
  | answered {awaited : Awaited} {flight : Text bufferSize} {helloed : σ} {flown : ω}
      (hello : awaited ≠ .clientFinished) (kind : record.contentType = tlsCtHandshake)
      (answered : server.processClientHello bufferSize handshake.inner record.body =
        (.ok (.firstFlight flight), helloed))
      (sent : send handshake.transport flight.items = (.ok (), flown)) :
      Turned server send bufferSize handshake record awaited (.next .clientFinished, ⟨helloed, flown⟩)
  | verified {done : σ} (kind : record.contentType = tlsCtApplicationData)
      (verified : server.processClientFinished handshake.inner record.bytes = (.ok (), done)) :
      Turned server send bufferSize handshake record .clientFinished
        (.returned (.ok ()), ⟨done, handshake.transport⟩)
  | failed {awaited : Awaited} {error : SessionError τ} {after : Handshake σ ω} :
      Turned server send bufferSize handshake record awaited (.returned (.error error), after)

theorem clientHello_turned :
    Turned server send bufferSize handshake record .clientHello
      (handshake.clientHello server send bufferSize record.bytes) := by
  rw [Handshake.clientHello, recordType_bytes, drop_bytes]
  split
  · next kind =>
    split
    · exact .failed
    · next flight helloed answered =>
      unfold Handshake.write
      split
      · exact .failed
      · next flown sent => exact .answered nofun kind answered sent
    · next request asked refused =>
      unfold Handshake.write
      split
      · exact .failed
      · next requested sent => exact .requested kind refused sent
  · exact .failed

theorem secondClientHello_turned :
    Turned server send bufferSize handshake record .secondClientHello
      (handshake.secondClientHello server send bufferSize record.bytes) := by
  rw [Handshake.secondClientHello, recordType_bytes, drop_bytes]
  split
  · next kind => exact .skipped nofun kind
  · split
    · next kind =>
      split
      · exact .failed
      · next flight helloed answered =>
        unfold Handshake.write
        split
        · exact .failed
        · next flown sent => exact .answered nofun kind answered sent
      · exact .failed
    · exact .failed

theorem clientFinished_turned :
    Turned server send bufferSize handshake record .clientFinished
      (handshake.clientFinished server record.bytes) := by
  rw [Handshake.clientFinished, recordType_bytes]
  split
  · next kind => exact .skipped nofun kind
  · split
    · next kind =>
      split
      · exact .failed
      · next done verified => exact .verified kind verified
    · exact .failed

theorem turn_turned (awaited : Awaited) :
    Turned server send bufferSize handshake record awaited
      (handshake.turn server send bufferSize awaited record.bytes) := by
  cases awaited with
  | clientHello => exact clientHello_turned
  | secondClientHello => exact secondClientHello_turned
  | clientFinished => exact clientFinished_turned

inductive Talked (server : TlsServerHandshake σ) (send : ω → Bytes → Except τ Unit × ω) (bufferSize : Nat)
    (start : Handshake σ ω) : List TlsRecord → Awaited → Handshake σ ω → Prop
  | begun : Talked server send bufferSize start [] .clientHello start
  | requested {hello : TlsRecord} {dummies : List TlsRecord} {request : Text bufferSize} {asked : σ} {requested : ω}
      (helloKind : hello.contentType = tlsCtHandshake)
      (refused : server.processClientHello bufferSize start.inner hello.body =
        (.ok (.helloRetryRequest request), asked))
      (sentRequest : send start.transport request.items = (.ok (), requested))
      (skipped : ∀ dummy ∈ dummies, dummy.contentType = tlsCtChangeCipherSpec) :
      Talked server send bufferSize start (hello :: dummies) .secondClientHello ⟨asked, requested⟩
  | answered {hello : TlsRecord} {dummies : List TlsRecord} {flight : Text bufferSize} {helloed : σ} {flown : ω}
      (helloKind : hello.contentType = tlsCtHandshake)
      (answered : server.processClientHello bufferSize start.inner hello.body = (.ok (.firstFlight flight), helloed))
      (sent : send start.transport flight.items = (.ok (), flown))
      (skipped : ∀ dummy ∈ dummies, dummy.contentType = tlsCtChangeCipherSpec) :
      Talked server send bufferSize start (hello :: dummies) .clientFinished ⟨helloed, flown⟩
  | answeredSecond {before more : List TlsRecord} {second : TlsRecord} {flight : Text bufferSize}
      {asked : Handshake σ ω} {helloed : σ} {flown : ω}
      (talked : Talked server send bufferSize start before .secondClientHello asked)
      (secondKind : second.contentType = tlsCtHandshake)
      (answered : server.processClientHello bufferSize asked.inner second.body = (.ok (.firstFlight flight), helloed))
      (sent : send asked.transport flight.items = (.ok (), flown))
      (skippedMore : ∀ dummy ∈ more, dummy.contentType = tlsCtChangeCipherSpec) :
      Talked server send bufferSize start (before ++ second :: more) .clientFinished ⟨helloed, flown⟩

theorem skipped_snoc {dummies : List TlsRecord} (kind : record.contentType = tlsCtChangeCipherSpec)
    (skipped : ∀ dummy ∈ dummies, dummy.contentType = tlsCtChangeCipherSpec) :
    ∀ dummy ∈ dummies ++ [record], dummy.contentType = tlsCtChangeCipherSpec := by
  intro dummy member
  rcases List.mem_append.mp member with earlier | last
  · exact skipped dummy earlier
  · rw [List.mem_singleton.mp last]
    exact kind

theorem Talked.skip (talked : Talked server send bufferSize start records awaited handshake)
    (later : awaited ≠ .clientHello) (kind : record.contentType = tlsCtChangeCipherSpec) :
    Talked server send bufferSize start (records ++ [record]) awaited handshake := by
  cases talked with
  | begun => exact absurd rfl later
  | requested helloKind refused sentRequest skipped =>
    exact .requested helloKind refused sentRequest (skipped_snoc kind skipped)
  | answered helloKind answered sent skipped => exact .answered helloKind answered sent (skipped_snoc kind skipped)
  | answeredSecond before secondKind answered sent skippedMore =>
    rw [List.append_assoc]
    exact .answeredSecond before secondKind answered sent (skipped_snoc kind skippedMore)

theorem Talked.next {following : Awaited} {after : Handshake σ ω}
    (talked : Talked server send bufferSize start records awaited handshake)
    (turned : Turned server send bufferSize handshake record awaited (.next following, after)) :
    Talked server send bufferSize start (records ++ [record]) following after := by
  cases turned with
  | skipped later kind => exact talked.skip later kind
  | requested kind refused sent =>
    cases talked
    exact .requested kind refused sent (by simp)
  | answered hello kind answered sent =>
    cases awaited with
    | clientHello =>
      cases talked
      exact .answered kind answered sent (by simp)
    | secondClientHello => exact .answeredSecond talked kind answered sent (by simp)
    | clientFinished => exact absurd rfl hello

theorem Talked.returned (talked : Talked server send bufferSize start records awaited handshake)
    (turned : Turned server send bufferSize handshake record awaited (.returned (.ok ()), final)) :
    Handshaken server send bufferSize start (records ++ [record]) final := by
  cases turned with
  | verified kind verified =>
    cases talked with
    | answered helloKind answered sent skipped => exact .direct helloKind answered sent skipped kind verified
    | answeredSecond before secondKind answered sent skippedMore =>
      cases before with
      | requested helloKind refused sentRequest skipped =>
        exact .retried helloKind refused sentRequest skipped secondKind answered sent skippedMore kind verified

end

theorem record_of_parts {header body : Bytes} (sized : header.length = recordHeaderLen)
    (announced : body.length = Fields.ofBigEndian (Fields.slice header 3 5)) :
    ∃ record : TlsRecord, record.bytes = header ++ body := by
  match header, sized with
  | [contentType, major, minor, high, low], _ =>
    have field : Fields.slice [contentType, major, minor, high, low] 3 5 = [high, low] := rfl
    rw [field] at announced
    have small : body.length < 256 ^ 2 := announced ▸ Fields.ofBigEndian_lt [high, low]
    have number : Fields.bigEndian 2 body.length = [high, low] := by
      rw [announced]
      exact Fields.bigEndian_ofBigEndian rfl
    exact ⟨⟨contentType, major, minor, body, small⟩, by simp [TlsRecord.bytes, number]⟩

def IsRecord (bufferSize : Nat) (taken fetched : Bytes) : Prop :=
  ∃ record : TlsRecord, taken = record.bytes ∧ fetched = record.bytes ∧ record.bytes.length ≤ bufferSize

theorem readExactInto_delivers (start length : Nat) (before : Bytes) :
    Delivers (fun taken value => taken = before ++ value ∧ value.length = length ∧ start + length ≤ bufferSize)
      (readExactInto bufferSize start length : RecordReader τ Bytes) before := by
  by_cases fits : start + length ≤ bufferSize
  · rw [readExactInto, if_neg (Nat.not_lt.mpr fits)]
    refine (Resumption.exactly_delivers SessionError.onEnd length before).mono ?_
    rintro _ _ ⟨taken, sized⟩
    exact ⟨taken, sized, fits⟩
  · rw [readExactInto, if_pos (Nat.lt_of_not_le fits)]
    trivial

theorem fetchRecord_delivers (bufferSize : Nat) :
    Delivers (IsRecord bufferSize) (fetchRecord bufferSize : RecordReader τ Bytes) [] := by
  refine (readExactInto_delivers 0 recordHeaderLen []).bind ?_
  rintro taken header ⟨rfl, sized, _⟩
  dsimp only
  split
  · trivial
  · refine (readExactInto_delivers recordHeaderLen _ _).bind ?_
    rintro taken body ⟨rfl, announced, fits⟩
    obtain ⟨record, same⟩ := record_of_parts sized announced
    refine ⟨record, ?_, same.symm, ?_⟩
    · simpa using same.symm
    · rw [same, List.length_append, sized, announced]
      exact fits

section

variable {start : Handshake σ ω} {stream next : AcceptStream τ σ ω} {label : AcceptLabel τ} {arrived new : List Bytes}

inductive Follows (server : TlsServerHandshake σ) (send : ω → Bytes → Except τ Unit × ω) (bufferSize : Nat)
    (start : Handshake σ ω) (arrived : List Bytes) (stream : AcceptStream τ σ ω) : Prop
  | fetching {records : List TlsRecord} {awaited : Awaited} {fetch : RecordReader τ Bytes} {taken : Bytes}
      (waiting : stream.acceptance = .fetching awaited fetch taken)
      (talked : Talked server send bufferSize start records awaited stream.handshake)
      (fits : ∀ record ∈ records, record.bytes.length ≤ bufferSize)
      (split : arrived.flatten = recordBytes records ++ taken ++ stream.incoming.flatten)
      (delivers : Delivers (IsRecord bufferSize) fetch taken)
  | accepted {records : List TlsRecord} (returned : stream.acceptance = .returned (.ok ()))
      (handshaken : Handshaken server send bufferSize start records stream.handshake)
      (fits : ∀ record ∈ records, record.bytes.length ≤ bufferSize)
      (split : arrived.flatten = recordBytes records ++ stream.incoming.flatten)
  | refused {error : SessionError τ} (returned : stream.acceptance = .returned (.error error))

theorem recordBytes_snoc (records : List TlsRecord) (record : TlsRecord) :
    recordBytes (records ++ [record]) = recordBytes records ++ record.bytes := by
  simp [recordBytes]

theorem Follows.move (follows : Follows server send bufferSize start arrived stream)
    (move : Move server send bufferSize stream label next new) :
    Follows server send bufferSize start (arrived ++ new) next := by
  cases move with
  | arrived =>
    cases follows with
    | fetching waiting talked fits split delivers =>
      exact .fetching waiting talked fits (by simp [split]) delivers
    | accepted returned handshaken fits split => exact .accepted returned handshaken fits (by simp [split])
    | refused returned => exact .refused returned
  | finished =>
    rw [List.append_nil]
    cases follows with
    | fetching waiting talked fits split delivers => exact .fetching waiting talked fits split delivers
    | accepted returned handshaken fits split => exact .accepted returned handshaken fits split
    | refused returned => exact .refused returned
  | failed => exact .refused rfl
  | @waited awaited fetch taken more room after left waiting polled =>
    cases follows with
    | fetching known talked fits split delivers =>
      rw [waiting] at known
      cases known
      have continued := delivers.poll stream.ending stream.incoming
      have whole := fetch.poll_flatten stream.ending stream.incoming
      rw [polled] at continued whole
      rw [List.append_nil]
      refine .fetching rfl talked fits ?_ continued
      rw [split, ← whole]
      simp
    | accepted returned | refused returned =>
      rw [waiting] at returned
      cases returned
  | @fetched awaited fetch taken more fetched left waiting polled =>
    cases follows with
    | @fetching records _ _ _ known talked fits split delivers =>
      rw [waiting] at known
      cases known
      have continued := delivers.poll stream.ending stream.incoming
      have whole := fetch.poll_flatten stream.ending stream.incoming
      rw [polled] at continued whole
      obtain ⟨record, taken', rfl, small⟩ := continued
      have fitsAll : ∀ read ∈ records ++ [record], read.bytes.length ≤ bufferSize := by
        intro read member
        rcases List.mem_append.mp member with earlier | last
        · exact fits read earlier
        · rw [List.mem_singleton.mp last]
          exact small
      have here : arrived.flatten = recordBytes (records ++ [record]) ++ left.flatten := by
        rw [split, ← whole, recordBytes_snoc, ← taken']
        simp
      have turned := @turn_turned _ _ _ server send bufferSize stream.handshake record awaited
      rw [List.append_nil]
      generalize stream.handshake.turn server send bufferSize awaited record.bytes = outcome at turned ⊢
      rcases outcome with ⟨following | (error | _), after⟩
      · exact .fetching rfl (talked.next turned) fitsAll (by rw [List.append_nil]; exact here)
          (fetchRecord_delivers bufferSize)
      · exact .refused rfl
      · exact .accepted rfl (talked.returned turned) fitsAll here
    | accepted returned | refused returned =>
      rw [waiting] at returned
      cases returned

theorem run_follows {labels : List (AcceptLabel τ)}
    (run : Run (AcceptStream.step server send bufferSize) Anything (.new bufferSize start) labels arrived stream) :
    Follows server send bufferSize start arrived stream :=
  run.invariant (P := Follows server send bufferSize start)
    (.fetching rfl .begun (by simp) rfl (fetchRecord_delivers bufferSize))
    (fun _ _ _ _ _ follows _ taken => follows.move (AcceptStream.step_move taken))

theorem accept_ok_handshaken {labels : List (AcceptLabel τ)}
    (run : Run (AcceptStream.step server send bufferSize) Anything (.new bufferSize start) labels arrived stream)
    (ok : stream.acceptance = .returned (.ok ())) :
    ∃ records, Handshaken server send bufferSize start records stream.handshake ∧
      arrived.flatten = recordBytes records ++ stream.incoming.flatten := by
  cases run_follows run with
  | fetching waiting =>
    rw [ok] at waiting
    cases waiting
  | accepted returned handshaken fits split => exact ⟨_, handshaken, split⟩
  | refused returned =>
    rw [ok] at returned
    cases returned

end

section

variable {start handshake final : Handshake σ ω} {record : TlsRecord} {awaited : Awaited} {records : List TlsRecord}

theorem turn_skip (later : awaited ≠ .clientHello) (kind : record.contentType = tlsCtChangeCipherSpec) :
    handshake.turn server send bufferSize awaited record.bytes = (.next awaited, handshake) := by
  cases awaited with
  | clientHello => exact absurd rfl later
  | secondClientHello => exact if_pos kind
  | clientFinished => exact if_pos kind

theorem turn_answer {flight : Text bufferSize} {helloed : σ} {flown : ω} (hello : awaited ≠ .clientFinished)
    (kind : record.contentType = tlsCtHandshake)
    (answered : server.processClientHello bufferSize handshake.inner record.body = (.ok (.firstFlight flight), helloed))
    (sent : send handshake.transport flight.items = (.ok (), flown)) :
    handshake.turn server send bufferSize awaited record.bytes = (.next .clientFinished, ⟨helloed, flown⟩) := by
  cases awaited with
  | clientHello =>
    simp [Handshake.turn, Handshake.clientHello, Handshake.write, recordType_bytes, drop_bytes, kind, answered, sent]
  | secondClientHello =>
    simp [Handshake.turn, Handshake.secondClientHello, Handshake.write, recordType_bytes, drop_bytes, kind, answered,
      sent, tlsCtHandshake, tlsCtChangeCipherSpec]
  | clientFinished => exact absurd rfl hello

theorem turn_request {request : Text bufferSize} {asked : σ} {requested : ω}
    (kind : record.contentType = tlsCtHandshake)
    (refused : server.processClientHello bufferSize handshake.inner record.body =
      (.ok (.helloRetryRequest request), asked))
    (sent : send handshake.transport request.items = (.ok (), requested)) :
    handshake.turn server send bufferSize .clientHello record.bytes =
      (.next .secondClientHello, ⟨asked, requested⟩) := by
  simp [Handshake.turn, Handshake.clientHello, Handshake.write, recordType_bytes, drop_bytes, kind, refused, sent]

theorem turn_verify {done : σ} (kind : record.contentType = tlsCtApplicationData)
    (verified : server.processClientFinished handshake.inner record.bytes = (.ok (), done)) :
    handshake.turn server send bufferSize .clientFinished record.bytes =
      (.returned (.ok ()), ⟨done, handshake.transport⟩) := by
  simp [Handshake.turn, Handshake.clientFinished, recordType_bytes, kind, verified, tlsCtApplicationData,
    tlsCtChangeCipherSpec]

inductive Concludes (server : TlsServerHandshake σ) (send : ω → Bytes → Except τ Unit × ω) (bufferSize : Nat)
    (final : Handshake σ ω) : Awaited → Handshake σ ω → List TlsRecord → Prop
  | last {awaited : Awaited} {handshake : Handshake σ ω} {record : TlsRecord}
      (turned : handshake.turn server send bufferSize awaited record.bytes = (.returned (.ok ()), final)) :
      Concludes server send bufferSize final awaited handshake [record]
  | more {awaited following : Awaited} {handshake after : Handshake σ ω} {record : TlsRecord}
      {later : List TlsRecord}
      (turned : handshake.turn server send bufferSize awaited record.bytes = (.next following, after))
      (ends : Concludes server send bufferSize final following after later) :
      Concludes server send bufferSize final awaited handshake (record :: later)

theorem Concludes.skip (ends : Concludes server send bufferSize final awaited handshake records)
    (later : awaited ≠ .clientHello) {dummies : List TlsRecord}
    (skipped : ∀ dummy ∈ dummies, dummy.contentType = tlsCtChangeCipherSpec) :
    Concludes server send bufferSize final awaited handshake (dummies ++ records) := by
  induction dummies with
  | nil => exact ends
  | cons dummy rest ih =>
    obtain ⟨kind, others⟩ := List.forall_mem_cons.mp skipped
    exact .more (turn_skip later kind) (ih others)

theorem Handshaken.concludes (handshaken : Handshaken server send bufferSize start records final) :
    Concludes server send bufferSize final .clientHello start records := by
  cases handshaken with
  | @direct hello finished _ _ helloed done flown helloKind answered sent skipped finishedKind verified =>
    have last : Concludes server send bufferSize ⟨done, flown⟩ .clientFinished ⟨helloed, flown⟩ [finished] :=
      .last (turn_verify finishedKind verified)
    exact .more (turn_answer nofun helloKind answered sent) (last.skip nofun skipped)
  | @retried hello second finished dummies more _ _ asked helloed done requested flown helloKind refused sentRequest
      skipped secondKind answered sent skippedMore finishedKind verified =>
    have last : Concludes server send bufferSize ⟨done, flown⟩ .clientFinished ⟨helloed, flown⟩ [finished] :=
      .last (turn_verify finishedKind verified)
    have again : Concludes server send bufferSize ⟨done, flown⟩ .secondClientHello ⟨asked, requested⟩
        (second :: (more ++ [finished])) :=
      .more (turn_answer nofun secondKind answered sent) (last.skip nofun skippedMore)
    have whole : hello :: dummies ++ second :: more ++ [finished] =
        hello :: (dummies ++ second :: (more ++ [finished])) := by simp
    rw [whole]
    exact .more (turn_request helloKind refused sentRequest) (again.skip nofun skipped)

variable {rest : Bytes} {stream next : AcceptStream τ σ ω} {label : AcceptLabel τ} {arrived new : List Bytes}

theorem recordBytes_append (before after : List TlsRecord) :
    recordBytes (before ++ after) = recordBytes before ++ recordBytes after := List.flatMap_append

theorem recordBytes_cons (record : TlsRecord) (later : List TlsRecord) :
    recordBytes (record :: later) = record.bytes ++ recordBytes later := rfl

inductive Advances (server : TlsServerHandshake σ) (send : ω → Bytes → Except τ Unit × ω) (bufferSize : Nat)
    (final : Handshake σ ω) (records : List TlsRecord) (arrived : List Bytes) (stream : AcceptStream τ σ ω) : Prop
  | fetching {done later : List TlsRecord} {record : TlsRecord} {awaited : Awaited} {fetch : RecordReader τ Bytes}
      {taken missing : Bytes} (waiting : stream.acceptance = .fetching awaited fetch taken)
      (split : records = done ++ record :: later)
      (ends : Concludes server send bufferSize final awaited stream.handshake (record :: later))
      (here : arrived.flatten = recordBytes done ++ taken ++ stream.incoming.flatten)
      (nonempty : [] ∉ stream.incoming) (cut : record.bytes = taken ++ missing)
      (reads : Reads SessionError.onEnd fetch missing (.ok record.bytes))
  | accepted (returned : stream.acceptance = .returned (.ok ())) (same : stream.handshake = final)
      (here : arrived.flatten = recordBytes records ++ stream.incoming.flatten) (nonempty : [] ∉ stream.incoming)
  | cutOff {error : SessionError τ} {missing : Bytes} (returned : stream.acceptance = .returned (.error error))
      (ended : stream.ending ≠ none) (short : missing ≠ []) (cut : recordBytes records = arrived.flatten ++ missing)

-- The first record is awaited by a fresh fetch.
theorem Concludes.advances {done : List TlsRecord} {incoming : List Bytes} {ending : Option (Ending τ)}
    (ends : Concludes server send bufferSize final awaited handshake records)
    (fits : ∀ record ∈ records, record.bytes.length ≤ bufferSize)
    (here : arrived.flatten = recordBytes done ++ incoming.flatten) (nonempty : [] ∉ incoming) :
    Advances server send bufferSize final (done ++ records) arrived
      ⟨handshake, incoming, ending, AcceptStream.fetching bufferSize awaited⟩ := by
  cases records with
  | nil => cases ends
  | cons record later =>
    exact .fetching rfl rfl ends (by rw [List.append_nil]; exact here) nonempty rfl
      (fetchRecord_reads (fits record List.mem_cons_self))

theorem Advances.poll {done later : List TlsRecord} {fetch : RecordReader τ Bytes} {taken missing : Bytes}
    (arrives : arrived.flatten <+: recordBytes (done ++ record :: later) ++ rest)
    (here : arrived.flatten = recordBytes done ++ taken ++ stream.incoming.flatten)
    (nonempty : [] ∉ stream.incoming) (cut : record.bytes = taken ++ missing)
    (reads : Reads SessionError.onEnd fetch missing (.ok record.bytes)) :
    Resumption.Outcome SessionError.onEnd stream.ending missing (.ok record.bytes) stream.incoming
      (fetch.poll stream.ending stream.incoming) := by
  refine reads.poll stream.ending nonempty ?_
  rw [here, recordBytes_append, recordBytes_cons, cut] at arrives
  simp only [List.append_assoc, List.prefix_append_right_inj] at arrives
  exact (List.prefix_or_prefix_of_prefix arrives (List.prefix_append _ _)).symm

theorem Advances.move (advances : Advances server send bufferSize final records arrived stream)
    (move : Move server send bufferSize stream label next new)
    (arrives : arrived.flatten <+: recordBytes records ++ rest)
    (fits : ∀ record ∈ records, record.bytes.length ≤ bufferSize) :
    Advances server send bufferSize final records (arrived ++ new) next := by
  cases move with
  | arrived filled running =>
    cases advances with
    | fetching waiting split ends here nonempty cut reads =>
      exact .fetching waiting split ends (by simp [here]) (by simp [nonempty, filled.symm]) cut reads
    | accepted returned same here nonempty =>
      exact .accepted returned same (by simp [here]) (by simp [nonempty, filled.symm])
    | cutOff _ ended => exact absurd running ended
  | finished =>
    rw [List.append_nil]
    cases advances with
    | fetching waiting split ends here nonempty cut reads =>
      exact .fetching waiting split ends here nonempty cut reads
    | accepted returned same here nonempty => exact .accepted returned same here nonempty
    | cutOff returned _ short cut => exact .cutOff returned nofun short cut
  | waited waiting polled =>
    rw [List.append_nil]
    cases advances with
    | fetching known split ends here nonempty cut reads =>
      rw [waiting] at known
      cases known
      subst split
      have outcome := Advances.poll arrives here nonempty cut reads
      rw [polled] at outcome
      cases outcome with
      | waiting part reads =>
        exact .fetching rfl rfl ends (by simp [here]) (by simp) (by rw [cut, part, List.append_assoc]) reads
    | accepted returned | cutOff returned =>
      rw [waiting] at returned
      cases returned
  | failed waiting polled =>
    rw [List.append_nil]
    cases advances with
    | @fetching done later _ _ _ _ _ known split ends here nonempty cut reads =>
      rw [waiting] at known
      cases known
      subst split
      have outcome := Advances.poll arrives here nonempty cut reads
      rw [polled] at outcome
      cases outcome with
      | @ended _ missing part short gone =>
        refine .cutOff rfl (by simp [gone]) (List.append_ne_nil_of_left_ne_nil short (recordBytes later)) ?_
        rw [here, recordBytes_append, recordBytes_cons, cut, part]
        simp
    | accepted returned | cutOff returned =>
      rw [waiting] at returned
      cases returned
  | @fetched awaited _ _ _ fetched left waiting polled =>
    rw [List.append_nil]
    cases advances with
    | @fetching done later record _ _ _ _ known split ends here nonempty cut reads =>
      rw [waiting] at known
      cases known
      subst split
      have outcome := Advances.poll arrives here nonempty cut reads
      rw [polled] at outcome
      cases outcome with
      | finished whole filled =>
        have passed : done ++ record :: later = done ++ [record] ++ later := by simp
        have now : arrived.flatten = recordBytes (done ++ [record]) ++ left.flatten := by
          rw [here, whole, recordBytes_snoc, cut]
          simp
        rw [passed]
        cases ends with
        | last turned =>
          rw [turned]
          exact .accepted rfl rfl (by rw [List.append_nil]; exact now) filled
        | more turned ends =>
          rw [turned]
          exact ends.advances (fun record member => fits record (by simp [member])) now filled
    | accepted returned | cutOff returned =>
      rw [waiting] at returned
      cases returned

theorem run_advances {labels : List (AcceptLabel τ)}
    (run : Run (AcceptStream.step server send bufferSize) Anything (.new bufferSize start) labels arrived stream)
    (handshaken : Handshaken server send bufferSize start records final)
    (fits : ∀ record ∈ records, record.bytes.length ≤ bufferSize)
    (arrives : arrived.flatten <+: recordBytes records ++ rest) :
    Advances server send bufferSize final records arrived stream := by
  revert arrives
  refine run.invariant (P := fun arrived stream => arrived.flatten <+: recordBytes records ++ rest →
    Advances server send bufferSize final records arrived stream) ?_ ?_
  · intro _
    have first : Advances server send bufferSize final ([] ++ records) [] (.new bufferSize start) :=
      handshaken.concludes.advances fits rfl (by simp)
    exact first
  · intro arrived stream label next new held _ taken arrives
    rw [List.flatten_append] at arrives
    have before := (List.prefix_append _ _).trans arrives
    exact (held before).move (AcceptStream.step_move taken) before fits

theorem step_fetched {fetch : RecordReader τ Bytes} {taken more fetched : Bytes} {left : List Bytes}
    (waiting : stream.acceptance = .fetching awaited fetch taken)
    (polled : fetch.poll stream.ending stream.incoming = ⟨.done fetched, more, left⟩) :
    AcceptStream.step server send bufferSize stream .poll =
      some (({ stream with incoming := left } : AcceptStream τ σ ω).resume bufferSize
        (stream.handshake.turn server send bufferSize awaited fetched), []) := by
  simp only [AcceptStream.step, waiting, polled]

theorem Concludes.completes {later : List TlsRecord} {fetch : RecordReader τ Bytes} {taken missing : Bytes}
    (ends : Concludes server send bufferSize final awaited stream.handshake (record :: later))
    (waiting : stream.acceptance = .fetching awaited fetch taken)
    (reads : Reads SessionError.onEnd fetch missing (.ok record.bytes))
    (whole : stream.incoming.flatten = missing ++ (recordBytes later ++ rest)) (nonempty : [] ∉ stream.incoming)
    (fits : ∀ record ∈ later, record.bytes.length ≤ bufferSize) :
    ∃ completed, exec (AcceptStream.step server send bufferSize) Anything stream
        (.replicate (later.length + 1) .poll) = some (completed, []) ∧
      completed.acceptance = .returned (.ok ()) ∧ completed.handshake = final ∧
        completed.incoming.flatten = rest := by
  induction later generalizing stream record awaited fetch taken missing with
  | nil =>
    obtain ⟨left, polled, gone, _⟩ := reads.poll_whole stream.ending nonempty whole
    have stepped : AcceptStream.step server send bufferSize stream .poll = _ := step_fetched waiting polled
    cases ends with
    | last turned =>
      rw [turned] at stepped
      exact ⟨_, exec_cons trivial stepped rfl, rfl, rfl, gone⟩
    | more turned ends => cases ends
  | cons following later ih =>
    obtain ⟨left, polled, gone, filled⟩ := reads.poll_whole stream.ending nonempty whole
    have stepped : AcceptStream.step server send bufferSize stream .poll = _ := step_fetched waiting polled
    cases ends with
    | more turned ends =>
      rw [turned] at stepped
      obtain ⟨small, others⟩ := List.forall_mem_cons.mp fits
      rw [recordBytes_cons, List.append_assoc] at gone
      obtain ⟨completed, executed, ok⟩ := @ih following _ ⟨_, left, stream.ending, AcceptStream.fetching bufferSize _⟩
        _ _ _ ends rfl (fetchRecord_reads small) gone filled others
      exact ⟨completed, exec_cons trivial stepped executed, ok⟩

theorem handshake_completes {labels : List (AcceptLabel τ)}
    (run : Run (AcceptStream.step server send bufferSize) Anything (.new bufferSize start) labels arrived stream)
    (handshaken : Handshaken server send bufferSize start records final)
    (fits : ∀ record ∈ records, record.bytes.length ≤ bufferSize)
    (arrives : arrived.flatten = recordBytes records ++ rest) :
    ∃ polls ≤ records.length, ∃ completed, exec (AcceptStream.step server send bufferSize) Anything stream
        (.replicate polls .poll) = some (completed, []) ∧
      completed.acceptance = .returned (.ok ()) ∧ completed.handshake = final ∧
        completed.incoming.flatten = rest := by
  cases run_advances run handshaken fits ⟨[], by rw [List.append_nil]; exact arrives⟩ with
  | @fetching done later record _ _ taken missing waiting split ends here nonempty cut reads =>
    subst split
    have whole : stream.incoming.flatten = missing ++ (recordBytes later ++ rest) := by
      rw [here, recordBytes_append, recordBytes_cons, cut] at arrives
      simpa using arrives
    refine ⟨later.length + 1, by simp, ends.completes waiting reads whole nonempty fun record member => fits record ?_⟩
    simp [member]
  | accepted returned same here =>
    exact ⟨0, Nat.zero_le _, stream, rfl, returned, same, List.append_cancel_left (here.symm.trans arrives)⟩
  | cutOff _ _ short cut =>
    rw [arrives] at cut
    have lengths := congrArg List.length cut
    have missing := List.length_pos_iff.mpr short
    simp only [List.length_append] at lengths
    omega

end

theorem short_of_fits (body : Text 64) : body.items.length < 65536 := by
  have fits := body.fits
  omega

def handshakeRecord (contentType : UInt8) (body : Text 64) : TlsRecord :=
  ⟨contentType, 3, 3, body.items, short_of_fits body⟩

def retryRecords : List TlsRecord :=
  [handshakeRecord tlsCtHandshake .empty, handshakeRecord tlsCtChangeCipherSpec (.truncate [1]),
    handshakeRecord tlsCtHandshake (.truncate [1, 0]), handshakeRecord tlsCtChangeCipherSpec (.truncate [1]),
    handshakeRecord tlsCtApplicationData (.truncate [20, 0])]

-- A transport that keeps what is sent.
def keep (sent bytes : Bytes) : Except Unit Unit × Bytes := (.ok (), sent ++ bytes)

theorem retryRecords_handshaken : Handshaken nullHandshake keep 64 ⟨(), []⟩ retryRecords ⟨(), [1, 2]⟩ :=
  .retried rfl rfl rfl (List.forall_mem_singleton.mpr rfl) rfl rfl rfl (List.forall_mem_singleton.mpr rfl) rfl rfl

-- The first chunk ends within the second record. A byte follows the last one.
def retryArrives : List (AcceptLabel Unit) :=
  [.poll, .arrive ((recordBytes retryRecords).take 9), .poll, .arrive ((recordBytes retryRecords).drop 9 ++ [23])]

def Acceptance.isOk : Acceptance Unit → Bool
  | .returned (.ok ()) => true
  | _ => false

theorem Acceptance.eq_ok {acceptance : Acceptance Unit} (ok : acceptance.isOk = true) :
    acceptance = .returned (.ok ()) := by
  unfold isOk at ok
  split at ok
  · rfl
  · cases ok

theorem accept_ok_retried :
    ∃ (stream : AcceptStream Unit Unit Bytes) (arrived : List Bytes),
      Run (AcceptStream.step nullHandshake keep 64) Anything (.new 64 ⟨(), []⟩)
        (retryArrives ++ [.poll, .poll, .poll, .poll]) arrived stream ∧
      stream.acceptance = .returned (.ok ()) ∧
      ∃ records, Handshaken nullHandshake keep 64 ⟨(), []⟩ records stream.handshake ∧
        arrived.flatten = recordBytes records ++ stream.incoming.flatten := by
  obtain ⟨stream, arrived, run, tested⟩ : ∃ (stream : AcceptStream Unit Unit Bytes) (arrived : List Bytes),
      Run (AcceptStream.step nullHandshake keep 64) Anything (.new 64 ⟨(), []⟩)
        (retryArrives ++ [.poll, .poll, .poll, .poll]) arrived stream ∧ stream.acceptance.isOk = true :=
    Execution.exists_run (by decide +kernel)
  have ok := Acceptance.eq_ok tested
  exact ⟨stream, arrived, run, ok, accept_ok_handshaken run ok⟩

theorem retry_completes :
    ∃ (stream : AcceptStream Unit Unit Bytes) (arrived : List Bytes),
      Run (AcceptStream.step nullHandshake keep 64) Anything (.new 64 ⟨(), []⟩) retryArrives arrived stream ∧
      ∃ polls ≤ 5, ∃ completed, exec (AcceptStream.step nullHandshake keep 64) Anything stream
          (.replicate polls .poll) = some (completed, []) ∧
        completed.acceptance = .returned (.ok ()) ∧ completed.handshake = ⟨(), [1, 2]⟩ ∧
          completed.incoming.flatten = [23] := by
  obtain ⟨stream, arrived, run, tested⟩ : ∃ (stream : AcceptStream Unit Unit Bytes) (arrived : List Bytes),
      Run (AcceptStream.step nullHandshake keep 64) Anything (.new 64 ⟨(), []⟩) retryArrives arrived stream ∧
        decide (arrived.flatten = recordBytes retryRecords ++ [23]) = true :=
    Execution.exists_run (by decide +kernel)
  exact ⟨stream, arrived, run, handshake_completes run retryRecords_handshaken (by decide +kernel)
    (of_decide_eq_true tested)⟩

end PicoBroker

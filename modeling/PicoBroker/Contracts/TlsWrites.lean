import PicoBroker.Tls.Session

set_option autoImplicit false

namespace PicoBroker

variable {τ σ ω : Type} {bufferSize : Nat}

-- A text cut into pieces of `limit` bytes, the last one excepted.
inductive Fragments (limit : Nat) : Bytes → List Bytes → Prop
  | nil : Fragments limit [] []
  | cons {text : Bytes} {pieces : List Bytes} (more : text ≠ []) (rest : Fragments limit (text.drop limit) pieces) :
      Fragments limit text (text.take limit :: pieces)

namespace Fragments

variable {limit : Nat} {text : Bytes} {pieces : List Bytes}

theorem flatten (fragments : Fragments limit text pieces) : pieces.flatten = text := by
  induction fragments with
  | nil => rfl
  | cons _ _ ih => simp [ih]

theorem nonempty (fragments : Fragments limit text pieces) (positive : 0 < limit) : ∀ piece ∈ pieces, piece ≠ [] := by
  induction fragments with
  | nil => simp
  | cons more _ ih => simp_all [Nat.pos_iff_ne_zero]

theorem length_le (fragments : Fragments limit text pieces) :
    ∀ piece ∈ pieces, piece.length ≤ min limit text.length := by
  induction fragments with
  | nil => simp
  | cons _ _ ih =>
    intro piece member
    rcases List.mem_cons.mp member with rfl | later
    · simp
    · have shorter := ih piece later
      simp only [List.length_drop] at shorter
      omega

-- Every piece takes at least one byte of the text.
theorem count_le (fragments : Fragments limit text pieces) (positive : 0 < limit) : pieces.length ≤ text.length := by
  induction fragments with
  | nil => simp
  | cons more _ ih =>
    have some := List.length_pos_iff.mpr more
    simp only [List.length_drop, List.length_cons] at ih ⊢
    omega

-- The first piece is as long as any can be.
theorem exists_length (fragments : Fragments limit text pieces) (more : text ≠ []) :
    ∃ piece ∈ pieces, piece.length = min limit text.length := by
  cases fragments with
  | nil => exact absurd rfl more
  | cons => exact ⟨_, List.mem_cons_self, List.length_take⟩

end Fragments

section

variable {server : TlsServerSession σ} {send : ω → Bytes → Except τ Unit × ω}

theorem write_eq_ok {outgoing next : Outgoing σ ω bufferSize} {buf : Bytes} {count : Nat}
    (written : outgoing.write server send buf = (.ok count, next)) :
    count = min buf.length (bufferSize - 22) ∧ next.encrypted = outgoing.encrypted ++ [buf.take count] := by
  unfold Outgoing.write at written
  dsimp only at written
  split at written
  · cases written
  · split at written
    · cases written
    · split at written
      · cases written
      · split at written
        · cases written
        · split at written
          · cases written
          · cases written
            exact ⟨rfl, rfl⟩

theorem transport_write_fragments {outgoing final : Outgoing σ ω bufferSize} {buf : Bytes}
    (written : TlsTransport.write (Outgoing.write server send) Outgoing.flush outgoing buf = (.ok (), final)) :
    ∃ plaintexts, final.encrypted = outgoing.encrypted ++ plaintexts ∧ Fragments (bufferSize - 22) buf plaintexts := by
  induction length : buf.length using Nat.strongRecOn generalizing buf outgoing with
  | _ n ih =>
    rw [TlsTransport.write] at written
    split at written
    · next empty =>
      cases written
      exact ⟨[], by simp, empty ▸ .nil⟩
    · next more =>
      split at written
      · cases written
      · cases written
      · next count next chunk =>
        obtain ⟨counted, passed⟩ : count + 1 = _ ∧ _ := write_eq_ok chunk
        have shorter : (buf.drop (count + 1)).length < n := by
          have positive := List.length_pos_iff.mpr more
          simp only [List.length_drop]
          omega
        obtain ⟨plaintexts, added, rest⟩ := ih _ shorter written rfl
        -- The count is cut to the length of the text, which makes no difference to what is taken.
        rw [counted, Nat.min_comm, ← List.take_eq_take_min] at passed
        rw [counted, Nat.min_comm, ← List.drop_eq_drop_min] at rest
        exact ⟨_, by rw [added, passed, List.append_assoc, List.singleton_append], .cons more rest⟩

structure Fragmented (bufferSize : Nat) (buf : Bytes) (plaintexts : List Bytes) : Prop where
  turns : plaintexts.length ≤ buf.length
  whole : plaintexts.flatten = buf
  nonempty : ∀ plaintext ∈ plaintexts, plaintext ≠ []
  bounded : ∀ plaintext ∈ plaintexts, plaintext.length ≤ min (2 ^ 14) (bufferSize - 22)

theorem Fragments.fragmented_iff {buf : Bytes} {plaintexts : List Bytes} (large : 22 < bufferSize)
    (fragments : Fragments (bufferSize - 22) buf plaintexts) :
    Fragmented bufferSize buf plaintexts ↔ bufferSize - 22 ≤ 2 ^ 14 ∨ buf.length ≤ 2 ^ 14 := by
  constructor
  · intro fragmented
    by_cases empty : buf = []
    · simp [empty]
    · obtain ⟨piece, member, longest⟩ := fragments.exists_length empty
      have bounded := fragmented.bounded piece member
      omega
  · intro short
    have positive : 0 < bufferSize - 22 := by omega
    refine ⟨fragments.count_le positive, fragments.flatten, fragments.nonempty positive, fun plaintext member => ?_⟩
    have bounded := fragments.length_le plaintext member
    omega

theorem write_fragmented_iff (large : 22 < bufferSize) {outgoing final : Outgoing σ ω bufferSize} {buf : Bytes}
    (written : TlsTransport.write (Outgoing.write server send) Outgoing.flush outgoing buf = (.ok (), final)) :
    (∃ plaintexts, final.encrypted = outgoing.encrypted ++ plaintexts ∧ Fragmented bufferSize buf plaintexts) ↔
      bufferSize - 22 ≤ 2 ^ 14 ∨ buf.length ≤ 2 ^ 14 := by
  obtain ⟨plaintexts, added, fragments⟩ := transport_write_fragments written
  rw [← fragments.fragmented_iff large]
  constructor
  · rintro ⟨others, same, fragmented⟩
    rw [added, List.append_cancel_left_eq] at same
    rwa [same]
  · intro fragmented
    exact ⟨plaintexts, added, fragmented⟩

-- Every plaintext that leaves room for its record is encrypted, and every record is sent.
structure Accepting (server : TlsServerSession σ) (send : ω → Bytes → Except τ Unit × ω) (bufferSize : Nat) :
    Prop where
  encrypts : ∀ inner plaintext, plaintext.length + 22 ≤ bufferSize →
    ∃ record next, server.encryptAppData bufferSize inner plaintext = (.ok record, next)
  sends : ∀ transport record, ∃ next, send transport record = (.ok (), next)

def Outgoing.Established (outgoing : Outgoing σ ω bufferSize) : Prop :=
  outgoing.session.handshakeDone = true ∧ outgoing.session.closed = false

theorem Accepting.write (accepting : Accepting server send bufferSize) (large : 22 < bufferSize)
    {outgoing : Outgoing σ ω bufferSize} (established : outgoing.Established) {buf : Bytes} (more : buf ≠ []) :
    ∃ count next, outgoing.write server send buf = (.ok (count + 1), next) ∧ next.Established := by
  have positive := List.length_pos_iff.mpr more
  obtain ⟨count, chunk⟩ : ∃ count, Outgoing.chunkLen bufferSize buf = count + 1 :=
    Nat.exists_eq_succ_of_ne_zero (by show min buf.length (bufferSize - 22) ≠ 0; omega)
  have room : (buf.take (count + 1)).length + 22 ≤ bufferSize := by
    have bounded : min buf.length (bufferSize - 22) = count + 1 := chunk
    rw [List.length_take]
    omega
  obtain ⟨record, inner, encrypted⟩ := accepting.encrypts outgoing.session.inner _ room
  obtain ⟨transport, sent⟩ := accepting.sends outgoing.transport record.items
  refine ⟨count, ⟨{ outgoing.session with inner := inner }, transport, outgoing.encrypted ++ [buf.take (count + 1)]⟩,
    ?_, established⟩
  simp [Outgoing.write, established.1, established.2, chunk, encrypted, sent]

theorem Accepting.transport_write (accepting : Accepting server send bufferSize) (large : 22 < bufferSize)
    {outgoing : Outgoing σ ω bufferSize} (established : outgoing.Established) (buf : Bytes) :
    ∃ final, TlsTransport.write (Outgoing.write server send) Outgoing.flush outgoing buf = (.ok (), final) := by
  induction length : buf.length using Nat.strongRecOn generalizing buf outgoing with
  | _ n ih =>
    rw [TlsTransport.write]
    split
    · exact ⟨outgoing, rfl⟩
    · next more =>
      obtain ⟨count, next, written, still⟩ := accepting.write large established more
      rw [written]
      refine ih _ ?_ still (buf.drop (count + 1)) rfl
      have positive := List.length_pos_iff.mpr more
      simp only [List.length_drop]
      omega

end

def sendAll (_ : Unit) (_ : Bytes) : Except Unit Unit × Unit := (.ok (), ())

theorem nullCipher_accepting (small : bufferSize ≤ 65536) : Accepting nullCipher sendAll bufferSize where
  encrypts _ plaintext room := by
    have body : (innerPlaintext tlsCtApplicationData plaintext).length = plaintext.length + 17 := by
      simp [innerPlaintext]
    have fits : ([tlsCtApplicationData, 3, 3] ++ Fields.bigEndian 2 (plaintext.length + 17) ++
        innerPlaintext tlsCtApplicationData plaintext).length ≤ bufferSize := by
      simp only [List.length_append, Fields.length_bigEndian, body, List.length_cons, List.length_nil]
      omega
    refine ⟨⟨_, fits⟩, (), ?_⟩
    simp only [nullCipher, sealRecord, body, if_pos (show plaintext.length + 17 < 65536 by omega), Bounded.ofList?,
      dif_pos fits, Option.elim_some]
  sends _ _ := ⟨(), rfl⟩

def establishedSession (bufferSize : Nat) : Outgoing Unit Unit bufferSize := ⟨⟨(), .new, true, false⟩, (), []⟩

theorem establishedSession_write (bufferSize : Nat) (large : 22 < bufferSize) (small : bufferSize ≤ 65536)
    (buf : Bytes) :
    ∃ final, TlsTransport.write (Outgoing.write nullCipher sendAll) Outgoing.flush
      (establishedSession bufferSize) buf = (.ok (), final) :=
  (nullCipher_accepting small).transport_write large ⟨rfl, rfl⟩ buf

-- Two bytes of plaintext to a record.
theorem write_fragmented_of_three_bytes :
    ∃ final plaintexts, TlsTransport.write (Outgoing.write nullCipher sendAll) Outgoing.flush
        (establishedSession 24) [1, 2, 3] = (.ok (), final) ∧
      final.encrypted = (establishedSession 24).encrypted ++ plaintexts ∧ Fragmented 24 [1, 2, 3] plaintexts := by
  obtain ⟨final, written⟩ := establishedSession_write 24 (by decide) (by decide) [1, 2, 3]
  obtain ⟨plaintexts, added, fragmented⟩ := (write_fragmented_iff (by decide) written).mpr (.inl (by decide))
  exact ⟨final, plaintexts, written, added, fragmented⟩

-- With a buffer of 20000 bytes, 16385 bytes go into one record.
theorem oversized_fragment :
    ∃ final, TlsTransport.write (Outgoing.write nullCipher sendAll) Outgoing.flush (establishedSession 20000)
        (List.replicate 16385 0) = (.ok (), final) ∧
      ∃ plaintext ∈ final.encrypted, min (2 ^ 14) (20000 - 22) < plaintext.length := by
  obtain ⟨final, written⟩ := establishedSession_write 20000 (by decide) (by decide) (List.replicate 16385 0)
  obtain ⟨plaintexts, added, fragments⟩ := transport_write_fragments written
  have more : List.replicate 16385 (0 : UInt8) ≠ [] :=
    List.length_pos_iff.mp (by rw [List.length_replicate]; decide)
  obtain ⟨piece, member, longest⟩ := fragments.exists_length more
  refine ⟨final, written, piece, added ▸ List.mem_append_right _ member, ?_⟩
  rw [longest, List.length_replicate]
  decide

end PicoBroker

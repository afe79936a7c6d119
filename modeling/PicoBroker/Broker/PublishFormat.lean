import PicoBroker.Broker.Mqttrs
import Mathlib.Tactic.SplitIfs

set_option autoImplicit false

namespace PicoBroker

def publishLength (publish : Publish) : Nat :=
  let remaining := 2 + publish.topicName.length + (if publish.qospid.pid.isSome then 2 else 0) +
    publish.payload.length
  1 + (if remaining < 128 then 1 else if remaining < 16384 then 2 else if remaining < 2097152 then 3 else 4) +
    remaining

theorem publishBody_length (publish : Publish) :
    (Mqtt311.publishBody publish).length = 2 + publish.topicName.length +
      (if publish.qospid.pid.isSome then 2 else 0) + publish.payload.length := by
  cases numbered : publish.qospid.pid <;> simp [Mqtt311.publishBody, Mqtt311.word, numbered] <;> omega

theorem mqtt311_frame_length (publish : Publish) (bytes : Bytes)
    (framed : Mqtt311.frame (.publish publish) = some bytes) : bytes.length = publishLength publish := by
  cases framed
  simp only [List.length_cons, List.length_append, publishBody_length, Mqtt311.lengthField, publishLength]
  split_ifs <;> simp only [List.length_cons, List.length_nil] <;> omega

def utf8 (text : String) : Bytes := text.toUTF8.data.toList

-- What is assumed of `mqttrs`, for frames of less than 64 KiB.
structure FollowsMqtt311 (codec : Codec) : Prop where
  writes : ∀ publish room, room < 65536 →
    codec.encodeSlice (.publish publish) room = Mqtt311.encodeSlice (.publish publish) room
  reads : ∀ publish topic frame, publish.topicName = utf8 topic → Mqtt311.frame (.publish publish) = some frame →
    frame.length < 65536 → codec.decodeSlice frame = .ok (some (.publish publish))

namespace FollowsMqtt311

variable {codec : Codec} {publish : Publish} {room : Nat}

theorem encodes_iff (follows : FollowsMqtt311 codec) (small : room < 65536) {bytes : Bytes} :
    codec.encodeSlice (.publish publish) room = some bytes ↔
      Mqtt311.frame (.publish publish) = some bytes ∧ bytes.length ≤ room := by
  rw [follows.writes publish room small, Mqtt311.encodeSlice, Option.filter_eq_some_iff, decide_eq_true_eq]

theorem fits (follows : FollowsMqtt311 codec) (publish : Publish) (small : room < 65536) :
    (∃ bytes, codec.encodeSlice (.publish publish) room = some bytes) ↔ publishLength publish ≤ room := by
  obtain ⟨frame, framed⟩ : ∃ frame, Mqtt311.frame (.publish publish) = some frame := ⟨_, rfl⟩
  rw [← mqtt311_frame_length publish frame framed]
  simp [follows.encodes_iff small, framed]

end FollowsMqtt311

namespace Mqtt311

theorem number_word {value : Nat} (small : value < 65536) :
    number (UInt8.ofNat (value / 256)) (UInt8.ofNat (value % 256)) = value := by
  simp only [number, UInt8.toNat_ofNat']
  omega

theorem splitText_word (text rest : Bytes) (short : text.length < 65536) :
    splitText (word text.length ++ text ++ rest) = some (text, rest) := by
  simp [splitText, word, number_word short]

theorem splitPid_word (pid : Pid) (rest : Bytes) : splitPid (word pid.value ++ rest) = some (pid, rest) := by
  simp [splitPid, word, number_word pid.bounded, Pid.tryFrom, pid.positive, pid.bounded]

-- All bytes of the length but the last have their top bit set.
theorem dropWhile_continued (digit : Nat) (rest : Bytes) :
    (UInt8.ofNat (digit % 128 + 128) :: rest).dropWhile (fun byte => decide (128 ≤ byte.toNat)) =
      rest.dropWhile fun byte => decide (128 ≤ byte.toNat) := by
  have continued : 128 ≤ (UInt8.ofNat (digit % 128 + 128)).toNat := by
    rw [UInt8.toNat_ofNat']
    omega
  exact List.dropWhile_cons_of_pos (by simpa only [decide_eq_true_eq] using continued)

theorem dropWhile_last {digit : Nat} (small : digit < 128) (rest : Bytes) :
    (UInt8.ofNat digit :: rest).dropWhile (fun byte => decide (128 ≤ byte.toNat)) = UInt8.ofNat digit :: rest := by
  have last : ¬ 128 ≤ (UInt8.ofNat digit).toNat := by
    rw [UInt8.toNat_ofNat']
    omega
  exact List.dropWhile_cons_of_neg (by simpa only [decide_eq_true_eq] using last)

theorem dropWhile_lengthField {length : Nat} (small : length < 268435456) (body : Bytes) :
    ((lengthField length ++ body).dropWhile fun byte => decide (128 ≤ byte.toNat)).tail = body := by
  unfold lengthField
  split_ifs with one two three
  · simp only [List.cons_append, List.nil_append, dropWhile_last one, List.tail_cons]
  · simp only [List.cons_append, List.nil_append, dropWhile_continued,
      dropWhile_last (show length / 128 < 128 by omega), List.tail_cons]
  · simp only [List.cons_append, List.nil_append, dropWhile_continued,
      dropWhile_last (show length / 16384 < 128 by omega), List.tail_cons]
  · simp only [List.cons_append, List.nil_append, dropWhile_continued,
      dropWhile_last (show length / 2097152 < 128 by omega), List.tail_cons]

theorem publishHeader_flags (publish : Publish) :
    (publishHeader publish % 16).testBit 3 = publish.dup ∧ (publishHeader publish % 16).testBit 0 = publish.retain ∧
      decodeQos (publishHeader publish % 16 / 2 % 4) = some publish.qospid.qos := by
  rcases publish with ⟨dup, qospid, retain, _, _⟩
  cases qospid <;> cases dup <;> cases retain <;> simp [publishHeader, decodeQos, QosPid.qos, Nat.testBit]

theorem publishHeader_kind (publish : Publish) :
    publishHeader publish < 256 ∧ publishHeader publish / 16 = 3 := by
  rcases publish with ⟨dup, qospid, retain, _, _⟩
  cases qospid <;> cases dup <;> cases retain <;> simp [publishHeader]

theorem decodePublish_body (publish : Publish) (short : publish.topicName.length < 65536) :
    decodePublish (publishHeader publish % 16) (publishBody publish) = some publish := by
  obtain ⟨dup, retain, level⟩ := publishHeader_flags publish
  unfold decodePublish publishBody
  rw [List.append_assoc, splitText_word _ _ short]
  simp only [Option.bind_eq_bind, Option.bind_some, level, dup, retain]
  rcases publish with ⟨dup, qospid, retain, topicName, payload⟩
  cases qospid with
  | atMostOnce => rfl
  | atLeastOnce pid | exactlyOnce pid =>
    simp only [QosPid.qos, QosPid.pid, Option.elim_some, splitPid_word, Option.bind_some]

theorem decodeSlice_frame {publish : Publish} {frame : Bytes} (framed : Mqtt311.frame (.publish publish) = some frame)
    (short : frame.length < 65536) : decodeSlice frame = .ok (some (.publish publish)) := by
  obtain ⟨byte, kind⟩ := publishHeader_kind publish
  have header : (UInt8.ofNat (publishHeader publish)).toNat = publishHeader publish := by
    rw [UInt8.toNat_ofNat', Nat.mod_eq_of_lt byte]
  cases framed
  simp only [List.length_cons, List.length_append] at short
  have topic := publishBody_length publish
  have body : ((lengthField (publishBody publish).length ++ publishBody publish).dropWhile fun byte =>
      decide (128 ≤ byte.toNat)).tail = publishBody publish := dropWhile_lengthField (by omega) _
  simp only [decodeSlice, header, kind, body, decodePublish_body publish (by omega), Option.map_some]

end Mqtt311

theorem mqtt311_followsMqtt311 : FollowsMqtt311 Mqtt311.codec where
  writes _ _ _ := rfl
  reads _ _ _ _ framed short := Mqtt311.decodeSlice_frame framed short

end PicoBroker

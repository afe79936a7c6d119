import PicoBroker.Broker.Publish
import PicoBroker.Broker.PublishFormat

set_option autoImplicit false

namespace PicoBroker

structure Admitted (topic : String) (payload : Bytes) (qos : QoS) (packetId : Nat) : Prop where
  named : 1 ≤ (utf8 topic).length
  topicFits : (utf8 topic).length ≤ 128
  payloadFits : payload.length ≤ 512
  level : qos = .atMostOnce ∨ qos = .atLeastOnce
  numbered : 0 < packetId
  bounded : packetId < 65536

def ReadsBack (codec : Codec) (topic : String) (payload : Bytes) (qos : QoS) (retain : Bool) (packetId : Nat) :
    Prop :=
  ∃ frame publish, encodePublish codec (utf8 topic) payload qos retain packetId = .ok frame ∧
    codec.decodeSlice frame.items = .ok (some (.publish publish)) ∧
    publish.topicName = utf8 topic ∧ publish.payload = payload ∧ publish.qospid.qos = qos ∧
    publish.retain = retain ∧ publish.dup = false ∧
    publish.qospid.pid.map Pid.value = if qos = .atMostOnce then none else some packetId

section

variable {codec : Codec} {topic : String} {payload : Bytes} {qos : QoS} {retain : Bool} {packetId : Nat}

theorem Admitted.qospid (admitted : Admitted topic payload qos packetId) :
    ∃ qospid, qospidFor qos packetId = some qospid ∧ qospid.qos = qos ∧
      qospid.pid.map Pid.value = if qos = .atMostOnce then none else some packetId := by
  have converted : Pid.tryFrom packetId = some ⟨packetId, admitted.numbered, admitted.bounded⟩ :=
    dif_pos ⟨admitted.numbered, admitted.bounded⟩
  rcases admitted.level with rfl | rfl
  · exact ⟨.atMostOnce, rfl, rfl, rfl⟩
  · exact ⟨.atLeastOnce ⟨packetId, admitted.numbered, admitted.bounded⟩, by simp [qospidFor, converted], rfl, rfl⟩

theorem encodePublish_eq_ok (follows : FollowsMqtt311 codec) {topic : Bytes} {qospid : QosPid}
    (converted : qospidFor qos packetId = some qospid) {frame : Text maxOutboundFrameSize} :
    encodePublish codec topic payload qos retain packetId = .ok frame ↔
      Mqtt311.frame (.publish ⟨false, qospid, retain, topic, payload⟩) = some frame.items := by
  obtain ⟨bytes, framed⟩ : ∃ bytes, Mqtt311.frame (.publish ⟨false, qospid, retain, topic, payload⟩) = some bytes :=
    ⟨_, rfl⟩
  simp only [encodePublish, converted, follows.writes _ maxOutboundFrameSize (by decide), Mqtt311.encodeSlice, framed]
  by_cases fits : bytes.length ≤ maxOutboundFrameSize
  · have bounded : (Bounded.ofList? bytes : Option (Text maxOutboundFrameSize)) = some ⟨bytes, fits⟩ :=
      Bounded.ofList?_eq_some.mpr rfl
    simp [Option.filter, fits, bounded, Bounded.ext_iff]
  · have different : bytes ≠ frame.items := by
      rintro rfl
      exact fits frame.fits
    simp [Option.filter, fits, different]

-- The length field takes two bytes well before the buffer is full.
theorem publishLength_le_iff (publish : Publish) :
    publishLength publish ≤ maxOutboundFrameSize ↔
      publish.topicName.length + publish.payload.length + (if publish.qospid.pid.isSome then 2 else 0) ≤ 187 := by
  simp only [publishLength, maxOutboundFrameSize]
  split_ifs <;> omega

theorem qospidFor_pid_isSome {qospid : QosPid} (converted : qospidFor qos packetId = some qospid) :
    qospid.pid.isSome = true ↔ qos ≠ .atMostOnce := by
  cases qos with
  | atMostOnce =>
    cases converted
    simp [QosPid.pid]
  | atLeastOnce | exactlyOnce =>
    obtain ⟨pid, _, rfl⟩ := Option.map_eq_some_iff.mp converted
    simp [QosPid.pid]

theorem encodePublish_ok_iff (follows : FollowsMqtt311 codec) {topic : Bytes} {qospid : QosPid}
    (converted : qospidFor qos packetId = some qospid) :
    (∃ frame, encodePublish codec topic payload qos retain packetId = .ok frame) ↔
      topic.length + payload.length + (if qos = .atMostOnce then 0 else 2) ≤ 187 := by
  obtain ⟨bytes, framed⟩ : ∃ bytes, Mqtt311.frame (.publish ⟨false, qospid, retain, topic, payload⟩) = some bytes :=
    ⟨_, rfl⟩
  have size := publishLength_le_iff ⟨false, qospid, retain, topic, payload⟩
  have width : (if qospid.pid.isSome = true then 2 else 0) = if qos = .atMostOnce then 0 else 2 := by
    by_cases zero : qos = .atMostOnce <;> simp [qospidFor_pid_isSome converted, zero]
  rw [← mqtt311_frame_length _ bytes framed, width] at size
  rw [← size]
  constructor
  · rintro ⟨frame, encoded⟩
    have same := framed.symm.trans ((encodePublish_eq_ok follows converted).mp encoded)
    rw [Option.some.inj same]
    exact frame.fits
  · intro fits
    exact ⟨⟨bytes, fits⟩, (encodePublish_eq_ok follows converted).mpr framed⟩

end

theorem encodePublish_readsBack_iff {codec : Codec} {topic : String} {payload : Bytes} {qos : QoS} {packetId : Nat}
    (follows : FollowsMqtt311 codec) (admitted : Admitted topic payload qos packetId) (retain : Bool) :
    ReadsBack codec topic payload qos retain packetId ↔
      (utf8 topic).length + payload.length + (if qos = .atMostOnce then 0 else 2) ≤ 187 := by
  obtain ⟨qospid, converted, level, numbered⟩ := admitted.qospid
  rw [← encodePublish_ok_iff follows converted]
  constructor
  · rintro ⟨frame, _, encoded, _⟩
    exact ⟨frame, encoded⟩
  · rintro ⟨frame, encoded⟩
    have framed := (encodePublish_eq_ok follows converted).mp encoded
    have short : frame.items.length < 65536 := Nat.lt_of_le_of_lt frame.fits (by decide)
    exact ⟨frame, _, encoded, follows.reads _ topic frame.items rfl framed short, rfl, rfl, level, rfl, rfl, numbered⟩

theorem encodePublish_readsBack_iff_largest :
    ReadsBack Mqtt311.codec "t" (List.replicate 184 0) .atLeastOnce true 7 :=
  (encodePublish_readsBack_iff mqtt311_followsMqtt311
    ⟨by decide, by decide, by decide +kernel, .inr rfl, by decide, by decide⟩ true).mpr (by decide +kernel)

-- One byte of topic and 187 of payload.
theorem admitted_undeliverable :
    Admitted "t" (List.replicate 187 0) .atMostOnce 1 ∧
      ¬ ReadsBack Mqtt311.codec "t" (List.replicate 187 0) .atMostOnce false 1 := by
  refine ⟨⟨by decide, by decide, by decide +kernel, .inl rfl, by decide, by decide⟩, ?_⟩
  rintro ⟨frame, _, encoded, _⟩
  have refused : encodePublish Mqtt311.codec (utf8 "t") (List.replicate 187 0) .atMostOnce false 1 =
      .error .payloadTooLarge := by decide +kernel
  rw [refused] at encoded
  cases encoded

end PicoBroker

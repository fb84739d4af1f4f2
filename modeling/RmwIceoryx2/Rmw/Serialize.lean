import RmwIceoryx2.Message.TypeSupport

namespace RmwIceoryx2.Rmw

open RmwIceoryx2.Common RmwIceoryx2.Runtime RmwIceoryx2.Message

/-- `rmw_serialized_message_t`; `buffer` is the memory its pointer refers to. -/
structure SerializedMessage where
  buffer : Bytes
  bufferLength : ℕ
  bufferCapacity : ℕ
  deriving DecidableEq, Repr

variable {M : Type}

def fastrtpsCallbacks (typeSupport : TypeSupport M) : Except (Failure RmwRet) (Callbacks M) :=
  match typeSupport.fastrtpsCpp with
  | none => .error ⟨.error, ["failed to get typesupport handle"]⟩
  | some none => .error ⟨.error, ["failed to get typesupport callbacks"]⟩
  | some (some callbacks) => .ok callbacks

def rmwSerialize (rosMessage : Option (RosMessage M)) (typeSupport : Option (TypeSupport M))
    (serializedMessage : Option SerializedMessage) : Except (Failure RmwRet) SerializedMessage :=
  match ensureNotNull "ros_message" RmwRet.invalidArgument rosMessage,
    ensureNotNull "type_support" RmwRet.invalidArgument typeSupport,
    ensureNotNull "serialized_message" RmwRet.invalidArgument serializedMessage with
  | .error f, _, _ => .error f
  | .ok _, .error f, _ => .error f
  | .ok _, .ok _, .error f => .error f
  | .ok rosMessage, .ok typeSupport, .ok serializedMessage =>
    match fastrtpsCallbacks typeSupport with
    | .error f => .error f
    | .ok callbacks =>
      match callbacks.cdrSerialize rosMessage.value serializedMessage.bufferCapacity with
      | .error _ => .error ⟨.error, ["failed to serialize"]⟩
      | .ok bytes => .ok { serializedMessage with
          buffer := bytes ++ serializedMessage.buffer.drop bytes.length
          bufferLength := bytes.length }

def rmwDeserialize (serializedMessage : Option SerializedMessage)
    (typeSupport : Option (TypeSupport M)) (rosMessage : Option (RosMessage M)) :
    Except (Failure RmwRet) M :=
  match ensureNotNull "ros_message" RmwRet.invalidArgument rosMessage,
    ensureNotNull "type_support" RmwRet.invalidArgument typeSupport,
    ensureNotNull "serialized_message" RmwRet.invalidArgument serializedMessage with
  | .error f, _, _ => .error f
  | .ok _, .error f, _ => .error f
  | .ok _, .ok _, .error f => .error f
  | .ok _, .ok typeSupport, .ok serializedMessage =>
    match fastrtpsCallbacks typeSupport with
    | .error f => .error f
    | .ok callbacks =>
      match callbacks.cdrDeserialize
          (serializedMessage.buffer.take serializedMessage.bufferCapacity) with
      | .error _ => .error ⟨.error, ["failed to deserialize"]⟩
      | .ok value => .ok value

theorem rmwSerialize_ok {typeSupport : TypeSupport M} {m : RosMessage M}
    {serializedMessage written : SerializedMessage} :
    rmwSerialize (some m) (some typeSupport) (some serializedMessage) = .ok written ↔
      ∃ callbacks bytes, typeSupport.fastrtpsCpp = some (some callbacks) ∧
        callbacks.cdrSerialize m.value serializedMessage.bufferCapacity = .ok bytes ∧
          written = { serializedMessage with
            buffer := bytes ++ serializedMessage.buffer.drop bytes.length
            bufferLength := bytes.length } := by
  simp only [rmwSerialize, fastrtpsCallbacks, ensureNotNull]
  rcases hcpp : typeSupport.fastrtpsCpp with _ | _ | callbacks
  · simp
  · simp
  · cases hs : callbacks.cdrSerialize m.value serializedMessage.bufferCapacity <;>
      simp [hs, eq_comm]

theorem rmwDeserialize_ok {typeSupport : TypeSupport M} {m : RosMessage M} {payload : Bytes}
    {value : M} : rmwDeserialize (some ⟨payload, payload.length, payload.length⟩) (some typeSupport)
        (some m) = .ok value ↔
      ∃ callbacks, typeSupport.fastrtpsCpp = some (some callbacks) ∧
        callbacks.cdrDeserialize payload = .ok value := by
  simp only [rmwDeserialize, fastrtpsCallbacks, ensureNotNull, List.take_length]
  rcases hcpp : typeSupport.fastrtpsCpp with _ | _ | callbacks
  · simp
  · simp
  · cases hd : callbacks.cdrDeserialize payload <;> simp [hd]

end RmwIceoryx2.Rmw

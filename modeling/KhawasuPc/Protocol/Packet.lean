import KhawasuPc.Lib.Bytes

/-!
# Packets of the logical protocol

The packet structs, their enumerations and the two size macros come from the
protocol library, which is not part of this repository.  `PacketLayout` is what
the code relies on: where each member it reads lies, what the bytes of an
enumeration mean, and the values of the macros.  Bytes, ports and ids have the
widths of their C++ types (`ubyte`, `ushort`, `uint`).

A `LogicalPacket` is a `LogicalPacket*` into a received buffer.  Its members are
read from memory, so a member that lies past the end of the buffer still has a
value, whatever is there.
-/

namespace KhawasuPc

open Lib

/-! ## Addresses and enumerations -/

/-- `MeshProto::far_addr_t`, an unsigned number of a width nothing here depends
on. -/
abbrev FarAddr := Nat

/-- `LogicalAddress`: a device port behind a mesh address. -/
structure LogicalAddress where
  phy : FarAddr
  log : UInt16
deriving DecidableEq, Repr

/-- `OverlayProtoType`, as far as a receiver tells its values apart. -/
inductive OverlayProtoType where
  | reliable
  | unreliable
  | other (code : UInt8)
deriving DecidableEq, Repr

/-- `LogicalPacketType`, as far as this repository names its values. -/
inductive LogicalPacketType where
  | helloWorld
  | helloWorldResponse
  | actionExecute
  | actionExecuteResult
  | actionFetch
  | actionResponse
  | subscriptionStart
  | subscriptionCallback
  | subscriptionDone
  | other (code : UInt8)
deriving DecidableEq, Repr

/-- `ActionExecuteStatus`.  A status off the wire can be any byte; `other` holds
the ones no modelled function names. -/
inductive ActionExecuteStatus where
  | unknown
  | timeout
  | actionNotFound
  | other (code : UInt8)
deriving DecidableEq, Repr

/-- `ActionExecuteFlags`. -/
inductive ActionExecuteFlags where
  | requireStatusResponse
  | other (code : UInt8)
deriving DecidableEq, Repr

/-- `ActionType`, by its value. -/
structure ActionType where
  code : Nat
deriving DecidableEq, Repr

/-- `DeviceClassEnum`, by its value. -/
structure DeviceClassEnum where
  code : Nat
deriving DecidableEq, Repr

/-! ## Layout -/

/-- A number in a struct whose width the code does not fix. -/
structure Field where
  off : Nat
  width : Nat
deriving DecidableEq, Repr

/-- The value of a field of a struct at `base`. -/
def Field.read (f : Field) (mem : Memory) (base : Nat) : Nat := mem.read (base + f.off) f.width

/-- The bytes of a field of a struct at `base`. -/
def Field.span (f : Field) (base : Nat) : Span := ⟨base + f.off, f.width⟩

/-- The members of `hello_world`, and the records that follow its name.  `keyLen`,
`valueLen`, `nameLength` and `type` are widths of members of
`HelloWorldDeviceAttrib` and `ActionData`, `key` and `value` offsets.  The records
are packed, and `key` and `value` are zero-length trailing arrays at one offset. -/
structure HelloLayout where
  deviceClass : Field
  nameLen : Field
  specialAttribCount : Field
  actionCount : Field
  /-- `name`, and what follows it. -/
  name : Nat
  keyLen : Nat
  valueLen : Nat
  key : Nat
  value : Nat
  nameLength : Nat
  type : Nat
  key_packed : key = keyLen + valueLen
  value_eq_key : value = key

/-- Where the members of the packet structs lie.  The first three are
`OVL_PACKET_SIZE` of `type`, `reliable.data` and `unreliable.data`, and the two
sizes are `LOG_PACKET_SIZE` of `action_response` and `subscription_callback`.
Offsets of logical members are from the start of the logical packet; `body` is
where its common header ends and the members of one packet kind begin. -/
structure PacketLayout where
  ovlType : Nat
  reliableData : Nat
  unreliableData : Nat
  /-- What a byte of `OverlayPacket::type` means. -/
  ovlTypeOf : UInt8 → OverlayProtoType
  type : Nat
  srcAddr : Nat
  dstAddr : Nat
  /-- What a byte of `LogicalPacket::type` means. -/
  typeOf : UInt8 → LogicalPacketType
  /-- What a byte of a status member means. -/
  statusOf : UInt8 → ActionExecuteStatus
  /-- The end of the common header. -/
  body : Nat
  executeResultRequestId : Nat
  executeResultStatus : Nat
  responseRequestId : Nat
  responseStatus : Nat
  responsePayload : Nat
  subscriptionId : Nat
  subscriptionPayload : Nat
  sizeActionResponse : UInt64
  sizeSubscriptionCallback : UInt64
  helloWorld : Nat
  hello : HelloLayout
  ovlType_lt_reliable : ovlType < reliableData
  ovlType_lt_unreliable : ovlType < unreliableData
  body_pos : 0 < body
  type_lt : type < body
  srcAddr_lt : srcAddr + 1 < body
  type_apart : type < srcAddr ∨ srcAddr + 1 < type
  dstAddr_lt : dstAddr + 1 < body
  executeResultRequestId_ge : body ≤ executeResultRequestId
  executeResultStatus_ge : body ≤ executeResultStatus
  responseRequestId_ge : body ≤ responseRequestId
  responseRequestId_lt : responseRequestId < responsePayload
  responseStatus_ge : body ≤ responseStatus
  responseStatus_lt : responseStatus < responsePayload
  subscriptionId_ge : body ≤ subscriptionId
  subscriptionId_lt : subscriptionId + 3 < subscriptionPayload

/-- A packed layout with one byte for every type, length, count and status.  The
overlay header has one byte before the payload of an unreliable packet and three
before that of a reliable one. -/
def PacketLayout.packed : PacketLayout where
  ovlType := 0
  reliableData := 3
  unreliableData := 1
  ovlTypeOf
    | 0 => .reliable
    | 1 => .unreliable
    | c => .other c
  srcAddr := 0
  dstAddr := 2
  type := 4
  typeOf
    | 0 => .helloWorld
    | 1 => .helloWorldResponse
    | 2 => .actionExecute
    | 3 => .actionExecuteResult
    | 4 => .actionFetch
    | 5 => .actionResponse
    | 6 => .subscriptionStart
    | 7 => .subscriptionCallback
    | 8 => .subscriptionDone
    | c => .other c
  statusOf
    | 0 => .unknown
    | 1 => .timeout
    | 2 => .actionNotFound
    | c => .other c
  body := 5
  executeResultRequestId := 5
  executeResultStatus := 6
  responseRequestId := 5
  responseStatus := 6
  responsePayload := 7
  subscriptionId := 5
  subscriptionPayload := 9
  sizeActionResponse := 5
  sizeSubscriptionCallback := 5
  helloWorld := 5
  hello :=
    { deviceClass := ⟨0, 1⟩
      nameLen := ⟨1, 1⟩
      specialAttribCount := ⟨2, 1⟩
      actionCount := ⟨3, 1⟩
      name := 4
      keyLen := 1
      valueLen := 1
      key := 2
      value := 2
      nameLength := 1
      type := 1
      key_packed := rfl
      value_eq_key := rfl }
  ovlType_lt_reliable := by decide
  ovlType_lt_unreliable := by decide
  body_pos := by decide
  type_lt := by decide
  srcAddr_lt := by decide
  type_apart := by decide
  dstAddr_lt := by decide
  executeResultRequestId_ge := by decide
  executeResultStatus_ge := by decide
  responseRequestId_ge := by decide
  responseRequestId_lt := by decide
  responseStatus_ge := by decide
  responseStatus_lt := by decide
  subscriptionId_ge := by decide
  subscriptionId_lt := by decide

/-! ## Packets -/

/-- A `LogicalPacket*`. -/
structure LogicalPacket where
  /-- Memory, addressed from the start of the received buffer. -/
  mem : Memory
  /-- The address pointed to. -/
  off : Nat

namespace LogicalPacket

/-- A packet at the start of the given bytes. -/
def ofList (bytes : List UInt8) : LogicalPacket := ⟨Memory.ofList bytes, 0⟩

variable (L : PacketLayout) (log : LogicalPacket)

/-- The `len` bytes at offset `off` of the packet. -/
def span (off len : Nat) : Span := ⟨log.off + off, len⟩

/-- `log->type`. -/
def type : LogicalPacketType := L.typeOf (log.mem (log.off + L.type))

/-- `log->src_addr`. -/
def srcAddr : UInt16 := UInt16.ofNat (log.mem.read (log.off + L.srcAddr) 2)

/-- `log->action_execute_result.request_id`. -/
def executeResultRequestId : UInt8 := log.mem (log.off + L.executeResultRequestId)

/-- `log->action_execute_result.status`. -/
def executeResultStatus : ActionExecuteStatus :=
  L.statusOf (log.mem (log.off + L.executeResultStatus))

/-- `log->action_response.request_id`. -/
def responseRequestId : UInt8 := log.mem (log.off + L.responseRequestId)

/-- `log->action_response.status`. -/
def responseStatus : ActionExecuteStatus := L.statusOf (log.mem (log.off + L.responseStatus))

/-- The first `len` bytes at `log->action_response.payload`. -/
def responsePayload (len : Nat) : List UInt8 := log.mem.slice (log.off + L.responsePayload) len

/-- `log->subscription_callback.id`. -/
def subscriptionId : UInt32 := UInt32.ofNat (log.mem.read (log.off + L.subscriptionId) 4)

/-- The first `len` bytes at `log->subscription_callback.payload`. -/
def subscriptionPayload (len : Nat) : List UInt8 :=
  log.mem.slice (log.off + L.subscriptionPayload) len

end LogicalPacket

/-! ## Packets sent -/

/-- What the pool memory of a fresh packet held.  A member the code does not
store keeps that value. -/
structure PoolSlot where
  /-- Where `action_execute.flags` lies. -/
  flags : ActionExecuteFlags
  /-- Where `action_response.status` lies. -/
  status : ActionExecuteStatus
deriving DecidableEq, Repr

/-- The members of a packet this repository sends. -/
inductive SentBody where
  | actionExecute (requestId : UInt8) (actionId : UInt16) (flags : ActionExecuteFlags)
      (payload : List UInt8)
  | actionFetch (requestId : UInt8) (actionId : UInt16) (payload : List UInt8)
  | actionResponse (requestId : UInt8) (status : ActionExecuteStatus) (payload : List UInt8)
  | subscriptionStart (id : UInt32) (actionId : UInt16) (duration : UInt16) (period : UInt32)
deriving DecidableEq, Repr

/-- `LogicalPacket::type` of a packet sent. -/
def SentBody.type : SentBody → LogicalPacketType
  | .actionExecute .. => .actionExecute
  | .actionFetch .. => .actionFetch
  | .actionResponse .. => .actionResponse
  | .subscriptionStart .. => .subscriptionStart

/-- The request id a packet carries, if its kind has one. -/
def SentBody.requestId : SentBody → Option UInt8
  | .actionExecute id .. => some id
  | .actionFetch id .. => some id
  | .actionResponse id .. => some id
  | .subscriptionStart .. => none

/-- A packet handed to `finish_ptr`. -/
structure SentPacket where
  dest : LogicalAddress
  /-- The port it is sent from. -/
  srcPort : UInt16
  ovlType : OverlayProtoType
  body : SentBody
deriving DecidableEq, Repr

end KhawasuPc

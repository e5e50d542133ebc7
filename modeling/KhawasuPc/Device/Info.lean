import KhawasuPc.Lib.UMap
import KhawasuPc.Protocol.Packet

/-!
# Descriptions of remote devices

A HELLO packet describes a device: its class, its name, its attributes and its
actions.  `LogDeviceInfo.ofPacket` is the constructor that reads it.  After the
name come the attribute records and then the action records, each as long as
its own length fields say, so the reader walks a cursor from record to record.
The spans it reads are returned beside the description.

`ActionResponse` is the record kept for a request until its reply is collected.
-/

namespace KhawasuPc

open Lib

/-- The function a function pointer or a `std::function` refers to. -/
structure FnRef where
  id : Nat
deriving DecidableEq, Repr

/-- `DeviceApiAction`: an action as a device announces it. -/
structure DeviceApiAction where
  name : CString
  /-- The kind of value the action takes. -/
  type : ActionType
deriving DecidableEq, Repr

/-- `LogDeviceInfo`, without the back pointer to its manager. -/
structure LogDeviceInfo where
  phy : FarAddr
  log : UInt16
  devClass : DeviceClassEnum
  name : List UInt8
  attribs : UMap (List UInt8) (List UInt8)
  /-- The actions, by action id. -/
  actionsMap : UMap Nat DeviceApiAction

/-- `PhyDeviceInfo`: the devices behind one mesh address, by port. -/
structure PhyDeviceInfo where
  logDevices : UMap UInt16 LogDeviceInfo

/-! ## The attribute loop -/

/-- `attrib_ptr->key_len` of the record at `cursor`. -/
def attribKeyLen (H : HelloLayout) (mem : Memory) (cursor : Nat) : Nat := mem.read cursor H.keyLen

/-- `attrib_ptr->value_len` of the record at `cursor`. -/
def attribValueLen (H : HelloLayout) (mem : Memory) (cursor : Nat) : Nat :=
  mem.read (cursor + H.keyLen) H.valueLen

/-- `attrib_ptr` after the record at `cursor`. -/
def attribNext (H : HelloLayout) (mem : Memory) (cursor : Nat) : Nat :=
  cursor + H.value + attribKeyLen H mem cursor + attribValueLen H mem cursor

/-- What a loop over records leaves behind. -/
structure Walk (α : Type) where
  /-- What was collected. -/
  found : α
  /-- The cursor after the last record. -/
  cursor : Nat
  /-- What was read. -/
  reads : List Span

/-- The loop over the attribute records, `n` records to go. -/
def attribLoop (H : HelloLayout) (mem : Memory) :
    Nat → Nat → UMap (List UInt8) (List UInt8) → Walk (UMap (List UInt8) (List UInt8))
  | 0, cursor, attribs => ⟨attribs, cursor, []⟩
  | n + 1, cursor, attribs =>
      let keyLen := attribKeyLen H mem cursor
      let valueLen := attribValueLen H mem cursor
      let key := mem.slice (cursor + H.key) keyLen
      let value := mem.slice (cursor + H.key + keyLen) valueLen
      let rest := attribLoop H mem n (attribNext H mem cursor) (attribs.emplace key value)
      { rest with
        reads := ⟨cursor, H.keyLen⟩ :: ⟨cursor + H.keyLen, H.valueLen⟩ ::
          ⟨cursor + H.key, keyLen⟩ :: ⟨cursor + H.key + keyLen, valueLen⟩ :: rest.reads }

/-! ## The action loop -/

/-- `action_ptr->name_length` of the record at `cursor`. -/
def actionNameLength (H : HelloLayout) (mem : Memory) (cursor : Nat) : Nat :=
  mem.read cursor H.nameLength

/-- The loop over the action records, record `i` next and `n` records to go.  A
record with an empty name is skipped without moving the cursor, and `strcpy` keeps
of a name what stands before the first NUL. -/
def actionLoop (H : HelloLayout) (mem : Memory) :
    Nat → Nat → Nat → UMap Nat DeviceApiAction → Walk (UMap Nat DeviceApiAction)
  | _, 0, cursor, actions => ⟨actions, cursor, []⟩
  | i, n + 1, cursor, actions =>
      let nameLength := actionNameLength H mem cursor
      if nameLength = 0 then
        let rest := actionLoop H mem (i + 1) n cursor actions
        { rest with reads := ⟨cursor, H.nameLength⟩ :: rest.reads }
      else
        let name := cursor + H.nameLength + H.type
        let actionName := mem.slice name nameLength
        let type : ActionType := ⟨mem.read (cursor + H.nameLength) H.type⟩
        let action : DeviceApiAction := ⟨CString.ofBytes actionName, type⟩
        let rest := actionLoop H mem (i + 1) n (name + nameLength) (actions.emplace i action)
        { rest with
          reads := ⟨cursor, H.nameLength⟩ :: ⟨name, nameLength⟩ ::
            ⟨cursor + H.nameLength, H.type⟩ :: rest.reads }

/-! ## The constructor -/

namespace LogDeviceInfo

variable (L : PacketLayout) (phy : FarAddr) (packet : LogicalPacket)

/-- Where `packet->hello_world` lies. -/
def helloBase : Nat := packet.off + L.helloWorld

/-- The attribute records of a packet, walked. -/
def attribWalk : Walk (UMap (List UInt8) (List UInt8)) :=
  let base := helloBase L packet
  attribLoop L.hello packet.mem (L.hello.specialAttribCount.read packet.mem base)
    (base + L.hello.name + L.hello.nameLen.read packet.mem base) ∅

/-- The action records of a packet, walked.  They start where the attribute
records end. -/
def actionWalk : Walk (UMap Nat DeviceApiAction) :=
  actionLoop L.hello packet.mem 0 (L.hello.actionCount.read packet.mem (helloBase L packet))
    (attribWalk L packet).cursor ∅

/-- `LogDeviceInfo::LogDeviceInfo`. -/
def ofPacket : LogDeviceInfo :=
  let base := helloBase L packet
  { phy := phy
    log := packet.srcAddr L
    devClass := ⟨L.hello.deviceClass.read packet.mem base⟩
    name := packet.mem.slice (base + L.hello.name) (L.hello.nameLen.read packet.mem base)
    attribs := (attribWalk L packet).found
    actionsMap := (actionWalk L packet).found }

/-- What the constructor reads. -/
def ofPacketReads : List Span :=
  let base := helloBase L packet
  packet.span L.srcAddr 2 :: L.hello.deviceClass.span base :: L.hello.nameLen.span base ::
    ⟨base + L.hello.name, L.hello.nameLen.read packet.mem base⟩ ::
    L.hello.specialAttribCount.span base :: (attribWalk L packet).reads ++
    L.hello.actionCount.span base :: (actionWalk L packet).reads

end LogDeviceInfo

/-! ## Pending requests -/

/-- `ActionResponseType`. -/
inductive ActionResponseType where
  | unknown
  | fetch
  | execute
  | subscriptionCallback
deriving DecidableEq, Repr

/-- `ActionResponse`.  `srcPhy` and `srcPort` are the address and port the
request was sent to. -/
structure ActionResponse where
  /-- No reply has been handled. -/
  isWaiting : Bool
  reqId : UInt32
  type : ActionResponseType
  /-- The address the request was sent to. -/
  srcPhy : FarAddr
  /-- The port the request was sent to. -/
  srcPort : UInt16
  status : ActionExecuteStatus
  payload : List UInt8
  /-- When the request was sent. -/
  timeSent : UInt64
  /-- When the reply was collected. -/
  timeReceived : UInt64
deriving DecidableEq, Repr

/-- `ActionResponse::ActionResponse`.  It leaves `status` indeterminate: `raw` is
what the member's memory held. -/
def ActionResponse.make (reqId : UInt32) (type : ActionResponseType) (srcPhy : FarAddr)
    (srcPort : UInt16) (timeSent : UInt64) (raw : ActionExecuteStatus) : ActionResponse where
  isWaiting := true
  reqId := reqId
  type := type
  srcPhy := srcPhy
  srcPort := srcPort
  status := raw
  payload := []
  timeSent := timeSent
  timeReceived := 0

end KhawasuPc

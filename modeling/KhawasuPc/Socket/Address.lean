import KhawasuPc.Lib.Bytes

/-!
# Socket addresses as keys

`Socket::AddressU64` turns the address of a peer into a 64-bit key by copying bytes
out of its `sockaddr_in`.  The two back ends copy different bytes.  Both copy six
bytes from the IPv4 address on, four of the address and two of the padding after
it.  `winsocket.cpp` then copies the port, which `unixsocket.cpp` does not: there the
last two bytes of the key are whatever the variable held.  `addressU64_winsocket_iff`
and `addressU64_unixsocket_iff` say when two keys are equal.
-/

namespace KhawasuPc

open Lib

/-- The IPv4 address and the port of a peer. -/
structure Endpoint where
  addr : UInt32
  port : UInt16
deriving DecidableEq, Repr

/-- The file `Socket` is compiled from. -/
inductive Backend where
  | unixsocket
  | winsocket
deriving DecidableEq, Repr

namespace Endpoint

variable (e : Endpoint)

/-- `sin_addr`, in network order. -/
def addrBytes : List UInt8 := (leBytes 4 e.addr.toNat).reverse

/-- `sin_port`, in network order. -/
def portBytes : List UInt8 := (leBytes 2 e.port.toNat).reverse

/-- The `sockaddr_in` of a peer: `sin_family`, `sin_port`, `sin_addr`, `sin_zero`. -/
def sockaddr : List UInt8 :=
  leBytes 2 2 ++ e.portBytes ++ e.addrBytes ++ List.replicate 8 0

@[simp] theorem length_addrBytes : e.addrBytes.length = 4 := by simp [addrBytes]

@[simp] theorem length_portBytes : e.portBytes.length = 2 := by simp [portBytes]

theorem addrBytes_inj {e e' : Endpoint} : e.addrBytes = e'.addrBytes ↔ e.addr = e'.addr := by
  constructor
  · intro h
    have hbytes := List.reverse_inj.mp h
    exact UInt32.toNat_inj.mp
      (leBytes_injective (UInt32.toNat_lt e.addr) (UInt32.toNat_lt e'.addr) hbytes)
  · intro h
    rw [addrBytes, addrBytes, h]

theorem portBytes_inj {e e' : Endpoint} : e.portBytes = e'.portBytes ↔ e.port = e'.port := by
  constructor
  · intro h
    have hbytes := List.reverse_inj.mp h
    exact UInt16.toNat_inj.mp
      (leBytes_injective (UInt16.toNat_lt e.port) (UInt16.toNat_lt e'.port) hbytes)
  · intro h
    rw [portBytes, portBytes, h]

end Endpoint

/-! ## Keys -/

/-- The `u64` whose memory holds eight bytes. -/
def u64OfBytes (bytes : List UInt8) : UInt64 := UInt64.ofNat (leValue bytes)

/-- `Socket::AddressU64`.  `raw` is what the memory of `result` held. -/
def addressU64 (backend : Backend) (raw : UInt64) (address : List UInt8) : UInt64 :=
  match backend with
  | .unixsocket =>
      u64OfBytes (overwrite (leBytes 8 raw.toNat) 0 ((address.drop 4).take 6))
  | .winsocket =>
      let result := overwrite (leBytes 8 0) 0 ((address.drop 4).take 6)
      u64OfBytes (overwrite result 6 ((address.drop 2).take 2))

/-- The bytes of `result` that `unixsocket.cpp` does not store. -/
def unstored (raw : UInt64) : List UInt8 := (leBytes 8 raw.toNat).drop 6

theorem u64OfBytes_inj {as bs : List UInt8} (ha : as.length = 8) (hb : bs.length = 8) :
    u64OfBytes as = u64OfBytes bs ↔ as = bs := by
  constructor
  · intro h
    have hlt : ∀ l : List UInt8, l.length = 8 → leValue l < 2 ^ 64 := fun l hl => by
      simpa [hl] using leValue_lt l
    have hval := congrArg UInt64.toNat h
    rw [u64OfBytes, u64OfBytes, UInt64.toNat_ofNat', UInt64.toNat_ofNat',
      Nat.mod_eq_of_lt (hlt as ha), Nat.mod_eq_of_lt (hlt bs hb)] at hval
    exact leValue_injective (ha.trans hb.symm) hval
  · intro h
    rw [h]

/-- What both back ends copy: the address and two bytes of padding. -/
theorem sockaddr_addr (e : Endpoint) : (e.sockaddr.drop 4).take 6 = e.addrBytes ++ [0, 0] := by
  have hdrop : e.sockaddr.drop 4 = e.addrBytes ++ List.replicate 8 0 := by
    rw [Endpoint.sockaddr, List.append_assoc, List.drop_left' (by simp)]
  rw [hdrop, List.take_append, List.take_of_length_le (by simp), Endpoint.length_addrBytes]
  rfl

/-- What only `winsocket.cpp` copies: the port. -/
theorem sockaddr_port (e : Endpoint) : (e.sockaddr.drop 2).take 2 = e.portBytes := by
  have hdrop : e.sockaddr.drop 2 = e.portBytes ++ (e.addrBytes ++ List.replicate 8 0) := by
    rw [Endpoint.sockaddr, List.append_assoc, List.append_assoc, List.drop_left' (by simp)]
  rw [hdrop, List.take_left' (by simp)]

theorem addressU64_unixsocket (raw : UInt64) (e : Endpoint) :
    addressU64 .unixsocket raw e.sockaddr = u64OfBytes (e.addrBytes ++ [0, 0] ++ unstored raw) := by
  simp [addressU64, overwrite, sockaddr_addr, unstored]

theorem addressU64_winsocket (raw : UInt64) (e : Endpoint) :
    addressU64 .winsocket raw e.sockaddr = u64OfBytes (e.addrBytes ++ [0, 0] ++ e.portBytes) := by
  have hshort : e.addrBytes.take 6 = e.addrBytes := List.take_of_length_le (by simp)
  have hnone : e.addrBytes.drop 8 = [] := List.drop_eq_nil_of_le (by simp)
  have hzero : (leBytes 8 0).drop 8 = [] := rfl
  simp [addressU64, overwrite, sockaddr_addr, sockaddr_port, List.take_append, List.drop_append,
    hshort, hnone, hzero]

theorem keyBytes_inj {e e' : Endpoint} {last last' : List UInt8} :
    e.addrBytes ++ [0, 0] ++ last = e'.addrBytes ++ [0, 0] ++ last' ↔
      e.addr = e'.addr ∧ last = last' := by
  constructor
  · intro h
    obtain ⟨haddr, hlast⟩ := List.append_inj h (by simp)
    exact ⟨Endpoint.addrBytes_inj.mp (List.append_inj haddr (by simp)).1, hlast⟩
  · rintro ⟨haddr, rfl⟩
    rw [Endpoint.addrBytes_inj.mpr haddr]

/-- On `unixsocket.cpp` the key is that of the address and of two bytes that were never
stored. -/
theorem addressU64_unixsocket_iff {raw raw' : UInt64} {e e' : Endpoint} :
    addressU64 .unixsocket raw e.sockaddr = addressU64 .unixsocket raw' e'.sockaddr ↔
      e.addr = e'.addr ∧ unstored raw = unstored raw' := by
  rw [addressU64_unixsocket, addressU64_unixsocket,
    u64OfBytes_inj (by simp [unstored]) (by simp [unstored]), keyBytes_inj]

/-- On `winsocket.cpp` the key is that of the endpoint. -/
theorem addressU64_winsocket_iff {raw raw' : UInt64} {e e' : Endpoint} :
    addressU64 .winsocket raw e.sockaddr = addressU64 .winsocket raw' e'.sockaddr ↔ e = e' := by
  rw [addressU64_winsocket, addressU64_winsocket, u64OfBytes_inj (by simp) (by simp),
    keyBytes_inj, Endpoint.portBytes_inj]
  constructor
  · rintro ⟨haddr, hport⟩
    cases e
    cases e'
    cases haddr
    cases hport
    rfl
  · rintro rfl
    exact ⟨rfl, rfl⟩

end KhawasuPc

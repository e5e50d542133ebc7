import KhawasuPc.Interface.MeshSocket

/-!
# Connecting to a server

`Socket::Connect` parses an address, creates a socket and connects it.  The constructor of
`MeshSocketInterface` throws where it returns null, and `register_fresh_socket_client` keeps
the interface where the constructor does not throw.

`winsocket.cpp` returns null where the connection fails.  `unixsocket.cpp` returns the address,
and neither back end looks at whether the address parsed: `clientContract_iff` says when an
interface stands for a connection all the same.
-/

namespace KhawasuPc

open Lib

/-! ## `Socket::Connect` -/

/-- What the system answers to the calls of `Socket::Connect`. -/
structure ConnectAnswers where
  /-- The number `inet_aton` or `inet_pton` stores, if the address parses. -/
  parse : String → Option UInt32
  /-- What the memory of `raw_ip_nbo` held. -/
  rawIpNbo : UInt32
  /-- The socket, unless `socket` fails. -/
  socket : Option Nat
  /-- `connect` succeeds, for the address it is given and its length. -/
  connect : Endpoint → Nat → Bool
  /-- The size of a pointer. -/
  pointerSize : Nat

/-- A socket and the server it is connected to. -/
structure Connection where
  server : Endpoint
  handle : Nat
deriving DecidableEq, Repr

/-- What a call of `Socket::Connect` leaves behind. -/
structure Connected where
  /-- The address returned and the handle stored, or null. -/
  returned : Option (Endpoint × Nat)
  /-- The connection the system established. -/
  established : Option Connection
deriving DecidableEq, Repr

/-- `INADDR_NONE`. -/
def inaddrNone : UInt32 := 0xffffffff

/-- The size of a `sockaddr_in`. -/
def sockaddrInSize : Nat := 16

/-- `Socket::Connect`.  Where the address does not parse, `sin_addr` stays zero in
`unixsocket.cpp`, and `raw_ip_nbo` as it was in `winsocket.cpp`.  The first takes the size of a
pointer for `sizeof(server_addr)`. -/
def Socket.connect (sys : ConnectAnswers) (addr : String) (port : UInt16) : Backend → Connected
  | .unixsocket =>
      match sys.socket with
      | none => ⟨none, none⟩
      | some client =>
          let serverAddr : Endpoint := ⟨(sys.parse addr).getD 0, port⟩
          let connects := sys.connect serverAddr sys.pointerSize
          ⟨some (serverAddr, client), if connects then some ⟨serverAddr, client⟩ else none⟩
  | .winsocket =>
      let rawIpNbo := (sys.parse addr).getD sys.rawIpNbo
      if rawIpNbo = inaddrNone then ⟨none, none⟩
      else
        match sys.socket with
        | none => ⟨none, none⟩
        | some handle =>
            let connectionAddress : Endpoint := ⟨rawIpNbo, port⟩
            if sys.connect connectionAddress sockaddrInSize then
              ⟨some (connectionAddress, handle), some ⟨connectionAddress, handle⟩⟩
            else ⟨none, none⟩

/-! ## The constructor and its caller -/

/-- `MeshSocketInterface::MeshSocketInterface` of a client, unless it throws.  `raw` is what
`AddressU64` finds in its variable. -/
def MeshSocketInterface.connect (sys : ConnectAnswers) (raw : UInt64) (addr : String)
    (port : UInt16) (backend : Backend) : Option MeshSocketInterface :=
  match (Socket.connect sys addr port backend).returned with
  | none => none
  | some (servAddr, handle) => some
      { isServer := false
        clients := (∅ : UMap UInt64 Client).insert (addressU64 backend raw servAddr.sockaddr)
          (Host.newClient handle) }

/-- An interface of a controller. -/
inductive MeshInterface where
  | socket (self : MeshSocketInterface)
  | com (path : String) (boudrate : Int)

/-- `KhawasuApp`, as far as interfaces are registered with it. -/
structure KhawasuApp where
  interfaces : List MeshInterface
  /-- The interfaces of `controller`. -/
  controllerInterfaces : List MeshInterface

/-- `KhawasuApp::register_fresh_socket_client`.  The exception is caught. -/
def KhawasuApp.registerFreshSocketClient (app : KhawasuApp) (sys : ConnectAnswers)
    (raw : UInt64) (hostname : String) (port : UInt16) (backend : Backend) : KhawasuApp :=
  match MeshSocketInterface.connect sys raw hostname port backend with
  | none => app
  | some self =>
      { interfaces := app.interfaces ++ [.socket self]
        controllerInterfaces := app.controllerInterfaces ++ [.socket self] }

/-! ## What is asked of them -/

section

variable (sys : ConnectAnswers) (raw : UInt64) (addr : String) (port : UInt16)
  (backend : Backend)

/-- A connection to the address and the port was established, on this handle. -/
def Established (handle : Nat) : Prop :=
  ∃ ip, sys.parse addr = some ip ∧
    (Socket.connect sys addr port backend).established = some ⟨⟨ip, port⟩, handle⟩

/-- A client interface exists only over an established connection. -/
structure ClientContract : Prop where
  throws : (¬ ∃ handle, Established sys addr port backend handle) →
    MeshSocketInterface.connect sys raw addr port backend = none
  holds : ∀ handle, Established sys addr port backend handle → ∃ self key,
    MeshSocketInterface.connect sys raw addr port backend = some self ∧
      self.clients = (∅ : UMap UInt64 Client).insert key (Host.newClient handle)
  unchanged : MeshSocketInterface.connect sys raw addr port backend = none →
    ∀ app : KhawasuApp, app.registerFreshSocketClient sys raw addr port backend = app

/-- With `unixsocket.cpp`, no socket is created, or the address parses and the connection
succeeds.  With `winsocket.cpp`, the address parses, or what stands in its place is not
connected to either. -/
def Answers : Backend → Prop
  | .unixsocket => sys.socket = none ∨
      ∃ ip, sys.parse addr = some ip ∧ sys.connect ⟨ip, port⟩ sys.pointerSize = true
  | .winsocket => sys.parse addr = none → sys.rawIpNbo = inaddrNone ∨ sys.socket = none ∨
      sys.connect ⟨sys.rawIpNbo, port⟩ sockaddrInSize = false

end

/-! ## When they do it -/

variable {sys : ConnectAnswers} {raw : UInt64} {addr : String} {port : UInt16} {backend : Backend}

/-- Nothing is registered where the constructor throws. -/
theorem registerFreshSocketClient_unchanged
    (throws : MeshSocketInterface.connect sys raw addr port backend = none) (app : KhawasuApp) :
    app.registerFreshSocketClient sys raw addr port backend = app := by
  rw [KhawasuApp.registerFreshSocketClient, throws]

/-- The contract for a call that returns null. -/
theorem contract_of_null (null : Socket.connect sys addr port backend = ⟨none, none⟩) :
    ClientContract sys raw addr port backend where
  throws _ := by rw [MeshSocketInterface.connect, null]
  holds handle h := by
    obtain ⟨ip, -, established⟩ := h
    rw [null] at established
    cases established
  unchanged := registerFreshSocketClient_unchanged

/-- With `unixsocket.cpp` the address is returned once there is a socket. -/
theorem unixsocket_connect {client : Nat} (created : sys.socket = some client) :
    Socket.connect sys addr port .unixsocket =
      ⟨some (⟨(sys.parse addr).getD 0, port⟩, client),
        if sys.connect ⟨(sys.parse addr).getD 0, port⟩ sys.pointerSize then
          some ⟨⟨(sys.parse addr).getD 0, port⟩, client⟩ else none⟩ := by
  rw [Socket.connect, created]

/-- With `winsocket.cpp` it is returned if the connection succeeds. -/
theorem winsocket_connect {handle : Nat}
    (address : (sys.parse addr).getD sys.rawIpNbo ≠ inaddrNone)
    (created : sys.socket = some handle) :
    Socket.connect sys addr port .winsocket =
      if sys.connect ⟨(sys.parse addr).getD sys.rawIpNbo, port⟩ sockaddrInSize then
        ⟨some (⟨(sys.parse addr).getD sys.rawIpNbo, port⟩, handle),
          some ⟨⟨(sys.parse addr).getD sys.rawIpNbo, port⟩, handle⟩⟩
      else ⟨none, none⟩ := by
  rw [Socket.connect, if_neg address, created]

theorem winsocket_no_address (h : (sys.parse addr).getD sys.rawIpNbo = inaddrNone) :
    Socket.connect sys addr port .winsocket = ⟨none, none⟩ := by
  rw [Socket.connect, if_pos h]

/-- Without a socket both return null. -/
theorem connect_no_socket (failed : sys.socket = none) :
    Socket.connect sys addr port backend = ⟨none, none⟩ := by
  cases backend with
  | unixsocket => rw [Socket.connect, failed]
  | winsocket => rw [Socket.connect, failed, ite_self]

/-- The socket of an established connection is returned. -/
theorem returned_of_established {connection : Connection}
    (h : (Socket.connect sys addr port backend).established = some connection) :
    (Socket.connect sys addr port backend).returned =
      some (connection.server, connection.handle) := by
  cases created : sys.socket with
  | none =>
      rw [connect_no_socket created] at h
      cases h
  | some handle =>
      cases backend with
      | unixsocket =>
          rw [unixsocket_connect created] at h ⊢
          obtain ⟨-, there⟩ := Option.ite_none_right_eq_some.mp h
          cases there
          rfl
      | winsocket =>
          by_cases address : (sys.parse addr).getD sys.rawIpNbo = inaddrNone
          · rw [winsocket_no_address address] at h
            cases h
          · rw [winsocket_connect address created] at h ⊢
            split at h <;> cases h
            next connects => rw [if_pos connects]

/-- What the constructor makes of a socket. -/
theorem connect_of_returned {server : Endpoint} {handle : Nat}
    (h : (Socket.connect sys addr port backend).returned = some (server, handle)) :
    MeshSocketInterface.connect sys raw addr port backend = some
      { isServer := false
        clients := (∅ : UMap UInt64 Client).insert (addressU64 backend raw server.sockaddr)
          (Host.newClient handle) } := by
  rw [MeshSocketInterface.connect, h]

/-- The contract for a call that returns an address: a connection to the address and the port
given stands behind it. -/
theorem contract_iff_of_address {server : Endpoint} {handle : Nat}
    {established : Option Connection}
    (result : Socket.connect sys addr port backend = ⟨some (server, handle), established⟩) :
    ClientContract sys raw addr port backend ↔
      ∃ ip, sys.parse addr = some ip ∧ established = some ⟨⟨ip, port⟩, handle⟩ := by
  have built : MeshSocketInterface.connect sys raw addr port backend = some _ :=
    connect_of_returned (congrArg Connected.returned result)
  constructor
  · intro h
    by_contra missing
    have none_established : ¬ ∃ handle', Established sys addr port backend handle' := by
      rintro ⟨handle', ip, parsed, there⟩
      have returned := returned_of_established there
      rw [result] at there returned
      cases returned
      exact missing ⟨ip, parsed, there⟩
    have throws := h.throws none_established
    rw [built] at throws
    cases throws
  · rintro ⟨ip, parsed, given⟩
    refine ⟨fun missing => absurd ⟨handle, ip, parsed, ?_⟩ missing, ?_,
      registerFreshSocketClient_unchanged⟩
    · rintro handle' ⟨ip', -, there⟩
      exact ⟨_, _, connect_of_returned (returned_of_established there), rfl⟩
    · rw [result, given]

theorem unixsocket_contract_iff :
    ClientContract sys raw addr port .unixsocket ↔ Answers sys addr port .unixsocket := by
  cases created : sys.socket with
  | none => exact iff_of_true (contract_of_null (connect_no_socket created)) (Or.inl created)
  | some client =>
      rw [contract_iff_of_address (unixsocket_connect created), Answers, created]
      simp only [reduceCtorEq, false_or]
      refine exists_congr fun ip => and_congr_right fun parsed => ?_
      rw [parsed, Option.getD_some, Option.ite_none_right_eq_some]
      exact and_iff_left rfl

theorem winsocket_contract_iff :
    ClientContract sys raw addr port .winsocket ↔ Answers sys addr port .winsocket := by
  unfold Answers
  by_cases address : (sys.parse addr).getD sys.rawIpNbo = inaddrNone
  · refine iff_of_true (contract_of_null (winsocket_no_address address)) fun unparsed => Or.inl ?_
    rwa [unparsed] at address
  cases created : sys.socket with
  | none =>
      exact iff_of_true (contract_of_null (connect_no_socket created)) fun _ => Or.inr (Or.inl rfl)
  | some handle =>
      have result : Socket.connect sys addr port .winsocket = _ := winsocket_connect address created
      by_cases connects : sys.connect ⟨(sys.parse addr).getD sys.rawIpNbo, port⟩ sockaddrInSize
      · rw [if_pos connects] at result
        rw [contract_iff_of_address result]
        cases parsed : sys.parse addr with
        | none =>
            rw [parsed, Option.getD_none] at address connects
            simp [address, connects]
        | some ip => simp
      · rw [if_neg connects] at result
        refine iff_of_true (contract_of_null result) fun unparsed => Or.inr (Or.inr ?_)
        rw [unparsed, Option.getD_none] at connects
        exact Bool.eq_false_of_not_eq_true connects

/-- A client interface exists only over an established connection exactly for these answers. -/
theorem clientContract_iff :
    ClientContract sys raw addr port backend ↔ Answers sys addr port backend := by
  cases backend with
  | unixsocket => exact unixsocket_contract_iff
  | winsocket => exact winsocket_contract_iff

/-- A system where nobody listens. -/
def refusing : ConnectAnswers where
  parse := fun _ => some 0x7f000001
  rawIpNbo := 0
  socket := some 3
  connect := fun _ _ => false
  pointerSize := 8

/-- A system where no address parses, and where everybody listens. -/
def garbling : ConnectAnswers where
  parse := fun _ => none
  rawIpNbo := 0x0a000001
  socket := some 3
  connect := fun _ _ => true
  pointerSize := 8

/-- With `unixsocket.cpp` a refused connection is kept as an interface, and with
`winsocket.cpp` a connection to somewhere else. -/
theorem clientContract_broken :
    ¬ ClientContract refusing 0 "127.0.0.1" 49152 .unixsocket ∧
      ¬ ClientContract garbling 0 "localhost" 49152 .winsocket := by
  constructor
  · intro h
    have throws := h.throws (by
      rintro ⟨handle, ip, -, established⟩
      cases established)
    cases throws
  · intro h
    have throws := h.throws (by
      rintro ⟨handle, ip, parsed, -⟩
      cases parsed)
    cases throws

end KhawasuPc

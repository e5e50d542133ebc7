import KhawasuPc.CommandLine.ConfigFile
import KhawasuPc.CommandLine.EvaluationOrder
import KhawasuPc.Interface.Connecting

/-!
# Starting the program

`main` reads the command line, and over it the configuration file if one is named, and registers
the interfaces they ask for, sockets first.  A server that cannot listen ends the program, and a
client that throws is left out.  The constructor of a serial port belongs to the library: whether
it stops the program is a parameter.

How a start ends is known from the command line and the file (`main_ends`).
-/

namespace KhawasuPc

open Lib Toml

variable {V : Type}

/-! ## `Socket::Create` -/

/-- What the system answers to the calls of `Socket::Create`. -/
structure CreateAnswers where
  /-- What `inet_addr` returns. -/
  inetAddr : String → UInt32
  /-- The socket, unless `socket` fails. -/
  socket : Option Nat
  /-- `ioctlsocket` succeeds. -/
  ioctlsocket : Bool
  /-- `bind` succeeds, for the address it is given. -/
  bind : Endpoint → Bool
  /-- `listen` succeeds. -/
  listen : Bool

/-- A socket and the address it listens on. -/
structure Listening where
  address : Endpoint
  handle : Nat
deriving DecidableEq, Repr

/-- How the program stops. -/
inductive Stop where
  | exits (status : Nat)
  /-- A pointer to nothing is dereferenced. -/
  | crashes
  /-- An exception of the library is not caught. -/
  | throws
deriving DecidableEq, Repr

/-- `Socket::Create`: the socket that listens, unless the program stops.

With `unixsocket.cpp` the address is not used, since the socket is bound to `INADDR_ANY`, and where
there is no socket `bind` fails.  With `winsocket.cpp` a failure of `listen` crashes: `Close` reads
through a member that is not stored before. -/
def Socket.create (sys : CreateAnswers) (addr : String) (port : UInt16) :
    Backend → Except Stop Listening
  | .unixsocket =>
      let address : Endpoint := ⟨0, port⟩
      match sys.socket with
      | none => .error (.exits 2)
      | some handle =>
          if !sys.bind address then .error (.exits 2)
          else if !sys.listen then .error (.exits 2)
          else .ok ⟨address, handle⟩
  | .winsocket =>
      let address : Endpoint := ⟨sys.inetAddr addr, port⟩
      match sys.socket with
      | none => .error (.exits 1)
      | some handle =>
          if !sys.ioctlsocket then .error (.exits 1)
          else if !sys.bind address then .error (.exits 1)
          else if !sys.listen then .error .crashes
          else .ok ⟨address, handle⟩

/-! ## The program -/

/-- What the system answers while the program starts, by the place of a socket interface among
them. -/
structure StartAnswers (V : Type) where
  backend : Backend
  lossless : V → Option Int
  /-- `toml::parse_file`, unless it throws. -/
  parseFile : String → Option (Table V)
  create : Nat → CreateAnswers
  connect : Nat → ConnectAnswers
  /-- What `AddressU64` finds in its variable. -/
  raw : Nat → UInt64
  /-- How the constructor of the `k`-th serial port stops the program, if it does. -/
  serial : Nat → Option Stop

/-- `MeshSocketInterface::MeshSocketInterface` of a server, once its socket listens. -/
def MeshSocketInterface.server : MeshSocketInterface := ⟨true, ∅⟩

/-- An interface is put behind those of the app, and given to its controller. -/
def KhawasuApp.addInterface (app : KhawasuApp) (i : MeshInterface) : KhawasuApp :=
  ⟨app.interfaces ++ [i], app.controllerInterfaces ++ [i]⟩

/-- A `KhawasuApp`, the network it is made for, and the sockets of its servers. -/
structure Running where
  networkName : String
  networkAddr : FarAddr
  networkPsk : String
  app : KhawasuApp
  listening : List Listening

namespace Running

/-- `KhawasuApp::KhawasuApp`. -/
def make (config : Config) : Running :=
  ⟨config.networkName, config.networkAddr, config.networkPsk, ⟨[], []⟩, []⟩

variable (running : Running)

/-- `KhawasuApp::register_fresh_socket_server`. -/
def registerFreshSocketServer (sys : CreateAnswers) (hostname : String) (port : UInt16)
    (backend : Backend) : Except Stop Running := do
  let socket ← Socket.create sys hostname port backend
  .ok { running with
    app := running.app.addInterface (.socket .server)
    listening := running.listening ++ [socket] }

/-- `KhawasuApp::register_fresh_socket_client`. -/
def registerFreshSocketClient (sys : ConnectAnswers) (raw : UInt64) (hostname : String)
    (port : UInt16) (backend : Backend) : Running :=
  { running with app := running.app.registerFreshSocketClient sys raw hostname port backend }

/-- `KhawasuApp::register_fresh_com_device`.  `serial` is how the constructor stops the program. -/
def registerFreshComDevice (serial : Option Stop) (path : String) (boudrate : Int) :
    Except Stop Running :=
  match serial with
  | some stop => .error stop
  | none => .ok { running with app := running.app.addInterface (.com path boudrate) }

end Running

/-- How the program starts. -/
inductive StartOutcome where
  /-- An exception is not caught. -/
  | terminates (e : StoiError)
  | stops (stop : Stop)
  /-- The loop of the app is reached. -/
  | runs (running : Running)

namespace Program

variable (P : Platform) (A : StartAnswers V)

/-- The first loop of `main`, from the `k`-th interface on. -/
def socketLoop : Nat → List SocketInterface → Running → Except Stop Running
  | _, [], running => .ok running
  | k, i :: rest, running =>
      if i.isServer then do
        let running ← running.registerFreshSocketServer (A.create k) i.hostname i.port.toUInt16
          A.backend
        socketLoop (k + 1) rest running
      else
        socketLoop (k + 1) rest (running.registerFreshSocketClient (A.connect k) (A.raw k)
          i.hostname i.port.toUInt16 A.backend)

/-- The second loop of `main`, from the `k`-th serial port on. -/
def comLoop : Nat → List ComInterface → Running → Except Stop Running
  | _, [], running => .ok running
  | k, i :: rest, running => do
      let running ← running.registerFreshComDevice (A.serial k) i.path i.boudrate
      comLoop (k + 1) rest running

/-- The configuration file, if one is named. -/
def loadConfig (config : Config) : TomlOutcome :=
  if config.configPath = "" then .returned true config
  else performConfigToml A.lossless P A.parseFile config

/-- `main`, up to the loop of the app. -/
def main (argv : List String) : StartOutcome :=
  match ArgParser.process P argv .new with
  | .error e => .terminates e
  | .ok argParser =>
      match loadConfig P A argParser.config with
      | .nullDereference => .stops .crashes
      | .returned false _ => .stops (.exits 1)
      | .returned true config =>
          match socketLoop A 0 config.socketInterfaces (.make config) >>=
            comLoop A 0 config.comDevices with
          | .error stop => .stops stop
          | .ok running => .runs running

/-! ## How it ends -/

/-- The interface a socket interface becomes, unless its constructor throws. -/
def opens (i : SocketInterface × Nat) : Option MeshInterface :=
  if i.1.isServer then some (.socket .server)
  else
    (MeshSocketInterface.connect (A.connect i.2) (A.raw i.2) i.1.hostname i.1.port.toUInt16
      A.backend).map .socket

/-- The socket a server listens on. -/
def listens (i : SocketInterface × Nat) : Option Listening :=
  if i.1.isServer then
    (Socket.create (A.create i.2) i.1.hostname i.1.port.toUInt16 A.backend).toOption
  else none

/-- How a server that cannot listen stops the program. -/
def stops (i : SocketInterface × Nat) : Option Stop :=
  if i.1.isServer then
    match Socket.create (A.create i.2) i.1.hostname i.1.port.toUInt16 A.backend with
    | .error stop => some stop
    | .ok _ => none
  else none

variable {P A} {i : SocketInterface × Nat} {running : Running}

/-- The interfaces and the sockets that are opened, behind those there were. -/
def opened (A : StartAnswers V) (sockets : List (SocketInterface × Nat)) (running : Running) :
    Running :=
  { running with
    app := ⟨running.app.interfaces ++ sockets.filterMap (opens A),
      running.app.controllerInterfaces ++ sockets.filterMap (opens A)⟩
    listening := running.listening ++ sockets.filterMap (listens A) }

theorem opened_nil (running : Running) : opened A [] running = running := by
  simp [opened]

theorem opened_cons (i : SocketInterface × Nat) (sockets : List (SocketInterface × Nat))
    (running : Running) :
    opened A (i :: sockets) running = opened A sockets (opened A [i] running) := by
  simp only [opened, List.filterMap_cons, List.filterMap_nil, List.append_assoc]
  cases opens A i <;> cases listens A i <;> simp

/-- A server that listens is opened. -/
theorem server_opened (server : i.1.isServer = true) {socket : Listening}
    (listening : Socket.create (A.create i.2) i.1.hostname i.1.port.toUInt16 A.backend =
      .ok socket) :
    running.registerFreshSocketServer (A.create i.2) i.1.hostname i.1.port.toUInt16 A.backend =
      .ok (opened A [i] running) := by
  have interface : opens A i = some (.socket .server) := if_pos server
  have there : listens A i = some socket := by
    rw [listens, if_pos server, listening]
    rfl
  rw [Running.registerFreshSocketServer, listening, opened, List.filterMap_cons, interface,
    List.filterMap_cons, there]
  rfl

/-- A client is opened, where its constructor does not throw. -/
theorem client_opened (client : ¬ i.1.isServer = true) :
    running.registerFreshSocketClient (A.connect i.2) (A.raw i.2) i.1.hostname i.1.port.toUInt16
      A.backend = opened A [i] running := by
  have no_socket : listens A i = none := if_neg client
  rw [Running.registerFreshSocketClient, KhawasuApp.registerFreshSocketClient, opened,
    List.filterMap_cons, List.filterMap_cons, no_socket, opens, if_neg client]
  cases MeshSocketInterface.connect (A.connect i.2) (A.raw i.2) i.1.hostname i.1.port.toUInt16
      A.backend with
  | none => simp
  | some self => simp

/-- The loop opens every interface, or stops at the first server that cannot listen. -/
theorem socketLoop_eq (k : Nat) (sockets : List SocketInterface) (running : Running) :
    socketLoop A k sockets running =
      match (sockets.zipIdx k).findSome? (stops A) with
      | none => .ok (opened A (sockets.zipIdx k) running)
      | some stop => .error stop := by
  induction sockets generalizing k running with
  | nil =>
      rw [List.zipIdx_nil, opened_nil]
      rfl
  | cons i rest ih =>
      rw [List.zipIdx_cons, List.findSome?_cons, opened_cons, socketLoop]
      by_cases server : i.isServer = true
      · rw [if_pos server]
        cases created : Socket.create (A.create k) i.hostname i.port.toUInt16 A.backend with
        | error stop =>
            have stopped : stops A (i, k) = some stop := by
              rw [stops, if_pos server, created]
            rw [Running.registerFreshSocketServer, created, stopped]
            rfl
        | ok socket =>
            have goes_on : stops A (i, k) = none := by
              rw [stops, if_pos server, created]
            rw [server_opened (i := (i, k)) server created, goes_on]
            exact ih (k + 1) (opened A [(i, k)] running)
      · have goes_on : stops A (i, k) = none := if_neg server
        rw [if_neg server, client_opened (i := (i, k)) server, goes_on]
        exact ih (k + 1) (opened A [(i, k)] running)

/-- The second loop registers every device, or stops at the first that stops the program. -/
theorem comLoop_eq (k : Nat) (devices : List ComInterface) (running : Running) :
    comLoop A k devices running =
      match (List.range' k devices.length).findSome? A.serial with
      | some stop => .error stop
      | none => .ok { running with
          app := ⟨running.app.interfaces ++ devices.map fun i => .com i.path i.boudrate,
            running.app.controllerInterfaces ++ devices.map fun i => .com i.path i.boudrate⟩ } := by
  induction devices generalizing k running with
  | nil => simp [comLoop]
  | cons i devices ih =>
      rw [comLoop, List.length_cons, List.range'_succ, List.findSome?_cons]
      cases A.serial k with
      | some stop => rfl
      | none =>
          refine (ih (k + 1) _).trans ?_
          cases (List.range' (k + 1) devices.length).findSome? A.serial with
          | some stop => rfl
          | none => simp [KhawasuApp.addInterface]

/-! ## From the command line and the file -/

section Asked

variable (P : Platform) (A : StartAnswers V) (items : List Item) (file : Option (Table V))

/-- The file the command line names. -/
def namedFile : String := ((options items).filterMap OptionGroup.configFile).getLast?.getD ""

/-- The file that is read over the command line, if one is named. -/
inductive FileRead : Option (Table V) → Prop
  | unnamed (unnamed : namedFile items = "") : FileRead none
  | read (doc : Table V) (named : namedFile items ≠ "")
      (parsed : A.parseFile (namedFile items) = some doc) (shaped : Shaped doc) :
      FileRead (some doc)

/-- The sockets of the command line, and then those of the file. -/
def askedSockets : List SocketInterface :=
  ((options items).filterMap OptionGroup.socketOption).map SocketOption.interface ++
    file.elim [] fun doc => (interfaceTables doc "socket").map (.ofTable A.lossless)

/-- The serial ports of the command line, and then those of the file. -/
def askedComs : List ComInterface :=
  ((options items).filterMap OptionGroup.comOption).map ComOption.interface ++
    file.elim [] fun doc => (interfaceTables doc "com").map (.ofTable A.lossless)

/-- The name of the network.  A file that is read decides it, with an empty name where it has no
text for it. -/
def askedName : String :=
  match file with
  | none => ((options items).filterMap OptionGroup.netName).getLast?.getD ""
  | some doc => (((fresh doc).get "net").text).getD ""

/-- The address in the network.  A file that is read decides it, with 0 where it has no number for
it. -/
def askedAddr : FarAddr :=
  match file with
  | none => (((options items).filterMap OptionGroup.netAddr).getLast?.map P.farAddr).getD 0
  | some doc => P.farAddr ((((fresh doc).get "addr").int A.lossless).getD 0)

/-- The key of the network.  A file that is read decides it, with an empty key where it has no text
for it. -/
def askedPsk : String :=
  match file with
  | none => ((options items).filterMap OptionGroup.netPsk).getLast?.getD ""
  | some doc => (((fresh doc).get "psk").text).getD ""

/-- How the first server that cannot listen stops the program, or else the first serial port that
does. -/
def firstStop : Option Stop :=
  ((askedSockets A items file).zipIdx.findSome? (stops A)).or
    ((List.range (askedComs A items file).length).findSome? A.serial)

/-- The program is in the network asked for, and has every interface asked for that could be
opened, in order: the sockets of the command line and of the file, then the serial ports of both. -/
structure Starts (running : Running) : Prop where
  networkName : running.networkName = askedName items file
  networkAddr : running.networkAddr = askedAddr P A items file
  networkPsk : running.networkPsk = askedPsk items file
  interfaces : running.app.interfaces = (askedSockets A items file).zipIdx.filterMap (opens A) ++
    (askedComs A items file).map fun i => .com i.path i.boudrate
  controller : running.app.controllerInterfaces = running.app.interfaces
  listening : running.listening = (askedSockets A items file).zipIdx.filterMap (listens A)

/-- How a start with the command line ends. -/
inductive Ends : StartOutcome → Prop
  /-- Every server listens, and every serial port is opened. -/
  | runs (file : Option (Table V)) (read : FileRead A items file)
      (opens : firstStop A items file = none) (running : Running)
      (starts : Starts P A items file running) : Ends (.runs running)
  /-- Some server does not, or some serial port is not, and the first of them stops the program. -/
  | stops (file : Option (Table V)) (read : FileRead A items file) (stop : Stop)
      (first : firstStop A items file = some stop) : Ends (.stops stop)
  /-- The file does not parse. -/
  | unparsed (named : namedFile items ≠ "") (unparsed : A.parseFile (namedFile items) = none) :
      Ends (.stops (.exits 1))
  /-- The interfaces of the file are no tables of tables. -/
  | crashes (named : namedFile items ≠ "") (doc : Table V)
      (parsed : A.parseFile (namedFile items) = some doc) (misshapen : ¬ Shaped doc) :
      Ends (.stops .crashes)

/-- The configuration is the one asked for. -/
structure Configured (c : Config) : Prop where
  networkName : c.networkName = askedName items file
  networkAddr : c.networkAddr = askedAddr P A items file
  networkPsk : c.networkPsk = askedPsk items file
  socketInterfaces : c.socketInterfaces = askedSockets A items file
  comDevices : c.comDevices = askedComs A items file

end Asked

variable {items : List Item} {file : Option (Table V)} {c : Config} {program : String}

/-- A command line whose options are not mixed up is read as written. -/
theorem process_says (wf : WellFormed items) (unmixed : ∀ group ∈ options items, group.Unmixed P)
    (program : String) : ∃ p,
      ArgParser.process P (program :: items.flatMap Item.words) .new = .ok p ∧
        Says P items p.config := by
  obtain ⟨s, ran⟩ := exists_run_reader wf unmixed
  have whole := process_items (P := P) wf.plain program
  rw [ran] at whole
  cases taken : ArgParser.process P (program :: items.flatMap Item.words) .new with
  | error e =>
      rw [taken] at whole
      cases whole
  | ok p =>
      rw [taken] at whole
      cases whole
      exact ⟨_, rfl,
        (says_iff_of_reading (run_reading ran)).mpr ((unmixed_options_iff _).mp unmixed)⟩

/-- With no file, the configuration is that of the command line. -/
theorem configured_unnamed (told : Says P items c) : Configured P A items none c where
  networkName := told.networkName
  networkAddr := told.networkAddr
  networkPsk := told.networkPsk
  socketInterfaces := told.socketInterfaces.trans (List.append_nil _).symm
  comDevices := told.comDevices.trans (List.append_nil _).symm

/-- With a file, its network is taken and its interfaces are put behind. -/
theorem configured_read (told : Says P items c) {doc interfaces : Table V}
    (table : ((fresh doc).get "interfaces").asTable = some interfaces) :
    Configured P A items (some doc)
      ((c.setNetwork A.lossless P doc).addFile A.lossless interfaces) := by
  have tables : ∀ type, interfaceTables doc type = tablesOf interfaces type := by
    intro type
    rw [interfaceTables, table, Option.getD_some]
  constructor
  case networkName | networkAddr | networkPsk => rfl
  case socketInterfaces =>
    show c.socketInterfaces ++ _ = _ ++ (interfaceTables doc "socket").map _
    rw [tables, told.socketInterfaces]
  case comDevices =>
    show c.comDevices ++ _ = _ ++ (interfaceTables doc "com").map _
    rw [tables, told.comDevices]

/-- From its configuration on, the program starts as asked. -/
theorem Configured.ends (h : Configured P A items file c) (read : FileRead A items file) :
    Ends P A items (match socketLoop A 0 c.socketInterfaces (.make c) >>=
        comLoop A 0 c.comDevices with
      | .error stop => .stops stop
      | .ok running => .runs running) := by
  rw [socketLoop_eq, h.socketInterfaces, h.comDevices]
  cases servers : (askedSockets A items file).zipIdx.findSome? (stops A) with
  | some stop =>
      refine .stops file read stop ?_
      rw [firstStop, servers, Option.some_or]
  | none =>
      have first : firstStop A items file =
          (List.range' 0 (askedComs A items file).length).findSome? A.serial := by
        rw [firstStop, servers, Option.none_or, List.range_eq_range']
      show Ends P A items (match comLoop A 0 (askedComs A items file) _ with
        | .error stop => .stops stop
        | .ok running => .runs running)
      rw [comLoop_eq]
      cases ports : (List.range' 0 (askedComs A items file).length).findSome? A.serial with
      | some stop => exact .stops file read stop (first.trans ports)
      | none =>
          refine .runs file read (first.trans ports) _ ?_
          exact ⟨h.networkName, h.networkAddr, h.networkPsk, rfl, rfl, rfl⟩

/-- For every well-formed command line whose options are not mixed up and whatever the system
answers, the program ends as asked or runs as asked. -/
theorem main_ends (wf : WellFormed items) (unmixed : ∀ group ∈ options items, group.Unmixed P)
    (A : StartAnswers V) (program : String) :
    Ends P A items (main P A (program :: items.flatMap Item.words)) := by
  obtain ⟨p, taken, told⟩ := process_says wf unmixed program
  have path : p.config.configPath = namedFile items := told.configPath
  rw [main, taken]
  dsimp only
  rw [loadConfig, path]
  by_cases unnamed : namedFile items = ""
  · rw [if_pos unnamed]
    exact (configured_unnamed told).ends (.unnamed unnamed)
  · rw [if_neg unnamed]
    cases parsed : A.parseFile (namedFile items) with
    | none =>
        rw [performConfigToml_unparsed (path ▸ parsed)]
        exact .unparsed unnamed parsed
    | some doc =>
        have shaped_iff : ∀ ok c',
            performConfigToml A.lossless P A.parseFile p.config = .returned ok c' ↔ _ :=
          performConfigToml_shaped (path ▸ parsed)
        cases loaded : performConfigToml A.lossless P A.parseFile p.config with
        | nullDereference =>
            refine .crashes unnamed doc parsed ?_
            rintro ⟨interfaces, table, all⟩
            cases loaded.symm.trans ((shaped_iff true _).mpr ⟨rfl, interfaces, table, all, rfl⟩)
        | returned ok config =>
            obtain ⟨rfl, interfaces, table, all, rfl⟩ := (shaped_iff ok config).mp loaded
            exact (configured_read told table).ends
              (.read doc unnamed parsed ⟨interfaces, table, all⟩)

/-- The command line of `README.md` with the file `config_example.toml`. -/
def readmeConfig : List Item := .option (.config true "config_example.toml") :: readme

theorem readmeConfig_wellFormed : WellFormed readmeConfig where
  plain := by decide
  second := by rintro w ⟨⟩
  third := by rintro w ⟨⟩

/-- Every call of the system succeeds. -/
def readmeAnswers : StartAnswers Empty where
  backend := .winsocket
  lossless := Empty.elim
  parseFile _ := some configExample
  create _ := ⟨fun _ => 0x0100007f, some 3, true, fun _ => true, true⟩
  connect _ := ⟨fun _ => some 0x0100007f, 0, some 4, fun _ _ => true, 8⟩
  raw _ := 0
  serial _ := none

/-- The sockets of the command line and of the file. -/
theorem readmeConfig_sockets : askedSockets readmeAnswers readmeConfig (some configExample) =
    [⟨false, "127.0.0.1", 49152⟩, ⟨false, "127.0.0.1", 49151⟩, ⟨true, "127.0.0.1", 49152⟩] := by
  decide

theorem configExample_shaped : Shaped configExample := by
  refine ⟨_, rfl, fun entry he => ?_⟩
  simp only [List.mem_cons, List.not_mem_nil, or_false] at he
  rcases he with rfl | rfl
  · exact ⟨_, rfl, by simp [Node.asTable]⟩
  · exact ⟨_, rfl, by simp [Node.asTable]⟩

/-- The program runs with two clients, a server and a serial port. -/
theorem readmeConfig_runs : ∃ running, main (.leftToRight 32) readmeAnswers
      ("hwctrl" :: readmeConfig.flatMap Item.words) = .runs running ∧
    running.networkPsk = "1234" ∧ running.app.interfaces.length = 4 ∧
    running.listening = [⟨⟨0x0100007f, 49152⟩, 3⟩] := by
  have ends := main_ends readmeConfig_wellFormed (fun group _ => group.unmixed_leftToRight 32)
    readmeAnswers "hwctrl"
  generalize main _ _ _ = outcome at ends ⊢
  have named : namedFile readmeConfig ≠ "" := by decide
  have file_eq : ∀ {file}, FileRead readmeAnswers readmeConfig file →
      file = some configExample := by
    intro file read
    cases read with
    | unnamed unnamed => exact absurd unnamed named
    | read doc named parsed shaped => exact parsed.symm
  cases ends with
  | runs file read listens running starts =>
      cases file_eq read
      refine ⟨running, rfl, starts.networkPsk, ?_, ?_⟩
      · rw [starts.interfaces, readmeConfig_sockets]
        rfl
      · rw [starts.listening, readmeConfig_sockets]
        rfl
  | stops file read stop first =>
      cases file_eq read
      rw [firstStop, readmeConfig_sockets] at first
      cases first
  | unparsed _ unparsed => cases unparsed
  | crashes _ doc parsed misshapen =>
      cases parsed
      exact absurd configExample_shaped misshapen

end Program

end KhawasuPc

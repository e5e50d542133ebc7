import KhawasuPc.CommandLine.ArgParser
import KhawasuPc.Lib.Toml

/-!
# The configuration file

`perform_config_toml` reads a file over a configuration the command line has filled.
Its three loops take pointers to tables and do not compare them with null, so it returns
exactly if all of them are tables (`performConfigToml_returns_iff`).  It appends the
interfaces of the file to those of the command line, but where the file does not say the
name, the key or the address of the network it sets them to nothing
(`performConfigToml_merges_iff`).
-/

namespace KhawasuPc

open Lib Toml

variable {V : Type}

/-- How a call of `perform_config_toml` ends. -/
inductive TomlOutcome where
  /-- A null pointer was dereferenced. -/
  | nullDereference
  | returned (ok : Bool) (config : Config)
deriving DecidableEq, Repr

section Code

variable (lossless : V → Option Int)

/-- `interface_type`. -/
def interfaceType (key : String) : String := String.ofList (key.toList.map Char.toLower)

/-- What is emplaced for a table under `socket`. -/
def SocketInterface.ofTable (valueTable : Table V) : SocketInterface where
  isServer := (valueTable.get "type").text = some "server"
  hostname := ((valueTable.get "host").text).getD ""
  port := Int16.ofInt (((valueTable.get "port").int lossless).getD 0)

/-- What is emplaced for a table under `com`. -/
def ComInterface.ofTable (valueTable : Table V) : ComInterface where
  path := ((valueTable.get "path").text).getD ""
  boudrate := ((valueTable.get "baud").int lossless).getD 0

/-- The body of the inner loop, for a table. -/
def emplaceInterface (type : String) (valueTable : Table V) (config : Config) : Config :=
  if type = "socket" then
    { config with
      socketInterfaces := config.socketInterfaces ++ [.ofTable lossless valueTable] }
  else if type = "com" then
    { config with comDevices := config.comDevices ++ [.ofTable lossless valueTable] }
  else config

/-- The inner loop, unless it dereferences a null pointer. -/
def interfaceLoop (type : String) : Table V → Config → Option Config
  | [], config => some config
  | (_, value) :: rest, config => do
      let valueTable ← value.asTable
      interfaceLoop type rest (emplaceInterface lossless type valueTable config)

/-- The outer loop, unless it dereferences a null pointer. -/
def typeLoop : Table V → Config → Option Config
  | [], config => some config
  | (key, interfaces) :: rest, config => do
      let entries ← interfaces.asTable
      let config ← interfaceLoop lossless (interfaceType key) entries config
      typeLoop rest config

/-- `config["fresh"]`. -/
def fresh (config : Table V) : View V := config.get "fresh"

/-- The three assignments before the loops. -/
def Config.setNetwork (P : Platform) (config : Table V) (appConfig : Config) : Config :=
  { appConfig with
    networkAddr := P.farAddr ((((fresh config).get "addr").int lossless).getD 0)
    networkName := (((fresh config).get "net").text).getD ""
    networkPsk := (((fresh config).get "psk").text).getD "" }

/-- `perform_config_toml`, where `parseFile` is `toml::parse_file` unless that throws. -/
def performConfigToml (P : Platform) (parseFile : String → Option (Table V))
    (appConfig : Config) : TomlOutcome :=
  match parseFile appConfig.configPath with
  | none => .returned false appConfig
  | some config =>
      let appConfig := appConfig.setNetwork lossless P config
      match ((fresh config).get "interfaces").asTable with
      | none => .nullDereference
      | some interfaces =>
          match typeLoop lossless interfaces appConfig with
          | none => .nullDereference
          | some appConfig => .returned true appConfig

end Code

/-! ## What a file says -/

/-- The tables in a table. -/
def tablesIn (node : Node V) : List (Table V) :=
  (node.asTable.getD []).filterMap fun entry => entry.2.asTable

/-- A table of tables. -/
def IsTables (node : Node V) : Prop :=
  ∃ entries, node.asTable = some entries ∧ ∀ entry ∈ entries, ∃ t, entry.2.asTable = some t

/-- `fresh.interfaces` is a table of tables of tables. -/
def Shaped (doc : Table V) : Prop :=
  ∃ interfaces, ((fresh doc).get "interfaces").asTable = some interfaces ∧
    ∀ entry ∈ interfaces, IsTables entry.2

/-- The tables under a type, however it is written. -/
def tablesOf (interfaces : Table V) (type : String) : List (Table V) :=
  interfaces.flatMap fun entry =>
    if interfaceType entry.1 = type then tablesIn entry.2 else []

/-- The tables of the interfaces of a type. -/
def interfaceTables (doc : Table V) (type : String) : List (Table V) :=
  tablesOf ((((fresh doc).get "interfaces").asTable).getD []) type

/-- The configuration is the one of the command line with what the file says. -/
structure Merged (lossless : V → Option Int) (P : Platform) (doc : Table V) (c c' : Config) :
    Prop where
  networkAddr : ∀ n, (fresh doc).get "addr" = some (.integer n) → c'.networkAddr = P.farAddr n
  networkAddr_kept : (fresh doc).get "addr" = none → c'.networkAddr = c.networkAddr
  networkName : ∀ text, (fresh doc).get "net" = some (.string text) → c'.networkName = text
  networkName_kept : (fresh doc).get "net" = none → c'.networkName = c.networkName
  networkPsk : ∀ text, (fresh doc).get "psk" = some (.string text) → c'.networkPsk = text
  networkPsk_kept : (fresh doc).get "psk" = none → c'.networkPsk = c.networkPsk
  socketInterfaces : c'.socketInterfaces =
    c.socketInterfaces ++ (interfaceTables doc "socket").map (.ofTable lossless)
  comDevices : c'.comDevices = c.comDevices ++ (interfaceTables doc "com").map (.ofTable lossless)
  configPath : c'.configPath = c.configPath
  actionType : c'.actionType = c.actionType
  deviceAddr : c'.deviceAddr = c.deviceAddr
  devicePort : c'.devicePort = c.devicePort
  actionName : c'.actionName = c.actionName
  actionValues : c'.actionValues = c.actionValues
  debug : c'.debug = c.debug

/-- Loading a file does to the configuration what the file says. -/
def LoadsFile (lossless : V → Option Int) (P : Platform) (parseFile : String → Option (Table V))
    (c : Config) : Prop :=
  match parseFile c.configPath with
  | none => performConfigToml lossless P parseFile c = .returned false c
  | some doc => Shaped doc → ∃ c',
      performConfigToml lossless P parseFile c = .returned true c' ∧ Merged lossless P doc c c'

/-- The command line does not say what the file is silent about, and the address of the file
is an `int` or zero. -/
structure NothingLost (P : Platform) (doc : Table V) (c : Config) : Prop where
  addr : ∀ n, (fresh doc).get "addr" = some (.integer n) → FitsInt n ∨ P.farAddr n = 0
  addr_unset : (fresh doc).get "addr" = none → c.networkAddr = 0
  net_unset : (fresh doc).get "net" = none → c.networkName = ""
  psk_unset : (fresh doc).get "psk" = none → c.networkPsk = ""

/-! ## The loops -/

variable {lossless : V → Option Int} {c : Config}

/-- The configuration with more interfaces. -/
def Config.addInterfaces (c : Config) (sockets : List SocketInterface) (coms : List ComInterface) :
    Config :=
  { c with
    socketInterfaces := c.socketInterfaces ++ sockets
    comDevices := c.comDevices ++ coms }

theorem Config.addInterfaces_nil (c : Config) : c.addInterfaces [] [] = c := by
  simp only [Config.addInterfaces, List.append_nil]

theorem Config.addInterfaces_add (c : Config) (sockets sockets' : List SocketInterface)
    (coms coms' : List ComInterface) :
    (c.addInterfaces sockets coms).addInterfaces sockets' coms' =
      c.addInterfaces (sockets ++ sockets') (coms ++ coms') := by
  simp only [Config.addInterfaces, List.append_assoc]

/-- The configuration with the interfaces of some tables under a type. -/
def Config.addTables (lossless : V → Option Int) (c : Config) (type : String)
    (tables : List (Table V)) : Config :=
  c.addInterfaces (if type = "socket" then tables.map (.ofTable lossless) else [])
    (if type = "com" then tables.map (.ofTable lossless) else [])

theorem emplaceInterface_eq (type : String) (t : Table V) (c : Config) :
    emplaceInterface lossless type t c = c.addTables lossless type [t] := by
  unfold emplaceInterface Config.addTables
  by_cases socket : type = "socket"
  · subst socket
    simp [Config.addInterfaces]
  · by_cases com : type = "com" <;> simp [Config.addInterfaces, socket, com]

theorem Config.addTables_cons (c : Config) (type : String) (t : Table V) (ts : List (Table V)) :
    (c.addTables lossless type [t]).addTables lossless type ts =
      c.addTables lossless type (t :: ts) := by
  unfold Config.addTables
  rw [Config.addInterfaces_add]
  split_ifs <;> rfl

/-- The inner loop appends the tables it meets, if all are tables. -/
theorem interfaceLoop_eq_some_iff (type : String) (entries : Table V) (c c' : Config) :
    interfaceLoop lossless type entries c = some c' ↔
      (∀ entry ∈ entries, ∃ t, entry.2.asTable = some t) ∧
        c' = c.addTables lossless type (entries.filterMap fun entry => entry.2.asTable) := by
  induction entries generalizing c with
  | nil =>
      have same : c.addTables lossless type [] = c := by
        unfold Config.addTables
        split_ifs <;> exact c.addInterfaces_nil
      simp [interfaceLoop, same, eq_comm]
  | cons entry rest ih =>
      obtain ⟨key, value⟩ := entry
      rw [interfaceLoop, List.forall_mem_cons, List.filterMap_cons]
      cases value.asTable with
      | none => simp
      | some t =>
          rw [Option.bind_eq_bind, Option.bind_some, ih, emplaceInterface_eq,
            Config.addTables_cons]
          simp

/-- The configuration with the interfaces of a file. -/
def Config.addFile (lossless : V → Option Int) (c : Config) (interfaces : Table V) : Config :=
  c.addInterfaces ((tablesOf interfaces "socket").map (.ofTable lossless))
    ((tablesOf interfaces "com").map (.ofTable lossless))

theorem Config.addFile_cons (c : Config) (key : String) {value : Node V} {entries : Table V}
    (table : value.asTable = some entries) (rest : Table V) :
    (c.addTables lossless (interfaceType key)
        (entries.filterMap fun entry => entry.2.asTable)).addFile lossless rest =
      c.addFile lossless ((key, value) :: rest) := by
  have here : tablesIn value = entries.filterMap fun entry => entry.2.asTable := by
    rw [tablesIn, table, Option.getD_some]
  unfold Config.addFile Config.addTables tablesOf
  rw [Config.addInterfaces_add, List.flatMap_cons, List.flatMap_cons, here, List.map_append,
    List.map_append]
  split_ifs <;> rfl

/-- The outer loop appends the interfaces of the file, if all are tables of tables. -/
theorem typeLoop_eq_some_iff (interfaces : Table V) (c c' : Config) :
    typeLoop lossless interfaces c = some c' ↔
      (∀ entry ∈ interfaces, IsTables entry.2) ∧ c' = c.addFile lossless interfaces := by
  induction interfaces generalizing c with
  | nil =>
      have same : c.addFile lossless [] = c := c.addInterfaces_nil
      simp [typeLoop, same, eq_comm]
  | cons entry rest ih =>
      obtain ⟨key, value⟩ := entry
      rw [typeLoop, List.forall_mem_cons]
      cases table : value.asTable with
      | none => simp [IsTables, table]
      | some entries =>
          simp only [Option.bind_eq_bind, Option.bind_some, Option.bind_eq_some_iff,
            interfaceLoop_eq_some_iff, ih, IsTables, table, Option.some.injEq, exists_eq_left']
          constructor
          · rintro ⟨_, ⟨all, rfl⟩, more, rfl⟩
            exact ⟨⟨all, more⟩, c.addFile_cons key table rest⟩
          · rintro ⟨⟨all, more⟩, rfl⟩
            exact ⟨_, ⟨all, rfl⟩, more, (c.addFile_cons key table rest).symm⟩

/-! ## When it returns -/

variable {P : Platform} {parseFile : String → Option (Table V)} {doc : Table V}

/-- Of a file that parses, the loops are what can fail. -/
theorem performConfigToml_eq (parsed : parseFile c.configPath = some doc) (ok : Bool)
    (c' : Config) :
    performConfigToml lossless P parseFile c = .returned ok c' ↔
      ok = true ∧ ∃ interfaces, ((fresh doc).get "interfaces").asTable = some interfaces ∧
        typeLoop lossless interfaces (c.setNetwork lossless P doc) = some c' := by
  rw [performConfigToml, parsed]
  dsimp only
  cases ((fresh doc).get "interfaces").asTable with
  | none => simp
  | some interfaces =>
      dsimp only
      cases loop : typeLoop lossless interfaces (c.setNetwork lossless P doc) with
      | none => simp [loop]
      | some appConfig => simp [loop, eq_comm]

/-- What is returned of a file of the right shape. -/
theorem performConfigToml_shaped (parsed : parseFile c.configPath = some doc) (ok : Bool)
    (c' : Config) :
    performConfigToml lossless P parseFile c = .returned ok c' ↔
      ok = true ∧ ∃ interfaces, ((fresh doc).get "interfaces").asTable = some interfaces ∧
        (∀ entry ∈ interfaces, IsTables entry.2) ∧
        c' = (c.setNetwork lossless P doc).addFile lossless interfaces := by
  rw [performConfigToml_eq parsed]
  simp only [typeLoop_eq_some_iff]

/-- Of a file that does not parse nothing is read. -/
theorem performConfigToml_unparsed (unparsed : parseFile c.configPath = none) :
    performConfigToml lossless P parseFile c = .returned false c := by
  rw [performConfigToml, unparsed]

/-- The call returns exactly if a file that parses has the right shape. -/
theorem performConfigToml_returns_iff :
    (∃ ok c', performConfigToml lossless P parseFile c = .returned ok c') ↔
      ∀ doc, parseFile c.configPath = some doc → Shaped doc := by
  cases parsed : parseFile c.configPath with
  | none =>
      constructor
      · intro _ doc missing
        cases missing
      · exact fun _ => ⟨false, c, performConfigToml_unparsed parsed⟩
  | some doc =>
      simp only [performConfigToml_shaped parsed, Option.some.injEq, forall_eq']
      constructor
      · rintro ⟨ok, c', -, interfaces, table, all, -⟩
        exact ⟨interfaces, table, all⟩
      · rintro ⟨interfaces, table, all⟩
        exact ⟨true, _, rfl, interfaces, table, all, rfl⟩

/-- A file without interfaces. -/
def networkOnly : Table Empty := [("fresh", .table [("net", .string "dev network")])]

/-- The pointer to the table of the interfaces is null. -/
theorem networkOnly_crashes :
    performConfigToml Empty.elim (.leftToRight 32) (fun _ => some networkOnly) .new =
        .nullDereference ∧
      ¬ ∃ ok c', performConfigToml Empty.elim (.leftToRight 32) (fun _ => some networkOnly) .new =
        .returned ok c' := by
  have crash : performConfigToml Empty.elim (.leftToRight 32) (fun _ => some networkOnly) .new =
      .nullDereference := rfl
  refine ⟨crash, ?_⟩
  rintro ⟨ok, c', returned⟩
  rw [crash] at returned
  cases returned

/-! ## What it loses -/

theorem farAddr_zero (P : Platform) : P.farAddr 0 = 0 := by simp [Platform.farAddr]

/-- An address is read as it is exactly if it is an `int` or zero. -/
theorem addr_read_iff {view : View V} {n : Int} (given : view = some (.integer n)) :
    P.farAddr ((view.int lossless).getD 0) = P.farAddr n ↔ FitsInt n ∨ P.farAddr n = 0 := by
  rw [given, View.int]
  by_cases fits : FitsInt n
  · simp [fits]
  · simp [fits, farAddr_zero, eq_comm]

theorem addr_unset {view : View V} (unset : view = none) :
    P.farAddr ((view.int lossless).getD 0) = 0 := by
  rw [unset]
  exact farAddr_zero P

theorem text_read {view : View V} {text : String} (given : view = some (.string text)) :
    view.text.getD "" = text := by
  rw [given]
  rfl

theorem text_unset {view : View V} (unset : view = none) : view.text.getD "" = "" := by
  rw [unset]
  rfl

/-- What is returned of a file is merged exactly if nothing is lost. -/
theorem merged_iff {interfaces : Table V}
    (table : ((fresh doc).get "interfaces").asTable = some interfaces) :
    Merged lossless P doc c ((c.setNetwork lossless P doc).addFile lossless interfaces) ↔
      NothingLost P doc c := by
  have tables : ∀ type, interfaceTables doc type = tablesOf interfaces type := by
    intro type
    rw [interfaceTables, table, Option.getD_some]
  constructor
  · intro h
    constructor
    case addr => exact fun n given => (addr_read_iff given).mp (h.networkAddr n given)
    case addr_unset =>
      exact fun unset => (h.networkAddr_kept unset).symm.trans (addr_unset unset)
    case net_unset =>
      exact fun unset => (h.networkName_kept unset).symm.trans (text_unset unset)
    case psk_unset =>
      exact fun unset => (h.networkPsk_kept unset).symm.trans (text_unset unset)
  · intro h
    constructor
    case networkAddr => exact fun n given => (addr_read_iff given).mpr (h.addr n given)
    case networkAddr_kept =>
      exact fun unset => (addr_unset unset).trans (h.addr_unset unset).symm
    case networkName => exact fun text given => text_read given
    case networkName_kept =>
      exact fun unset => (text_unset unset).trans (h.net_unset unset).symm
    case networkPsk => exact fun text given => text_read given
    case networkPsk_kept =>
      exact fun unset => (text_unset unset).trans (h.psk_unset unset).symm
    case socketInterfaces => rw [tables]; rfl
    case comDevices => rw [tables]; rfl
    all_goals rfl

/-- Loading a file does what the file says and nothing else exactly if nothing of the
command line is lost. -/
theorem performConfigToml_merges_iff :
    LoadsFile lossless P parseFile c ↔
      ∀ doc, parseFile c.configPath = some doc → Shaped doc → NothingLost P doc c := by
  unfold LoadsFile
  cases parsed : parseFile c.configPath with
  | none =>
      constructor
      · intro _ doc missing
        cases missing
      · exact fun _ => performConfigToml_unparsed parsed
  | some doc =>
      simp only [performConfigToml_shaped parsed, Option.some.injEq, forall_eq', true_and]
      refine forall_congr' fun shaped => ?_
      obtain ⟨interfaces, table, all⟩ := shaped
      rw [← merged_iff table]
      constructor
      · rintro ⟨c', ⟨interfaces', table', -, rfl⟩, merged⟩
        cases table.symm.trans table'
        exact merged
      · exact fun merged => ⟨_, ⟨interfaces, table, all, rfl⟩, merged⟩

/-- `config_example.toml`. -/
def configExample : Table Empty :=
  [("fresh", .table [("addr", .integer 33221),
    ("interfaces", .table
      [("com", .table
          [("com3", .table [("baud", .integer 115200), ("path", .string "\\\\.\\COM3")])]),
        ("socket", .table
          [("client", .table [("host", .string "127.0.0.1"), ("port", .integer 49151),
              ("type", .string "client")]),
            ("server", .table [("host", .string "127.0.0.1"), ("port", .integer 49152),
              ("type", .string "server")])])]),
    ("net", .string "dev network"), ("psk", .string "1234")])]

example : performConfigToml Empty.elim (.leftToRight 32) (fun _ => some configExample) .new =
    .returned true { Config.new with
      networkName := "dev network"
      networkAddr := 33221
      networkPsk := "1234"
      comDevices := [⟨"\\\\.\\COM3", 115200⟩]
      socketInterfaces := [⟨false, "127.0.0.1", 49151⟩, ⟨true, "127.0.0.1", 49152⟩] } := by
  decide

/-- A file with an interface, and nothing about the network. -/
def interfacesOnly : Table Empty :=
  [("fresh", .table [("interfaces", .table [("socket", .table
    [("client", .table [("host", .string "127.0.0.1"), ("port", .integer 49152),
      ("type", .string "client")])])])])]

/-- What `--net "dev network" --config hwctrl.toml` leaves behind. -/
def namedConfig : Config :=
  { Config.new with networkName := "dev network", configPath := "hwctrl.toml" }

/-- The name of the network is lost. -/
theorem namedConfig_reset :
    ¬ LoadsFile Empty.elim (.leftToRight 32) (fun _ => some interfacesOnly) namedConfig := by
  intro h
  have shaped : Shaped interfacesOnly := by
    refine ⟨_, rfl, fun entry he => ?_⟩
    cases List.mem_singleton.mp he
    refine ⟨_, rfl, fun entry he => ?_⟩
    cases List.mem_singleton.mp he
    exact ⟨_, rfl⟩
  obtain ⟨c', returned, merged⟩ := h shaped
  have reset : performConfigToml Empty.elim (.leftToRight 32) (fun _ => some interfacesOnly)
      namedConfig = .returned true { namedConfig with
        networkName := ""
        socketInterfaces := [⟨false, "127.0.0.1", 49152⟩] } := by decide
  rw [reset] at returned
  cases returned
  exact absurd (merged.networkName_kept rfl) (by decide)

end KhawasuPc

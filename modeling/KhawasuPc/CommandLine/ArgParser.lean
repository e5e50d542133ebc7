import KhawasuPc.Lib.Decimal
import KhawasuPc.Protocol.Packet
import Mathlib.Logic.Equiv.Defs

/-!
# The command line

`ArgParser::process` takes the arguments one by one.  One that starts with a dash is
an option and reads the words it needs with `peek`; any other is a word whose meaning
is its place among the words.

The arguments of the two `emplace_back` calls each contain a `peek`, and a compiler
may evaluate them in any order.  `Platform` says which.
-/

namespace KhawasuPc

open Lib

/-! ## The configuration -/

/-- `ComInterface`. -/
structure ComInterface where
  path : String
  boudrate : Int
deriving DecidableEq, Repr

/-- `SocketInterface`. -/
structure SocketInterface where
  isServer : Bool
  hostname : String
  port : Int16
deriving DecidableEq, Repr

/-- `Config`. -/
structure Config where
  networkName : String
  networkAddr : FarAddr
  networkPsk : String
  comDevices : List ComInterface
  socketInterfaces : List SocketInterface
  configPath : String
  actionType : String
  deviceAddr : FarAddr
  devicePort : Int
  actionName : String
  actionValues : List String
  debug : Bool
deriving DecidableEq, Repr

/-- A new `Config`. -/
def Config.new : Config where
  networkName := ""
  networkAddr := 0
  networkPsk := ""
  comDevices := []
  socketInterfaces := []
  configPath := ""
  actionType := ""
  deviceAddr := 0
  devicePort := 0
  actionName := ""
  actionValues := []
  debug := false

/-- The arguments of the `emplace_back` for a `--com`. -/
inductive ComArgument where
  | path
  | boudrate
deriving DecidableEq, Repr

/-- The arguments of the `emplace_back` for a `--socket`. -/
inductive SocketArgument where
  | isServer
  | hostname
  | port
deriving DecidableEq, Repr

/-- Of the words taken, the one in the place an argument has from left to right. -/
def ComArgument.among (word₀ word₁ : String) : ComArgument → String
  | .path => word₀
  | .boudrate => word₁

/-- Of the words taken, the one in the place an argument has from left to right. -/
def SocketArgument.among (word₀ word₁ word₂ : String) : SocketArgument → String
  | .isServer => word₀
  | .hostname => word₁
  | .port => word₂

/-- What the code leaves open: the width of `far_addr_t`, and the order in which the
arguments of the `emplace_back` calls are evaluated, by the argument in whose place from
left to right each of them is. -/
structure Platform where
  farAddrBits : Nat
  com : Equiv.Perm ComArgument
  socket : Equiv.Perm SocketArgument

/-- Arguments evaluated from left to right. -/
def Platform.leftToRight (bits : Nat) : Platform := ⟨bits, .refl _, .refl _⟩

/-- An `int`, as a `far_addr_t`. -/
def Platform.farAddr (P : Platform) (n : Int) : FarAddr := (BitVec.ofInt P.farAddrBits n).toNat

/-! ## The parser -/

/-- `ArgParser`. -/
structure ArgParser where
  args : List String
  currentIndex : Nat
  relativeIndex : Nat
  config : Config
deriving DecidableEq, Repr

namespace ArgParser

/-- `ArgParser::seek`. -/
def seek (p : ArgParser) (offset : Nat) : String :=
  if p.args.length ≤ p.currentIndex + offset then ""
  else (p.args[p.currentIndex + offset]?).getD ""

/-- `ArgParser::peek`. -/
def peek (p : ArgParser) : String × ArgParser :=
  (p.seek 0, { p with currentIndex := p.currentIndex + 1 })

/-- An assignment to the configuration. -/
def assign (set : Config → Config) (p : ArgParser) : Except StoiError ArgParser :=
  .ok { p with config := set p.config }

/-- An assignment of `std::stoi(text)` to the configuration. -/
def assignInt (text : String) (set : Int → Config → Config) (p : ArgParser) :
    Except StoiError ArgParser := do
  let n ← stoi text
  p.assign (set n)

/-! ### Options -/

/-- An assignment of `peek()` to the configuration. -/
def readText (set : String → Config → Config) (p : ArgParser) : Except StoiError ArgParser :=
  let (value, p) := p.peek
  p.assign (set value)

/-- `config->network_name = peek()`. -/
def readNet : ArgParser → Except StoiError ArgParser :=
  readText fun value config => { config with networkName := value }

/-- `config->network_addr = std::stoi(peek())`. -/
def readAddr (P : Platform) (p : ArgParser) : Except StoiError ArgParser :=
  let (value, p) := p.peek
  p.assignInt value fun n config => { config with networkAddr := P.farAddr n }

/-- `config->network_psk = peek()`. -/
def readPsk : ArgParser → Except StoiError ArgParser :=
  readText fun value config => { config with networkPsk := value }

/-- `config->com_devices.emplace_back(peek(), std::stoi(peek()))`.  `word` is the one that each
argument has peeked. -/
def readCom (P : Platform) (p : ArgParser) : Except StoiError ArgParser :=
  let (word₀, p) := p.peek
  let (word₁, p) := p.peek
  let word : ComArgument → String := fun argument => (P.com argument).among word₀ word₁
  p.assignInt (word .boudrate) fun boudrate config =>
    { config with comDevices := config.comDevices ++ [⟨word .path, boudrate⟩] }

/-- `config->socket_interfaces.emplace_back(peek() == "server", peek(), std::stoi(peek()))`.  `word`
is the one that each argument has peeked. -/
def readSocket (P : Platform) (p : ArgParser) : Except StoiError ArgParser :=
  let (word₀, p) := p.peek
  let (word₁, p) := p.peek
  let (word₂, p) := p.peek
  let word : SocketArgument → String := fun argument =>
    (P.socket argument).among word₀ word₁ word₂
  p.assignInt (word .port) fun port config =>
    { config with
      socketInterfaces :=
        config.socketInterfaces ++ [⟨word .isServer = "server", word .hostname, Int16.ofInt port⟩] }

/-- `config->config_path = peek()`. -/
def readConfig : ArgParser → Except StoiError ArgParser :=
  readText fun value config => { config with configPath := value }

/-- `config->debug = true`. -/
def setDebug (p : ArgParser) : Except StoiError ArgParser :=
  p.assign fun config => { config with debug := true }

/-- An `if` without an `else`. -/
def ifThen (c : Prop) [Decidable c] (body : ArgParser → Except StoiError ArgParser)
    (p : ArgParser) : Except StoiError ArgParser :=
  if c then body p else .ok p

/-- `ArgParser::processNamedArgument`. -/
def processNamedArgument (P : Platform) (p : ArgParser) : Except StoiError ArgParser := do
  let (name, p) := p.peek
  let p ← ifThen (name = "--net" ∨ name = "-n") readNet p
  let p ← ifThen (name = "--addr" ∨ name = "-a") (readAddr P) p
  let p ← ifThen (name = "--psk") readPsk p
  let p ← ifThen (name = "--com") (readCom P) p
  let p ← ifThen (name = "--socket") (readSocket P) p
  let p ← ifThen (name = "--config" ∨ name = "-c") readConfig p
  ifThen (name = "--debug") setDebug p

/-! ### Words -/

/-- `config->action_type = arg`. -/
def setActionType (arg : String) (p : ArgParser) : Except StoiError ArgParser :=
  p.assign fun config => { config with actionType := arg }

/-- `config->device_addr = std::stoi(arg)`. -/
def setDeviceAddr (P : Platform) (arg : String) (p : ArgParser) : Except StoiError ArgParser :=
  p.assignInt arg fun n config => { config with deviceAddr := P.farAddr n }

/-- `config->device_port = std::stoi(arg)`. -/
def setDevicePort (arg : String) (p : ArgParser) : Except StoiError ArgParser :=
  p.assignInt arg fun n config => { config with devicePort := n }

/-- `config->action_name = arg`. -/
def setActionName (arg : String) (p : ArgParser) : Except StoiError ArgParser :=
  p.assign fun config => { config with actionName := arg }

/-- `config->action_values.push_back(arg)`. -/
def addActionValue (arg : String) (p : ArgParser) : Except StoiError ArgParser :=
  p.assign fun config => { config with actionValues := config.actionValues ++ [arg] }

/-- `++relative_index`. -/
def nextWord (p : ArgParser) : Except StoiError ArgParser :=
  .ok { p with relativeIndex := p.relativeIndex + 1 }

/-- `ArgParser::processRelativeArgument`. -/
def processRelativeArgument (P : Platform) (p : ArgParser) : Except StoiError ArgParser := do
  let (arg, p) := p.peek
  let p ← ifThen (p.relativeIndex = 0) (setActionType arg) p
  let p ← ifThen (p.relativeIndex = 1) (setDeviceAddr P arg) p
  let p ← ifThen (p.relativeIndex = 2) (setDevicePort arg) p
  let p ← ifThen (p.relativeIndex = 3) (setActionName arg) p
  let p ← ifThen (4 ≤ p.relativeIndex) (addActionValue arg) p
  p.nextWord

/-! ### Which body runs -/

/-- The body that runs for the name of an option. -/
def optionBody (P : Platform) (name : String) : ArgParser → Except StoiError ArgParser :=
  if name = "--net" ∨ name = "-n" then readNet
  else if name = "--addr" ∨ name = "-a" then readAddr P
  else if name = "--psk" then readPsk
  else if name = "--com" then readCom P
  else if name = "--socket" then readSocket P
  else if name = "--config" ∨ name = "-c" then readConfig
  else if name = "--debug" then setDebug
  else .ok

theorem ok_bind (p : ArgParser) (f : ArgParser → Except StoiError ArgParser) :
    (Except.ok p >>= f) = f p := rfl

theorem bind_ok (r : Except StoiError ArgParser) : r >>= Except.ok = r := by
  cases r <;> rfl

/-- Of the bodies of the options the one of the name runs. -/
theorem processNamedArgument_eq (P : Platform) (p : ArgParser) :
    p.processNamedArgument P = optionBody P (p.seek 0) p.peek.2 := by
  unfold processNamedArgument optionBody
  dsimp only [peek]
  generalize p.seek 0 = name
  by_cases net : name = "--net" ∨ name = "-n"
  · rcases net with rfl | rfl <;> simp [ifThen, bind_ok]
  by_cases addr : name = "--addr" ∨ name = "-a"
  · rcases addr with rfl | rfl <;> simp [ifThen, ok_bind, bind_ok]
  by_cases psk : name = "--psk"
  · subst psk
    simp [ifThen, ok_bind, bind_ok]
  by_cases com : name = "--com"
  · subst com
    simp [ifThen, ok_bind, bind_ok]
  by_cases socket : name = "--socket"
  · subst socket
    simp [ifThen, ok_bind, bind_ok]
  by_cases config : name = "--config" ∨ name = "-c"
  · rcases config with rfl | rfl <;> simp [ifThen, ok_bind, bind_ok]
  by_cases debug : name = "--debug"
  · subst debug
    simp [ifThen, ok_bind]
  simp [ifThen, net, addr, psk, com, socket, config, debug, ok_bind]

/-- The body that runs for a word, by the number of words before it. -/
def wordBody (P : Platform) (arg : String) : Nat → ArgParser → Except StoiError ArgParser
  | 0 => setActionType arg
  | 1 => setDeviceAddr P arg
  | 2 => setDevicePort arg
  | 3 => setActionName arg
  | _ + 4 => addActionValue arg

/-- Of the bodies for words the one of its place runs. -/
theorem processRelativeArgument_eq (P : Platform) (p : ArgParser) :
    p.processRelativeArgument P =
      wordBody P (p.seek 0) p.relativeIndex p.peek.2 >>= nextWord := by
  obtain ⟨args, currentIndex, relativeIndex, config⟩ := p
  unfold processRelativeArgument
  dsimp only [peek]
  match relativeIndex with
  | 0 => rfl
  | 1 =>
      simp only [ifThen, wordBody, setDeviceAddr, assignInt]
      cases stoi (seek ⟨args, currentIndex, 1, config⟩ 0) <;> rfl
  | 2 =>
      simp only [ifThen, wordBody, setDevicePort, assignInt]
      cases stoi (seek ⟨args, currentIndex, 2, config⟩ 0) <;> rfl
  | 3 => rfl
  | k + 4 => simp [ifThen, wordBody, ok_bind]

/-! ### The loop -/

/-- `arg.find('-') == 0`. -/
def isNamed (arg : String) : Bool := arg.toList.head? = some '-'

/-- The body of the loop of `ArgParser::process`. -/
def step (P : Platform) (p : ArgParser) : Except StoiError ArgParser :=
  let arg := p.seek 0
  if isNamed arg then p.processNamedArgument P else p.processRelativeArgument P

/-- The parser has gone on in the same arguments. -/
def Advances (p p' : ArgParser) : Prop := p'.args = p.args ∧ p.currentIndex ≤ p'.currentIndex

theorem Advances.trans {p p' p'' : ArgParser} (h : Advances p p') (h' : Advances p' p'') :
    Advances p p'' :=
  ⟨h'.1.trans h.1, Nat.le_trans h.2 h'.2⟩

/-- Where it succeeds, it goes on in the same arguments. -/
def Reads (body : ArgParser → Except StoiError ArgParser) : Prop :=
  ∀ p p', body p = .ok p' → Advances p p'

/-- What a computation in two parts returns is returned by the second part. -/
theorem bind_eq_ok {α β : Type} {first : Except StoiError α} {second : α → Except StoiError β}
    {b : β} (h : first >>= second = .ok b) : ∃ a, first = .ok a ∧ second a = .ok b := by
  cases first with
  | error e => cases h
  | ok a => exact ⟨a, rfl, h⟩

theorem assign_reads (set : Config → Config) : Reads (assign set) := by
  rintro p p' ⟨⟩
  exact ⟨rfl, Nat.le_refl _⟩

theorem assignInt_reads (text : String) (set : Int → Config → Config) :
    Reads (assignInt text set) := by
  intro p p' hp
  obtain ⟨n, -, hp⟩ := bind_eq_ok hp
  exact assign_reads _ p p' hp

theorem nextWord_reads : Reads nextWord := by
  rintro p p' ⟨⟩
  exact ⟨rfl, Nat.le_refl _⟩

/-- What goes on after a word went on before it. -/
theorem Advances.of_peek {p p' : ArgParser} (h : Advances p.peek.2 p') : Advances p p' :=
  ⟨h.1, Nat.le_of_succ_le h.2⟩

theorem readText_reads (set : String → Config → Config) : Reads (readText set) :=
  fun _ _ h => (assign_reads _ _ _ h).of_peek

theorem readAddr_reads (P : Platform) : Reads (readAddr P) :=
  fun _ _ h => (assignInt_reads _ _ _ _ h).of_peek

theorem readCom_reads (P : Platform) : Reads (readCom P) :=
  fun _ _ h => (assignInt_reads _ _ _ _ h).of_peek.of_peek

theorem readSocket_reads (P : Platform) : Reads (readSocket P) :=
  fun _ _ h => (assignInt_reads _ _ _ _ h).of_peek.of_peek.of_peek

theorem optionBody_reads (P : Platform) (name : String) : Reads (optionBody P name) := by
  unfold optionBody
  split_ifs
  · exact readText_reads _
  · exact readAddr_reads P
  · exact readText_reads _
  · exact readCom_reads P
  · exact readSocket_reads P
  · exact readText_reads _
  · exact assign_reads _
  · rintro p p' ⟨⟩
    exact ⟨rfl, Nat.le_refl _⟩

theorem wordBody_reads (P : Platform) (arg : String) (k : Nat) : Reads (wordBody P arg k) := by
  unfold wordBody
  split
  · exact assign_reads _
  · exact assignInt_reads _ _
  · exact assignInt_reads _ _
  · exact assign_reads _
  · exact assign_reads _

/-- A round of the loop takes an argument. -/
theorem step_advances {P : Platform} {p p' : ArgParser} (h : p.step P = .ok p') :
    p'.args = p.args ∧ p.currentIndex < p'.currentIndex := by
  unfold step at h
  dsimp only at h
  split at h
  · rw [processNamedArgument_eq] at h
    exact optionBody_reads P _ _ _ h
  · rw [processRelativeArgument_eq] at h
    obtain ⟨p₁, body, next⟩ := bind_eq_ok h
    exact (wordBody_reads P _ _ _ _ body).trans (nextWord_reads _ _ next)

/-- The loop of `ArgParser::process`. -/
def loop (P : Platform) (p : ArgParser) : Except StoiError ArgParser :=
  if _more : p.currentIndex < p.args.length then
    match _taken : p.step P with
    | .error e => .error e
    | .ok p' => loop P p'
  else .ok p
termination_by p.args.length - p.currentIndex
decreasing_by
  obtain ⟨same, further⟩ := step_advances _taken
  rw [same]
  omega

/-- `ArgParser::process` of a new parser. -/
def process (P : Platform) (argv : List String) (appConfig : Config) :
    Except StoiError ArgParser :=
  loop P ⟨argv.drop 1, 0, 0, appConfig⟩

end ArgParser

/-! ## Registering interfaces -/

/-- A call of `main` that registers an interface. -/
inductive InterfaceCall where
  | socketServer (hostname : String) (port : UInt16)
  | socketClient (hostname : String) (port : UInt16)
  | com (path : String) (boudrate : Int)
deriving DecidableEq, Repr

/-- The body of the first loop of `main`: the port goes from `short` to `uint16_t`. -/
def SocketInterface.register (i : SocketInterface) : InterfaceCall :=
  if i.isServer then .socketServer i.hostname i.port.toUInt16
  else .socketClient i.hostname i.port.toUInt16

/-- The body of the second loop of `main`. -/
def ComInterface.register (i : ComInterface) : InterfaceCall := .com i.path i.boudrate

/-- The two loops of `main` that register interfaces. -/
def Config.registerInterfaces (config : Config) : List InterfaceCall :=
  config.socketInterfaces.map SocketInterface.register ++
    config.comDevices.map ComInterface.register

end KhawasuPc

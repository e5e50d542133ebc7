import KhawasuPc.CommandLine.ArgParser
import KhawasuPc.Lib.Machine

/-!
# Arrangements of a command line

A command line is a list of options, each with its words, and of words of its own, in
any order.  The parser reads it item by item (`loop_items`), so what it leaves behind
is known from the options and the words alone (`run_reading`).  `Says` is what it should
be, and `ReadAsWritten` that it is.
-/

namespace KhawasuPc

open Lib

/-! ## Command lines -/

/-- The words of a `--com`. -/
structure ComOption where
  path : String
  baud : Numeral

/-- The words of a `--socket`. -/
structure SocketOption where
  mode : String
  host : String
  port : Numeral

/-- An option and its words.  `short` is its short name. -/
inductive OptionGroup where
  | net (short : Bool) (value : String)
  | addr (short : Bool) (n : Numeral)
  | psk (key : String)
  | com (option : ComOption)
  | socket (option : SocketOption)
  | config (short : Bool) (path : String)
  | debug

/-- A part of a command line. -/
inductive Item where
  | option (group : OptionGroup)
  | word (text : String)

namespace OptionGroup

/-- The name of an option. -/
def name : OptionGroup → String
  | .net short _ => if short then "-n" else "--net"
  | .addr short _ => if short then "-a" else "--addr"
  | .psk _ => "--psk"
  | .com _ => "--com"
  | .socket _ => "--socket"
  | .config short _ => if short then "-c" else "--config"
  | .debug => "--debug"

/-- The words after the name. -/
def values : OptionGroup → List String
  | .net _ value => [value]
  | .addr _ n => [n.text]
  | .psk key => [key]
  | .com o => [o.path, o.baud.text]
  | .socket o => [o.mode, o.host, o.port.text]
  | .config _ path => [path]
  | .debug => []

/-- The arguments an option consists of. -/
def words (group : OptionGroup) : List String := group.name :: group.values

end OptionGroup

/-- The arguments an item consists of. -/
def Item.words : Item → List String
  | .option group => group.words
  | .word text => [text]

/-- The option of an item. -/
def Item.group : Item → Option OptionGroup
  | .option group => some group
  | .word _ => none

/-- The word of an item. -/
def Item.text : Item → Option String
  | .option _ => none
  | .word text => some text

namespace OptionGroup

/-- What `--net` is given. -/
def netName : OptionGroup → Option String
  | .net _ value => some value
  | _ => none

/-- What `--addr` is given. -/
def netAddr : OptionGroup → Option Int
  | .addr _ n => some n.value
  | _ => none

/-- What `--psk` is given. -/
def netPsk : OptionGroup → Option String
  | .psk key => some key
  | _ => none

/-- What `--com` is given. -/
def comOption : OptionGroup → Option ComOption
  | .com o => some o
  | _ => none

/-- What `--socket` is given. -/
def socketOption : OptionGroup → Option SocketOption
  | .socket o => some o
  | _ => none

/-- What `--config` is given. -/
def configFile : OptionGroup → Option String
  | .config _ path => some path
  | _ => none

/-- The option is `--debug`. -/
def isDebug : OptionGroup → Bool
  | .debug => true
  | _ => false

end OptionGroup

/-- The options of a command line. -/
def options (items : List Item) : List OptionGroup := items.filterMap Item.group

/-- The words of a command line. -/
def positionals (items : List Item) : List String := items.filterMap Item.text

theorem Item.words_length_pos (item : Item) : 0 < item.words.length := by
  cases item with
  | option group => exact Nat.succ_pos _
  | word text => exact Nat.one_pos

theorem mem_positionals_cons_self {item : Item} {items : List Item} {w : String}
    (h : item.text = some w) : w ∈ positionals (item :: items) := by
  rw [positionals, List.filterMap_cons, h]
  exact List.mem_cons_self

theorem mem_positionals_cons {item : Item} {items : List Item} {w : String}
    (h : w ∈ positionals items) : w ∈ positionals (item :: items) := by
  rw [positionals, List.filterMap_cons]
  cases item.text with
  | none => exact h
  | some _ => exact List.mem_cons_of_mem _ h

/-- The word is a decimal number that fits an `int`. -/
def IsNumber (w : String) : Prop := ∃ n, Decimal w n ∧ FitsInt n

/-- The words do not start with a dash, and the second and the third are numbers. -/
structure WellFormed (items : List Item) : Prop where
  plain : ∀ w ∈ positionals items, ArgParser.isNamed w = false
  second : ∀ w, (positionals items)[1]? = some w → IsNumber w
  third : ∀ w, (positionals items)[2]? = some w → IsNumber w

/-! ## What a command line says -/

/-- The interface a `--com` asks for. -/
def ComOption.interface (o : ComOption) : ComInterface := ⟨o.path, o.baud.value⟩

/-- The interface a `--socket` asks for. -/
def SocketOption.interface (o : SocketOption) : SocketInterface :=
  ⟨o.mode = "server", o.host, Int16.ofInt o.port.value⟩

/-- `main` passes the port of a `--socket` on. -/
def SocketOption.PassedOn (o : SocketOption) (call : InterfaceCall) : Prop :=
  ∀ port : Nat, o.port.value = port → port ≤ 65535 → call =
    if o.mode = "server" then .socketServer o.host (UInt16.ofNat port)
    else .socketClient o.host (UInt16.ofNat port)

/-- The configuration is what the command line says. -/
structure Says (P : Platform) (items : List Item) (config : Config) : Prop where
  networkName : config.networkName =
    ((options items).filterMap OptionGroup.netName).getLast?.getD ""
  networkAddr : config.networkAddr =
    (((options items).filterMap OptionGroup.netAddr).getLast?.map P.farAddr).getD 0
  networkPsk : config.networkPsk = ((options items).filterMap OptionGroup.netPsk).getLast?.getD ""
  configPath : config.configPath =
    ((options items).filterMap OptionGroup.configFile).getLast?.getD ""
  debug : config.debug = (options items).any OptionGroup.isDebug
  comDevices : config.comDevices =
    ((options items).filterMap OptionGroup.comOption).map ComOption.interface
  socketInterfaces : config.socketInterfaces =
    ((options items).filterMap OptionGroup.socketOption).map SocketOption.interface
  actionType : config.actionType = ((positionals items)[0]?).getD ""
  deviceAddr : ∀ w n, (positionals items)[1]? = some w → Decimal w n → FitsInt n →
    config.deviceAddr = P.farAddr n
  deviceAddr_none : (positionals items)[1]? = none → config.deviceAddr = 0
  devicePort : ∀ w n, (positionals items)[2]? = some w → Decimal w n → FitsInt n →
    config.devicePort = n
  devicePort_none : (positionals items)[2]? = none → config.devicePort = 0
  actionName : config.actionName = ((positionals items)[3]?).getD ""
  actionValues : config.actionValues = (positionals items).drop 4
  registered : ∃ calls, List.Forall₂ SocketOption.PassedOn
      ((options items).filterMap OptionGroup.socketOption) calls ∧
    config.registerInterfaces = calls ++ config.comDevices.map ComInterface.register

/-- `process` takes every argument of the command line and leaves behind what it says. -/
def ReadAsWritten (P : Platform) (items : List Item) : Prop :=
  ∀ program, ∃ p, ArgParser.process P (program :: items.flatMap Item.words) .new = .ok p ∧
    p.currentIndex = p.args.length ∧ Says P items p.config

/-! ## Reading item by item -/

/-- `std::stoi`, where it does not throw. -/
def readInt (text : String) : Option Int := (stoi text).toOption

theorem readInt_eq_some {text : String} {n : Int} : readInt text = some n ↔ stoi text = .ok n := by
  unfold readInt
  cases stoi text <;> simp [Except.toOption]

theorem readInt_of_decimal {text : String} {n : Int} (decimal : Decimal text n)
    (fits : FitsInt n) : readInt text = some n :=
  readInt_eq_some.mpr (stoi_of_decimal decimal fits)

theorem readInt_numeral (n : Numeral) : readInt n.text = some n.value :=
  readInt_of_decimal n.decimal n.fits

/-- The word each argument of the `emplace_back` for a `--com` peeks. -/
def ComOption.word (P : Platform) (o : ComOption) (argument : ComArgument) : String :=
  (P.com argument).among o.path o.baud.text

/-- The word each argument of the `emplace_back` for a `--socket` peeks. -/
def SocketOption.word (P : Platform) (o : SocketOption) (argument : SocketArgument) : String :=
  (P.socket argument).among o.mode o.host o.port.text

/-- The interface read for a `--com`. -/
def ComOption.read (P : Platform) (o : ComOption) : Option ComInterface :=
  (readInt (o.word P .boudrate)).map fun n => ⟨o.word P .path, n⟩

/-- The interface read for a `--socket`. -/
def SocketOption.read (P : Platform) (o : SocketOption) : Option SocketInterface :=
  (readInt (o.word P .port)).map fun n =>
    ⟨o.word P .isServer = "server", o.word P .hostname, Int16.ofInt n⟩

/-- What reading an option does to the configuration. -/
def OptionGroup.read (P : Platform) (c : Config) : OptionGroup → Option Config
  | .net _ value => some { c with networkName := value }
  | .addr _ n => some { c with networkAddr := P.farAddr n.value }
  | .psk key => some { c with networkPsk := key }
  | .com o => (o.read P).map fun i => { c with comDevices := c.comDevices ++ [i] }
  | .socket o =>
      (o.read P).map fun i => { c with socketInterfaces := c.socketInterfaces ++ [i] }
  | .config _ path => some { c with configPath := path }
  | .debug => some { c with debug := true }

/-- What reading a word does to the configuration, by the number of words before it. -/
def readWord (P : Platform) (c : Config) (text : String) : Nat → Option Config
  | 0 => some { c with actionType := text }
  | 1 => (readInt text).map fun n => { c with deviceAddr := P.farAddr n }
  | 2 => (readInt text).map fun n => { c with devicePort := n }
  | 3 => some { c with actionName := text }
  | _ + 4 => some { c with actionValues := c.actionValues ++ [text] }

/-- What reading an item does to the configuration and the number of words. -/
def Item.read (P : Platform) (s : Config × Nat) : Item → Option (Config × Nat)
  | .option group => (group.read P s.1).map fun c => (c, s.2)
  | .word text => (readWord P s.1 text s.2).map fun c => (c, s.2 + 1)

/-- Reading as a machine. -/
def reader (P : Platform) : Machine (Config × Nat) Item := ⟨fun s item => item.read P s⟩

namespace ArgParser

variable {P : Platform} {p : ArgParser} {item : Item} {items : List Item} {ws : List String}

/-- The arguments that are left. -/
def Ahead (p : ArgParser) (ws : List String) : Prop := p.args.drop p.currentIndex = ws

theorem Ahead.seek_eq (h : p.Ahead ws) (i : Nat) : p.seek i = (ws[i]?).getD "" := by
  rw [← h, List.getElem?_drop, seek]
  split
  next past => rw [List.getElem?_eq_none past]; rfl
  next => rfl

/-- The parser after an item. -/
def after (p : ArgParser) (item : Item) (s : Config × Nat) : ArgParser :=
  { p with
    currentIndex := p.currentIndex + item.words.length
    config := s.1
    relativeIndex := s.2 }

theorem Ahead.after (h : p.Ahead (item.words ++ ws)) (s : Config × Nat) :
    (p.after item s).Ahead ws := by
  show p.args.drop (p.currentIndex + item.words.length) = ws
  rw [← List.drop_drop, h, List.drop_left]

theorem toOption_assignInt (text : String) (set : Int → Config → Config) (p : ArgParser) :
    (p.assignInt text set).toOption =
      (readInt text).map fun n => { p with config := set n p.config } := by
  unfold assignInt readInt
  cases stoi text <;> rfl

/-- The body for an option. -/
def bodyOf (P : Platform) : OptionGroup → ArgParser → Except StoiError ArgParser
  | .net .. => readNet
  | .addr .. => readAddr P
  | .psk _ => readPsk
  | .com _ => readCom P
  | .socket _ => readSocket P
  | .config .. => readConfig
  | .debug => setDebug

/-- Its name starts with a dash and is the name of its body. -/
theorem name_names (P : Platform) (group : OptionGroup) :
    isNamed group.name = true ∧ optionBody P group.name = bodyOf P group := by
  cases group with
  | net short _ | addr short _ | config short _ =>
      cases short <;> simp [OptionGroup.name, isNamed, optionBody, bodyOf]
  | _ => simp [OptionGroup.name, isNamed, optionBody, bodyOf]

theorem Ahead.peek {w : String} (h : p.Ahead (w :: ws)) : p.peek.2.Ahead ws := by
  show p.args.drop (p.currentIndex + 1) = ws
  rw [← List.drop_drop, h]
  rfl

theorem toOption_readText (set : String → Config → Config) (p : ArgParser) :
    (p.readText set).toOption =
      some { p.peek.2 with config := set (p.seek 0) p.config } := rfl

theorem readAddr_eq (p : ArgParser) : readAddr P p =
    p.peek.2.assignInt (p.seek 0) fun n c => { c with networkAddr := P.farAddr n } := rfl

theorem readCom_eq (p : ArgParser) : readCom P p =
    p.peek.2.peek.2.assignInt ((P.com .boudrate).among (p.seek 0) (p.peek.2.seek 0)) fun n c =>
      { c with
        comDevices := c.comDevices ++
          [⟨(P.com .path).among (p.seek 0) (p.peek.2.seek 0), n⟩] } := rfl

theorem readSocket_eq (p : ArgParser) : readSocket P p =
    p.peek.2.peek.2.peek.2.assignInt
      ((P.socket .port).among (p.seek 0) (p.peek.2.seek 0) (p.peek.2.peek.2.seek 0)) fun n c =>
      { c with
        socketInterfaces := c.socketInterfaces ++
          [⟨(P.socket .isServer).among (p.seek 0) (p.peek.2.seek 0) (p.peek.2.peek.2.seek 0) =
              "server",
            (P.socket .hostname).among (p.seek 0) (p.peek.2.seek 0) (p.peek.2.peek.2.seek 0),
            Int16.ofInt n⟩] } := rfl

/-- A round of the loop reads a `--com` with its words. -/
theorem step_com {path baud : String} (h : p.Ahead ("--com" :: path :: baud :: ws)) :
    p.step P = p.peek.2.peek.2.peek.2.assignInt ((P.com .boudrate).among path baud) fun n c =>
      { c with comDevices := c.comDevices ++ [⟨(P.com .path).among path baud, n⟩] } := by
  have head : p.seek 0 = "--com" := h.seek_eq 0
  have path_eq : p.peek.2.seek 0 = path := h.peek.seek_eq 0
  have baud_eq : p.peek.2.peek.2.seek 0 = baud := h.peek.peek.seek_eq 0
  obtain ⟨dash, body⟩ : isNamed "--com" = true ∧ optionBody P "--com" = readCom P := by
    simp [isNamed, optionBody]
  rw [step, head, if_pos dash, processNamedArgument_eq, head, body, readCom_eq, path_eq, baud_eq]

/-- A round of the loop reads a `--socket` with its words. -/
theorem step_socket {mode host port : String}
    (h : p.Ahead ("--socket" :: mode :: host :: port :: ws)) :
    p.step P = p.peek.2.peek.2.peek.2.peek.2.assignInt
      ((P.socket .port).among mode host port) fun n c =>
      { c with
        socketInterfaces := c.socketInterfaces ++
          [⟨(P.socket .isServer).among mode host port = "server",
            (P.socket .hostname).among mode host port, Int16.ofInt n⟩] } := by
  have head : p.seek 0 = "--socket" := h.seek_eq 0
  have mode_eq : p.peek.2.seek 0 = mode := h.peek.seek_eq 0
  have host_eq : p.peek.2.peek.2.seek 0 = host := h.peek.peek.seek_eq 0
  have port_eq : p.peek.2.peek.2.peek.2.seek 0 = port := h.peek.peek.peek.seek_eq 0
  obtain ⟨dash, body⟩ : isNamed "--socket" = true ∧ optionBody P "--socket" = readSocket P := by
    simp [isNamed, optionBody]
  rw [step, head, if_pos dash, processNamedArgument_eq, head, body, readSocket_eq, mode_eq,
    host_eq, port_eq]

/-- A round of the loop reads an option. -/
theorem step_option {group : OptionGroup} (h : p.Ahead (group.words ++ ws)) :
    (p.step P).toOption = (group.read P p.config).map fun c =>
      p.after (.option group) (c, p.relativeIndex) := by
  obtain ⟨dash, body⟩ := name_names P group
  have head : p.seek 0 = group.name := h.seek_eq 0
  have first := h.peek.seek_eq 0
  have runs : p.step P = bodyOf P group p.peek.2 := by
    rw [step, head, if_pos dash, processNamedArgument_eq, head, body]
  cases group with
  | net short value =>
      have value_eq : p.peek.2.seek 0 = value := first
      rw [runs, bodyOf, readNet, toOption_readText, value_eq]
      rfl
  | addr short n =>
      have value_eq : p.peek.2.seek 0 = n.text := first
      rw [runs, bodyOf, readAddr_eq, toOption_assignInt, value_eq, readInt_numeral]
      rfl
  | psk key =>
      have value_eq : p.peek.2.seek 0 = key := first
      rw [runs, bodyOf, readPsk, toOption_readText, value_eq]
      rfl
  | com o =>
      rw [step_com h, toOption_assignInt, OptionGroup.read, ComOption.read,
        Option.map_map, Option.map_map]
      rfl
  | socket o =>
      rw [step_socket h, toOption_assignInt, OptionGroup.read, SocketOption.read, Option.map_map,
        Option.map_map]
      rfl
  | config short path =>
      have value_eq : p.peek.2.seek 0 = path := first
      rw [runs, bodyOf, readConfig, toOption_readText, value_eq]
      rfl
  | debug =>
      rw [runs]
      rfl

/-- A round of the loop reads an item. -/
theorem step_item (h : p.Ahead (item.words ++ ws))
    (plain : ∀ w, item.text = some w → isNamed w = false) :
    (p.step P).toOption = (item.read P (p.config, p.relativeIndex)).map (p.after item) := by
  cases item with
  | option group => rw [step_option h, Item.read, Option.map_map]; rfl
  | word text =>
      have head : p.seek 0 = text := h.seek_eq 0
      have no_dash : ¬ isNamed (p.seek 0) = true := by
        rw [head, plain text rfl]
        exact Bool.false_ne_true
      rw [step, if_neg no_dash, processRelativeArgument_eq, head]
      obtain ⟨args, currentIndex, k, config⟩ := p
      match k with
      | 0 => rfl
      | 1 =>
          simp only [wordBody, setDeviceAddr, assignInt, Item.read, readWord, readInt]
          cases stoi text <;> rfl
      | 2 =>
          simp only [wordBody, setDevicePort, assignInt, Item.read, readWord, readInt]
          cases stoi text <;> rfl
      | 3 => rfl
      | k + 4 => rfl

/-- The loop reads item by item. -/
theorem loop_items (h : p.Ahead (items.flatMap Item.words)) (here : p.currentIndex ≤ p.args.length)
    (plain : ∀ w ∈ positionals items, isNamed w = false) :
    (p.loop P).toOption = ((reader P).run (p.config, p.relativeIndex) items).map fun s =>
      ⟨p.args, p.args.length, s.2, s.1⟩ := by
  induction items generalizing p with
  | nil =>
      have at_end : p.args.length ≤ p.currentIndex := List.drop_eq_nil_iff.mp h
      have same : p.currentIndex = p.args.length := Nat.le_antisymm here at_end
      rw [loop, dif_neg (Nat.not_lt_of_le at_end), Machine.run_nil, Option.map_some, ← same]
      rfl
  | cons item items ih =>
      rw [List.flatMap_cons] at h
      have taken := step_item (P := P) h fun w hw => plain w (mem_positionals_cons_self hw)
      have len : p.args.length - p.currentIndex =
          item.words.length + (items.flatMap Item.words).length := by
        rw [← List.length_drop, h, List.length_append]
      have some_word := item.words_length_pos
      have more : p.currentIndex < p.args.length := by omega
      rw [loop, dif_pos more]
      split
      next e failed =>
        rw [failed] at taken
        have stops : item.read P (p.config, p.relativeIndex) = none :=
          Option.map_eq_none_iff.mp taken.symm
        rw [Machine.run_cons]
        simp only [reader, stops]
        rfl
      next p' ok =>
        rw [ok] at taken
        obtain ⟨s, read, rfl⟩ := Option.map_eq_some_iff.mp taken.symm
        have rest := ih (h.after s) (by
          show p.currentIndex + item.words.length ≤ p.args.length
          omega)
          fun w hw => plain w (mem_positionals_cons hw)
        rw [rest, Machine.run_cons]
        simp only [reader, read]
        rfl

end ArgParser

end KhawasuPc

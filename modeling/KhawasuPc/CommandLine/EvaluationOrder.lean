import KhawasuPc.CommandLine.Reading
import Mathlib.Logic.Equiv.Basic

/-!
# The order of evaluation

The arguments of the two `emplace_back` calls each take the next word when they are
evaluated.  An interface is the one its option asks for exactly if the words, handed
out in the order of evaluation, say what they say from left to right (`Unmixed`), and
a command line is read as written exactly if that is so of each of its options
(`process_readAsWritten_iff`).
-/

namespace KhawasuPc

open Lib

variable {P : Platform} {items : List Item} {group : OptionGroup}

/-! ## One option -/

/-- The path goes to the argument for the path. -/
def ComOption.Unmixed (P : Platform) (o : ComOption) : Prop := o.word P .path = o.path

/-- The word for the mode says `server` when the mode does, the host goes to the argument
for the host, and the word for the port is read as the port. -/
def SocketOption.Unmixed (P : Platform) (o : SocketOption) : Prop :=
  (o.word P .isServer = "server" ↔ o.mode = "server") ∧ o.word P .hostname = o.host ∧
    ∃ n, stoi (o.word P .port) = .ok n ∧ Int16.ofInt n = Int16.ofInt o.port.value

/-- The words of an option say what they say from left to right. -/
def OptionGroup.Unmixed (P : Platform) : OptionGroup → Prop
  | .com o => o.Unmixed P
  | .socket o => o.Unmixed P
  | _ => True

/-- With the path the baud rate goes where it is meant to. -/
theorem baud_of_path {path baud : String}
    (h : (P.com .path).among path baud = path) :
    (P.com .boudrate).among path baud = baud := by
  have different : P.com .boudrate ≠ P.com .path := P.com.injective.ne (by decide)
  revert different h
  match P.com .path, P.com .boudrate with
  | .path, .path | .boudrate, .boudrate => exact fun _ different => absurd rfl different
  | .path, .boudrate => exact fun _ _ => rfl
  | .boudrate, .path => exact fun same _ => same.symm

theorem ComOption.unmixed_iff {o : ComOption} :
    o.Unmixed P ↔ o.read P = some o.interface := by
  constructor
  · intro h
    have path : o.word P .path = o.path := h
    have baud : o.word P .boudrate = o.baud.text := baud_of_path h
    rw [ComOption.read, baud, readInt_numeral, path]
    rfl
  · intro h
    obtain ⟨n, -, same⟩ := Option.map_eq_some_iff.mp h
    exact congrArg ComInterface.path same

theorem SocketOption.unmixed_iff {o : SocketOption} :
    o.Unmixed P ↔ o.read P = some o.interface := by
  constructor
  · rintro ⟨mode, host, n, read, port⟩
    rw [SocketOption.read, readInt_eq_some.mpr read, Option.map_some, host, port,
      SocketOption.interface, decide_eq_decide.mpr mode]
  · intro h
    obtain ⟨n, read, same⟩ := Option.map_eq_some_iff.mp h
    exact ⟨decide_eq_decide.mp (congrArg SocketInterface.isServer same),
      congrArg SocketInterface.hostname same, n, readInt_eq_some.mp read,
      congrArg SocketInterface.port same⟩

/-- From left to right every option is read as written. -/
theorem OptionGroup.unmixed_leftToRight (bits : Nat) (group : OptionGroup) :
    group.Unmixed (.leftToRight bits) := by
  cases group with
  | com o => exact rfl
  | socket o => exact ⟨Iff.rfl, rfl, o.port.value, o.port.stoi_eq, rfl⟩
  | _ => trivial

/-- An option whose words are not mixed up is read. -/
theorem OptionGroup.Unmixed.enabled (h : group.Unmixed P) (c : Config) :
    ∃ c', group.read P c = some c' := by
  cases group with
  | com o => exact ⟨_, by rw [OptionGroup.read, ComOption.unmixed_iff.mp h]; rfl⟩
  | socket o => exact ⟨_, by rw [OptionGroup.read, SocketOption.unmixed_iff.mp h]; rfl⟩
  | _ => exact ⟨_, rfl⟩

/-! ## Whole command lines -/

/-- A number is read. -/
theorem IsNumber.readInt {w : String} (h : IsNumber w) : ∃ n, readInt w = some n := by
  obtain ⟨n, decimal, fits⟩ := h
  exact ⟨n, readInt_of_decimal decimal fits⟩

/-- The place of a word is the number of words before it. -/
theorem positionals_getElem? (before after : List Item) (text : String) :
    (positionals (before ++ .word text :: after))[(positionals before).length]? = some text := by
  have split : positionals (before ++ .word text :: after) =
      positionals before ++ text :: positionals after := List.filterMap_append
  rw [split, List.getElem?_append_right (Nat.le_refl _), Nat.sub_self]
  rfl

/-- A command line is read if none of its options are mixed up. -/
theorem exists_run_reader (wf : WellFormed items)
    (unmixed : ∀ group ∈ options items, group.Unmixed P) :
    ∃ s, (reader P).run (.new, 0) items = some s := by
  refine Machine.exists_run fun before item after s split ran => ?_
  subst split
  cases item with
  | option group =>
      have given : group ∈ options (before ++ .option group :: after) :=
        List.mem_filterMap.mpr ⟨.option group, by simp, rfl⟩
      obtain ⟨c, read⟩ := (unmixed group given).enabled s.1
      exact ⟨(c, s.2), congrArg (Option.map fun c => (c, s.2)) read⟩
  | word text =>
      have place := positionals_getElem? before after text
      rw [← (run_reading ran).count] at place
      have enabled : ∃ c, readWord P s.1 text s.2 = some c := by
        revert place
        match s.2 with
        | 0 | 3 | _ + 4 => exact fun _ => ⟨_, rfl⟩
        | 1 =>
            intro place
            obtain ⟨n, read⟩ := (wf.second text place).readInt
            exact ⟨_, congrArg (Option.map _) read⟩
        | 2 =>
            intro place
            obtain ⟨n, read⟩ := (wf.third text place).readInt
            exact ⟨_, congrArg (Option.map _) read⟩
      obtain ⟨c, read⟩ := enabled
      exact ⟨(c, s.2 + 1), congrArg (Option.map fun c => (c, s.2 + 1)) read⟩

/-- A list read element by element is the one expected if each element is. -/
theorem eq_map_iff_of_forall₂ {α β : Type} {f : α → Option β} {g : α → β} {l : List α} {m : List β}
    (h : List.Forall₂ (fun a b => f a = some b) l m) :
    m = l.map g ↔ ∀ a ∈ l, f a = some (g a) := by
  induction h with
  | nil => simp
  | cons here _ ih =>
      rw [List.map_cons, List.cons.injEq, List.forall_mem_cons, ih, here, Option.some_inj]

theorem toNat_toUInt16_ofInt (n : Int) :
    (Int16.ofInt n).toUInt16.toNat = (n % 65536).toNat := by
  simp [Int16.ofInt]

/-- A port comes through `short` and back. -/
theorem int16_port (port : Nat) : (Int16.ofInt port).toUInt16 = UInt16.ofNat port := by
  apply UInt16.toNat_inj.mp
  rw [toNat_toUInt16_ofInt, UInt16.toNat_ofNat']
  omega

theorem SocketOption.passedOn (o : SocketOption) : o.PassedOn o.interface.register := by
  intro port value _
  simp only [SocketOption.interface, SocketInterface.register, value, int16_port,
    decide_eq_true_eq]

/-- Of what is read only the interfaces can be other than the command line says. -/
theorem says_iff_of_reading {s : Config × Nat} (h : Reading P items s) :
    Says P items s.1 ↔
      (∀ o ∈ (options items).filterMap OptionGroup.comOption, o.Unmixed P) ∧
        ∀ o ∈ (options items).filterMap OptionGroup.socketOption, o.Unmixed P := by
  obtain ⟨c, k⟩ := s
  obtain ⟨-, read, words⟩ := h
  have coms := eq_map_iff_of_forall₂ (g := ComOption.interface) read.comDevices
  have sockets := eq_map_iff_of_forall₂ (g := SocketOption.interface) read.socketInterfaces
  simp only [← ComOption.unmixed_iff] at coms
  simp only [← SocketOption.unmixed_iff] at sockets
  constructor
  · exact fun h => ⟨coms.mp h.comDevices, sockets.mp h.socketInterfaces⟩
  · rintro ⟨com, socket⟩
    constructor
    case networkName => exact read.networkName
    case networkAddr => exact read.networkAddr
    case networkPsk => exact read.networkPsk
    case configPath => exact read.configPath
    case debug => exact read.debug
    case comDevices => exact coms.mpr com
    case socketInterfaces => exact sockets.mpr socket
    case actionType => exact words.actionType
    case deviceAddr =>
      intro w n place decimal fits
      rw [words.deviceAddr, place, Option.bind_some, readInt_of_decimal decimal fits]
      rfl
    case deviceAddr_none =>
      intro missing
      rw [words.deviceAddr, missing]
      rfl
    case devicePort =>
      intro w n place decimal fits
      rw [words.devicePort, place, Option.bind_some, readInt_of_decimal decimal fits]
      rfl
    case devicePort_none =>
      intro missing
      rw [words.devicePort, missing]
      rfl
    case actionName => exact words.actionName
    case actionValues => exact words.actionValues
    case registered =>
      refine ⟨c.socketInterfaces.map SocketInterface.register, ?_, rfl⟩
      rw [sockets.mpr socket, List.map_map, List.forall₂_map_right_iff, List.forall₂_same]
      exact fun o _ => o.passedOn

theorem mem_comOptions {groups : List OptionGroup} {o : ComOption} :
    o ∈ groups.filterMap OptionGroup.comOption ↔ .com o ∈ groups := by
  rw [List.mem_filterMap]
  constructor
  · rintro ⟨group, given, same⟩
    cases group with
    | com _ => cases same; exact given
    | _ => cases same
  · exact fun given => ⟨_, given, rfl⟩

theorem mem_socketOptions {groups : List OptionGroup} {o : SocketOption} :
    o ∈ groups.filterMap OptionGroup.socketOption ↔ .socket o ∈ groups := by
  rw [List.mem_filterMap]
  constructor
  · rintro ⟨group, given, same⟩
    cases group with
    | socket _ => cases same; exact given
    | _ => cases same
  · exact fun given => ⟨_, given, rfl⟩

/-- The options that can be mixed up are the `--com`s and the `--socket`s. -/
theorem unmixed_options_iff (groups : List OptionGroup) :
    (∀ group ∈ groups, group.Unmixed P) ↔
      (∀ o ∈ groups.filterMap OptionGroup.comOption, o.Unmixed P) ∧
        ∀ o ∈ groups.filterMap OptionGroup.socketOption, o.Unmixed P := by
  constructor
  · exact fun h => ⟨fun o given => h _ (mem_comOptions.mp given),
      fun o given => h _ (mem_socketOptions.mp given)⟩
  · rintro ⟨com, socket⟩ group given
    cases group with
    | com o => exact com o (mem_comOptions.mpr given)
    | socket o => exact socket o (mem_socketOptions.mpr given)
    | _ => trivial

/-- `process` reads item by item. -/
theorem process_items (plain : ∀ w ∈ positionals items, ArgParser.isNamed w = false)
    (program : String) :
    (ArgParser.process P (program :: items.flatMap Item.words) .new).toOption =
      ((reader P).run (.new, 0) items).map fun s =>
        ⟨items.flatMap Item.words, (items.flatMap Item.words).length, s.2, s.1⟩ :=
  ArgParser.loop_items rfl (Nat.zero_le _) plain

/-- A command line is read as written exactly if no option is mixed up. -/
theorem process_readAsWritten_iff (wf : WellFormed items) :
    ReadAsWritten P items ↔ ∀ group ∈ options items, group.Unmixed P := by
  have reads := process_items (P := P) wf.plain
  constructor
  · intro h
    obtain ⟨p, taken, -, meant⟩ := h ""
    have whole := reads ""
    rw [taken] at whole
    obtain ⟨s, ran, rfl⟩ := Option.map_eq_some_iff.mp whole.symm
    exact (unmixed_options_iff _).mpr ((says_iff_of_reading (run_reading ran)).mp meant)
  · intro unmixed program
    obtain ⟨s, ran⟩ := exists_run_reader wf unmixed
    have meant := (says_iff_of_reading (run_reading ran)).mpr ((unmixed_options_iff _).mp unmixed)
    have whole := reads program
    rw [ran] at whole
    cases taken : ArgParser.process P (program :: items.flatMap Item.words) .new with
    | error e =>
        rw [taken] at whole
        cases whole
    | ok p =>
        rw [taken] at whole
        cases whole
        exact ⟨_, rfl, rfl, meant⟩

/-- The command line `README.md` starts with. -/
def readme : List Item :=
  [.option (.net false "dev network"), .option (.psk "123"),
    .option (.addr true ⟨"1", 1,
      .plain ['1'] (by decide) (List.all_eq_true.mp rfl) (by decide), by decide⟩),
    .option (.socket ⟨"client", "127.0.0.1", ⟨"49152", 49152,
      .plain ['4', '9', '1', '5', '2'] (by decide) (List.all_eq_true.mp rfl) (by decide),
      by decide⟩⟩),
    .word "devices"]

example : readme.flatMap Item.words = ["--net", "dev network", "--psk", "123", "-a", "1",
    "--socket", "client", "127.0.0.1", "49152", "devices"] := rfl

theorem readme_wellFormed : WellFormed readme where
  plain := by decide
  second := by rintro w ⟨⟩
  third := by rintro w ⟨⟩

theorem readme_readAsWritten : ReadAsWritten (.leftToRight 32) readme :=
  (process_readAsWritten_iff readme_wellFormed).mpr fun group _ =>
    group.unmixed_leftToRight 32

/-- Arguments evaluated from right to left. -/
def Platform.rightToLeft (bits : Nat) : Platform :=
  ⟨bits, .swap .path .boudrate, .swap .isServer .port⟩

/-- From right to left the mode of the command line of `README.md` is read as the port. -/
theorem readme_rightToLeft :
    WellFormed readme ∧ ¬ ReadAsWritten (.rightToLeft 32) readme := by
  refine ⟨readme_wellFormed, fun h => ?_⟩
  obtain ⟨p, taken, -⟩ := h "hwctrl"
  have whole := process_items (P := .rightToLeft 32) readme_wellFormed.plain "hwctrl"
  have throws : (reader (.rightToLeft 32)).run (.new, 0) readme = none := by decide
  rw [taken, throws] at whole
  cases whole

end KhawasuPc

import KhawasuPc.CommandLine.EvaluationOrder

/-!
# Options that ask for an interface

A `--com` and a `--socket` are read by one call of `emplace_back` each, whose arguments
take their words in the order in which they are evaluated.  Here the words are any words
and the number is any decimal number.  `appendsExactly_iff` says for which order and which
words the interface asked for is appended, and `everyOrder_iff` for which words it is
whatever the order.
-/

namespace KhawasuPc

open Lib

/-- An option that asks for an interface, with its words. -/
inductive InterfaceOption where
  | com (path baud : String)
  | socket (mode host port : String)

namespace InterfaceOption

/-- The arguments the option consists of. -/
def words : InterfaceOption → List String
  | .com path baud => ["--com", path, baud]
  | .socket mode host port => ["--socket", mode, host, port]

/-- The word that is a number. -/
def number : InterfaceOption → String
  | .com _ baud => baud
  | .socket _ _ port => port

/-- The configuration with the interface the option asks for, where its number is `n`. -/
def append (n : Int) (c : Config) : InterfaceOption → Config
  | .com path _ => { c with comDevices := c.comDevices ++ [⟨path, n⟩] }
  | .socket mode host _ =>
      { c with
        socketInterfaces := c.socketInterfaces ++ [⟨mode = "server", host, Int16.ofInt n⟩] }

/-- Wherever the option stands, a round of the loop takes its words, appends the interface
it asks for and does nothing else. -/
def AppendsExactly (P : Platform) (option : InterfaceOption) (n : Int) : Prop :=
  ∀ (p : ArgParser) (ws : List String), p.Ahead (option.words ++ ws) →
    p.step P = .ok { p with
      currentIndex := p.currentIndex + option.words.length
      config := option.append n p.config }

/-- The words, handed out in the order of evaluation, mean what they mean from left to
right. -/
def Unmixed (P : Platform) (n : Int) : InterfaceOption → Prop
  | .com path baud => (P.com .path).among path baud = path ∧ FitsInt n
  | .socket mode host port =>
      ((P.socket .isServer).among mode host port = "server" ↔ mode = "server") ∧
        (P.socket .hostname).among mode host port = host ∧
        ∃ m, stoi ((P.socket .port).among mode host port) = .ok m ∧
          Int16.ofInt m = Int16.ofInt n

/-- All words are the same. -/
def SameWords : InterfaceOption → Prop
  | .com path baud => path = baud
  | .socket mode host port => mode = port ∧ host = port

/-! ## One order -/

variable {P : Platform} {n : Int} {path baud mode host port : String}

/-- The parser in front of an option and nothing else. -/
def alone (option : InterfaceOption) : ArgParser := ⟨option.words ++ [], 0, 0, .new⟩

theorem assignInt_eq_ok {text : String} {set : Int → Config → Config} {p p' : ArgParser} :
    p.assignInt text set = .ok p' ↔
      ∃ n, stoi text = .ok n ∧ p' = { p with config := set n p.config } := by
  unfold ArgParser.assignInt
  cases stoi text with
  | error e =>
      constructor
      · intro h
        cases h
      · rintro ⟨n, read, -⟩
        cases read
  | ok n =>
      constructor
      · intro h
        cases h
        exact ⟨n, rfl, rfl⟩
      · rintro ⟨m, read, rfl⟩
        cases read
        rfl

theorem com_appendsExactly_iff (number : Decimal baud n) :
    (com path baud).AppendsExactly P n ↔ (com path baud).Unmixed P n := by
  constructor
  · intro h
    have ahead : (com path baud).alone.Ahead ["--com", path, baud] := rfl
    have here := h _ [] ahead
    rw [ArgParser.step_com ahead, assignInt_eq_ok] at here
    obtain ⟨m, read, same⟩ := here
    have interface : (⟨path, n⟩ : ComInterface) = ⟨(P.com .path).among path baud, m⟩ :=
      List.singleton_inj.mp (congrArg (fun p => p.config.comDevices) same)
    obtain ⟨path_eq, rfl⟩ := ComInterface.mk.inj interface
    rw [baud_of_path path_eq.symm] at read
    exact ⟨path_eq.symm, fits_of_stoi number read⟩
  · rintro ⟨path_eq, fits⟩ p ws ahead
    rw [ArgParser.step_com ahead, assignInt_eq_ok, baud_of_path path_eq]
    exact ⟨n, stoi_of_decimal number fits, by rw [path_eq]; rfl⟩

theorem socket_appendsExactly_iff :
    (socket mode host port).AppendsExactly P n ↔ (socket mode host port).Unmixed P n := by
  constructor
  · intro h
    have ahead : (socket mode host port).alone.Ahead ["--socket", mode, host, port] := rfl
    have here := h _ [] ahead
    rw [ArgParser.step_socket ahead, assignInt_eq_ok] at here
    obtain ⟨m, read, same⟩ := here
    have interface := List.singleton_inj.mp (congrArg (fun p => p.config.socketInterfaces) same)
    obtain ⟨mode_eq, host_eq, port_eq⟩ := SocketInterface.mk.inj interface
    exact ⟨(decide_eq_decide.mp mode_eq).symm, host_eq.symm, m, read, port_eq.symm⟩
  · rintro ⟨mode_eq, host_eq, m, read, port_eq⟩ p ws ahead
    rw [ArgParser.step_socket ahead, assignInt_eq_ok]
    refine ⟨m, read, ?_⟩
    rw [decide_eq_decide.mpr mode_eq, host_eq, port_eq]
    rfl

/-- For an order of evaluation, an option appends the interface it asks for exactly if its
words are not mixed up. -/
theorem appendsExactly_iff {option : InterfaceOption} (number : Decimal option.number n) :
    option.AppendsExactly P n ↔ option.Unmixed P n := by
  cases option with
  | com path baud => exact com_appendsExactly_iff number
  | socket mode host port => exact socket_appendsExactly_iff

/-- The client of the command line `README.md` starts with. -/
def readmeSocket : InterfaceOption := .socket "client" "127.0.0.1" "49152"

theorem readmeSocket_number : Decimal readmeSocket.number 49152 :=
  .plain ['4', '9', '1', '5', '2'] (by decide) (List.all_eq_true.mp rfl) (by decide)

/-- From left to right it is appended. -/
theorem readmeSocket_leftToRight : readmeSocket.AppendsExactly (.leftToRight 32) 49152 :=
  (appendsExactly_iff readmeSocket_number).mpr
    ⟨Iff.rfl, rfl, 49152, stoi_of_decimal readmeSocket_number (by decide), rfl⟩

/-- From right to left the number is read from the mode, and `std::stoi` throws. -/
theorem readmeSocket_rightToLeft :
    Decimal readmeSocket.number 49152 ∧
      readmeSocket.alone.step (.rightToLeft 32) = .error .invalidArgument ∧
      ¬ readmeSocket.AppendsExactly (.rightToLeft 32) 49152 := by
  have throws : readmeSocket.alone.step (.rightToLeft 32) = .error .invalidArgument := by decide
  refine ⟨readmeSocket_number, throws, fun h => ?_⟩
  have here := h readmeSocket.alone [] rfl
  rw [throws] at here
  cases here

/-! ## Every order -/

theorem among_same (argument : ComArgument) : argument.among path path = path := by
  cases argument <;> rfl

theorem among_same₃ (argument : SocketArgument) : argument.among mode mode mode = mode := by
  cases argument <;> rfl

/-- Whatever the order, an option appends the interface it asks for exactly if all its words
are the same and the number fits. -/
theorem everyOrder_iff {option : InterfaceOption} (number : Decimal option.number n) :
    (∀ P, option.AppendsExactly P n) ↔ option.SameWords ∧ FitsInt n := by
  cases option with
  | com path baud =>
      refine (forall_congr' fun P => com_appendsExactly_iff number).trans ?_
      constructor
      · intro h
        obtain ⟨same, fits⟩ := h ⟨32, .swap .path .boudrate, .refl _⟩
        exact ⟨same.symm, fits⟩
      · rintro ⟨same, fits⟩ P
        cases same
        exact ⟨among_same _, fits⟩
  | socket mode host port =>
      refine (forall_congr' fun P => socket_appendsExactly_iff).trans ?_
      constructor
      · intro h
        obtain ⟨-, port_eq, -⟩ := h ⟨32, .refl _, .swap .hostname .port⟩
        obtain ⟨-, mode_eq, -⟩ := h ⟨32, .refl _, .swap .isServer .hostname⟩
        obtain ⟨-, -, m, read, -⟩ := h (.leftToRight 32)
        have port_eq : port = host := port_eq
        have mode_eq : mode = host := mode_eq
        exact ⟨⟨mode_eq.trans port_eq.symm, port_eq.symm⟩, fits_of_stoi number read⟩
      · rintro ⟨⟨mode_eq, host_eq⟩, fits⟩ P
        cases mode_eq
        cases host_eq
        refine ⟨?_, among_same₃ _, n, ?_, rfl⟩
        · rw [among_same₃]
        · rw [among_same₃]
          exact stoi_of_decimal number fits

end InterfaceOption

end KhawasuPc

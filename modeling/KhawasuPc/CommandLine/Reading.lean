import KhawasuPc.CommandLine.Arrangement
import Mathlib.Data.List.Forall2

/-!
# What is read of a command line

Where nothing throws, a scalar option is left with what was given last, the interfaces
are those read for their options, in order, and the words are where their places put
them (`run_reading`).  The options and the words do not touch each other's fields.
-/

namespace KhawasuPc

open Lib

variable {P : Platform} {items : List Item} {groups : List OptionGroup} {group : OptionGroup}
  {texts : List String} {text : String} {c c' : Config}

/-! ## Options and words -/

/-- What the options leave behind. -/
structure OptionsRead (P : Platform) (groups : List OptionGroup) (c : Config) : Prop where
  networkName : c.networkName = (groups.filterMap OptionGroup.netName).getLast?.getD ""
  networkAddr : c.networkAddr =
    ((groups.filterMap OptionGroup.netAddr).getLast?.map P.farAddr).getD 0
  networkPsk : c.networkPsk = (groups.filterMap OptionGroup.netPsk).getLast?.getD ""
  configPath : c.configPath = (groups.filterMap OptionGroup.configFile).getLast?.getD ""
  debug : c.debug = groups.any OptionGroup.isDebug
  comDevices : List.Forall₂ (fun o i => ComOption.read P o = some i)
    (groups.filterMap OptionGroup.comOption) c.comDevices
  socketInterfaces : List.Forall₂ (fun o i => SocketOption.read P o = some i)
    (groups.filterMap OptionGroup.socketOption) c.socketInterfaces

/-- What the words leave behind. -/
structure WordsRead (P : Platform) (texts : List String) (c : Config) : Prop where
  actionType : c.actionType = (texts[0]?).getD ""
  deviceAddr : c.deviceAddr = ((texts[1]?.bind readInt).map P.farAddr).getD 0
  devicePort : c.devicePort = (texts[2]?.bind readInt).getD 0
  actionName : c.actionName = (texts[3]?).getD ""
  actionValues : c.actionValues = texts.drop 4

theorem optionsRead_nil : OptionsRead P [] .new where
  networkName := rfl
  networkAddr := rfl
  networkPsk := rfl
  configPath := rfl
  debug := rfl
  comDevices := .nil
  socketInterfaces := .nil

theorem wordsRead_nil : WordsRead P [] .new where
  actionType := rfl
  deviceAddr := rfl
  devicePort := rfl
  actionName := rfl
  actionValues := rfl

/-- An option leaves the words alone. -/
theorem WordsRead.option (h : WordsRead P texts c) (read : group.read P c = some c') :
    WordsRead P texts c' := by
  obtain ⟨h₀, h₁, h₂, h₃, h₄⟩ := h
  cases group with
  | com o =>
      obtain ⟨i, -, rfl⟩ := Option.map_eq_some_iff.mp read
      exact ⟨h₀, h₁, h₂, h₃, h₄⟩
  | socket o =>
      obtain ⟨i, -, rfl⟩ := Option.map_eq_some_iff.mp read
      exact ⟨h₀, h₁, h₂, h₃, h₄⟩
  | _ =>
      cases read
      exact ⟨h₀, h₁, h₂, h₃, h₄⟩

/-- A word leaves the options alone. -/
theorem OptionsRead.word (h : OptionsRead P groups c) {k : Nat}
    (read : readWord P c text k = some c') : OptionsRead P groups c' := by
  obtain ⟨h₀, h₁, h₂, h₃, h₄, h₅, h₆⟩ := h
  match k with
  | 0 | 3 | k + 4 =>
      cases read
      exact ⟨h₀, h₁, h₂, h₃, h₄, h₅, h₆⟩
  | 1 | 2 =>
      obtain ⟨n, -, rfl⟩ := Option.map_eq_some_iff.mp read
      exact ⟨h₀, h₁, h₂, h₃, h₄, h₅, h₆⟩

/-- What one option changes: what it is given takes the place of what was there, or is
put behind it. -/
structure OptionGroup.Sets (P : Platform) (group : OptionGroup) (c c' : Config) : Prop where
  networkName : c'.networkName = group.netName.getD c.networkName
  networkAddr : c'.networkAddr = (group.netAddr.map P.farAddr).getD c.networkAddr
  networkPsk : c'.networkPsk = group.netPsk.getD c.networkPsk
  configPath : c'.configPath = group.configFile.getD c.configPath
  debug : c'.debug = (c.debug || group.isDebug)
  comDevices : ∃ read, c'.comDevices = c.comDevices ++ read ∧
    List.Forall₂ (fun o i => ComOption.read P o = some i) group.comOption.toList read
  socketInterfaces : ∃ read, c'.socketInterfaces = c.socketInterfaces ++ read ∧
    List.Forall₂ (fun o i => SocketOption.read P o = some i) group.socketOption.toList read

theorem OptionGroup.sets_of_read (read : group.read P c = some c') : group.Sets P c c' := by
  have no_com : ∃ read, c.comDevices = c.comDevices ++ read ∧
      List.Forall₂ (fun o i => ComOption.read P o = some i) [] read :=
    ⟨[], (List.append_nil _).symm, .nil⟩
  have no_socket : ∃ read, c.socketInterfaces = c.socketInterfaces ++ read ∧
      List.Forall₂ (fun o i => SocketOption.read P o = some i) [] read :=
    ⟨[], (List.append_nil _).symm, .nil⟩
  have no_debug : c.debug = (c.debug || false) := (Bool.or_false _).symm
  cases group with
  | com o =>
      obtain ⟨i, here, rfl⟩ := Option.map_eq_some_iff.mp read
      exact ⟨rfl, rfl, rfl, rfl, no_debug, ⟨[i], rfl, .cons here .nil⟩, no_socket⟩
  | socket o =>
      obtain ⟨i, here, rfl⟩ := Option.map_eq_some_iff.mp read
      exact ⟨rfl, rfl, rfl, rfl, no_debug, no_com, ⟨[i], rfl, .cons here .nil⟩⟩
  | debug =>
      cases read
      exact ⟨rfl, rfl, rfl, rfl, (Bool.or_true _).symm, no_com, no_socket⟩
  | _ =>
      cases read
      exact ⟨rfl, rfl, rfl, rfl, no_debug, no_com, no_socket⟩

theorem filterMap_snoc {α β : Type} (f : α → Option β) (l : List α) (a : α) :
    (l ++ [a]).filterMap f = l.filterMap f ++ (f a).toList := by
  rw [List.filterMap_append]
  cases found : f a <;> simp [found]

/-- The last of a longer list. -/
theorem getLast?_filterMap_snoc {α β : Type} (f : α → Option β) (l : List α) (a : α) :
    ((l ++ [a]).filterMap f).getLast? = (f a).or (l.filterMap f).getLast? := by
  rw [filterMap_snoc, List.getLast?_append]
  cases f a <;> rfl

/-- One more option. -/
theorem OptionsRead.snoc (h : OptionsRead P groups c) (read : group.read P c = some c') :
    OptionsRead P (groups ++ [group]) c' := by
  have sets := OptionGroup.sets_of_read read
  constructor
  case networkName =>
    rw [sets.networkName, h.networkName, getLast?_filterMap_snoc]
    cases group.netName <;> rfl
  case networkAddr =>
    rw [sets.networkAddr, h.networkAddr, getLast?_filterMap_snoc]
    cases group.netAddr <;> rfl
  case networkPsk =>
    rw [sets.networkPsk, h.networkPsk, getLast?_filterMap_snoc]
    cases group.netPsk <;> rfl
  case configPath =>
    rw [sets.configPath, h.configPath, getLast?_filterMap_snoc]
    cases group.configFile <;> rfl
  case debug =>
    rw [sets.debug, h.debug, List.any_append, List.any_cons, List.any_nil, Bool.or_false]
  case comDevices =>
    obtain ⟨read, eq, here⟩ := sets.comDevices
    rw [eq, filterMap_snoc]
    exact List.rel_append h.comDevices here
  case socketInterfaces =>
    obtain ⟨read, eq, here⟩ := sets.socketInterfaces
    rw [eq, filterMap_snoc]
    exact List.rel_append h.socketInterfaces here

/-- One more word. -/
theorem WordsRead.snoc (h : WordsRead P texts c)
    (read : readWord P c text texts.length = some c') : WordsRead P (texts ++ [text]) c' := by
  obtain ⟨h₀, h₁, h₂, h₃, h₄⟩ := h
  match texts with
  | [] =>
      cases read
      exact ⟨rfl, h₁, h₂, h₃, h₄⟩
  | [_] =>
      obtain ⟨n, here, rfl⟩ := Option.map_eq_some_iff.mp read
      refine ⟨h₀, ?_, h₂, h₃, h₄⟩
      show P.farAddr n = ((readInt text).map P.farAddr).getD 0
      rw [here]
      rfl
  | [_, _] =>
      obtain ⟨n, here, rfl⟩ := Option.map_eq_some_iff.mp read
      refine ⟨h₀, h₁, ?_, h₃, h₄⟩
      show n = (readInt text).getD 0
      rw [here]
      rfl
  | [_, _, _] =>
      cases read
      exact ⟨h₀, h₁, h₂, rfl, h₄⟩
  | t₀ :: t₁ :: t₂ :: t₃ :: rest =>
      cases read
      refine ⟨h₀, h₁, h₂, h₃, ?_⟩
      show c.actionValues ++ [text] = rest ++ [text]
      rw [h₄]
      rfl

/-! ## Whole command lines -/

/-- What reading the items leaves behind. -/
structure Reading (P : Platform) (items : List Item) (s : Config × Nat) : Prop where
  count : s.2 = (positionals items).length
  options : OptionsRead P (KhawasuPc.options items) s.1
  words : WordsRead P (positionals items) s.1

theorem Reading.step {s s' : Config × Nat} {item : Item} (h : Reading P items s)
    (read : item.read P s = some s') : Reading P (items ++ [item]) s' := by
  obtain ⟨c, k⟩ := s
  obtain ⟨count, options, words⟩ := h
  cases item with
  | option group =>
      obtain ⟨c', here, rfl⟩ := Option.map_eq_some_iff.mp read
      have more : KhawasuPc.options (items ++ [.option group]) =
        KhawasuPc.options items ++ [group] := filterMap_snoc ..
      have same : positionals (items ++ [.option group]) = positionals items := by
        rw [positionals, filterMap_snoc]
        exact List.append_nil _
      exact ⟨by rw [same]; exact count, more ▸ options.snoc here, same ▸ words.option here⟩
  | word text =>
      obtain ⟨c', here, rfl⟩ := Option.map_eq_some_iff.mp read
      have more : positionals (items ++ [.word text]) = positionals items ++ [text] :=
        filterMap_snoc ..
      have same : KhawasuPc.options (items ++ [.word text]) = KhawasuPc.options items := by
        rw [KhawasuPc.options, filterMap_snoc]
        exact List.append_nil _
      have place : k = (positionals items).length := count
      rw [place] at here
      refine ⟨?_, same ▸ options.word here, more ▸ words.snoc here⟩
      show k + 1 = (positionals (items ++ [.word text])).length
      rw [more, List.length_append, place]
      rfl

/-- What is read of a command line, where nothing throws. -/
theorem run_reading {s : Config × Nat} (h : (reader P).run (.new, 0) items = some s) :
    Reading P items s :=
  Machine.run_history (M := reader P) (P := Reading P)
    ⟨rfl, optionsRead_nil, wordsRead_nil⟩ (fun _ _ _ _ _ reading read => reading.step read) h

end KhawasuPc

import KhawasuPc.Lib.Bytes

/-!
# Length-prefixed messages

A message goes over a byte stream as its length, in `w` little-endian bytes, and then
its bytes.  `Cut` says where a reader of the stream stands: which messages it has
passed on, what it has taken of the next frame, and what it has not read.  Its
lemmas are the moves of a reader and of a writer.
-/

namespace Lib

/-- A message whose length fits `w` bytes. -/
structure Message (w : Nat) where
  bytes : List UInt8
  fits : bytes.length < 256 ^ w
deriving DecidableEq, Repr

variable {w : Nat}

/-- A message on the stream. -/
def Message.frame (m : Message w) : List UInt8 := leBytes w m.bytes.length ++ m.bytes

/-- Messages on the stream. -/
def frames (ms : List (Message w)) : List UInt8 := ms.flatMap Message.frame

@[simp] theorem frames_nil : frames ([] : List (Message w)) = [] := rfl

@[simp] theorem frames_cons (m : Message w) (ms : List (Message w)) :
    frames (m :: ms) = leBytes w m.bytes.length ++ m.bytes ++ frames ms := rfl

theorem frames_append (ms ns : List (Message w)) : frames (ms ++ ns) = frames ms ++ frames ns :=
  List.flatMap_append

/-- A length on the stream is that of a message, whose bytes follow. -/
theorem frames_header (hw : 0 < w) {n : Nat} {bs : List UInt8} {ms : List (Message w)}
    (hn : n < 256 ^ w) (h : leBytes w n ++ bs = frames ms) :
    ∃ m rest, ms = m :: rest ∧ m.bytes.length = n ∧ bs = m.bytes ++ frames rest := by
  cases ms with
  | nil =>
      have hlen := congrArg List.length h
      rw [List.length_append, length_leBytes, frames_nil, List.length_nil] at hlen
      omega
  | cons m rest =>
      rw [frames_cons, List.append_assoc] at h
      obtain ⟨hhead, htail⟩ := List.append_inj h (by simp)
      have hlen : m.bytes.length = n := by
        rw [← leValue_leBytes w _ m.fits, ← leValue_leBytes w n hn, hhead]
      exact ⟨m, rest, rfl, hlen, htail⟩

@[simp] theorem length_frame (m : Message w) : m.frame.length = w + m.bytes.length := by
  rw [Message.frame, List.length_append, length_leBytes]

/-- A frame tells where it ends. -/
theorem frame_append_inj {m n : Message w} {as bs : List UInt8}
    (h : m.frame ++ as = n.frame ++ bs) : m = n ∧ as = bs := by
  rw [Message.frame, Message.frame, List.append_assoc, List.append_assoc] at h
  obtain ⟨hhead, htail⟩ := List.append_inj h (by simp)
  have hlen : m.bytes.length = n.bytes.length := leBytes_injective m.fits n.fits hhead
  obtain ⟨hbytes, hrest⟩ := List.append_inj htail hlen
  cases m
  cases n
  cases hbytes
  exact ⟨rfl, hrest⟩

/-- The bytes stop before the end of a frame. -/
def Stops (w : Nat) (bytes : List UInt8) : Prop :=
  ∃ m : Message w, bytes <+: m.frame ∧ bytes ≠ m.frame

theorem stops_nil (hw : 0 < w) : Stops w [] := by
  refine ⟨⟨[], Nat.pow_pos (by decide)⟩, List.nil_prefix, fun h => ?_⟩
  have hlen := congrArg List.length h
  rw [length_frame, List.length_nil] at hlen
  omega

/-- No frame is whole where the bytes stop before the end of one. -/
theorem Stops.ne_frame {bytes as : List UInt8} (h : Stops w bytes) (m : Message w) :
    bytes ≠ m.frame ++ as := by
  obtain ⟨n, ⟨rest, hrest⟩, hne⟩ := h
  rintro rfl
  rw [List.append_assoc] at hrest
  obtain ⟨rfl, hnil⟩ := frame_append_inj (hrest.trans (List.append_nil _).symm)
  rw [(List.append_eq_nil_iff.mp hnil).1, List.append_nil] at hne
  exact hne rfl

/-- Frames among the bytes of others are the first of these. -/
theorem frames_isPrefix {ms ns : List (Message w)} {as bs : List UInt8} (hstops : Stops w bs)
    (h : frames ms ++ as = frames ns ++ bs) : ms <+: ns := by
  induction ms generalizing ns with
  | nil => exact List.nil_prefix
  | cons m ms ih =>
      have hm : frames (m :: ms) = m.frame ++ frames ms := List.flatMap_cons
      cases ns with
      | nil =>
          rw [hm, frames_nil, List.nil_append, List.append_assoc] at h
          exact absurd h.symm (hstops.ne_frame m)
      | cons n ns =>
          have hn : frames (n :: ns) = n.frame ++ frames ns := List.flatMap_cons
          rw [hm, hn, List.append_assoc, List.append_assoc] at h
          obtain ⟨rfl, hrest⟩ := frame_append_inj h
          exact List.cons_prefix_cons.mpr ⟨rfl, ih hrest⟩

/-! ## Readers -/

/-- A reader of the messages `ms` has passed on `done` and taken `taken` of what
follows, and `unread` is still to be read. -/
def Cut (ms done : List (Message w)) (taken unread : List UInt8) : Prop :=
  ∃ rest, ms = done ++ rest ∧ taken ++ unread = frames rest

namespace Cut

variable {ms done : List (Message w)} {taken unread as bs : List UInt8}

theorem nil : Cut ([] : List (Message w)) [] [] [] := ⟨[], rfl, rfl⟩

theorem isPrefix (h : Cut ms done taken unread) : done <+: ms := by
  obtain ⟨rest, hms, -⟩ := h
  exact ⟨rest, hms.symm⟩

theorem send (h : Cut ms done taken unread) (m : Message w) :
    Cut (ms ++ [m]) done taken (unread ++ m.frame) := by
  obtain ⟨rest, hms, hrest⟩ := h
  refine ⟨rest ++ [m], by rw [hms, List.append_assoc], ?_⟩
  rw [frames_append, ← hrest, List.append_assoc]
  simp [Message.frame]

theorem take (h : Cut ms done taken (as ++ bs)) : Cut ms done (taken ++ as) bs := by
  obtain ⟨rest, hms, hrest⟩ := h
  exact ⟨rest, hms, by rw [← hrest, List.append_assoc]⟩

/-- The reader has taken a length and that many bytes: a whole message. -/
theorem pass (hw : 0 < w) {n : Nat} {data : List UInt8} (hn : n < 256 ^ w)
    (hdata : data.length = n) (h : Cut ms done (leBytes w n ++ data) unread) :
    ∃ m, m.bytes = data ∧ Cut ms (done ++ [m]) [] unread := by
  obtain ⟨rest, hms, hrest⟩ := h
  rw [List.append_assoc] at hrest
  obtain ⟨m, rest, rfl, hlen, hbytes⟩ := frames_header hw hn hrest
  obtain ⟨hm, hunread⟩ := List.append_inj hbytes (by rw [hdata, hlen])
  exact ⟨m, hm.symm, rest, by rw [hms, List.append_assoc]; rfl, hunread⟩

end Cut

end Lib

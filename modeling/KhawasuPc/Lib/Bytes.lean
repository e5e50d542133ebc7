import Mathlib.Algebra.Group.Nat.Defs
import Mathlib.Data.List.TakeWhile
import Mathlib.Tactic.Common

/-!
# Bytes in memory

A received buffer is modelled by all of memory, addressed from the start of the
buffer.  A read is always defined; whether it stays inside the buffer is a
question about the spans a function reads, which are therefore collected beside
its result.

Numbers in memory are little endian, as on the platforms the code is built for.
-/

namespace Lib

/-! ## Little endian numbers -/

/-- The low `w` bytes of `n`, least significant first. -/
def leBytes : Nat → Nat → List UInt8
  | 0, _ => []
  | w + 1, n => UInt8.ofNat n :: leBytes w (n / 256)

/-- The number that bytes spell, least significant first. -/
def leValue : List UInt8 → Nat
  | [] => 0
  | b :: bs => b.toNat + 256 * leValue bs

@[simp] theorem length_leBytes (w n : Nat) : (leBytes w n).length = w := by
  induction w generalizing n with
  | zero => rfl
  | succ w ih => simp [leBytes, ih]

/-- A number that fits its width is read back. -/
theorem leValue_leBytes : ∀ (w n : Nat), n < 256 ^ w → leValue (leBytes w n) = n
  | 0, n, h => by
      have : n = 0 := by simpa using h
      rw [this]
      rfl
  | w + 1, n, h => by
      have hd : n / 256 < 256 ^ w := by
        rw [Nat.div_lt_iff_lt_mul (by decide)]
        rwa [← Nat.pow_succ]
      rw [leBytes, leValue, leValue_leBytes w (n / 256) hd, UInt8.toNat_ofNat']
      omega

theorem leValue_lt : ∀ bs : List UInt8, leValue bs < 256 ^ bs.length
  | [] => by simp [leValue]
  | b :: bs => by
      have ih := leValue_lt bs
      have hb : b.toNat < 256 := UInt8.toNat_lt b
      rw [leValue, List.length_cons, Nat.pow_succ]
      omega

/-- Different bytes of one length spell different numbers. -/
theorem leValue_injective : ∀ {as bs : List UInt8}, as.length = bs.length →
    leValue as = leValue bs → as = bs
  | [], [], _, _ => rfl
  | a :: as, b :: bs, hl, hv => by
      have ha : a.toNat < 256 := UInt8.toNat_lt a
      have hb : b.toNat < 256 := UInt8.toNat_lt b
      simp only [leValue] at hv
      have hab : a = b := UInt8.toNat_inj.mp (by omega)
      rw [hab, leValue_injective (Nat.succ.inj hl) (by omega)]

/-- The bytes of a number are determined by it. -/
theorem leBytes_leValue : ∀ bs : List UInt8, leBytes bs.length (leValue bs) = bs
  | [] => rfl
  | b :: bs => by
      have hb : b.toNat < 256 := UInt8.toNat_lt b
      have hd : (b.toNat + 256 * leValue bs) / 256 = leValue bs := by omega
      have hm : UInt8.ofNat (b.toNat + 256 * leValue bs) = b := by
        apply UInt8.toNat_inj.mp
        rw [UInt8.toNat_ofNat']
        omega
      rw [List.length_cons, leValue, leBytes, hm, hd, leBytes_leValue bs]

/-- Two numbers that fit a width have different bytes. -/
theorem leBytes_injective {w m n : Nat} (hm : m < 256 ^ w) (hn : n < 256 ^ w)
    (h : leBytes w m = leBytes w n) : m = n := by
  rw [← leValue_leBytes w m hm, h, leValue_leBytes w n hn]

/-- Copy bytes over others, from an offset on. -/
def overwrite (dst : List UInt8) (off : Nat) (src : List UInt8) : List UInt8 :=
  dst.take off ++ src ++ dst.drop (off + src.length)

/-! ## Memory -/

/-- The bytes at each address. -/
abbrev Memory := Nat → UInt8

namespace Memory

/-- The `len` bytes from `off` on. -/
def slice (mem : Memory) (off len : Nat) : List UInt8 :=
  (List.range len).map fun i => mem (off + i)

@[simp] theorem length_slice (mem : Memory) (off len : Nat) : (mem.slice off len).length = len := by
  simp [slice]

theorem slice_add (mem : Memory) (off m n : Nat) :
    mem.slice off (m + n) = mem.slice off m ++ mem.slice (off + m) n := by
  simp [slice, List.range_add, Nat.add_assoc]

/-- The number in the `w` bytes at `off`. -/
def read (mem : Memory) (off w : Nat) : Nat := leValue (mem.slice off w)

/-- Memory that starts with the given bytes and is zero after them. -/
def ofList (bytes : List UInt8) : Memory := fun i => bytes.getD i 0

/-- The bytes `bytes` are at `off`. -/
def Holds (mem : Memory) (off : Nat) (bytes : List UInt8) : Prop :=
  mem.slice off bytes.length = bytes

theorem holds_append {mem : Memory} {off : Nat} {as bs : List UInt8} :
    mem.Holds off (as ++ bs) ↔ mem.Holds off as ∧ mem.Holds (off + as.length) bs := by
  rw [Holds, Holds, Holds, List.length_append, slice_add]
  constructor
  · intro h
    exact List.append_inj h (by simp)
  · rintro ⟨h₁, h₂⟩
    rw [h₁, h₂]

theorem Holds.slice_eq {mem : Memory} {off len : Nat} {bytes : List UInt8}
    (h : mem.Holds off bytes) (hlen : len = bytes.length) : mem.slice off len = bytes := by
  rw [hlen]
  exact h

/-- What is cut out are the bytes held exactly when it is as long as they are. -/
theorem Holds.slice_eq_iff {mem : Memory} {off len : Nat} {bytes : List UInt8}
    (h : mem.Holds off bytes) : mem.slice off len = bytes ↔ len = bytes.length := by
  constructor
  · intro he
    rw [← he, length_slice]
  · exact h.slice_eq

/-- A number laid out in `w` bytes is read back. -/
theorem Holds.read_eq {mem : Memory} {off w n : Nat} (h : mem.Holds off (leBytes w n))
    (hn : n < 256 ^ w) : mem.read off w = n := by
  rw [read, h.slice_eq (length_leBytes w n).symm, leValue_leBytes w n hn]

end Memory

/-! ## C strings -/

/-- The bytes of a C string, without the terminator. -/
structure CString where
  /-- The bytes before the terminator. -/
  bytes : List UInt8
  noNul : 0 ∉ bytes
deriving DecidableEq, Repr

namespace CString

theorem ext {a b : CString} (h : a.bytes = b.bytes) : a = b := by
  cases a
  cases b
  cases h
  rfl

/-- What a `char*` into the bytes and a terminator points to: everything before
the first NUL. -/
def ofBytes (bytes : List UInt8) : CString where
  bytes := bytes.takeWhile (· ≠ 0)
  noNul h := by simpa using List.mem_takeWhile_imp h

theorem bytes_ofBytes {bytes : List UInt8} (h : 0 ∉ bytes) : (ofBytes bytes).bytes = bytes := by
  rw [ofBytes, List.takeWhile_eq_self_iff]
  intro b hb
  rw [decide_eq_true_eq]
  rintro rfl
  exact h hb

@[simp] theorem ofBytes_bytes (s : CString) : ofBytes s.bytes = s :=
  ext (bytes_ofBytes s.noNul)

/-- A byte of the string, or the terminator. -/
def byteAt (s : CString) (i : Nat) : UInt8 := s.bytes.getD i 0

theorem byteAt_length (s : CString) : s.byteAt s.bytes.length = 0 := by
  rw [byteAt, List.getD_eq_getElem?_getD, List.getElem?_eq_none (Nat.le_refl _)]
  rfl

theorem byteAt_of_lt {s : CString} {i : Nat} (h : i < s.bytes.length) :
    s.byteAt i = s.bytes[i] := by
  rw [byteAt, List.getD_eq_getElem?_getD, List.getElem?_eq_getElem h, Option.getD_some]

/-- Before the terminator there is no NUL. -/
theorem byteAt_ne_zero {s : CString} {i : Nat} (h : i < s.bytes.length) : s.byteAt i ≠ 0 := by
  rw [byteAt_of_lt h]
  intro hzero
  exact s.noNul (hzero ▸ List.getElem_mem h)

/-- A string is known from its bytes up to the terminator. -/
theorem eq_of_byteAt {s t : CString} (h : ∀ i ≤ t.bytes.length, s.byteAt i = t.byteAt i) :
    s = t := by
  have hlen : s.bytes.length = t.bytes.length := by
    rcases Nat.lt_trichotomy s.bytes.length t.bytes.length with lt | eq | gt
    · have same := h s.bytes.length (Nat.le_of_lt lt)
      rw [byteAt_length] at same
      exact absurd same.symm (byteAt_ne_zero lt)
    · exact eq
    · have same := h t.bytes.length (Nat.le_refl _)
      rw [byteAt_length] at same
      exact absurd same (byteAt_ne_zero gt)
  refine ext (List.ext_getElem hlen fun i hs ht => ?_)
  rw [← byteAt_of_lt hs, ← byteAt_of_lt ht]
  exact h i (Nat.le_of_lt ht)

end CString

/-! ## Spans -/

/-- The bytes a read touches. -/
structure Span where
  off : Nat
  len : Nat
deriving DecidableEq, Repr

/-- Every byte of the span is among the first `n`. -/
def Span.Inside (n : Nat) (s : Span) : Prop := s.len = 0 ∨ s.off + s.len ≤ n

instance (n : Nat) (s : Span) : Decidable (s.Inside n) := by
  unfold Span.Inside
  infer_instance

/-- Two spans side by side are inside exactly when they are as one. -/
theorem Span.inside_add {n off k l : Nat} :
    (Span.mk off (k + l)).Inside n ↔ (Span.mk off k).Inside n ∧ (Span.mk (off + k) l).Inside n := by
  simp only [Span.Inside]
  omega

end Lib

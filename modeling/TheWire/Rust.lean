import Mathlib.Data.List.Basic

/-!
# The Rust operations on byte slices that the decoders use

The decoders of the application layer index, slice and convert `&[u8]` payloads. A byte slice is
a `List UInt8`, and each operation that can panic returns an `Option`, `none` being the panic:

* `payload[i]` panics past the end (`xs[i]?`);
* `payload[start..stop]` panics unless `start ≤ stop ≤ payload.len()` (`range`), and
  `payload[start..]` unless `start ≤ payload.len()` (`rangeFrom`);
* `a - b` on `usize` panics on underflow (`usizeSub`, the checked semantics of a debug build);
* `u16::from_le_bytes(bytes.try_into().unwrap())` and its big-endian twin panic unless the slice
  holds exactly two bytes (`fromLeBytes`, `fromBeBytes`).

`fromLeBytes_leBytes` and `leBytes_fromLeBytes` say that the two bytes of a `u16`, low byte first,
and the `u16` they spell are the same information.
-/

namespace TheWire.Rust

variable {α : Type}

/-- `xs[start..stop]`. -/
def range (xs : List α) (start stop : ℕ) : Option (List α) :=
  if start ≤ stop ∧ stop ≤ xs.length then some ((xs.drop start).take (stop - start)) else none

/-- `xs[start..]`. -/
def rangeFrom (xs : List α) (start : ℕ) : Option (List α) :=
  if start ≤ xs.length then some (xs.drop start) else none

/-- `a - b` on `usize`. -/
def usizeSub (a b : ℕ) : Option ℕ :=
  if b ≤ a then some (a - b) else none

/-- `u16::from_le_bytes(bytes.try_into().unwrap())`. -/
def fromLeBytes : List UInt8 → Option UInt16
  | [lo, hi] => some (UInt16.ofNat (lo.toNat + 256 * hi.toNat))
  | _ => none

/-- `u16::from_be_bytes(bytes.try_into().unwrap())`. -/
def fromBeBytes : List UInt8 → Option UInt16
  | [hi, lo] => some (UInt16.ofNat (lo.toNat + 256 * hi.toNat))
  | _ => none

/-- The two bytes of a `u16`, low byte first (`u16::to_le_bytes`). -/
def leBytes (c : UInt16) : List UInt8 := [(c % 256).toUInt8, (c / 256).toUInt8]

/-- The two bytes of a `u16`, high byte first (`u16::to_be_bytes`). -/
def beBytes (c : UInt16) : List UInt8 := (leBytes c).reverse

theorem range_eq {xs : List α} {start stop : ℕ} (h : start ≤ stop) (h' : stop ≤ xs.length) :
    range xs start stop = some ((xs.drop start).take (stop - start)) :=
  if_pos ⟨h, h'⟩

theorem rangeFrom_eq {xs : List α} {start : ℕ} (h : start ≤ xs.length) :
    rangeFrom xs start = some (xs.drop start) :=
  if_pos h

theorem usizeSub_eq {a b : ℕ} (h : b ≤ a) : usizeSub a b = some (a - b) :=
  if_pos h

/-- The slice between a prefix and a suffix. -/
theorem range_append (xs ys zs : List α) :
    range (xs ++ ys ++ zs) xs.length (xs.length + ys.length) = some ys := by
  rw [range_eq (by omega) (by simp)]
  simp

theorem rangeFrom_append (xs ys : List α) : rangeFrom (xs ++ ys) xs.length = some ys := by
  rw [rangeFrom_eq (by simp)]
  simp

theorem toNat_ofNat_bytes (lo hi : UInt8) :
    (UInt16.ofNat (lo.toNat + 256 * hi.toNat)).toNat = lo.toNat + 256 * hi.toNat := by
  have := lo.toNat_lt_size
  have := hi.toNat_lt_size
  rw [UInt16.toNat_ofNat_of_lt]
  simp only [UInt8.size, UInt16.size] at *
  omega

theorem toUInt8_eq_of_toNat {c : UInt16} {b : UInt8} (h : c.toNat = b.toNat) : c.toUInt8 = b :=
  UInt8.toNat.inj <| (UInt8.toNat_ofNat_of_lt (h ▸ b.toNat_lt_size)).trans h

theorem leBytes_fromLeBytes (lo hi : UInt8) :
    leBytes (UInt16.ofNat (lo.toNat + 256 * hi.toNat)) = [lo, hi] := by
  have := lo.toNat_lt_size
  simp only [leBytes, List.cons.injEq, and_true]
  constructor <;> apply toUInt8_eq_of_toNat <;>
    simp only [UInt16.toNat_mod, UInt16.toNat_div, UInt16.reduceToNat, toNat_ofNat_bytes] <;>
    simp only [UInt8.size] at * <;> omega

theorem fromLeBytes_leBytes (c : UInt16) : fromLeBytes (leBytes c) = some c := by
  have := c.toNat_lt_size
  simp only [fromLeBytes, leBytes, Option.some.injEq]
  apply UInt16.toNat.inj
  rw [toNat_ofNat_bytes]
  simp only [UInt16.toUInt8, Nat.toUInt8, UInt16.toNat_mod, UInt16.toNat_div, UInt16.reduceToNat]
  rw [UInt8.toNat_ofNat_of_lt, UInt8.toNat_ofNat_of_lt] <;>
    simp only [UInt8.size, UInt16.size] at * <;> omega

theorem beBytes_fromBeBytes (hi lo : UInt8) :
    beBytes (UInt16.ofNat (lo.toNat + 256 * hi.toNat)) = [hi, lo] := by
  rw [beBytes, leBytes_fromLeBytes]
  rfl

/-- Two bytes are the bytes of a `u16`, high byte first. -/
theorem exists_beBytes {bytes : List UInt8} (h : bytes.length = 2) : ∃ c, beBytes c = bytes := by
  obtain ⟨hi, lo, rfl⟩ := List.length_eq_two.mp h
  exact ⟨_, beBytes_fromBeBytes hi lo⟩

theorem one_le_iff_ne_zero (x : UInt8) : 1 ≤ x ↔ x ≠ 0 := by
  rw [UInt8.le_def, BitVec.le_def, Ne]
  constructor
  · rintro h rfl
    exact absurd h (by decide)
  · exact fun h => Nat.one_le_iff_ne_zero.mpr fun h' => h (UInt8.toNat.inj h')

end TheWire.Rust

import Mathlib

/-!
# Go values the push client works with

The pieces of Go's runtime and of the `click` package that the modelled code reads:

* `Int64` — Go's `int64` as an integer with its range as a field, and the two's-complement
  wrap (`Int64.wrap`) that Go's `+`, `-` and `*` perform on it. `Duration` is `time.Duration`,
  a count of nanoseconds in an `int64`.
* `AppId` — a parsed `click.AppId`, reduced to the two things the modelled code reads from it:
  `Package` and `Original()`.
* `GoError` — the error values (and panics) the modelled functions produce.

Go's `uint32` is Lean's `UInt32`, which wraps the same way; `toNat_add_one` and `lt_iff_toNat`
are the two facts about it the redialer needs.
-/

namespace UbuntuPush

/-! ## `int64` and `time.Duration` -/

/-- Go's `int64`: an integer in `[-2^63, 2^63)`. The range is a field, so no value outside it
can be built.
Source: none: Go's `int64`
Kind: D
Fidelity: exact -/
structure Int64 where
  /-- The integer the 64 bits stand for. -/
  toInt : Int
  /-- It fits in 64 signed bits. -/
  range : -2^63 ≤ toInt ∧ toInt < 2^63
  deriving DecidableEq

namespace Int64

/-- Two's-complement wrap of an integer into the `int64` range: what Go's arithmetic does on
overflow.
Source: none: Go's `int64`
Kind: D
Fidelity: exact -/
def wrap (x : Int) : Int := (x + 2^63) % 2^64 - 2^63

/-- The wrap lands in the `int64` range.
Source: none: Go's `int64`
Kind: L -/
theorem wrap_range (x : Int) : -2^63 ≤ wrap x ∧ wrap x < 2^63 := by
  unfold wrap; omega

/-- Inside the range the wrap does nothing.
Source: none: Go's `int64`
Kind: L -/
theorem wrap_of_range {x : Int} (h₁ : -2^63 ≤ x) (h₂ : x < 2^63) : wrap x = x := by
  unfold wrap; omega

/-- The `int64` an integer converts to, wrapping as a Go conversion does.
Source: none: Go's `int64(x)`
Kind: D -/
def ofInt (x : Int) : Int64 := ⟨wrap x, wrap_range x⟩

instance : Inhabited Int64 := ⟨ofInt 0⟩
instance : Add Int64 := ⟨fun a b => ofInt (a.toInt + b.toInt)⟩
instance : Sub Int64 := ⟨fun a b => ofInt (a.toInt - b.toInt)⟩
instance : Mul Int64 := ⟨fun a b => ofInt (a.toInt * b.toInt)⟩
instance {n : Nat} : OfNat Int64 n := ⟨ofInt n⟩
instance : LT Int64 := ⟨fun a b => a.toInt < b.toInt⟩
instance : LE Int64 := ⟨fun a b => a.toInt ≤ b.toInt⟩
instance (a b : Int64) : Decidable (a < b) := inferInstanceAs (Decidable (a.toInt < b.toInt))
instance (a b : Int64) : Decidable (a ≤ b) := inferInstanceAs (Decidable (a.toInt ≤ b.toInt))

/-- A conversion reads back as the wrapped integer.
Source: none: Go's `int64`
Kind: L -/
@[simp] theorem toInt_ofInt (x : Int) : (ofInt x).toInt = wrap x := rfl
/-- `int64` addition wraps.
Source: none: Go's `int64`
Kind: L -/
@[simp] theorem toInt_add (a b : Int64) : (a + b).toInt = wrap (a.toInt + b.toInt) := rfl
/-- `int64` subtraction wraps.
Source: none: Go's `int64`
Kind: L -/
@[simp] theorem toInt_sub (a b : Int64) : (a - b).toInt = wrap (a.toInt - b.toInt) := rfl
/-- `int64` multiplication wraps.
Source: none: Go's `int64`
Kind: L -/
@[simp] theorem toInt_mul (a b : Int64) : (a * b).toInt = wrap (a.toInt * b.toInt) := rfl
/-- A literal reads back as its wrap.
Source: none: Go's `int64`
Kind: L -/
theorem toInt_ofNat (n : Nat) : (OfNat.ofNat n : Int64).toInt = wrap n := rfl

/-- A literal below `2^63` stands for itself.
Source: none: Go's `int64`
Kind: L -/
@[simp] theorem toInt_ofNat_of_lt (n : Nat) (h : n < 2^63) :
    (no_index (OfNat.ofNat n : Int64)).toInt = n :=
  wrap_of_range (by omega) (by omega)

/-- `int64` comparison is integer comparison.
Source: none: Go's `int64`
Kind: L -/
theorem lt_iff (a b : Int64) : a < b ↔ a.toInt < b.toInt := Iff.rfl
/-- `int64` comparison is integer comparison.
Source: none: Go's `int64`
Kind: L -/
theorem le_iff (a b : Int64) : a ≤ b ↔ a.toInt ≤ b.toInt := Iff.rfl

/-- Two `int64`s with the same integer are equal.
Source: none: infrastructure
Kind: L -/
theorem ext {a b : Int64} (h : a.toInt = b.toInt) : a = b := by
  cases a; cases b; cases h; rfl

end Int64

/-- Go's `time.Duration`: nanoseconds in an `int64`.
Source: none: Go's `time.Duration`
Kind: D
Fidelity: exact -/
abbrev Duration := Int64

/-- `time.Second`.
Source: none: Go's `time.Second`
Kind: D
Fidelity: exact -/
def Duration.second : Duration := 1000000000

/-! ## `uint32` -/

/-- `uint32` increment wraps at `2^32`.
Source: none: Go's `uint32`
Kind: L -/
theorem UInt32.toNat_add_one (a : UInt32) : (a + 1).toNat = (a.toNat + 1) % 2^32 := by
  simp [UInt32.toNat, UInt32.add_def, BitVec.toNat_add]

/-- `uint32` comparison is comparison of the naturals.
Source: none: Go's `uint32`
Kind: L -/
theorem UInt32.lt_iff_toNat {a b : UInt32} : a < b ↔ a.toNat < b.toNat := by
  simp [UInt32.lt_def, UInt32.toNat, BitVec.lt_def]

/-- The conversion of a natural to `uint32` keeps it modulo `2^32`.
Source: none: Go's `uint32(n)`
Kind: L -/
theorem UInt32.toNat_ofNat' (n : Nat) : (UInt32.ofNat n).toNat = n % 2^32 := by
  simp [UInt32.ofNat, UInt32.toNat, Fin.ofNat]

/-- `uint32` decrement wraps at `2^32`.
Source: none: Go's `uint32`
Kind: L -/
theorem UInt32.toNat_sub_one (a : UInt32) : (a - 1).toNat = (a.toNat + (2^32 - 1)) % 2^32 := by
  simp [UInt32.toNat, UInt32.sub_def, BitVec.toNat_sub]
  omega

/-! ## Apps and errors -/

/-- A parsed `click.AppId`, with the two parts the modelled code reads: the package (for the
D-Bus object path of the `Post` signal) and `Original()`, the id as it was written (the
mailbox key).
Source: `click.AppId` (not under `src/`); read in `unnamed/part_001` (PostalService)
Kind: D
Fidelity: abstracted (the application and version fields are never read) -/
structure AppId where
  /-- `app.Package`. -/
  package : String
  /-- `app.Original()`. -/
  original : String
  deriving DecidableEq, Repr

/-- The errors the modelled functions return, and the panics they raise.
Source: `service.ErrBadArgType`, `click.ErrMissingApp`; Go's `panic`
Kind: D
Fidelity: exact up to message texts not under `src/` -/
inductive GoError
  /-- `ErrBadArgType`: a D-Bus argument of the wrong dynamic type. -/
  | errBadArgType
  /-- `click.ErrMissingApp`: the app id parses but the app is not installed. -/
  | errMissingApp
  /-- A panic, with its message. -/
  | panic (msg : String)
  /-- Any other error value, with its text. -/
  | other (msg : String)
  deriving DecidableEq, Repr

end UbuntuPush

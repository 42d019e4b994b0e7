namespace MemberStream

/-!
# Byte strings and little-endian words

A byte string is a list of octets.  Container headers store their lengths and
checksums least significant byte first; `littleEndian` writes such a word and
`ofLittleEndian` reads one back.
-/

/-! Powers and sums of numbers are those of the core library, whatever is imported beside it. -/

attribute [scoped instance (high)] instPowNat Zero.ofOfNat0

/-- A byte string. -/
abbrev Bytes := List UInt8

/-- The `width` lowest octets of `value`, least significant first. -/
def littleEndian : Nat → Nat → Bytes
  | 0, _ =>
      []
  | width + 1, value =>
      UInt8.ofNat value :: littleEndian width (value / 256)

/-- The number whose octets are given least significant first. -/
def ofLittleEndian : Bytes → Nat
  | [] =>
      0
  | byte :: rest =>
      byte.toNat + 256 * ofLittleEndian rest

/-- A written word has exactly the requested number of octets. -/
@[simp]
theorem length_littleEndian
    (width value : Nat) :
    (littleEndian width value).length = width := by
  induction width generalizing value with
  | zero =>
      rfl
  | succ width ih =>
      simp [littleEndian, ih]

/-- A word that fits its width is read back as written. -/
theorem ofLittleEndian_littleEndian
    (width value : Nat)
    (fits : value < 256 ^ width) :
    ofLittleEndian (littleEndian width value) = value := by
  induction width generalizing value with
  | zero =>
      simp only [Nat.pow_zero] at fits
      have : value = 0 := by omega
      simp [littleEndian, ofLittleEndian, this]
  | succ width ih =>
      have rest : value / 256 < 256 ^ width := by
        apply (Nat.div_lt_iff_lt_mul (by decide : 0 < 256)).2
        simpa [Nat.pow_succ] using fits
      simp only [littleEndian, ofLittleEndian, UInt8.toNat_ofNat', ih _ rest]
      omega

/--
The first `count` octets and what follows them, or nothing when there are
fewer than `count`.
-/
def splitBytes?
    (count : Nat)
    (bytes : Bytes) :
    Option (Bytes × Bytes) :=
  let taken := bytes.take count
  if taken.length = count then
    some (taken, bytes.drop count)
  else
    none

end MemberStream

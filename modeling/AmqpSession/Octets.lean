/-
Octet strings and the unsigned big-endian numbers in them. `ofBigEndian_bigEndian`: a number that
fits its width is read back; `bigEndian_ofBigEndian`: so are the octets.
-/

namespace AmqpSession

/-- Octets, in the order in which they travel. -/
abbrev Bytes := List UInt8

/-- The low `width` octets of a number, most significant first. -/
def bigEndian : Nat → Nat → Bytes
  | 0, _ => []
  | width + 1, n => bigEndian width (n / 256) ++ [UInt8.ofNat n]

/-- The number that octets spell, most significant first. -/
def ofBigEndian (bs : Bytes) : Nat :=
  bs.foldl (fun n b => n * 256 + b.toNat) 0

/-- How many numbers so many octets can spell. -/
def octetRange : Nat → Nat
  | 0 => 1
  | width + 1 => octetRange width * 256

@[simp] theorem length_bigEndian (width n : Nat) : (bigEndian width n).length = width := by
  induction width generalizing n with
  | zero => rfl
  | succ width ih => simp [bigEndian, ih]

theorem ofBigEndian_concat (bs : Bytes) (b : UInt8) :
    ofBigEndian (bs ++ [b]) = ofBigEndian bs * 256 + b.toNat := by
  simp [ofBigEndian]

theorem ofBigEndian_lt (bs : Bytes) : ofBigEndian bs < octetRange bs.length := by
  rcases List.eq_nil_or_concat bs with rfl | ⟨l, b, rfl⟩
  · decide
  · have h := ofBigEndian_lt l
    have hb := b.toNat_lt
    rw [List.concat_eq_append, ofBigEndian_concat, List.length_append]
    show _ < octetRange l.length * 256
    omega
termination_by bs.length
decreasing_by simp_all

/-- Reading back keeps a number up to its width. -/
theorem ofBigEndian_bigEndian (width n : Nat) :
    ofBigEndian (bigEndian width n) = n % octetRange width := by
  induction width generalizing n with
  | zero => simp [bigEndian, ofBigEndian, octetRange, Nat.mod_one]
  | succ width ih =>
    rw [bigEndian, ofBigEndian_concat, ih, UInt8.toNat_ofNat', octetRange, Nat.mul_comm,
      Nat.mul_comm (octetRange width), Nat.mod_mul (a := 256), Nat.add_comm]

/-- Octets are the big-endian form of the number they spell. -/
theorem bigEndian_ofBigEndian (bs : Bytes) : bigEndian bs.length (ofBigEndian bs) = bs := by
  rcases List.eq_nil_or_concat bs with rfl | ⟨l, b, rfl⟩
  · rfl
  · have h := bigEndian_ofBigEndian l
    have hb : b.toNat < 256 := b.toNat_lt
    have hdiv : (ofBigEndian l * 256 + b.toNat) / 256 = ofBigEndian l := by omega
    rw [List.concat_eq_append, ofBigEndian_concat, List.length_append]
    show bigEndian l.length ((ofBigEndian l * 256 + b.toNat) / 256) ++ _ = _
    rw [hdiv, h]
    congr 2
    apply UInt8.toNat_inj.1
    rw [UInt8.toNat_ofNat']
    omega
termination_by bs.length
decreasing_by simp_all

end AmqpSession

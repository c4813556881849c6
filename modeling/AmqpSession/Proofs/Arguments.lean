/-
Which octets are read as which arguments. A value is read exactly where its octets stand at the front
of a payload, and a draft is finished exactly with the octets of its parts. Both are stated as
equivalences, so that what is read and what is written are compared by rewriting.
-/
import AmqpSession.Proofs.Layout

namespace AmqpSession.Wire

/-! ## Reading -/

namespace Reader

variable {α β : Type} {payload rest : Bytes}

@[simp] theorem bind_eq_ok_iff {m : Reader α} {k : α → Reader β} {b : β} :
    (m >>= k) payload = .ok (b, rest) ↔
      ∃ a mid, m payload = .ok (a, mid) ∧ k a mid = .ok (b, rest) := by
  constructor
  · intro h
    cases hm : m payload with
    | error fault =>
      change (m payload >>= fun p => k p.1 p.2) = _ at h
      rw [hm] at h
      cases h
    | ok p =>
      rw [bind_eq hm] at h
      exact ⟨p.1, p.2, rfl, h⟩
  · rintro ⟨a, mid, hm, hk⟩
    rw [bind_eq hm, hk]

@[simp] theorem pure_eq_ok_iff {a b : α} :
    (pure a : Reader α) payload = .ok (b, rest) ↔ a = b ∧ payload = rest := by
  show Except.ok (a, payload) = _ ↔ _
  simp

@[simp] theorem map_eq_ok_iff {m : Reader α} {g : α → β} {b : β} :
    (g <$> m) payload = .ok (b, rest) ↔ ∃ a, m payload = .ok (a, rest) ∧ g a = b := by
  rw [map_eq_pure_bind, bind_eq_ok_iff]
  constructor
  · rintro ⟨a, mid, hm, hp⟩
    obtain ⟨rfl, rfl⟩ := pure_eq_ok_iff.1 hp
    exact ⟨a, hm, rfl⟩
  · rintro ⟨a, hm, rfl⟩
    exact ⟨a, rest, hm, rfl⟩

@[simp] theorem throw_eq_ok_iff {fault : DecodeFault} {a : α} :
    (throw fault : Reader α) payload = .ok (a, rest) ↔ False := by
  show Except.error fault = _ ↔ _
  simp

theorem octets_eq_ok_iff {count : Nat} {bs : Bytes} :
    octets count payload = .ok (bs, rest) ↔ bs.length = count ∧ payload = bs ++ rest := by
  constructor
  · intro h
    unfold octets at h
    split at h
    · cases h
    · cases h
      exact ⟨by rw [List.length_take]; omega, (List.take_append_drop _ _).symm⟩
  · rintro ⟨rfl, rfl⟩
    exact octets_append bs rest

@[simp] theorem rest_eq_ok_iff {bs : Bytes} :
    Reader.rest payload = .ok (bs, rest) ↔ payload = bs ∧ rest = [] := by
  simp [Reader.rest, eq_comm]

@[simp] theorem atEnd_eq_ok_iff {u : Unit} :
    atEnd payload = .ok (u, rest) ↔ payload = [] ∧ rest = [] := by
  cases payload <;> simp [atEnd, eq_comm]

/-! ### Numbers -/

theorem unsigned_eq_ok_iff {width n : Nat} : unsigned width payload = .ok (n, rest) ↔
    n < octetRange width ∧ payload = bigEndian width n ++ rest := by
  simp only [unsigned, map_eq_ok_iff, octets_eq_ok_iff]
  constructor
  · rintro ⟨bs, ⟨rfl, rfl⟩, rfl⟩
    exact ⟨ofBigEndian_lt bs, by rw [bigEndian_ofBigEndian]⟩
  · rintro ⟨hn, rfl⟩
    exact ⟨_, ⟨length_bigEndian _ _, rfl⟩, by rw [ofBigEndian_bigEndian, Nat.mod_eq_of_lt hn]⟩

/-- A type of numbers that has one for every string of so many octets. -/
theorem map_unsigned_eq_ok_iff {N : Type} (width : Nat) {ofNat : Nat → N} {toNat : N → Nat}
    (hof : ∀ n, ofNat (toNat n) = n) (hto : ∀ k < octetRange width, toNat (ofNat k) = k)
    (hlt : ∀ n, toNat n < octetRange width) {n : N} :
    (ofNat <$> unsigned width) payload = .ok (n, rest) ↔ payload = bigEndian width (toNat n) ++ rest := by
  simp only [map_eq_ok_iff, unsigned_eq_ok_iff]
  constructor
  · rintro ⟨k, ⟨hk, rfl⟩, rfl⟩
    rw [hto k hk]
  · rintro rfl
    exact ⟨toNat n, ⟨hlt n, rfl⟩, hof n⟩

@[simp] theorem octet_eq_ok_iff {n : UInt8} : octet payload = .ok (n, rest) ↔ payload = n :: rest := by
  refine (map_unsigned_eq_ok_iff 1 (fun _ => UInt8.ofNat_toNat) (fun _ hk => Nat.mod_eq_of_lt hk)
    fun n => n.toNat_lt).trans ?_
  show payload = UInt8.ofNat n.toNat :: rest ↔ _
  rw [UInt8.ofNat_toNat]

@[simp] theorem short_eq_ok_iff {n : UInt16} :
    short payload = .ok (n, rest) ↔ payload = bigEndian 2 n.toNat ++ rest :=
  map_unsigned_eq_ok_iff 2 (fun _ => UInt16.ofNat_toNat) (fun _ hk => Nat.mod_eq_of_lt hk)
    fun n => n.toNat_lt

@[simp] theorem long_eq_ok_iff {n : UInt32} :
    long payload = .ok (n, rest) ↔ payload = bigEndian 4 n.toNat ++ rest :=
  map_unsigned_eq_ok_iff 4 (fun _ => UInt32.ofNat_toNat) (fun _ hk => Nat.mod_eq_of_lt hk)
    fun n => n.toNat_lt

@[simp] theorem longLong_eq_ok_iff {n : UInt64} :
    longLong payload = .ok (n, rest) ↔ payload = bigEndian 8 n.toNat ++ rest :=
  map_unsigned_eq_ok_iff 8 (fun _ => UInt64.ofNat_toNat) (fun _ hk => Nat.mod_eq_of_lt hk)
    fun n => n.toNat_lt

/-- Any octet is read as a bit. -/
@[simp] theorem bit_eq_ok_iff {b : Bool} :
    bit payload = .ok (b, rest) ↔ ∃ n, payload = n :: rest ∧ (n &&& 1 == 1) = b := by
  simp [bit]

/-! ### Strings -/

@[simp] theorem shortString_eq_ok_iff {s : String} : shortString payload = .ok (s, rest) ↔
    s.utf8ByteSize < 256 ∧ payload = UInt8.ofNat s.utf8ByteSize :: (Utf8.encode s ++ rest) := by
  simp only [shortString, bind_eq_ok_iff, octet_eq_ok_iff, octets_eq_ok_iff]
  constructor
  · rintro ⟨size, _, rfl, text, _, ⟨hsize, rfl⟩, h⟩
    cases hs : Utf8.decode? text with
    | none =>
      rw [hs] at h
      exact (throw_eq_ok_iff.1 h).elim
    | some s' =>
      rw [hs] at h
      obtain ⟨rfl, rfl⟩ := pure_eq_ok_iff.1 h
      obtain rfl := Utf8.decode?_eq_some_iff.1 hs
      rw [Utf8.length_encode] at hsize
      rw [hsize, UInt8.ofNat_toNat]
      exact ⟨size.toNat_lt, rfl⟩
  · rintro ⟨hs, rfl⟩
    refine ⟨_, _, rfl, Utf8.encode s, rest, ⟨(Nat.mod_eq_of_lt hs).symm, rfl⟩, ?_⟩
    rw [Utf8.decode?_encode]
    rfl

@[simp] theorem longString_eq_ok_iff {bs : Bytes} : longString payload = .ok (bs, rest) ↔
    bs.length < UInt32.size ∧ payload = bigEndian 4 bs.length ++ (bs ++ rest) := by
  simp only [longString, bind_eq_ok_iff, long_eq_ok_iff, octets_eq_ok_iff]
  constructor
  · rintro ⟨size, _, rfl, hsize, rfl⟩
    rw [hsize]
    exact ⟨size.toNat_lt, rfl⟩
  · rintro ⟨hbs, rfl⟩
    have hsize : (UInt32.ofNat bs.length).toNat = bs.length := Nat.mod_eq_of_lt hbs
    exact ⟨UInt32.ofNat bs.length, _, by rw [hsize], hsize.symm, rfl⟩

@[simp] theorem table_eq_ok_iff {t : FieldTable} : table payload = .ok (t, rest) ↔
    t.entries.length < UInt32.size ∧
      payload = bigEndian 4 t.entries.length ++ (t.entries ++ rest) := by
  simp only [table, map_eq_ok_iff, longString_eq_ok_iff]
  constructor
  · rintro ⟨bs, h, rfl⟩
    exact h
  · exact fun h => ⟨t.entries, h, rfl⟩

end Reader

/-! ## Writing -/

namespace Draft

variable {bs : Bytes}

theorem result_eq_ok_iff {d : Draft} : d.result = .ok bs ↔ d.fault = none ∧ d.octets = bs := by
  unfold result
  split
  · rename_i h
    simp [h]
  · rename_i fault h
    simp [h]

@[simp] theorem result_append {a b : Draft} : (a ++ b).result = .ok bs ↔
    ∃ x, a.result = .ok x ∧ ∃ y, b.result = .ok y ∧ bs = x ++ y := by
  show (a.append b).result = _ ↔ _
  obtain ⟨x, fault⟩ := a
  cases fault with
  | some fault => simp [append, result]
  | none =>
    simp only [append, result_eq_ok_iff]
    constructor
    · rintro ⟨hb, rfl⟩
      exact ⟨x, ⟨trivial, rfl⟩, b.octets, ⟨hb, rfl⟩, rfl⟩
    · rintro ⟨_, ⟨-, rfl⟩, _, ⟨hb, rfl⟩, rfl⟩
      exact ⟨hb, rfl⟩

@[simp] theorem result_raw {x : Bytes} : (raw x).result = .ok bs ↔ bs = x := by
  simp [raw, result, eq_comm]

@[simp] theorem result_empty : empty.result = .ok bs ↔ bs = [] := result_raw

@[simp] theorem result_octet {n : UInt8} : (octet n).result = .ok bs ↔ bs = [n] := result_raw

@[simp] theorem result_short {n : UInt16} : (short n).result = .ok bs ↔ bs = bigEndian 2 n.toNat :=
  result_raw

@[simp] theorem result_long {n : UInt32} : (long n).result = .ok bs ↔ bs = bigEndian 4 n.toNat :=
  result_raw

@[simp] theorem result_longLong {n : UInt64} :
    (longLong n).result = .ok bs ↔ bs = bigEndian 8 n.toNat := result_raw

@[simp] theorem result_bit {b : Bool} : (bit b).result = .ok bs ↔ bs = [if b then 1 else 0] :=
  result_raw

@[simp] theorem result_shortString {s : String} : (shortString s).result = .ok bs ↔
    s.utf8ByteSize < 256 ∧ bs = UInt8.ofNat s.utf8ByteSize :: Utf8.encode s := by
  unfold shortString
  split
  · rename_i h
    simp [h]
  · rename_i h
    simp [h, stop, result]

@[simp] theorem result_longString {x : Bytes} : (longString x).result = .ok bs ↔
    x.length < UInt32.size ∧ bs = bigEndian 4 x.length ++ x := by
  unfold longString
  split
  · rename_i h
    simp [h]
  · rename_i h
    simp [h, stop, result]

@[simp] theorem result_table {t : FieldTable} : (table t).result = .ok bs ↔
    t.entries.length < UInt32.size ∧ bs = bigEndian 4 t.entries.length ++ t.entries :=
  result_longString

end Draft

end AmqpSession.Wire

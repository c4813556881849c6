/-
What a connection URI says. Its writer may escape any octet of a name and has to escape only `%`; the
name that was meant is read back (`decode_of_spells`). A limit is a number in decimal digits, and the
last one given for a key counts. `applyUri_of_carries`: a URI that carries credentials, a virtual host
and every limit determines the options, whatever they were before; the first limit that is no number in
range is named in the error.
-/
import AmqpSession.Options.OfUri
import Mathlib.Data.List.Basic

namespace AmqpSession

/-! ## Escaped names -/

namespace Percent

/-- The digit in lower case; `hexDigit` is the one in upper case. -/
def lowerHexDigit (n : UInt8) : UInt8 := if n < 10 then n + 0x30 else n - 10 + 0x61

/-- A hexadecimal digit in either case. -/
def IsHexDigit (digit n : UInt8) : Prop := digit = hexDigit n ∨ digit = lowerHexDigit n

/-- Octets as somebody may write them: each one stands for itself or is escaped, and `%` is always
escaped. -/
inductive Spells : Bytes → Bytes → Prop where
  | nil : Spells [] []
  | raw {b : UInt8} {written octets : Bytes} :
      b ≠ 0x25 → Spells written octets → Spells (b :: written) (b :: octets)
  | escaped {b high low : UInt8} {written octets : Bytes} :
      IsHexDigit high (b / 16) → IsHexDigit low (b % 16) → Spells written octets →
      Spells (0x25 :: high :: low :: written) (b :: octets)

theorem hexValue?_of_isHexDigit {digit n : UInt8} (h : IsHexDigit digit n) (hn : n < 16) :
    hexValue? digit = some n := by
  have hall : ∀ k < 16, hexValue? (hexDigit (UInt8.ofNat k)) = some (UInt8.ofNat k) ∧
      hexValue? (lowerHexDigit (UInt8.ofNat k)) = some (UInt8.ofNat k) := by decide
  obtain ⟨hupper, hlower⟩ := hall n.toNat (UInt8.lt_iff_toNat_lt.1 hn)
  rw [UInt8.ofNat_toNat] at hupper hlower
  rcases h with rfl | rfl
  · exact hupper
  · exact hlower

theorem escaped?_of_isHexDigit {b high low : UInt8} (hh : IsHexDigit high (b / 16))
    (hl : IsHexDigit low (b % 16)) : escaped? high low = some b := by
  have hhigh : b / 16 < 16 := by have := b.toNat_lt; grind
  have hlow : b % 16 < 16 := by have := b.toNat_lt; grind
  rw [escaped?, hexValue?_of_isHexDigit hh hhigh, hexValue?_of_isHexDigit hl hlow]
  have h : ∀ k < 256, UInt8.ofNat k / 16 * 16 + UInt8.ofNat k % 16 = UInt8.ofNat k := by
    decide +kernel
  simpa using h b.toNat b.toNat_lt

theorem decode_cons {b : UInt8} (h : b ≠ 0x25) (rest : Bytes) : decode (b :: rest) = b :: decode rest := by
  match rest with
  | [] => rfl
  | [_] => rfl
  | _ :: _ :: _ => rw [decode, if_neg h]

theorem decode_of_spells {written octets : Bytes} (h : Spells written octets) : decode written = octets := by
  induction h with
  | nil => rfl
  | raw hb _ ih => rw [decode_cons hb, ih]
  | escaped hh hl _ ih => rw [decode, if_pos rfl, escaped?_of_isHexDigit hh hl, ih]

end Percent

/-- A text as it may be written in a URI. -/
def Uri.Spells (written text : String) : Prop := Percent.Spells (Utf8.encode written) (Utf8.encode text)

theorem Login.unescape?_of_spells {written text : String} (h : Uri.Spells written text) :
    unescape? written = some text := by
  rw [unescape?, Percent.decode_of_spells h, Utf8.decode?_encode]

/-- Only the empty text is written as the empty text. -/
theorem Uri.Spells.ne_empty {written text : String} (h : Uri.Spells written text) (ht : text ≠ "") :
    written ≠ "" := by
  rintro rfl
  have hd : some "" = some text := (by decide : Login.unescape? "" = some "") ▸ Login.unescape?_of_spells h
  exact ht (Option.some.inj hd).symm

namespace Options

/-! ## Numbers -/

/-- A number as it may be written: decimal digits, with a plus sign at most. -/
def IsNumeral (s : String) (n : Nat) : Prop :=
  ∃ sign digits : List Char, s.toList = sign ++ digits ∧ (sign = [] ∨ sign = ['+']) ∧
    digits ≠ [] ∧ (∀ c ∈ digits, c.isDigit = true) ∧ Nat.ofDigitChars 10 digits 0 = n

/-- The usual way to write a number is one of them. -/
theorem isNumeral_toString (n : Nat) : IsNumeral (toString n) n :=
  ⟨[], Nat.toDigits 10 n, by rw [Nat.toString_eq_ofList_toDigits]; simp, .inl rfl, Nat.toDigits_ne_nil,
    fun _ hc => Nat.isDigit_of_mem_toDigits (by omega) (by omega) hc, Nat.ofDigitChars_ten_toDigits⟩

/-- The digits behind the sign. -/
def unsigned : List Char → List Char
  | '+' :: rest => rest
  | cs => cs

theorem isNumeral_iff {s : String} {n : Nat} :
    IsNumeral s n ↔ unsigned s.toList ≠ [] ∧ (∀ c ∈ unsigned s.toList, c.isDigit = true) ∧
      Nat.ofDigitChars 10 (unsigned s.toList) 0 = n := by
  constructor
  · rintro ⟨sign, digits, hs, rfl | rfl, hne, hdigits, hn⟩
    · have hu : unsigned digits = digits := by
        match digits with
        | [] => rfl
        | c :: rest =>
          have hc : c ≠ '+' := by rintro rfl; exact absurd (hdigits '+' (by simp)) (by decide)
          unfold unsigned
          split
          · rename_i heq; exact absurd (List.cons.inj heq).1 hc
          · rfl
      rw [hs, List.nil_append, hu]
      exact ⟨hne, hdigits, hn⟩
    · rw [hs]
      exact ⟨hne, hdigits, hn⟩
  · rintro ⟨hne, hdigits, hn⟩
    by_cases hsign : ∃ rest, s.toList = '+' :: rest
    · obtain ⟨rest, hs⟩ := hsign
      rw [hs] at hne hdigits hn
      exact ⟨['+'], rest, hs, .inr rfl, hne, hdigits, hn⟩
    · have hu : unsigned s.toList = s.toList := by
        unfold unsigned
        split
        · rename_i rest heq; exact absurd ⟨rest, heq⟩ hsign
        · rfl
      rw [hu] at hne hdigits hn
      exact ⟨[], s.toList, rfl, .inl rfl, hne, hdigits, hn⟩

theorem decimal?_eq_some_iff {bound n : Nat} {s : String} :
    decimal? bound s = some n ↔ IsNumeral s n ∧ n < bound := by
  have hvalue : (unsigned s.toList).foldl (fun n c => n * 10 + (c.toNat - '0'.toNat)) 0 =
      Nat.ofDigitChars 10 (unsigned s.toList) 0 := by
    simp only [Nat.ofDigitChars_eq_foldl, Nat.mul_comm]
  have hread : decimal? bound s =
      if (unsigned s.toList).isEmpty || !(unsigned s.toList).all Char.isDigit then none
      else if Nat.ofDigitChars 10 (unsigned s.toList) 0 < bound then
        some (Nat.ofDigitChars 10 (unsigned s.toList) 0) else none := by
    rw [← hvalue]; rfl
  rw [hread, isNumeral_iff]
  simp only [Option.ite_none_left_eq_some, Option.ite_none_right_eq_some, Option.some.injEq]
  simp only [Bool.or_eq_true, Bool.not_eq_true', List.isEmpty_iff, List.all_eq_false, not_or,
    not_exists, not_and]
  simp only [Bool.not_eq_true, Bool.not_eq_false]
  constructor
  · rintro ⟨⟨hne, hdigits⟩, hlt, rfl⟩
    exact ⟨⟨hne, by simpa using hdigits, rfl⟩, hlt⟩
  · rintro ⟨⟨hne, hdigits, rfl⟩, hlt⟩
    exact ⟨⟨hne, by simpa using hdigits⟩, hlt, rfl⟩

theorem decimal?_eq_none_iff {bound : Nat} {s : String} :
    decimal? bound s = none ↔ ∀ n < bound, ¬IsNumeral s n := by
  simp only [Option.eq_none_iff_forall_ne_some, ne_eq, decimal?_eq_some_iff, not_and']

/-! ## Limits in a query -/

/-- What a query can set. -/
inductive Tuning where
  | heartbeat
  | channelMax
  | frameMax
deriving DecidableEq, Repr

namespace Tuning

/-- The key of a limit in a query. -/
def key : Tuning → String
  | .heartbeat => "heartbeat"
  | .channelMax => "channel_max"
  | .frameMax => "frame_max"

/-- The least number that is too large for a limit. -/
def bound : Tuning → Nat
  | .heartbeat | .channelMax => UInt16.size
  | .frameMax => UInt32.size

/-- The options with another limit. A limit on frames is raised to the least one. -/
def set (o : Options) (n : Nat) : Tuning → Options
  | .heartbeat => { o with heartbeat := UInt16.ofNat n }
  | .channelMax => { o with channelMax := UInt16.ofNat n }
  | .frameMax => o.withFrameMax (UInt32.ofNat n)

/-- A limit as a number. -/
def get (o : Options) : Tuning → Nat
  | .heartbeat => o.heartbeat.toNat
  | .channelMax => o.channelMax.toNat
  | .frameMax => o.maxFrameSize.toNat

theorem get_set_of_ne {t other : Tuning} (h : t ≠ other) (o : Options) (n : Nat) :
    t.get (other.set o n) = t.get o := by
  cases t <;> cases other <;> first | rfl | exact absurd rfl h

/-- A setting forgets what it was. -/
theorem get_set (t : Tuning) (o o' : Options) (n : Nat) : t.get (t.set o n) = t.get (t.set o' n) := by
  cases t <;> rfl

/-- The last value of a key is a numeral of `n`. -/
def LastIs (t : Tuning) (pairs : List (String × String)) (n : Nat) : Prop :=
  ∃ before value after, pairs = before ++ (t.key, value) :: after ∧ IsNumeral value n ∧
    ∀ pair ∈ after, pair.1 ≠ t.key

end Tuning

/-- A limit that is no number in range. -/
def Misfit (pair : String × String) : Prop :=
  ∃ t : Tuning, pair.1 = t.key ∧ ∀ n < t.bound, ¬IsNumeral pair.2 n

theorem misfit_iff {pair : String × String} :
    Misfit pair ↔ ∃ t ∈ [Tuning.heartbeat, .channelMax, .frameMax],
      pair.1 = t.key ∧ decimal? t.bound pair.2 = none := by
  simp only [decimal?_eq_none_iff]
  exact ⟨fun ⟨t, h⟩ => ⟨t, by cases t <;> simp, h⟩, fun ⟨t, _, h⟩ => ⟨t, h⟩⟩

instance (pair : String × String) : Decidable (Misfit pair) := decidable_of_iff' _ misfit_iff

theorem applyPair_of_isNumeral {t : Tuning} {value : String} {n : Nat} (h : IsNumeral value n)
    (hn : n < t.bound) (o : Options) : o.applyPair (t.key, value) = .ok (t.set o n) := by
  have hd := decimal?_eq_some_iff.2 ⟨h, hn⟩
  cases t <;> simp only [Tuning.key, applyPair] <;> simp only [Tuning.bound] at hd <;> rw [hd] <;> rfl

theorem applyPair_of_unknown {pair : String × String} (h : ∀ t : Tuning, pair.1 ≠ t.key) (o : Options) :
    o.applyPair pair = .ok o := by
  unfold applyPair
  split
  · rename_i heq; exact absurd heq (h .heartbeat)
  · rename_i heq; exact absurd heq (h .channelMax)
  · rename_i heq; exact absurd heq (h .frameMax)
  · rfl

theorem applyPair_of_misfit {pair : String × String} (h : Misfit pair) (o : Options) :
    o.applyPair pair = .error (.query pair.1 pair.2) := by
  obtain ⟨key, value⟩ := pair
  obtain ⟨t, rfl, hv⟩ := h
  have hd := decimal?_eq_none_iff.2 hv
  cases t <;> simp only [Tuning.key, applyPair] <;> simp only [Tuning.bound] at hd <;> rw [hd]

/-- Pairs change nothing but the settings they name. -/
structure Keeps (o o' : Options) (pairs : List (String × String)) : Prop where
  login : o'.login = o.login
  virtualHost : o'.virtualHost = o.virtualHost
  setting : ∀ t : Tuning, (∀ pair ∈ pairs, pair.1 ≠ t.key) → t.get o' = t.get o

theorem exists_applyPair {pair : String × String} (h : ¬Misfit pair) (o : Options) :
    ∃ o', o.applyPair pair = .ok o' ∧ Keeps o o' [pair] := by
  by_cases hknown : ∃ t : Tuning, pair.1 = t.key
  · obtain ⟨key, value⟩ := pair
    obtain ⟨t, rfl⟩ := hknown
    obtain ⟨n, hn, hv⟩ : ∃ n, n < t.bound ∧ IsNumeral value n := by
      by_contra hno
      exact h ⟨t, rfl, fun n hn hv => hno ⟨n, hn, hv⟩⟩
    refine ⟨t.set o n, applyPair_of_isNumeral hv hn o, by cases t <;> rfl, by cases t <;> rfl,
      fun other hother => Tuning.get_set_of_ne ?_ o n⟩
    rintro rfl
    exact hother _ (List.mem_singleton_self _) rfl
  · exact ⟨o, applyPair_of_unknown (fun t ht => hknown ⟨t, ht⟩) o, rfl, rfl, fun _ _ => rfl⟩

theorem exists_applyPairs {pairs : List (String × String)} (h : ∀ pair ∈ pairs, ¬Misfit pair) (o : Options) :
    ∃ o', pairs.foldlM applyPair o = .ok o' ∧ Keeps o o' pairs := by
  induction pairs generalizing o with
  | nil => exact ⟨o, rfl, rfl, rfl, fun _ _ => rfl⟩
  | cons pair pairs ih =>
    rw [List.forall_mem_cons] at h
    obtain ⟨mid, hmid, hm⟩ := exists_applyPair h.1 o
    obtain ⟨o', ho', hk⟩ := ih h.2 mid
    refine ⟨o', by rw [List.foldlM_cons, hmid]; exact ho', hk.login.trans hm.login,
      hk.virtualHost.trans hm.virtualHost, fun t ht => ?_⟩
    rw [List.forall_mem_cons] at ht
    exact (hk.setting t ht.2).trans (hm.setting t (by simpa using ht.1))

/-- The last value of a key is what remains. -/
theorem get_of_lastIs {pairs : List (String × String)} (h : ∀ pair ∈ pairs, ¬Misfit pair) {t : Tuning}
    {n : Nat} (hn : n < t.bound) (hlast : t.LastIs pairs n) {o o' : Options}
    (ho' : pairs.foldlM applyPair o = .ok o') : t.get o' = t.get (t.set o n) := by
  obtain ⟨before, value, after, rfl, hv, hafter⟩ := hlast
  simp only [List.mem_append, List.mem_cons] at h
  obtain ⟨mid, hmid, -⟩ := exists_applyPairs (fun pair hp => h pair (.inl hp)) o
  obtain ⟨last, hl, hk⟩ := exists_applyPairs (fun pair hp => h pair (.inr (.inr hp))) (t.set mid n)
  have hrun : (before ++ (t.key, value) :: after).foldlM applyPair o = .ok last := by
    rw [List.foldlM_append, hmid]
    show ((t.key, value) :: after).foldlM applyPair mid = _
    rw [List.foldlM_cons, applyPair_of_isNumeral hv hn]
    exact hl
  obtain rfl : last = o' := Except.ok.inj (hrun.symm.trans ho')
  exact (hk.setting t hafter).trans (t.get_set mid o n)

/-- The first misfit ends the reading. -/
theorem applyPairs_of_misfit {before after : List (String × String)} {pair : String × String}
    (h : ∀ pair ∈ before, ¬Misfit pair) (hpair : Misfit pair) (o : Options) :
    (before ++ pair :: after).foldlM applyPair o = .error (.query pair.1 pair.2) := by
  obtain ⟨mid, hmid, -⟩ := exists_applyPairs h o
  rw [List.foldlM_append, hmid]
  show (pair :: after).foldlM applyPair mid = _
  rw [List.foldlM_cons, applyPair_of_misfit hpair]
  rfl

end Options

/-! ## The whole URI -/

theorem Uri.parse_of_authority (text : String) {scheme : String} {given : Uri.Credentials}
    {rest after : List Char}
    (hs : Uri.splitScheme (Uri.significant text) = some (scheme, '/' :: '/' :: rest))
    (hfile : (scheme == "file") = false) (hweb : Uri.isWebScheme scheme = false)
    (ha : Uri.readAuthority false rest = .ok (given, after)) :
    Uri.parse text = .ok (Uri.finish scheme given (Uri.readPath false) after) := by
  unfold Uri.parse
  simp only [hs, hfile, hweb, ha]
  rfl

/-- Credentials and a virtual host stand in a URI, escaped as its writer liked. -/
structure Uri.Carries (u : Uri) (l : Login) (virtualHost : String) : Prop where
  scheme : u.scheme = "amqp" ∨ u.scheme = "amqps"
  username : l.username ≠ "" ∧ Uri.Spells u.username l.username
  password : ∃ written, u.password = some written ∧ Uri.Spells written l.password
  virtualHost : virtualHost ≠ "" ∧ ∃ written, u.path = "/" ++ written ∧ Uri.Spells written virtualHost

namespace Uri.Carries

variable {u : Uri} {l : Login} {virtualHost : String}

theorem ofUri? (h : u.Carries l virtualHost) : Login.ofUri? u = some l := by
  obtain ⟨written, hw, hp⟩ := h.password
  have hne : u.username ≠ "" := h.username.2.ne_empty h.username.1
  unfold Login.ofUri?
  rw [hw]
  split
  · contradiction
  · contradiction
  · rename_i password heq _
    obtain rfl : written = password := Option.some.inj heq
    rw [Login.unescape?_of_spells h.username.2, Login.unescape?_of_spells hp]
    rfl

theorem applyPath (h : u.Carries l virtualHost) (o : Options) :
    o.applyPath u.path = .ok { o with virtualHost := virtualHost } := by
  obtain ⟨hv, written, hw, hs⟩ := h.virtualHost
  have hl : u.path.toList = '/' :: written.toList := by rw [hw, String.toList_append]; rfl
  simp only [Options.applyPath, hl, String.ofList_toList]
  rw [if_neg (hs.ne_empty hv), Login.unescape?_of_spells hs]

/-- What is left of the reading: the pairs, on options that have the names. -/
theorem applyUri_eq (h : u.Carries l virtualHost) (o : Options) :
    o.applyUri u =
      u.queryPairs.foldlM Options.applyPair { o with login := l, virtualHost := virtualHost } := by
  have hscheme : ¬(u.scheme ≠ "amqp" ∧ u.scheme ≠ "amqps") := by
    rcases h.scheme with hs | hs <;> simp [hs]
  unfold Options.applyUri
  rw [if_neg hscheme, h.ofUri?]
  show (Options.applyPath _ u.path >>= _) = _
  rw [h.applyPath]
  rfl

end Uri.Carries

namespace Options

theorem raiseFrameMax_eq (size : UInt32) : raiseFrameMax size = if size = 0 then 0 else max size 4096 := by
  have hmax : max size 4096 = if size ≤ 4096 then 4096 else size := rfl
  rw [hmax, raiseFrameMax, show Wire.frameMinSize = 4096 from rfl]
  grind

/-- A URI that carries credentials and a virtual host sets both, whatever octets of them are escaped.
If every limit in it is a number in range and none is missing, the options are these and the last value
of each, a frame limit below the least size raised to it; else the first limit that is no number in range
is named. A text that is such a URI comes to the same. -/
theorem applyUri_of_carries {u : Uri} {l : Login} {virtualHost : String} (h : u.Carries l virtualHost)
    (o : Options) :
    (∀ (channelMax heartbeat : UInt16) (frameMax : UInt32), (∀ pair ∈ u.queryPairs, ¬Misfit pair) →
      Tuning.channelMax.LastIs u.queryPairs channelMax.toNat →
      Tuning.heartbeat.LastIs u.queryPairs heartbeat.toNat →
      Tuning.frameMax.LastIs u.queryPairs frameMax.toNat →
      o.applyUri u = .ok ⟨l, virtualHost, channelMax,
        if frameMax = 0 then 0 else max frameMax 4096, heartbeat⟩) ∧
    (∀ before key value after, u.queryPairs = before ++ (key, value) :: after →
      (∀ pair ∈ before, ¬Misfit pair) → Misfit (key, value) →
      o.applyUri u = .error (.query key value)) ∧
    ∀ text, Uri.parse text = .ok u → o.applyText text = o.applyUri u := by
  refine ⟨fun channelMax heartbeat frameMax hfit hc hh hf => ?_,
    fun before key value after hp hfit hm => ?_, fun text ht => by rw [applyText, ht]⟩
  · obtain ⟨o', ho', hk⟩ := exists_applyPairs hfit { o with login := l, virtualHost := virtualHost }
    rw [h.applyUri_eq, ho']
    have hc := get_of_lastIs hfit channelMax.toNat_lt hc ho'
    have hh := get_of_lastIs hfit heartbeat.toNat_lt hh ho'
    have hf := get_of_lastIs hfit frameMax.toNat_lt hf ho'
    simp only [Tuning.get, Tuning.set, withFrameMax, UInt16.ofNat_toNat, UInt32.ofNat_toNat,
      UInt16.toNat_inj, UInt32.toNat_inj, raiseFrameMax_eq] at hc hh hf
    rw [← hc, ← hh, ← hf, ← show o'.login = l from hk.login,
      ← show o'.virtualHost = virtualHost from hk.virtualHost]
  · rw [h.applyUri_eq, hp]
    exact applyPairs_of_misfit hfit hm _

/-- Two names with escapes, a virtual host with a slash in it, one key twice and one that is unknown; the
same with a heartbeat out of range, and a channel limit after it that is no number at all. -/
theorem applyUri_of_carries_escaped :
    let u : Uri := ⟨"amqp", "us%40er", some "p%3ass", "/my%2Fhost",
      some "heartbeat=3&x&channel_max=16&frame_max=9&heartbeat=%2B40"⟩
    let options : Options := ⟨⟨"us@er", "p:ss"⟩, "my/host", 16, 4096, 40⟩
    u.Carries options.login options.virtualHost ∧ standard.applyUri u = .ok options ∧
      standard.applyText ("amqp://us%40er:p%3ass@h/my%2Fhost" ++
        "?heartbeat=3&x&channel_max=16&frame_max=9&heartbeat=%2B40") = .ok options ∧
      standard.applyUri { u with query := some "x=1&heartbeat=70000&channel_max=no" } =
        .error (.query "heartbeat" "70000") := by
  intro u options
  have huser : Uri.Spells "us%40er" "us@er" :=
    .raw (by decide) (.raw (by decide) (.escaped (.inl rfl) (.inl rfl)
      (.raw (by decide) (.raw (by decide) .nil))))
  have hpassword : Uri.Spells "p%3ass" "p:ss" :=
    .raw (by decide) (.escaped (.inl rfl) (.inr rfl) (.raw (by decide) (.raw (by decide) .nil)))
  have hhost : Uri.Spells "my%2Fhost" "my/host" :=
    .raw (by decide) (.raw (by decide) (.escaped (.inl rfl) (.inl rfl)
      (.raw (by decide) (.raw (by decide) (.raw (by decide) (.raw (by decide) .nil))))))
  have hpath : "/my%2Fhost" = "/" ++ "my%2Fhost" := by decide
  have hcarries (query : Option String) :
      Uri.Carries { u with query } options.login options.virtualHost :=
    ⟨.inl rfl, ⟨by decide, huser⟩, ⟨_, rfl, hpassword⟩, by decide, _, hpath, hhost⟩
  have hpairs : u.queryPairs = [("heartbeat", "3"), ("x", ""), ("channel_max", "16"),
    ("frame_max", "9"), ("heartbeat", "+40")] := by decide +kernel
  have hlast {t : Tuning} {n : Nat} (before value after)
      (h : u.queryPairs = before ++ (t.key, value) :: after) (hd : decimal? t.bound value = some n)
      (ha : ∀ pair ∈ after, pair.1 ≠ t.key) : t.LastIs u.queryPairs n :=
    ⟨before, value, after, h, (decimal?_eq_some_iff.1 hd).1, ha⟩
  have hauthority : Uri.readAuthority false
      ("us%40er:p%3ass@h/my%2Fhost" ++ "?heartbeat=3&x&channel_max=16&frame_max=9&heartbeat=%2B40").toList =
      .ok (⟨"us%40er", some "p%3ass"⟩,
        ("/my%2Fhost" ++ "?heartbeat=3&x&channel_max=16&frame_max=9&heartbeat=%2B40").toList) := rfl
  obtain ⟨hread, -, htext⟩ := applyUri_of_carries (hcarries u.query) standard
  obtain ⟨-, hmisfit, -⟩ :=
    applyUri_of_carries (hcarries (some "x=1&heartbeat=70000&channel_max=no")) standard
  have hok : standard.applyUri u = .ok options := by
    refine hread 16 40 9 (by rw [hpairs]; decide) ?_ ?_ ?_
    · exact hlast [("heartbeat", "3"), ("x", "")] "16" [("frame_max", "9"), ("heartbeat", "+40")]
        hpairs (by decide) (by decide)
    · exact hlast [("heartbeat", "3"), ("x", ""), ("channel_max", "16"), ("frame_max", "9")] "+40" []
        hpairs (by decide) (by decide)
    · exact hlast [("heartbeat", "3"), ("x", ""), ("channel_max", "16")] "9" [("heartbeat", "+40")]
        hpairs (by decide) (by decide)
  refine ⟨hcarries u.query, hok, ?_, ?_⟩
  · refine (htext _ ?_).trans hok
    exact Uri.parse_of_authority _ (by decide +kernel) (by decide) (by decide) hauthority
  · exact hmisfit [("x", "1")] "heartbeat" "70000" [("channel_max", "no")] (by decide +kernel)
      (by decide) (by decide)

end Options
end AmqpSession

/-
The octets of a method. A method is decoded exactly from the arguments that spell it
(`Method.decode_eq_ok_iff`): those that are written for it and, where arguments are reserved or a bit,
some others (`Method.ReadsLoosely`), which can be written shorter (`Method.written_of_readsLoosely`).
-/
import AmqpSession.Proofs.Arguments
import Mathlib.Tactic.Simproc.ExistsAndEq

namespace AmqpSession.Wire

/-! ## Arguments of methods -/

/-- What is written for a method after its class and its number. -/
def Method.arguments : Method → Draft
  | .connection m => m.encode
  | .channel m => m.encode
  | .other _ _ arguments => .raw arguments

/-- Octets that are read as the arguments of a method, but not written for it: reserved arguments that
are not empty, and an octet for a bit that is neither 0 nor 1. -/
def Method.ReadsLoosely : Method → Bytes → Prop
  | .connection (.openRequest host), args =>
    ∃ h capabilities c insist, (Draft.shortString host).result = .ok h ∧
      (Draft.shortString capabilities).result = .ok c ∧ args = h ++ c ++ [insist] ∧
      (capabilities ≠ "" ∨ insist ≠ 0)
  | .connection .openOk, args =>
    ∃ knownHosts, (Draft.shortString knownHosts).result = .ok args ∧ knownHosts ≠ ""
  | .channel .openRequest, args =>
    ∃ outOfBand, (Draft.shortString outOfBand).result = .ok args ∧ outOfBand ≠ ""
  | .channel .openOk, args =>
    ∃ channelId, (Draft.longString channelId).result = .ok args ∧ channelId ≠ []
  | .channel (.flow active), args | .channel (.flowOk active), args =>
    ∃ n : UInt8, args = [n] ∧ (n &&& 1 == 1) = active ∧ n ≠ 0 ∧ n ≠ 1
  | _, _ => False

/-- Octets that are read as the arguments of a method. -/
def Method.Spells (m : Method) (args : Bytes) : Prop :=
  m.arguments.result = .ok args ∨ m.ReadsLoosely args

namespace Reader

variable {payload rest : Bytes}

/-- The arguments of an offer, as `connectionMethod` reads them. -/
def start : Reader Start := return ⟨← octet, ← octet, ← table, ← longString, ← longString⟩

/-- The arguments of the answer to an offer, as `connectionMethod` reads them. -/
def startOk : Reader StartOk := return ⟨← table, ← shortString, ← longString, ← shortString⟩

theorem start_eq_ok_iff {offer : Start} : start payload = .ok (offer, rest) ↔
    ∃ args, (ConnectionMethod.start offer).encode.result = .ok args ∧ payload = args ++ rest := by
  obtain ⟨major, minor, properties, mechanisms, locales⟩ := offer
  simp [start, ConnectionMethod.encode, existsAndEq, and_assoc, and_comm, and_left_comm]

theorem startOk_eq_ok_iff {choice : StartOk} : startOk payload = .ok (choice, rest) ↔
    ∃ args, (ConnectionMethod.startOk choice).encode.result = .ok args ∧ payload = args ++ rest := by
  obtain ⟨properties, mechanism, response, locale⟩ := choice
  simp [startOk, ConnectionMethod.encode, existsAndEq, and_assoc, and_comm, and_left_comm]

theorem close_eq_ok_iff {c : Close} : close payload = .ok (c, rest) ↔
    ∃ args, c.encode.result = .ok args ∧ payload = args ++ rest := by
  obtain ⟨replyCode, replyText, classId, methodId⟩ := c
  simp [close, Close.encode, existsAndEq, and_assoc, and_comm, and_left_comm]

theorem tune_eq_ok_iff {t : Tune} : tune payload = .ok (t, rest) ↔
    ∃ args, t.encode.result = .ok args ∧ payload = args ++ rest := by
  obtain ⟨channelMax, frameMax, heartbeat⟩ := t
  simp [tune, Tune.encode, existsAndEq]

theorem shortString_iff {s : String} : shortString payload = .ok (s, rest) ↔
    ∃ args, (Draft.shortString s).result = .ok args ∧ payload = args ++ rest := by
  simp [existsAndEq, and_assoc]

theorem longString_iff {bs : Bytes} : longString payload = .ok (bs, rest) ↔
    ∃ args, (Draft.longString bs).result = .ok args ∧ payload = args ++ rest := by
  simp [existsAndEq, and_assoc]

theorem connectionMethod_start : connectionMethod 10 = .start <$> start := by
  simp only [start, map_bind, map_pure]
  rfl

theorem connectionMethod_startOk : connectionMethod 11 = .startOk <$> startOk := by
  simp only [startOk, map_bind, map_pure]
  rfl

end Reader

/-! ### Reserved arguments and bits -/

section Loose

variable {payload rest args : Bytes}

/-- Most methods are read only as they are written. -/
theorem spells_iff {m : Method} (hm : ∀ args, ¬m.ReadsLoosely args) :
    m.Spells args ↔ m.arguments.result = .ok args :=
  or_iff_left (hm args)

theorem spells_of_written {m : Method}
    (h : ∃ args, m.arguments.result = .ok args ∧ payload = args ++ rest) :
    ∃ args, m.Spells args ∧ payload = args ++ rest :=
  h.imp fun _ h => ⟨.inl h.1, h.2⟩

theorem spells_openRequest_iff {host : String} :
    (Method.connection (.openRequest host)).Spells args ↔
      ∃ h capabilities c insist, (Draft.shortString host).result = .ok h ∧
        (Draft.shortString capabilities).result = .ok c ∧ args = h ++ c ++ [insist] := by
  constructor
  · rintro (h | ⟨h, capabilities, c, insist, hh, hc, hargs, -⟩)
    · simp only [Method.arguments, ConnectionMethod.encode, Draft.result_append] at h
      obtain ⟨_, ⟨h, hh, c, hc, rfl⟩, _, hb, rfl⟩ := h
      exact ⟨h, "", c, 0, hh, hc, by rw [Draft.result_bit.1 hb]; rfl⟩
    · exact ⟨h, capabilities, c, insist, hh, hc, hargs⟩
  · rintro ⟨h, capabilities, c, insist, hh, hc, rfl⟩
    by_cases hne : capabilities = "" ∧ insist = 0
    · obtain ⟨rfl, rfl⟩ := hne
      refine .inl ?_
      simp only [Method.arguments, ConnectionMethod.encode, Draft.result_append]
      exact ⟨_, ⟨h, hh, c, hc, rfl⟩, [0], Draft.result_bit.2 rfl, rfl⟩
    · exact .inr ⟨h, capabilities, c, insist, hh, hc, rfl, Decidable.not_and_iff_not_or_not.1 hne⟩

theorem spells_openOk_iff : (Method.connection .openOk).Spells args ↔
    ∃ knownHosts, (Draft.shortString knownHosts).result = .ok args := by
  constructor
  · rintro (h | ⟨knownHosts, h, -⟩)
    · exact ⟨"", h⟩
    · exact ⟨knownHosts, h⟩
  · rintro ⟨knownHosts, h⟩
    by_cases hne : knownHosts = ""
    · subst hne
      exact .inl h
    · exact .inr ⟨knownHosts, h, hne⟩

theorem spells_channelOpen_iff : (Method.channel .openRequest).Spells args ↔
    ∃ outOfBand, (Draft.shortString outOfBand).result = .ok args :=
  spells_openOk_iff

theorem spells_channelOpenOk_iff : (Method.channel .openOk).Spells args ↔
    ∃ channelId, (Draft.longString channelId).result = .ok args := by
  constructor
  · rintro (h | ⟨channelId, h, -⟩)
    · exact ⟨[], h⟩
    · exact ⟨channelId, h⟩
  · rintro ⟨channelId, h⟩
    by_cases hne : channelId = []
    · subst hne
      exact .inl h
    · exact .inr ⟨channelId, h, hne⟩

theorem spells_flow_iff {active : Bool} : (Method.channel (.flow active)).Spells args ↔
    ∃ n : UInt8, args = [n] ∧ (n &&& 1 == 1) = active := by
  constructor
  · rintro (h | ⟨n, hn, hb, -⟩)
    · refine ⟨if active then 1 else 0, Draft.result_bit.1 h, ?_⟩
      cases active <;> decide
    · exact ⟨n, hn, hb⟩
  · rintro ⟨n, rfl, rfl⟩
    by_cases h0 : n = 0
    · subst h0
      exact .inl rfl
    · by_cases h1 : n = 1
      · subst h1
        exact .inl rfl
      · exact .inr ⟨n, rfl, rfl, h0, h1⟩

theorem spells_flowOk_iff {active : Bool} : (Method.channel (.flowOk active)).Spells args ↔
    ∃ n : UInt8, args = [n] ∧ (n &&& 1 == 1) = active :=
  spells_flow_iff

theorem shortString_inj {s t : String} (hs : (Draft.shortString s).result = .ok args)
    (ht : (Draft.shortString t).result = .ok args) : s = t := by
  have hs := Reader.shortString_iff.2 ⟨args, hs, (List.append_nil args).symm⟩
  have ht := Reader.shortString_iff.2 ⟨args, ht, (List.append_nil args).symm⟩
  rw [hs] at ht
  cases ht
  rfl

theorem length_pos_of_shortString {s : String} (hs : (Draft.shortString s).result = .ok args) :
    1 ≤ args.length := by
  obtain ⟨-, rfl⟩ := Draft.result_shortString.1 hs
  exact Nat.le_add_left ..

/-- An empty short string takes the least octets. -/
theorem written_of_shortString {s : String} (hs : (Draft.shortString s).result = .ok args)
    (hne : s ≠ "") : ∃ written, (Draft.shortString "").result = .ok written ∧
      written.length ≤ args.length ∧ written ≠ args := by
  refine ⟨[0], rfl, length_pos_of_shortString hs, ?_⟩
  rintro rfl
  exact hne (shortString_inj hs rfl)

theorem written_of_bit {b : Bool} (h : ∃ n : UInt8, args = [n] ∧ (n &&& 1 == 1) = b ∧ n ≠ 0 ∧ n ≠ 1) :
    ∃ written, (Draft.bit b).result = .ok written ∧ written.length ≤ args.length ∧ written ≠ args := by
  obtain ⟨n, rfl, -, h0, h1⟩ := h
  refine ⟨[if b then 1 else 0], rfl, Nat.le_refl 1, fun heq => ?_⟩
  obtain rfl := List.singleton_inj.1 heq
  cases b
  · exact h0 rfl
  · exact h1 rfl

/-- What is read as the arguments of a method without being written for it can be written, and no
longer. -/
theorem Method.written_of_readsLoosely {m : Method} (h : m.ReadsLoosely args) :
    ∃ written, m.arguments.result = .ok written ∧ written.length ≤ args.length ∧ written ≠ args := by
  match m, h with
  | .connection (.openRequest host), ⟨x, capabilities, y, insist, hx, hy, hargs, hne⟩ =>
    subst hargs
    refine ⟨x ++ [0] ++ [0], ?_, ?_, fun heq => ?_⟩
    · exact Draft.result_append.2
        ⟨_, Draft.result_append.2 ⟨x, hx, [0], rfl, rfl⟩, [0], rfl, rfl⟩
    · have := length_pos_of_shortString hy
      simp only [List.length_append, List.length_singleton]
      omega
    · obtain ⟨hxy, hinsist⟩ := List.append_inj' heq rfl
      obtain rfl := List.append_cancel_left hxy
      rcases hne with hne | hne
      · exact hne (shortString_inj hy rfl)
      · exact hne (List.singleton_inj.1 hinsist).symm
  | .connection .openOk, ⟨knownHosts, hargs, hne⟩ => exact written_of_shortString hargs hne
  | .channel .openRequest, ⟨outOfBand, hargs, hne⟩ => exact written_of_shortString hargs hne
  | .channel .openOk, ⟨channelId, hargs, hne⟩ =>
    obtain ⟨-, rfl⟩ := Draft.result_longString.1 hargs
    have hlen := List.length_pos_iff.2 hne
    refine ⟨[0, 0, 0, 0], rfl, ?_, fun heq => ?_⟩
    · rw [List.length_append, length_bigEndian]
      exact Nat.le_add_right 4 _
    · have := congrArg List.length heq
      rw [List.length_append, length_bigEndian] at this
      simp only [List.length_cons, List.length_nil] at this
      omega
  | .channel (.flow active), h | .channel (.flowOk active), h => exact written_of_bit h

end Loose

/-! ### The arguments of each method -/

namespace Reader

variable {payload rest args : Bytes}

theorem spells_of_connectionMethod {methodId : UInt16} {m : ConnectionMethod}
    (h : connectionMethod methodId payload = .ok (m, rest)) :
    m.id = methodId ∧ ∃ args, (Method.connection m).Spells args ∧ payload = args ++ rest := by
  revert h
  fun_cases connectionMethod methodId with
  | case1 hid =>
    intro h
    obtain rfl : methodId = 10 := UInt16.toNat_inj.1 hid
    replace h : connectionMethod 10 payload = .ok (m, rest) := h
    rw [connectionMethod_start] at h
    obtain ⟨offer, ho, rfl⟩ := map_eq_ok_iff.1 h
    exact ⟨rfl, spells_of_written (start_eq_ok_iff.1 ho)⟩
  | case2 hid =>
    intro h
    obtain rfl : methodId = 11 := UInt16.toNat_inj.1 hid
    replace h : connectionMethod 11 payload = .ok (m, rest) := h
    rw [connectionMethod_startOk] at h
    obtain ⟨choice, hc, rfl⟩ := map_eq_ok_iff.1 h
    exact ⟨rfl, spells_of_written (startOk_eq_ok_iff.1 hc)⟩
  | case3 hid | case4 hid =>
    intro h
    obtain ⟨text, ht, rfl⟩ := map_eq_ok_iff.1 h
    exact ⟨UInt16.toNat_inj.1 hid.symm, spells_of_written (longString_iff.1 ht)⟩
  | case5 hid | case6 hid =>
    intro h
    obtain ⟨limits, hl, rfl⟩ := map_eq_ok_iff.1 h
    exact ⟨UInt16.toNat_inj.1 hid.symm, spells_of_written (tune_eq_ok_iff.1 hl)⟩
  | case7 hid =>
    intro h
    simp only [bind_eq_ok_iff, pure_eq_ok_iff] at h
    obtain ⟨host, _, hh, capabilities, _, hc, _, _, hb, rfl, rfl⟩ := h
    obtain ⟨x, hx, rfl⟩ := shortString_iff.1 hh
    obtain ⟨y, hy, rfl⟩ := shortString_iff.1 hc
    obtain ⟨insist, rfl, -⟩ := bit_eq_ok_iff.1 hb
    exact ⟨UInt16.toNat_inj.1 hid.symm, x ++ y ++ [insist],
      spells_openRequest_iff.2 ⟨x, capabilities, y, insist, hx, hy, rfl⟩, by simp⟩
  | case8 hid =>
    intro h
    simp only [bind_eq_ok_iff, pure_eq_ok_iff] at h
    obtain ⟨knownHosts, _, hk, rfl, rfl⟩ := h
    obtain ⟨args, hargs, rfl⟩ := shortString_iff.1 hk
    exact ⟨UInt16.toNat_inj.1 hid.symm, args, spells_openOk_iff.2 ⟨knownHosts, hargs⟩, rfl⟩
  | case9 hid =>
    intro h
    obtain ⟨reason, hr, rfl⟩ := map_eq_ok_iff.1 h
    exact ⟨UInt16.toNat_inj.1 hid.symm, spells_of_written (close_eq_ok_iff.1 hr)⟩
  | case10 hid | case12 hid =>
    rintro ⟨⟩
    exact ⟨UInt16.toNat_inj.1 hid.symm, [], .inl rfl, rfl⟩
  | case11 hid =>
    intro h
    obtain ⟨reason, hr, rfl⟩ := map_eq_ok_iff.1 h
    exact ⟨UInt16.toNat_inj.1 hid.symm, spells_of_written (shortString_iff.1 hr)⟩
  | case13 =>
    intro h
    exact (throw_eq_ok_iff.1 h).elim

theorem connectionMethod_of_spells {m : ConnectionMethod} (h : (Method.connection m).Spells args) :
    connectionMethod m.id (args ++ rest) = .ok (m, rest) := by
  cases m with
  | start offer =>
    rw [spells_iff fun _ => id] at h
    show connectionMethod 10 _ = _
    rw [connectionMethod_start]
    exact map_eq _ (start_eq_ok_iff.2 ⟨_, h, rfl⟩)
  | startOk choice =>
    rw [spells_iff fun _ => id] at h
    show connectionMethod 11 _ = _
    rw [connectionMethod_startOk]
    exact map_eq _ (startOk_eq_ok_iff.2 ⟨_, h, rfl⟩)
  | secure text | secureOk text =>
    rw [spells_iff fun _ => id] at h
    exact map_eq _ (longString_iff.2 ⟨_, h, rfl⟩)
  | tune limits | tuneOk limits =>
    rw [spells_iff fun _ => id] at h
    exact map_eq _ (tune_eq_ok_iff.2 ⟨_, h, rfl⟩)
  | openRequest host =>
    obtain ⟨x, capabilities, y, insist, hx, hy, rfl⟩ := spells_openRequest_iff.1 h
    rw [List.append_assoc, List.append_assoc]
    refine bind_eq_ok_iff.2 ⟨host, _, shortString_iff.2 ⟨x, hx, rfl⟩, ?_⟩
    refine bind_eq_ok_iff.2 ⟨capabilities, _, shortString_iff.2 ⟨y, hy, rfl⟩, ?_⟩
    exact bind_eq_ok_iff.2 ⟨_, _, bit_eq_ok_iff.2 ⟨insist, rfl, rfl⟩, rfl⟩
  | openOk =>
    obtain ⟨knownHosts, hk⟩ := spells_openOk_iff.1 h
    exact bind_eq_ok_iff.2 ⟨knownHosts, _, shortString_iff.2 ⟨_, hk, rfl⟩, rfl⟩
  | close reason =>
    rw [spells_iff fun _ => id] at h
    exact map_eq _ (close_eq_ok_iff.2 ⟨_, h, rfl⟩)
  | closeOk | unblocked =>
    rw [spells_iff fun _ => id] at h
    obtain rfl := Draft.result_empty.1 h
    rfl
  | blocked reason =>
    rw [spells_iff fun _ => id] at h
    exact map_eq _ (shortString_iff.2 ⟨_, h, rfl⟩)

theorem spells_of_channelMethod {methodId : UInt16} {m : ChannelMethod}
    (h : channelMethod methodId payload = .ok (m, rest)) :
    m.id = methodId ∧ ∃ args, (Method.channel m).Spells args ∧ payload = args ++ rest := by
  revert h
  fun_cases channelMethod methodId with
  | case1 hid =>
    intro h
    simp only [bind_eq_ok_iff, pure_eq_ok_iff] at h
    obtain ⟨outOfBand, _, ho, rfl, rfl⟩ := h
    obtain ⟨args, hargs, rfl⟩ := shortString_iff.1 ho
    exact ⟨UInt16.toNat_inj.1 hid.symm, args, spells_channelOpen_iff.2 ⟨outOfBand, hargs⟩, rfl⟩
  | case2 hid =>
    intro h
    simp only [bind_eq_ok_iff, pure_eq_ok_iff] at h
    obtain ⟨channelId, _, hc, rfl, rfl⟩ := h
    obtain ⟨args, hargs, rfl⟩ := longString_iff.1 hc
    exact ⟨UInt16.toNat_inj.1 hid.symm, args, spells_channelOpenOk_iff.2 ⟨channelId, hargs⟩, rfl⟩
  | case3 hid =>
    intro h
    obtain ⟨active, ha, rfl⟩ := map_eq_ok_iff.1 h
    obtain ⟨n, rfl, hn⟩ := bit_eq_ok_iff.1 ha
    exact ⟨UInt16.toNat_inj.1 hid.symm, [n], spells_flow_iff.2 ⟨n, rfl, hn⟩, rfl⟩
  | case4 hid =>
    intro h
    obtain ⟨active, ha, rfl⟩ := map_eq_ok_iff.1 h
    obtain ⟨n, rfl, hn⟩ := bit_eq_ok_iff.1 ha
    exact ⟨UInt16.toNat_inj.1 hid.symm, [n], spells_flowOk_iff.2 ⟨n, rfl, hn⟩, rfl⟩
  | case5 hid =>
    intro h
    obtain ⟨reason, hr, rfl⟩ := map_eq_ok_iff.1 h
    exact ⟨UInt16.toNat_inj.1 hid.symm, spells_of_written (close_eq_ok_iff.1 hr)⟩
  | case6 hid =>
    rintro ⟨⟩
    exact ⟨UInt16.toNat_inj.1 hid.symm, [], .inl rfl, rfl⟩
  | case7 =>
    intro h
    exact (throw_eq_ok_iff.1 h).elim

theorem channelMethod_of_spells {m : ChannelMethod} (h : (Method.channel m).Spells args) :
    channelMethod m.id (args ++ rest) = .ok (m, rest) := by
  cases m with
  | openRequest =>
    obtain ⟨outOfBand, ho⟩ := spells_channelOpen_iff.1 h
    exact bind_eq_ok_iff.2 ⟨outOfBand, _, shortString_iff.2 ⟨_, ho, rfl⟩, rfl⟩
  | openOk =>
    obtain ⟨channelId, hc⟩ := spells_channelOpenOk_iff.1 h
    exact bind_eq_ok_iff.2 ⟨channelId, _, longString_iff.2 ⟨_, hc, rfl⟩, rfl⟩
  | flow active =>
    obtain ⟨n, rfl, hn⟩ := spells_flow_iff.1 h
    exact map_eq _ (bit_eq_ok_iff.2 ⟨n, rfl, hn⟩)
  | flowOk active =>
    obtain ⟨n, rfl, hn⟩ := spells_flowOk_iff.1 h
    exact map_eq _ (bit_eq_ok_iff.2 ⟨n, rfl, hn⟩)
  | close reason =>
    rw [spells_iff fun _ => id] at h
    exact map_eq _ (close_eq_ok_iff.2 ⟨_, h, rfl⟩)
  | closeOk =>
    rw [spells_iff fun _ => id] at h
    obtain rfl := Draft.result_empty.1 h
    rfl

end Reader

/-! ## Methods -/

/-- Not an opaque method of a class that is spelled out. -/
def Method.isReadable : Method → Bool
  | .other classId _ _ => classId ≠ connectionClass && classId ≠ channelClass
  | _ => true

/-- The payload of a method frame: the class, the number, the arguments. -/
def Method.payload (m : Method) (args : Bytes) : Bytes :=
  bigEndian 2 m.classId.toNat ++ (bigEndian 2 m.methodId.toNat ++ args)

namespace Method

theorem encode_eq (m : Method) : m.encode = .short m.classId ++ .short m.methodId ++ m.arguments := by
  cases m <;> rfl

theorem result_encode {m : Method} {octets : Bytes} : m.encode.result = .ok octets ↔
    ∃ args, m.arguments.result = .ok args ∧ octets = m.payload args := by
  rw [encode_eq]
  simp only [Draft.result_append, Draft.result_short, payload]
  constructor
  · rintro ⟨_, ⟨_, rfl, _, rfl, rfl⟩, args, hargs, rfl⟩
    exact ⟨args, hargs, List.append_assoc _ _ _⟩
  · rintro ⟨args, hargs, rfl⟩
    exact ⟨_, ⟨_, rfl, _, rfl, rfl⟩, args, hargs, (List.append_assoc _ _ _).symm⟩

theorem decode_eq_ok_iff {m : Method} {octets : Bytes} : decode octets = .ok m ↔
    m.isReadable = true ∧ ∃ args, m.Spells args ∧ octets = m.payload args := by
  have hdecode : decode octets = .ok m ↔ ∃ rest, Reader.method octets = .ok (m, rest) := by
    unfold decode
    cases Reader.method octets with
    | error fault => simp [Functor.map, Except.map]
    | ok p =>
      obtain ⟨m', rest⟩ := p
      simp [Functor.map, Except.map]
  rw [hdecode]
  unfold Reader.method
  simp only [Reader.bind_eq_ok_iff, Reader.short_eq_ok_iff]
  constructor
  · rintro ⟨rest, classId, _, rfl, methodId, mid, rfl, h⟩
    split at h
    · rename_i hc
      subst hc
      simp only [Reader.bind_eq_ok_iff, Reader.pure_eq_ok_iff, Reader.atEnd_eq_ok_iff] at h
      obtain ⟨m', _, hm, _, _, ⟨rfl, rfl⟩, rfl, -⟩ := h
      obtain ⟨rfl, args, hargs, rfl⟩ := Reader.spells_of_connectionMethod hm
      exact ⟨rfl, args, hargs, by rw [List.append_nil]; rfl⟩
    · rename_i hc
      split at h
      · rename_i hc'
        subst hc'
        simp only [Reader.bind_eq_ok_iff, Reader.pure_eq_ok_iff, Reader.atEnd_eq_ok_iff] at h
        obtain ⟨m', _, hm, _, _, ⟨rfl, rfl⟩, rfl, -⟩ := h
        obtain ⟨rfl, args, hargs, rfl⟩ := Reader.spells_of_channelMethod hm
        exact ⟨rfl, args, hargs, by rw [List.append_nil]; rfl⟩
      · rename_i hc'
        simp only [Reader.bind_eq_ok_iff, Reader.pure_eq_ok_iff, Reader.rest_eq_ok_iff] at h
        obtain ⟨args, _, ⟨rfl, rfl⟩, rfl, -⟩ := h
        exact ⟨by simp [isReadable, hc, hc'], mid, .inl rfl, rfl⟩
  · rintro ⟨hr, args, hargs, rfl⟩
    refine ⟨[], m.classId, _, rfl, m.methodId, args, rfl, ?_⟩
    cases m with
    | connection m =>
      rw [classId, if_pos rfl]
      have hm : Reader.connectionMethod m.id (args ++ []) = .ok (m, []) :=
        Reader.connectionMethod_of_spells hargs
      rw [List.append_nil] at hm
      exact Reader.bind_eq_ok_iff.2 ⟨m, [], hm, rfl⟩
    | channel m =>
      rw [classId, if_neg (by decide), if_pos rfl]
      have hm : Reader.channelMethod m.id (args ++ []) = .ok (m, []) :=
        Reader.channelMethod_of_spells hargs
      rw [List.append_nil] at hm
      exact Reader.bind_eq_ok_iff.2 ⟨m, [], hm, rfl⟩
    | other classId methodId arguments =>
      obtain rfl := Draft.result_raw.1 ((spells_iff fun _ => id).1 hargs)
      simp only [isReadable, Bool.and_eq_true, decide_eq_true_eq] at hr
      rw [Method.classId, if_neg hr.1, if_neg hr.2]
      rfl

end Method

end AmqpSession.Wire

/-
Frames of the least size. Whoever sets a frame limit, by a setter, by a URI or by agreeing on one, raises
it to the least size; whoever hands in a whole record of options does not. So a connection refuses such
frames for their size exactly if its options came with a limit below it and none was set since, neither
before the connection was made nor by a tune (`acceptsLeast_iff`). With such a limit not even the server's
first frame can be read (`least_refused_at_start`).
-/
import AmqpSession.Proofs.Address
import AmqpSession.Proofs.Announcement

namespace AmqpSession

open Wire

/-- A limit that admits every frame of the least size. -/
def AllowsLeast (size : UInt32) : Prop := size = 0 ∨ 4096 ≤ size

instance (size : UInt32) : Decidable (AllowsLeast size) := inferInstanceAs (Decidable (_ ∨ _))

theorem allowsLeast_raiseFrameMax (size : UInt32) : AllowsLeast (Options.raiseFrameMax size) := by
  unfold AllowsLeast Options.raiseFrameMax
  rw [show frameMinSize = 4096 from rfl]
  split
  · exact .inl rfl
  · split
    · exact .inr (by decide)
    · rename_i hlt
      exact .inr (UInt32.not_lt.1 hlt)

/-- A limit that is set admits frames of the least size; otherwise it stays. -/
structure Resets (sets : Prop) (size size' : UInt32) : Prop where
  raised : sets → AllowsLeast size'
  kept : ¬sets → size' = size

namespace Resets

variable {p q : Prop} {size size' size'' : UInt32}

theorem refl (hp : ¬p) : Resets p size size := ⟨fun h => absurd h hp, fun _ => rfl⟩

theorem of_raiseFrameMax (hp : p) (proposed : UInt32) : Resets p size (Options.raiseFrameMax proposed) :=
  ⟨fun _ => allowsLeast_raiseFrameMax proposed, fun h => absurd hp h⟩

theorem congr (h : Resets p size size') (hpq : p ↔ q) : Resets q size size' :=
  ⟨fun hq => h.raised (hpq.2 hq), fun hq => h.kept fun hp => hq (hpq.1 hp)⟩

theorem trans (h : Resets p size size') (h' : Resets q size' size'') : Resets (p ∨ q) size size'' where
  raised hpq := by
    by_cases hq : q
    · exact h'.raised hq
    · rw [h'.kept hq]
      exact h.raised (hpq.resolve_right hq)
  kept hpq := by
    rw [not_or] at hpq
    rw [h'.kept hpq.2, h.kept hpq.1]

/-- Nothing but what it was can make a limit too small. -/
theorem allowsLeast_iff (h : Resets p size size') : AllowsLeast size' ↔ AllowsLeast size ∨ p := by
  by_cases hp : p
  · exact iff_of_true (h.raised hp) (.inr hp)
  · rw [h.kept hp, or_iff_left hp]

end Resets

/-! ## Options -/

/-- A frame limit is among the parameters of the URI. -/
def Uri.LimitsFrames (u : Uri) : Prop := ∃ pair ∈ u.queryPairs, pair.1 = "frame_max"

namespace Options

/-- One step in making options: a setting is chosen, or a URI is taken over. -/
inductive Setting where
  | login (l : Login)
  | virtualHost (name : String)
  | channelMax (limit : UInt16)
  | maxFrameSize (size : UInt32)
  | heartbeat (seconds : UInt16)
  | uri (u : Uri)
  | text (text : String)

/-- The options after a setting, or why there are none. -/
def set (o : Options) : Setting → Except UriError Options
  | .login l => .ok { o with login := l }
  | .virtualHost name => .ok { o with virtualHost := name }
  | .channelMax limit => .ok { o with channelMax := limit }
  | .maxFrameSize size => .ok (o.withFrameMax size)
  | .heartbeat seconds => .ok { o with heartbeat := seconds }
  | .uri u => o.applyUri u
  | .text text => o.applyText text

/-- The options after settings in their order. The first that fails ends the making. -/
def build (o : Options) (settings : List Setting) : Except UriError Options := settings.foldlM set o

/-- The frame limit is set. -/
def Setting.LimitsFrames : Setting → Prop
  | .maxFrameSize _ => True
  | .uri u => u.LimitsFrames
  | .text written => ∃ u, Uri.parse written = .ok u ∧ u.LimitsFrames
  | _ => False

theorem resets_foldlM {α ε : Type} {f : Options → α → Except ε Options} {sets : α → Prop}
    (hf : ∀ o a o', f o a = .ok o' → Resets (sets a) o.maxFrameSize o'.maxFrameSize) {l : List α}
    {o o' : Options} (h : l.foldlM f o = .ok o') :
    Resets (∃ a ∈ l, sets a) o.maxFrameSize o'.maxFrameSize := by
  induction l generalizing o with
  | nil => cases h; exact .refl (by simp)
  | cons a l ih =>
    rw [List.foldlM_cons] at h
    cases ha : f o a with
    | error e => rw [ha] at h; cases h
    | ok mid =>
      rw [ha] at h
      exact ((hf _ _ _ ha).trans (ih h)).congr (by simp)

theorem resets_applyPair {o o' : Options} {pair : String × String} (h : o.applyPair pair = .ok o') :
    Resets (pair.1 = "frame_max") o.maxFrameSize o'.maxFrameSize := by
  unfold applyPair at h
  split at h
  · rename_i hkey
    split at h <;> cases h
    exact .refl (by rw [hkey]; decide)
  · rename_i hkey
    split at h <;> cases h
    exact .refl (by rw [hkey]; decide)
  · rename_i hkey
    split at h <;> cases h
    exact .of_raiseFrameMax hkey _
  · rename_i hkey
    cases h
    exact .refl hkey

theorem maxFrameSize_of_applyPath {o o' : Options} {path : String} (h : o.applyPath path = .ok o') :
    o'.maxFrameSize = o.maxFrameSize := by
  unfold applyPath at h
  extract_lets name at h
  split at h
  · cases h; rfl
  · split at h <;> cases h
    rfl

theorem resets_applyUri {o o' : Options} {u : Uri} (h : o.applyUri u = .ok o') :
    Resets u.LimitsFrames o.maxFrameSize o'.maxFrameSize := by
  unfold applyUri at h
  by_cases hs : u.scheme ≠ "amqp" ∧ u.scheme ≠ "amqps"
  · rw [if_pos hs] at h
    cases h
  · rw [if_neg hs] at h
    have hread : ∃ named : Options, named.maxFrameSize = o.maxFrameSize ∧
        (named.applyPath u.path >>= fun o => u.queryPairs.foldlM applyPair o) = .ok o' := by
      refine ⟨_, ?_, h⟩
      cases Login.ofUri? u <;> rfl
    obtain ⟨named, hnamed, h⟩ := hread
    cases hp : named.applyPath u.path with
    | error e => rw [hp] at h; cases h
    | ok placed =>
      rw [hp] at h
      have hr := resets_foldlM (f := applyPair) (fun _ _ _ => resets_applyPair) h
      rwa [maxFrameSize_of_applyPath hp, hnamed] at hr

theorem resets_applyText {o o' : Options} {text : String} (h : o.applyText text = .ok o') :
    Resets (∃ u, Uri.parse text = .ok u ∧ u.LimitsFrames) o.maxFrameSize o'.maxFrameSize := by
  unfold applyText at h
  split at h
  · rename_i u hu
    exact (resets_applyUri h).congr (by simp [hu])
  · cases h

theorem resets_set {o o' : Options} {x : Setting} (h : o.set x = .ok o') :
    Resets x.LimitsFrames o.maxFrameSize o'.maxFrameSize := by
  cases x with
  | login | virtualHost | channelMax | heartbeat => cases h; exact .refl id
  | maxFrameSize size => cases h; exact .of_raiseFrameMax trivial size
  | uri u => exact resets_applyUri h
  | text text => exact resets_applyText h

theorem resets_build {o o' : Options} {settings : List Setting} (h : o.build settings = .ok o') :
    Resets (∃ x ∈ settings, x.LimitsFrames) o.maxFrameSize o'.maxFrameSize :=
  resets_foldlM (f := set) (fun _ _ _ => resets_set) h

theorem allowsLeast_agree (o : Options) (theirs : Tune) : AllowsLeast (o.agree theirs).frameMax :=
  allowsLeast_raiseFrameMax _

end Options

/-! ## Frames -/

theorem Wire.Frame.lt_of_decode_eq_frameTooLarge {src : Bytes} {max : UInt32} {size : Nat} {limit : UInt32}
    (h : decode src max = .error (.frameTooLarge size limit)) : max ≠ 0 ∧ max.toNat < size := by
  unfold decode at h
  split at h
  · split at h <;> cases h
  · split at h
    · dsimp only at h
      split at h
      · cases h
      · split at h
        · cases h
        · split at h
          · rename_i hexceeds
            cases h
            exact exceeds_eq_true_iff.1 hexceeds
          · exact absurd h (decodeRest_sizeless _ _ _ _ _ _)
    · cases h

namespace Session

/-- No frame of the least size is too large. -/
structure AcceptsLeast (σ : Session) : Prop where
  limit : AllowsLeast σ.store.connection.maxFrameSize
  frames : ∀ buffer size limit,
    σ.store.violation? buffer = some (.frame (.frameTooLarge size limit)) → 4096 < size

theorem acceptsLeast_iff_allowsLeast {σ : Session} :
    σ.AcceptsLeast ↔ AllowsLeast σ.store.connection.maxFrameSize := by
  refine ⟨AcceptsLeast.limit, fun h => ⟨h, fun buffer size limit hv => ?_⟩⟩
  obtain ⟨size', limit', hd⟩ := Store.refusesSize_iff.1 ⟨size, limit, hv⟩
  have hd : Frame.decode buffer σ.store.connection.maxFrameSize = .error (.frameTooLarge size limit) := by
    unfold Store.violation? at hv
    rw [hd] at hv ⊢
    cases hv
    rfl
  obtain ⟨hne, hlt⟩ := Frame.lt_of_decode_eq_frameTooLarge hd
  exact Nat.lt_of_le_of_lt (UInt32.le_iff_toNat_le.1 (h.resolve_left hne)) hlt

/-! ## Runs -/

/-- Limits that wait to be set admit frames of the least size. -/
def Proposes (σ : Session) : Prop := ∀ limits, .tuned limits ∈ σ.tasks → AllowsLeast limits.frameMax

/-- They come from a tune that was accepted. -/
theorem allowsLeast_of_parse {s : Store} {buffer : Bytes} {processed : Nat} {limits : Tune}
    (h : .tuned limits ∈ (s.parse buffer processed).tasks) : AllowsLeast limits.frameMax := by
  have talk : ∀ {n : Next}, n.IsTacit false → .tuned limits ∉ n.tasks :=
    fun hn hm => Bool.false_ne_true (hn.calm _ hm).symm
  match s.parse buffer processed, s.parsesNext buffer processed, h with
  | _, .ended, h => exact absurd h (by simp [Next.follow, Store.endOfParse])
  | _, .violated _ _ _, h => exact absurd h (talk (Store.report_isTacit s _ _))
  | _, .received _ _ (r := r) _, h =>
    by_cases hr : ∃ theirs, r.frame = .ofConnection (.tune theirs) ∧ s.connection.state = .negotiatingTuning
    · obtain ⟨theirs, hf, hs⟩ := hr
      rw [hf, receive_tune hs] at h
      obtain rfl : limits = s.connection.options.agree theirs := by simpa using h
      exact s.connection.options.allowsLeast_agree theirs
    · exact absurd h (talk (Store.receive_isTacit s _ fun theirs hf hs => hr ⟨theirs, hf, hs⟩))

/-- Only a call that parses leaves limits to be set. -/
theorem exists_parse_of_leadsTo_tuned {t : Task} {k k' : Connection} {limits : Tune}
    (h : t.LeadsTo k k' (.tuned limits)) : ∃ buffer processed, t = .parse buffer processed := by
  cases t with
  | parse buffer processed => exact ⟨buffer, processed, rfl⟩
  | handled e p fault =>
    cases e <;> cases fault <;> simp [Task.LeadsTo, Connection.Reports] at h
  | _ => simp [Task.LeadsTo, Connection.TearsDown, Connection.Closes] at h

theorem allowsLeast_of_works {σ τ : Session} {es : List Event} {old new rest rest' : List Task}
    (h : Works σ τ es old new rest rest') {limits : Tune} (hm : .tuned limits ∈ new) :
    AllowsLeast limits.frameMax := by
  obtain hcommon | ⟨t, hold, hl⟩ | ⟨-, hl⟩ := h.tasks _ hm
  · cases hcommon
  · obtain ⟨buffer, processed, rfl⟩ := exists_parse_of_leadsTo_tuned hl
    obtain ⟨n, hn, rfl, -⟩ := h.ran _ hold (by simp)
    cases hn
    exact allowsLeast_of_parse hm
  · simp [Connection.CallLeadsTo, Connection.TearsDown, Connection.Closes] at hl

theorem Proposes.step {σ τ : Session} (hσ : σ.Reachable) (h : σ.Proposes) (hs : Step σ τ) : τ.Proposes := by
  have kept : ∀ {t' : Task} {limits : Tune}, t' ∈ σ.tasks → t'.plain = (Task.tuned limits).plain →
      AllowsLeast limits.frameMax := by
    intro t' limits ht' he
    cases t' with
    | tuned limits' =>
      have hmax : limits'.frameMax = limits.frameMax := by injection he with he; injection he
      exact hmax ▸ h limits' ht'
    | _ => cases he
  intro limits ht
  rcases hs.cases hσ.isProper with ⟨es, old, new, rest, rest', hw⟩ | hc
  · rcases hw.mem_tasks ht with hm | ⟨t', ht', he⟩
    · exact allowsLeast_of_works hw hm
    · exact kept ht' he
  · obtain (h | h | ⟨es, h⟩ | ⟨p, h⟩) | ⟨t', ht', he⟩ := hc.mem_tasks ht
    · cases h
    · cases h
    · cases h
    · cases h
    · exact kept ht' he

theorem Reachable.proposes {σ : Session} (h : σ.Reachable) : σ.Proposes := by
  refine h.induction (fun o limits hm => ?_) fun _ _ hσ ih hs => ih.step hσ hs
  refine absurd rfl (connect_tasks o (p := (· ≠ .tuned limits)) ?_ nofun nofun _ hm)
  rintro _ hc rfl
  cases hc

/-- A step sets the limit that it tunes to, and none otherwise. -/
theorem resets_next? {σ τ : Session} {a : Option Act} (hσ : σ.Reachable) (hs : σ.next? a = some τ) :
    Resets (Moment.Tunes ⟨σ, a, τ⟩) σ.store.connection.maxFrameSize τ.store.connection.maxFrameSize where
  raised := by
    rintro ⟨ha, limits, hhead⟩
    obtain ⟨rest, ht⟩ := List.head?_eq_some_iff.1 hhead
    obtain ⟨-, n, hn, rfl⟩ := next?_eq_proceed hs ht (by simp)
    have hlimits := hσ.proposes limits (by rw [show σ.tasks = _ from ht]; exact List.mem_cons_self)
    rw [Task.run, if_pos ha] at hn
    cases hn
    exact hlimits
  kept ht := congrArg Tune.frameMax (limits_of_next? hσ hs ht)

theorem Trail.resets {o : Options} {ms : List Moment} {σ : Session} (h : Trail (connect o) ms σ) :
    Resets (∃ m ∈ ms, m.Tunes) o.maxFrameSize σ.store.connection.maxFrameSize := by
  refine h.induction ⟨o, .refl⟩ (P := fun ms σ => Resets (∃ m ∈ ms, m.Tunes) o.maxFrameSize
    σ.store.connection.maxFrameSize) ?_ fun ms σ a τ hσ ih hs => ?_
  · have hlimits : (connect o).store.connection.limits = (Connection.new o).limits :=
      (connect_works o).1.limits_eq (by simp)
    exact ⟨by simp, fun _ => congrArg Tune.frameMax hlimits⟩
  · exact (ih.trans (resets_next? hσ hs)).congr (by simp [or_comm])

/-- A session refuses no frame of the least size for its size exactly if the options that were started
from allow such frames, as the standard ones do, or a limit was set since: in making the options, or by
agreeing on one. -/
theorem acceptsLeast_iff {o₀ o : Options} {settings : List Options.Setting}
    (hb : o₀.build settings = .ok o) {ms : List Moment} {σ : Session} (h : Trail (connect o) ms σ) :
    AllowsLeast Options.standard.maxFrameSize ∧
      (σ.AcceptsLeast ↔ AllowsLeast o₀.maxFrameSize ∨ (∃ x ∈ settings, x.LimitsFrames) ∨
        ∃ m ∈ ms, m.Tunes) := by
  refine ⟨by decide, ?_⟩
  rw [acceptsLeast_iff_allowsLeast, h.resets.allowsLeast_iff, (Options.resets_build hb).allowsLeast_iff,
    or_assoc]

/-- A record of options with a limit of 40 octets, in which only the heartbeat is chosen: frames of the
least size are refused until the limits of the connection are agreed on. -/
theorem acceptsLeast_iff_narrow : ∃ o : Options,
    ({ Options.standard with maxFrameSize := 40 } : Options).build [.heartbeat 30] = .ok o ∧
    ¬(connect o).AcceptsLeast ∧ ∃ ms σ, Trail (connect o) ms σ ∧ σ.AcceptsLeast := by
  have hb : ({ Options.standard with maxFrameSize := 40 } : Options).build [.heartbeat 30] =
      .ok { Options.standard with maxFrameSize := 40, heartbeat := 30 } := rfl
  refine ⟨_, hb, ?_, ?_⟩
  · rw [(acceptsLeast_iff hb .nil).2]
    simp [AllowsLeast, Options.Setting.LimitsFrames]
  · obtain ⟨ms, σ, h, he⟩ := exists_trail_of_record negotiate
      (connect { Options.standard with maxFrameSize := 40, heartbeat := 30 })
      (fun ms _ => decide (∃ m ∈ ms, m.Tunes)) (a := true) (by decide +kernel)
    exact ⟨ms, σ, h, (acceptsLeast_iff hb h).2.2 (.inr (.inr (of_decide_eq_true he)))⟩

/-- The server's offer. -/
def serverOffer : Bytes :=
  (Frame.ofConnection (.start ⟨0, 9, .empty, Utf8.encode "PLAIN", Utf8.encode "en_US"⟩)).toWire.octets

/-- With a limit of 20 octets the server's offer of 36 is refused, and the connection is closed. -/
theorem least_refused_at_start : ∃ σ τ : Session,
    Reaches (connect { Options.standard with maxFrameSize := 20 }) σ ∧ serverOffer.length = 36 ∧
    σ.store.violation? serverOffer = some (.frame (.frameTooLarge 36 20)) ∧ Reaches σ τ ∧
    τ.store.connection.state = .closed ∧ (callbacks τ.log).head? =
      some (.error "Frame of 36 bytes exceeds the maximum frame size of 20 bytes") := by
  obtain ⟨σ, hσ, he⟩ := exists_reaches_of_play greeted (connect { Options.standard with maxFrameSize := 20 })
    (fun σ => (σ.store.violation? serverOffer,
      (σ.play ([some (.call (.parse serverOffer)), none, none, none])).map fun τ =>
        (τ.store.connection.state, (callbacks τ.log).head?)))
    (a := (some (.frame (.frameTooLarge 36 20)), some (.closed,
      some (.error "Frame of 36 bytes exceeds the maximum frame size of 20 bytes")))) (by decide +kernel)
  obtain ⟨hv, hplay⟩ := Prod.mk.inj he
  obtain ⟨τ, hτ, he⟩ := Option.map_eq_some_iff.1 hplay
  obtain ⟨hstate, htold⟩ := Prod.mk.inj he
  exact ⟨σ, τ, hσ, by decide +kernel, hv, reaches_of_play hτ, hstate, htold⟩

end Session

end AmqpSession

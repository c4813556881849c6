/-
The life of a channel, from the frame that asks for it to the notice that it is closed. What happens to a
channel in a run has a fixed grammar (`Life`), and what may still happen is told by its state and by the
work that is left (`Chronicle`).
-/
import AmqpSession.Proofs.Episode

namespace AmqpSession

open Wire Store

/-! ## The grammar -/

/-- It has no bearing on what may follow. -/
def ChannelEvent.isPlain : ChannelEvent → Bool
  | .own (.method (.channel (.flowOk _))) | .sent _ | .frame | .flow => true
  | _ => false

/-- The event has its place in the life of a channel after the others, of which the latest is the first
of the list. -/
inductive Follows (L : List ChannelEvent) : ChannelEvent → Prop where
  | closes (hn : .own closeBody ∉ L) : Follows L (.own closeBody)
  | confirms (hn : .own closeOkBody ∉ L) : Follows L (.own closeOkBody)
  | answers (active : Bool) : Follows L (.own (flowOkBody active))
  | sends (body : Body) (hn : .own closeBody ∉ L) : Follows L (.sent body)
  | ready (hn : .ready ∉ L) (he : .error ∉ L) (hc : .closed ∉ L) : Follows L .ready
  | error (hn : .error ∉ L) : Follows L .error
  | closed (hn : .closed ∉ L) : Follows L .closed
  | frame (hr : .ready ∈ L) (hc : .closed ∉ L) : Follows L .frame
  | flow (hc : .closed ∉ L) : Follows L .flow

/-- A channel is asked for before anything else. -/
inductive Life : List ChannelEvent → Prop where
  | nil : Life []
  | asks : Life [.own openBody]
  | next {L : List ChannelEvent} {e : ChannelEvent} (h : Life L) (ho : .own openBody ∈ L)
      (hf : Follows L e) : Life (e :: L)

namespace Life

variable {L : List ChannelEvent} {e : ChannelEvent}

theorem follows_ne_asks (h : Follows L e) : e ≠ .own openBody := by
  cases h <;> simp [openBody, closeBody, closeOkBody, flowOkBody]

/-- The channel is asked for first, and only once. -/
theorem asks_first (h : Life L) (hne : L ≠ []) :
    ∃ later, L = later ++ [.own openBody] ∧ .own openBody ∉ later := by
  induction h with
  | nil => exact absurd rfl hne
  | asks => exact ⟨[], rfl, (by simp)⟩
  | next _ ho hf ih =>
    obtain ⟨later, hL, hn⟩ := ih (List.ne_nil_of_mem ho)
    refine ⟨_ :: later, by rw [hL, List.cons_append], fun hm => ?_⟩
    exact (List.mem_cons.1 hm).elim (fun he => follows_ne_asks hf he.symm) hn

/-- Every event but the first has its place after those before it. -/
theorem follows {later earlier : List ChannelEvent} (h : Life (later ++ e :: earlier))
    (he : e ≠ .own openBody) : .own openBody ∈ earlier ∧ Follows earlier e := by
  induction later with
  | nil =>
    cases h with
    | asks => exact absurd rfl he
    | next _ ho hf => exact ⟨ho, hf⟩
  | cons e' later ih =>
    generalize hL : e' :: later ++ e :: earlier = L at h
    cases h with
    | nil => cases hL
    | asks => cases later <;> cases hL
    | next h _ _ => cases hL; exact ih h

/-- What never follows itself happens at most once. -/
theorem count_le_one (h : Life L) (he : e ≠ .own openBody) (hn : ∀ earlier, Follows earlier e → e ∉ earlier) :
    L.count e ≤ 1 := by
  induction h with
  | nil => exact Nat.zero_le 1
  | asks => rw [List.count_singleton]; split <;> simp
  | @next L e' hL ho hf ih =>
    by_cases heq : e' = e
    · subst heq
      rw [List.count_cons_self, List.count_eq_zero_of_not_mem (hn L hf)]
    · rwa [List.count_cons_of_ne heq]

theorem own_mem (h : Life L) {body : Body} (hm : .own body ∈ L) : body = openBody ∨ body = closeBody ∨
    body = closeOkBody ∨ ∃ active, body = flowOkBody active := by
  by_cases hb : body = openBody
  · exact .inl hb
  · obtain ⟨later, earlier, rfl⟩ := List.append_of_mem hm
    right
    cases (h.follows fun he => hb (ChannelEvent.own.inj he)).2 with
    | closes => exact .inl rfl
    | confirms => exact .inr (.inl rfl)
    | answers active => exact .inr (.inr ⟨active, rfl⟩)

end Life

/-! ## Answers that will not be sent -/

/-- The connection is destroyed before any answer to a flow of the peer on the channel is due. -/
def Shielded (c : Nat) : List Task → Prop
  | [] => True
  | t :: rest => t = .destroyed ∨ (∀ active, t ≠ .flowReply c active) ∧ Shielded c rest

namespace Shielded

variable {c : Nat} {tasks tasks' : List Task}

theorem of_not_mem (h : ∀ active, .flowReply c active ∉ tasks) : Shielded c tasks := by
  induction tasks with
  | nil => trivial
  | cons t tasks ih =>
    exact .inr ⟨fun active he => h active (he ▸ List.mem_cons_self),
      ih fun active hm => h active (List.mem_cons_of_mem _ hm)⟩

theorem append (h : ∀ active, .flowReply c active ∉ tasks) (h' : Shielded c tasks') :
    Shielded c (tasks ++ tasks') := by
  induction tasks with
  | nil => exact h'
  | cons t tasks ih =>
    exact .inr ⟨fun active he => h active (he ▸ List.mem_cons_self),
      ih fun active hm => h active (List.mem_cons_of_mem _ hm)⟩

theorem of_map_plain (h : Shielded c tasks) (hm : tasks'.map Task.plain = tasks.map Task.plain) :
    Shielded c tasks' := by
  induction tasks generalizing tasks' with
  | nil => rw [List.map_eq_nil_iff.1 hm]; trivial
  | cons t tasks ih =>
    obtain ⟨t', rest', rfl, ht, hrest⟩ := List.map_eq_cons_iff.1 hm
    rcases h with rfl | ⟨hne, h⟩
    · exact .inl (Task.eq_of_plain_eq ht rfl)
    · refine .inr ⟨fun active he => hne active ?_, ih h hrest⟩
      subst he
      exact Task.eq_of_plain_eq ht.symm rfl

end Shielded

/-! ## What may still happen -/

/-- What happened to a channel so far, the latest first, and what its state and the work that is left tell
of it. -/
structure Chronicle (c : Nat) (L : List ChannelEvent) (s : Store) (tasks : List Task) : Prop where
  unborn : s.channels.length ≤ c → L = []
  /-- Nothing happens to a channel that was not asked for. -/
  early : .own openBody ∉ L → L = [] ∧ (s.channel c).state = .closed ∧ ¬ (s.channel c).HasHolder ∧
    errorsDue c tasks = 0 ∧ closesDue c tasks = 0 ∧ ∀ active, .flowReply c active ∉ tasks
  left : .own closeBody ∈ L → ¬ s.IsUp c ∨ ¬ (s.channel c).HasHolder
  confirmed : .own closeOkBody ∈ L →
    (s.channel c).state = .closed ∨ ∃ text, .channelClosedByPeer c text ∈ tasks
  opening : (s.channel c).state = .opening → .ready ∉ L
  inUse : (s.channel c).state = .open → .ready ∈ L
  ended : .error ∈ L ∨ .closed ∈ L ∨ closesDue c tasks ≠ 0 → (s.channel c).state = .closed
  errors : L.count .error + errorsDue c tasks ≤ 1
  closes : L.count .closed + closesDue c tasks + errorsDue c tasks ≤ 1
  flows : (s.channel c).state = .closed → s.connection.isOpen → Shielded c tasks

namespace Chronicle

variable {c : Nat} {L : List ChannelEvent} {s s' : Store} {tasks tasks' : List Task} {e : ChannelEvent}

theorem asked (h : Chronicle c L s tasks) (hs : (s.channel c).state ≠ .closed) : .own openBody ∈ L := by
  by_contra hn
  exact hs (h.early hn).2.1

/-- While the channel is not closed, its handler was told of no end and is about to be told of none but
that of an error. -/
theorem not_over (h : Chronicle c L s tasks) (hs : (s.channel c).state ≠ .closed) :
    .error ∉ L ∧ .closed ∉ L ∧ closesDue c tasks = 0 := by
  refine ⟨fun he => hs (h.ended (.inl he)), fun hc => hs (h.ended (.inr (.inl hc))), ?_⟩
  by_contra hd
  exact hs (h.ended (.inr (.inr hd)))

theorem of_map_plain (h : Chronicle c L s tasks) (hm : tasks'.map Task.plain = tasks.map Task.plain) :
    Chronicle c L s tasks' := by
  have he := errorsDue_of_map_plain (c := c) hm
  have hc := closesDue_of_map_plain (c := c) hm
  exact {
    unborn := h.unborn
    early := fun hn => by
      obtain ⟨hL, hs, hh, hed, hcd, hf⟩ := h.early hn
      exact ⟨hL, hs, hh, he.trans hed, hc.trans hcd, fun active hmem =>
        hf active (Session.mem_of_map_plain_eq hm rfl hmem)⟩
    left := h.left
    confirmed := fun hL => (h.confirmed hL).imp_right <|
      Exists.imp fun text => Session.mem_of_map_plain_eq hm.symm rfl
    opening := h.opening
    inUse := h.inUse
    ended := fun ho => h.ended (hc ▸ ho)
    errors := he.symm ▸ h.errors
    closes := by rw [he, hc]; exact h.closes
    flows := fun hs ho => (h.flows hs ho).of_map_plain hm }

/-- A channel that is closed for good. -/
theorem of_closed (hs : (s'.channel c).state = .closed) (hu : s'.channels.length ≤ c → L = [])
    (hn : .own openBody ∉ L → L = [] ∧ ¬ (s'.channel c).HasHolder ∧ errorsDue c tasks' = 0 ∧
      closesDue c tasks' = 0 ∧ ∀ active, .flowReply c active ∉ tasks')
    (he : L.count .error + errorsDue c tasks' ≤ 1)
    (hc : L.count .closed + closesDue c tasks' + errorsDue c tasks' ≤ 1)
    (hf : s'.connection.isOpen → Shielded c tasks') : Chronicle c L s' tasks' where
  unborn := hu
  early hm := by
    obtain ⟨hL, hrest⟩ := hn hm
    exact ⟨hL, hs, hrest⟩
  left _ := .inl fun hup => by rw [IsUp, hs] at hup; simp at hup
  confirmed _ := .inl hs
  opening h := by rw [hs] at h; cases h
  inUse h := by rw [hs] at h; cases h
  ended _ := hs
  errors := he
  closes := hc
  flows _ := hf

/-- One more event, of which the state tells already. -/
theorem mark (h : Chronicle c L s tasks) (ha : .own openBody ∈ L)
    (hl : e = .own closeBody → ¬ s.IsUp c ∨ ¬ (s.channel c).HasHolder)
    (hk : e = .own closeOkBody → ∃ text, .channelClosedByPeer c text ∈ tasks)
    (he : e ≠ .ready ∧ e ≠ .error ∧ e ≠ .closed) : Chronicle c (e :: L) s tasks where
  unborn hlen := absurd (h.unborn hlen) (List.ne_nil_of_mem ha)
  early hn := absurd (List.mem_cons_of_mem _ ha) hn
  left hm := (List.mem_cons.1 hm).elim (fun heq => hl heq.symm) h.left
  confirmed hm := (List.mem_cons.1 hm).elim (fun heq => .inr (hk heq.symm)) h.confirmed
  opening hs hm := h.opening hs ((List.mem_cons.1 hm).resolve_left he.1.symm)
  inUse hs := List.mem_cons_of_mem _ (h.inUse hs)
  ended ho := h.ended (ho.imp (fun hm => (List.mem_cons.1 hm).resolve_left he.2.1.symm)
    (.imp_left fun hm => (List.mem_cons.1 hm).resolve_left he.2.2.symm))
  errors := by rw [List.count_cons_of_ne he.2.1]; exact h.errors
  closes := by rw [List.count_cons_of_ne he.2.2]; exact h.closes
  flows := h.flows

/-- One more event that has no bearing on what may follow it. -/
theorem mark_plain (h : Chronicle c L s tasks) (ha : .own openBody ∈ L) (he : e.isPlain = true) :
    Chronicle c (e :: L) s tasks := by
  have hne : ∀ e' : ChannelEvent, e'.isPlain = false → e ≠ e' := by
    rintro e' he' rfl
    exact Bool.false_ne_true (he'.symm.trans he)
  exact h.mark ha (fun hx => absurd hx (hne _ rfl)) (fun hx => absurd hx (hne _ rfl))
    ⟨hne _ rfl, hne _ rfl, hne _ rfl⟩

section Step

variable {t : Option Task} {n : Next} {rest : List Task}

/-- What waits below stays shielded. -/
theorem shielded (h : Chronicle c L s (t.toList ++ rest)) (hs : (s.channel c).state = .closed)
    (ho : s'.connection.isOpen → s.connection.isOpen) (hd : t = some .destroyed → ¬ s'.connection.isOpen)
    (ho' : s'.connection.isOpen) : Shielded c rest := by
  have hsh := h.flows hs (ho ho')
  cases t with
  | none => exact hsh
  | some t =>
    rcases hsh with rfl | ⟨-, hsh⟩
    · exact absurd ho' (hd rfl)
    · exact hsh

/-- A channel whose answer to a flow is sent next is not closed. -/
theorem not_closed_of_flowReply {active : Bool} (h : Chronicle c L s (.flowReply c active :: rest))
    (ho : s.connection.isOpen) : (s.channel c).state ≠ .closed := by
  intro hs
  rcases h.flows hs ho with hx | hx
  · cases hx
  · exact hx.1 active rfl

/-- Work that passes the channel by. -/
theorem passes (h : Chronicle c L s (t.toList ++ rest)) (hp : s.PassesBy c n.store)
    (he : errorsDue c n.tasks ≤ errorsDue c t.toList ∨
      (s.channel c).state ≠ .closed ∧ errorsDue c n.tasks + errorsDue c rest ≤ 1)
    (hc : closesDue c n.tasks = 0)
    (hf : (∀ active, .flowReply c active ∉ n.tasks) ∨ (s.channel c).state ≠ .closed)
    (ht : ∀ text, t ≠ some (.channelClosedByPeer c text))
    (ho : n.store.connection.isOpen → s.connection.isOpen)
    (hd : t = some .destroyed → ¬ n.store.connection.isOpen) :
    Chronicle c L n.store (n.tasks ++ rest) := by
  have herrors := h.errors
  have hcloses := h.closes
  rw [errorsDue_append] at herrors hcloses
  rw [closesDue_append] at hcloses
  have hcount : (s.channel c).state ≠ .closed → L.count .error = 0 ∧ L.count .closed = 0 ∧
      closesDue c t.toList + closesDue c rest = 0 := by
    intro hs
    obtain ⟨herr, hcl, hdue⟩ := h.not_over hs
    rw [closesDue_append] at hdue
    exact ⟨List.count_eq_zero_of_not_mem herr, List.count_eq_zero_of_not_mem hcl, hdue⟩
  have hup : n.store.IsUp c → s.IsUp c := by rw [IsUp, IsUp, hp.state]; exact id
  exact {
    unborn := fun hlen => h.unborn (Nat.le_of_not_lt fun hlt => Nat.not_lt.2 hlen (hp.length.2 hlt))
    early := fun hn => by
      obtain ⟨hL, hs, hh, hed, hcd, hfl⟩ := h.early hn
      rw [errorsDue_append] at hed
      rw [closesDue_append] at hcd
      have he' := he.resolve_right fun hx => hx.1 hs
      refine ⟨hL, hp.state.trans hs, fun hx => hh (hp.holder hx), ?_, ?_, fun active hm => ?_⟩
      · rw [errorsDue_append]; omega
      · rw [closesDue_append]; omega
      · exact (List.mem_append.1 hm).elim (hf.resolve_right (fun hx => hx hs) active) fun hm =>
          hfl active (List.mem_append_right _ hm)
    left := fun hL => (h.left hL).imp (mt hup) (mt hp.holder)
    confirmed := fun hL => by
      rw [hp.state]
      refine (h.confirmed hL).imp_right (Exists.imp fun text hm => ?_)
      refine List.mem_append_right _ ((List.mem_append.1 hm).resolve_left fun hm => ?_)
      exact ht text (Option.mem_toList.1 hm)
    opening := fun hs => h.opening (hp.state ▸ hs)
    inUse := fun hs => h.inUse (hp.state ▸ hs)
    ended := fun hov => by
      rw [hp.state]
      refine h.ended (hov.imp_right (.imp_right fun hne => ?_))
      rw [closesDue_append] at hne ⊢
      omega
    errors := by
      rw [errorsDue_append]
      rcases he with he | ⟨hs, he⟩
      · omega
      · have := hcount hs; omega
    closes := by
      rw [errorsDue_append, closesDue_append]
      rcases he with he | ⟨hs, he⟩
      · omega
      · have := hcount hs; omega
    flows := fun hs ho' => by
      rw [hp.state] at hs
      exact .append (hf.resolve_right fun hx => hx hs) (h.shielded hs ho hd ho') }

/-- The channel is confirmed to be open, or is on its way to be closed. -/
theorem moves {L' : List ChannelEvent} {state : ChannelState} (h : Chronicle c L s (t.toList ++ rest))
    (hup : s.IsUp c) (hs : s.TurnsTo c n.store state)
    (hL : state = .open ∧ L' = .ready :: L ∨ state = .closing ∧ L' = L) (hn : NoneAbout c n.tasks)
    (ht : ∀ text, t ≠ some (.channelClosedByPeer c text)) : Chronicle c L' n.store (n.tasks ++ rest) := by
  have hne : (s.channel c).state ≠ .closed := by rcases hup with hst | hst <;> rw [hst] <;> simp
  have ha := h.asked hne
  obtain ⟨herr, hcl, hdue⟩ := h.not_over hne
  have herrors := h.errors
  rw [errorsDue_append] at herrors
  rw [closesDue_append] at hdue
  have hmem : ∀ e : ChannelEvent, e ≠ .ready → (e ∈ L' ↔ e ∈ L) := by
    intro e he
    obtain ⟨-, rfl⟩ | ⟨-, rfl⟩ := hL
    · rw [List.mem_cons, or_iff_right he]
    · exact Iff.rfl
  have hcount : ∀ e : ChannelEvent, e ≠ .ready → L'.count e = L.count e := by
    intro e he
    obtain ⟨-, rfl⟩ | ⟨-, rfl⟩ := hL
    · exact List.count_cons_of_ne he.symm
    · rfl
  have hstate := hs.state
  have hnot : (n.store.channel c).state ≠ .opening ∧ (n.store.channel c).state ≠ .closed := by
    rw [hstate]
    obtain ⟨rfl, -⟩ | ⟨rfl, -⟩ := hL <;> exact ⟨(by simp), (by simp)⟩
  exact {
    unborn := fun hlen => absurd (h.unborn (Nat.le_of_not_lt fun hlt =>
      Nat.not_lt.2 hlen (hs.length.2 hlt))) (List.ne_nil_of_mem ha)
    early := fun hx => absurd ((hmem (.own openBody) (by simp)).2 ha) hx
    left := fun hm => .inr fun hh =>
      (h.left ((hmem (.own closeBody) (by simp)).1 hm)).elim (fun hx => hx hup) fun hx => hx (hs.holder hh)
    confirmed := fun hm => by
      obtain ⟨text, hm⟩ := (h.confirmed ((hmem (.own closeOkBody) (by simp)).1 hm)).resolve_left hne
      refine .inr ⟨text, List.mem_append_right _ ((List.mem_append.1 hm).resolve_left fun hm => ?_)⟩
      exact ht text (Option.mem_toList.1 hm)
    opening := fun hx => absurd hx hnot.1
    inUse := fun hx => by
      rw [hstate] at hx
      obtain ⟨-, rfl⟩ | ⟨rfl, -⟩ := hL
      · exact List.mem_cons_self
      · cases hx
    ended := fun hx => by
      rw [hmem .error (by simp), hmem .closed (by simp), closesDue_append, hn.closesDue] at hx
      rcases hx with hx | hx | hx
      · exact absurd hx herr
      · exact absurd hx hcl
      · omega
    errors := by
      rw [hcount .error (by simp), errorsDue_append, hn.errorsDue]
      omega
    closes := by
      rw [hcount .closed (by simp), List.count_eq_zero_of_not_mem hcl, errorsDue_append, closesDue_append,
        hn.errorsDue, hn.closesDue]
      omega
    flows := fun hx => absurd hx hnot.2 }

theorem passes_of_noneAbout (h : Chronicle c L s (t.toList ++ rest)) (hp : s.PassesBy c n.store)
    (hn : NoneAbout c n.tasks) (ht : ∀ text, t ≠ some (.channelClosedByPeer c text))
    (ho : n.store.connection.isOpen → s.connection.isOpen)
    (hd : t = some .destroyed → ¬ n.store.connection.isOpen) :
    Chronicle c L n.store (n.tasks ++ rest) := by
  refine h.passes hp (.inl ?_) hn.closesDue (.inl fun active => hn.not_mem (beq_self_eq_true c)) ht ho hd
  rw [hn.errorsDue]
  exact Nat.zero_le _

/-- The channel is asked for, and nothing is left of another that had its number. -/
theorem asks (h : Chronicle c L s rest) (hc : s.channels.length ≤ c)
    (hs : (n.store.channel c).state = .opening) (hl : c < n.store.channels.length)
    (hn : NoneAbout c n.tasks) : Chronicle c [.own openBody] n.store (n.tasks ++ rest) := by
  obtain ⟨-, -, -, hed, hcd, -⟩ := h.early (by rw [h.unborn hc]; exact List.not_mem_nil)
  have he : errorsDue c (n.tasks ++ rest) = 0 := by rw [errorsDue_append, hn.errorsDue, hed]
  have hd : closesDue c (n.tasks ++ rest) = 0 := by rw [closesDue_append, hn.closesDue, hcd]
  exact {
    unborn := fun hlen => absurd hl (Nat.not_lt.2 hlen)
    early := fun hx => absurd List.mem_cons_self hx
    left := fun hm => by cases List.mem_singleton.1 hm
    confirmed := fun hm => by cases List.mem_singleton.1 hm
    opening := fun _ hm => by cases List.mem_singleton.1 hm
    inUse := fun hx => by rw [hs] at hx; cases hx
    ended := fun hx => by
      rcases hx with hm | hm | hx
      · cases List.mem_singleton.1 hm
      · cases List.mem_singleton.1 hm
      · exact absurd hd hx
    errors := by rw [he]; decide
    closes := by rw [he, hd]; decide
    flows := fun hx => by rw [hs] at hx; cases hx }

/-- While a frame is handled, no answer to another is left over. -/
theorem no_answer_below {t : Task} (h : InTurn ((some t).toList ++ rest))
    (ht : t.isReading = true ∨ t.isAnswering = true) : ∀ t' ∈ rest, t'.isAnswering = false :=
  fun t' ht' =>
    ht.elim (fun hr => (((List.pairwise_cons.1 h).1 t' ht').1 hr).2)
      ((List.pairwise_cons.1 h).1 t' ht').2

theorem errorsDue_of_no_answer (h : ∀ t ∈ rest, t.isAnswering = false) : errorsDue c rest = 0 := by
  induction rest with
  | nil => rfl
  | cons t rest ih =>
    obtain ⟨ht, hrest⟩ := List.forall_mem_cons.1 h
    have hz : t.errors c = 0 := by
      cases t with
      | channelClosedByPeer | evict => cases ht
      | _ => rfl
    rw [errorsDue_cons, hz, ih hrest]

theorem not_mem_of_no_answer (h : ∀ t ∈ rest, t.isAnswering = false) {t : Task}
    (ht : t.isAnswering = true) : t ∉ rest := fun hm => Bool.false_ne_true ((h t hm).symm.trans ht)

/-- There are no more channels than there were. -/
theorem unborn_of_length (h : Chronicle c L s tasks)
    (hlen : c < s'.channels.length ↔ c < s.channels.length) (hx : s'.channels.length ≤ c) : L = [] :=
  h.unborn (Nat.le_of_not_lt fun hlt => Nat.not_lt.2 hx (hlen.2 hlt))

/-- The channel cannot be opened. -/
theorem fails (h : Chronicle c L s rest) (hc : s.channels.length ≤ c) (hg : n.store.channel c = .gone)
    (hn : NoneAbout c n.tasks) : Chronicle c L n.store (n.tasks ++ rest) := by
  obtain rfl := h.unborn hc
  obtain ⟨-, -, -, hed, hcd, hf⟩ := h.early List.not_mem_nil
  have he : errorsDue c (n.tasks ++ rest) = 0 := by rw [errorsDue_append, hn.errorsDue, hed]
  have hcl : closesDue c (n.tasks ++ rest) = 0 := by rw [closesDue_append, hn.closesDue, hcd]
  have hfl : ∀ active, .flowReply c active ∉ n.tasks ++ rest := fun active hm =>
    (List.mem_append.1 hm).elim (hn.not_mem (beq_self_eq_true c)) (hf active)
  refine .of_closed (by rw [hg]; rfl) (fun _ => rfl) (fun _ => ⟨rfl, ?_, he, hcl, hfl⟩) ?_ ?_
    fun _ => .of_not_mem hfl
  · rw [hg]
    exact fun hx => hx rfl
  · rw [he]; decide
  · rw [he, hcl]; decide

/-- The peer confirms that the channel is closed, and its handler is told. -/
theorem isConfirmed (h : Chronicle c L s (t.toList ++ rest)) (hne : (s.channel c).state ≠ .closed)
    (hs : s.TurnsTo c n.store .closed) (hn : NoneAbout c n.tasks)
    (hnone : ∀ t ∈ rest, t.isAnswering = false) :
    Chronicle c (.closed :: L) n.store (n.tasks ++ rest) := by
  have ha := h.asked hne
  obtain ⟨herr, hcl, hdue⟩ := h.not_over hne
  rw [closesDue_append] at hdue
  have he : errorsDue c (n.tasks ++ rest) = 0 := by
    rw [errorsDue_append, hn.errorsDue, errorsDue_of_no_answer hnone]
  refine .of_closed hs.state ?_ (fun hx => absurd (List.mem_cons_of_mem _ ha) hx) ?_ ?_ fun _ =>
    .of_not_mem fun active hm => ?_
  · exact fun hlen => absurd (h.unborn_of_length hs.length hlen) (List.ne_nil_of_mem ha)
  · rw [List.count_cons_of_ne (show ChannelEvent.closed ≠ .error by simp), he,
      List.count_eq_zero_of_not_mem herr]
    decide
  · rw [List.count_cons_self, he, closesDue_append, hn.closesDue, List.count_eq_zero_of_not_mem hcl]
    omega
  · exact (List.mem_append.1 hm).elim (hn.not_mem (beq_self_eq_true c)) (not_mem_of_no_answer hnone rfl)

/-- The peer closed the channel, or there is no id for it any more: its handler is told of the error, and
that it is closed is due. -/
theorem turnedAway {t : Task} (h : Chronicle c L s ((some t).toList ++ rest))
    (hs : s.TurnsTo c n.store .closed) (he : errorsDue c n.tasks + 1 ≤ t.errors c)
    (hc : closesDue c n.tasks = 1) (hf : ∀ active, .flowReply c active ∉ n.tasks)
    (hnone : ∀ t ∈ rest, t.isAnswering = false) :
    Chronicle c (.error :: L) n.store (n.tasks ++ rest) ∧ .own openBody ∈ L ∧ .error ∉ L := by
  have hrest := errorsDue_of_no_answer (c := c) hnone
  have herrors : L.count .error + (t.errors c + errorsDue c rest) ≤ 1 := by
    simpa using h.errors
  have hcloses : L.count .closed + (t.closes c + closesDue c rest) +
      (t.errors c + errorsDue c rest) ≤ 1 := by
    simpa using h.closes
  have ha : .own openBody ∈ L := by
    by_contra hx
    have hed : t.errors c + errorsDue c rest = 0 := by simpa using (h.early hx).2.2.2.1
    omega
  refine ⟨.of_closed hs.state ?_ (fun hx => absurd (List.mem_cons_of_mem _ ha) hx) ?_ ?_ fun _ =>
    .of_not_mem fun active hm => ?_, ha, ?_⟩
  · exact fun hlen => absurd (h.unborn_of_length hs.length hlen) (List.ne_nil_of_mem ha)
  · rw [List.count_cons_self, errorsDue_append]
    omega
  · rw [List.count_cons_of_ne (show ChannelEvent.error ≠ .closed by simp), errorsDue_append,
      closesDue_append]
    omega
  · exact (List.mem_append.1 hm).elim (hf active) (not_mem_of_no_answer hnone rfl)
  · exact List.count_eq_zero.1 (by omega)

/-- The notice that the channel is closed is no longer due. -/
theorem told {t : Task} (h : Chronicle c L s ((some t).toList ++ rest)) (hs : s.PassesBy c n.store)
    (ht : t.closes c = 1) (hn : NoneAbout c n.tasks)
    (ho : n.store.connection.isOpen → s.connection.isOpen)
    (hd : some t = some .destroyed → ¬ n.store.connection.isOpen) :
    Chronicle c (.closed :: L) n.store (n.tasks ++ rest) ∧ .own openBody ∈ L ∧ .closed ∉ L := by
  have herrors : L.count .error + (t.errors c + errorsDue c rest) ≤ 1 := by
    simpa using h.errors
  have hcloses : L.count .closed + (t.closes c + closesDue c rest) +
      (t.errors c + errorsDue c rest) ≤ 1 := by
    simpa using h.closes
  have hdue : closesDue c ((some t).toList ++ rest) ≠ 0 := by
    simp only [Option.toList_some, List.cons_append, closesDue_cons]
    omega
  have hst := h.ended (.inr (.inr hdue))
  have ha : .own openBody ∈ L := by
    by_contra hx
    exact hdue (h.early hx).2.2.2.2.1
  refine ⟨.of_closed (hs.state.trans hst) ?_ (fun hx => absurd (List.mem_cons_of_mem _ ha) hx) ?_ ?_
    fun hopen => .append (fun active => hn.not_mem (beq_self_eq_true c)) (h.shielded hst ho hd hopen),
    ha, ?_⟩
  · exact fun hlen => absurd (h.unborn_of_length hs.length hlen) (List.ne_nil_of_mem ha)
  · rw [List.count_cons_of_ne (show ChannelEvent.closed ≠ .error by simp), errorsDue_append,
      hn.errorsDue]
    omega
  · rw [List.count_cons_self, errorsDue_append, closesDue_append, hn.errorsDue, hn.closesDue]
    omega
  · exact List.count_eq_zero.1 (by omega)

/-- The channel is cut off, and its handler is told nothing. -/
theorem cutOff (h : Chronicle c L s (t.toList ++ rest)) (hs : s.TurnsTo c n.store .closed)
    (hn : NoneAbout c n.tasks) (hf : n.store.connection.isOpen → Shielded c rest) :
    Chronicle c L n.store (n.tasks ++ rest) := by
  have herrors := h.errors
  have hcloses := h.closes
  rw [errorsDue_append] at herrors hcloses
  rw [closesDue_append] at hcloses
  have he : errorsDue c (n.tasks ++ rest) = errorsDue c rest := by
    rw [errorsDue_append, hn.errorsDue, Nat.zero_add]
  have hcl : closesDue c (n.tasks ++ rest) = closesDue c rest := by
    rw [closesDue_append, hn.closesDue, Nat.zero_add]
  refine .of_closed hs.state (h.unborn_of_length hs.length) (fun hx => ?_) ?_ ?_ fun hopen =>
    .append (fun active => hn.not_mem (beq_self_eq_true c)) (hf hopen)
  · obtain ⟨hnil, -, hh, hed, hcd, hfl⟩ := h.early hx
    rw [errorsDue_append] at hed
    rw [closesDue_append] at hcd
    refine ⟨hnil, fun hy => hh (hs.holder hy), by rw [he]; omega, by rw [hcl]; omega, fun active hm => ?_⟩
    exact (List.mem_append.1 hm).elim (hn.not_mem (beq_self_eq_true c)) fun hm =>
      hfl active (List.mem_append_right _ hm)
  · rw [he]; omega
  · rw [he, hcl]; omega

/-- What a task or a call comes to for a channel has its place in the life of the channel. -/
theorem episode {evs : List ChannelEvent} (h : Chronicle c L s (t.toList ++ rest)) (hL : Life L)
    (he : Episode c s t n evs) (hid : (∃ id, s.HasId c id) → (s.channel c).state ≠ .closed)
    (hturn : InTurn (t.toList ++ rest)) (hcuts : CutsInOrder s.connection (t.toList ++ rest))
    (ho : n.store.connection.isOpen → s.connection.isOpen)
    (hd : t = some .destroyed → ¬ n.store.connection.isOpen) :
    Chronicle c (evs ++ L) n.store (n.tasks ++ rest) ∧ Life (evs ++ L) := by
  have hup : s.IsUp c → (s.channel c).state ≠ .closed := by
    rintro (hst | hst) <;> rw [hst] <;> simp
  cases he with
  | aside hs he hc hf ht => exact ⟨h.passes hs (.inl he) hc (.inl hf) ht ho hd, hL⟩
  | asks hc hs hl hn =>
    obtain rfl := h.unborn hc
    exact ⟨Chronicle.asks h hc hs hl hn, .asks⟩
  | fails hc hg hl hn e ha => exact ⟨Chronicle.fails h hc hg hn, hL⟩
  | sends body hst hh hs hn =>
    have ha := h.asked (hup hst)
    have hleft : .own closeBody ∉ L := fun hm => (h.left hm).elim (fun hx => hx hst) fun hx => hx hh
    exact ⟨(h.passes_of_noneAbout hs hn (by simp) ho (by simp)).mark_plain ha rfl,
      .next hL ha (.sends body hleft)⟩
  | takesLeave hst hh hs hn ht =>
    have ha := h.asked (hup hst)
    have hleft : .own closeBody ∉ L := fun hm => (h.left hm).elim (fun hx => hx hst) fun hx => hx hh
    refine ⟨?_, .next hL ha (.closes hleft)⟩
    rcases hs with hs | ⟨hs, hnh⟩
    · refine (h.moves hst hs (.inr ⟨rfl, rfl⟩) hn ht).mark ha (fun _ => .inl ?_)
        (by simp [closeBody, closeOkBody]) ⟨by simp, by simp, by simp⟩
      rw [IsUp, hs.state]
      simp
    · exact (h.passes_of_noneAbout hs hn ht ho hd).mark ha (fun _ => .inr hnh)
        (by simp [closeBody, closeOkBody]) ⟨by simp, by simp, by simp⟩
  | leaves hst hs hn ht => exact ⟨h.moves hst hs (.inr ⟨rfl, rfl⟩) hn ht, hL⟩
  | ready hb hst hs hn =>
    obtain ⟨herr, hcl, -⟩ := h.not_over (hid hb)
    exact ⟨h.moves (.inl hst) hs (.inl ⟨rfl, rfl⟩) hn (by simp),
      .next hL (h.asked (hid hb)) (.ready (h.opening hst) herr hcl)⟩
  | confirmed hb hst hs hn =>
    exact ⟨h.isConfirmed (hid hb) hs hn (no_answer_below hturn (.inl rfl)),
      .next hL (h.asked (hid hb)) (.closed (h.not_over (hid hb)).2.1)⟩
  | frame hb hst hs hn =>
    have ha := h.asked (hid hb)
    exact ⟨(h.passes_of_noneAbout hs hn (by simp) ho (by simp)).mark_plain ha rfl,
      .next hL ha (.frame (h.inUse hst) (h.not_over (hid hb)).2.1)⟩
  | flow hb hs he hc =>
    have ha := h.asked (hid hb)
    have hpass := h.passes hs (.inl (by rw [he]; exact Nat.zero_le _)) hc (.inr (hid hb)) (by simp) ho
      (by simp)
    exact ⟨hpass.mark_plain ha rfl, .next hL ha (.flow (h.not_over (hid hb)).2.1)⟩
  | closedByPeer hb hs he hc hf text hm =>
    have ha := h.asked (hid hb)
    have hnone := no_answer_below hturn (.inl rfl)
    have hk : .own closeOkBody ∉ L := by
      intro hk
      obtain ⟨text', hm'⟩ := (h.confirmed hk).resolve_left (hid hb)
      exact not_mem_of_no_answer hnone rfl ((List.mem_cons.1 hm').resolve_left (by simp))
    have hpass := h.passes hs (.inr ⟨hid hb, by rw [he, errorsDue_of_no_answer hnone]⟩) hc (.inl hf)
      (by simp) ho (by simp)
    exact ⟨hpass.mark ha (by simp [closeBody, closeOkBody]) (fun _ => ⟨text, List.mem_append_left _ hm⟩)
      ⟨by simp, by simp, by simp⟩, .next hL ha (.confirms hk)⟩
  | error ht he hc hf hs =>
    obtain ⟨hnext, ha, hn⟩ := h.turnedAway hs he hc hf (no_answer_below hturn (.inr ht))
    exact ⟨hnext, .next hL ha (.error hn)⟩
  | tuned hs he hb hc hf =>
    have hnone := no_answer_below hturn (.inr rfl)
    refine ⟨h.passes hs ?_ hc (.inl hf) (by simp) ho (by simp), hL⟩
    by_cases hz : errorsDue c n.tasks = 0
    · exact .inl (by rw [hz]; exact Nat.zero_le _)
    · exact .inr ⟨hid (hb hz), by rw [errorsDue_of_no_answer hnone]; exact he⟩
  | closed ht hs hn =>
    obtain ⟨hnext, ha, hno⟩ := h.told hs ht hn ho hd
    exact ⟨hnext, .next hL ha (.closed hno)⟩
  | @flowOk active _ hopen hs hn =>
    have ha := h.asked (h.not_closed_of_flowReply hopen)
    exact ⟨(h.passes_of_noneAbout hs hn (by simp) ho (by simp)).mark_plain ha rfl,
      .next hL ha (.answers active)⟩
  | cut hs hn =>
    refine ⟨h.cutOff hs hn fun hopen => ?_, hL⟩
    -- an answer that is left can only wait for a connection that is destroyed first
    rcases hcuts.2.1 _ rfl with hhead | hx
    · obtain ⟨below, rfl⟩ := List.head?_eq_some_iff.1 (show rest.head? = _ from hhead)
      exact .inl rfl
    · exact absurd (ho hopen) hx

end Step

end Chronicle

namespace Episode

variable {c : Nat} {s : Store} {t : Option Task} {n : Next} {evs : List ChannelEvent}

theorem reverse_eq (h : Episode c s t n evs) : evs.reverse = evs := by cases h <;> rfl

/-- The state of a channel only goes forward. -/
theorem rank_le (h : Episode c s t n evs) (hc : c < s.channels.length) :
    (s.channel c).state.rank ≤ (n.store.channel c).state.rank := by
  have pass : s.PassesBy c n.store → (s.channel c).state.rank ≤ (n.store.channel c).state.rank :=
    fun hs => Nat.le_of_eq (congrArg _ hs.state.symm)
  have last : (n.store.channel c).state = .closed →
      (s.channel c).state.rank ≤ (n.store.channel c).state.rank := by
    intro hs
    rw [hs]
    cases (s.channel c).state <;> decide
  have close : s.IsUp c → (n.store.channel c).state = .closing →
      (s.channel c).state.rank ≤ (n.store.channel c).state.rank := by
    rintro (hst | hst) hs <;> rw [hst, hs] <;> decide
  cases h with
  | asks hcl | fails hcl => exact absurd hc (Nat.not_lt.2 hcl)
  | takesLeave hst hh hs hn ht => exact hs.elim (fun hs => close hst hs.state) fun hs => pass hs.1
  | leaves hst hs hn ht => exact close hst hs.state
  | ready hb hst hs hn => rw [hst, hs.state]; decide
  | confirmed hb hst hs hn => exact last hs.state
  | error ht he hcl hf hs => exact last hs.state
  | cut hs hn => exact last hs.state
  | aside hs | sends _ _ _ hs | frame _ _ hs | flow _ hs | closedByPeer _ hs | tuned hs | closed _ hs
    | flowOk _ hs => exact pass hs

/-- A channel that is closed gives nothing to the connection. -/
theorem state_ne_closed (h : Episode c s t n evs) {L : List ChannelEvent} {rest : List Task}
    (hc : Chronicle c L s (t.toList ++ rest)) (hid : (∃ id, s.HasId c id) → (s.channel c).state ≠ .closed)
    {body : Body} (hb : .own body ∈ evs ∨ .sent body ∈ evs) : (n.store.channel c).state ≠ .closed := by
  have up : s.IsUp c → (s.channel c).state ≠ .closed := by rintro (hst | hst) <;> rw [hst] <;> simp
  have no : ∀ {e : ChannelEvent}, (∀ b, e ≠ .own b) → (∀ b, e ≠ .sent b) →
      ¬ (.own body ∈ [e] ∨ .sent body ∈ [e]) := fun ho hs hm =>
    hm.elim (fun hm => ho body (List.mem_singleton.1 hm).symm) fun hm =>
      hs body (List.mem_singleton.1 hm).symm
  cases h with
  | asks hcl hs => rw [hs]; simp
  | sends body hst hh hs => rw [hs.state]; exact up hst
  | takesLeave hst hh hs =>
    rcases hs with hs | hs
    · rw [hs.state]; simp
    · rw [hs.1.state]; exact up hst
  | closedByPeer hi hs => rw [hs.state]; exact hid hi
  | @flowOk active _ hopen hs =>
    rw [hs.state]
    exact hc.not_closed_of_flowReply hopen
  | ready | confirmed | frame | flow | error | closed => exact absurd hb (no (by simp) (by simp))
  | aside | fails | leaves | tuned | cut => exact absurd hb (by simp)

end Episode

/-! ## Throughout a run -/

namespace Session

/-- What happens to the channel in a step, in the order in which it happens. -/
def Moment.eventsOf (c : Nat) (m : Moment) : List ChannelEvent :=
  AmqpSession.eventsOf c (m.before.source m.act) m.noted

/-- What happened to the channel, the latest first. -/
def life (c : Nat) (ms : List Moment) : List ChannelEvent :=
  ms.flatMap fun m => (m.eventsOf c).reverse

/-- Every step comes to something for a channel. -/
theorem next?_episode {σ τ : Session} {a : Option Act} (hσ : σ.Reachable) (hs : σ.next? a = some τ)
    (c : Nat) : ∃ t n rest rest', σ.tasks = t.toList ++ rest ∧ τ.store = n.store ∧
      τ.tasks = n.tasks ++ rest' ∧ rest'.map Task.plain = rest.map Task.plain ∧
      Episode c σ.store t n (Moment.eventsOf c ⟨σ, a, τ⟩) ∧
      (t = some .destroyed → ¬ n.store.connection.isOpen) := by
  obtain ⟨t, rest, n, rfl, ht, hn, rfl⟩ | ⟨call, rfl, -, hl, rfl⟩ | ⟨r, cb, rest, rfl, ht, rfl⟩ :=
    next?_cases hs
  · refine ⟨some t, n, rest, below n rest, ht, rfl, rfl, map_plain_below n rest, ?_, fun hd ho => ?_⟩
    · rw [Moment.eventsOf, Moment.noted, notes_of_run ht hn]
      exact Task.run_episode hσ ht hn c
    · cases hd
      cases hn
      exact ho.2 rfl
  · exact ⟨none, call.run σ.store, σ.tasks, _, rfl, rfl, rfl, map_plain_below _ σ.tasks,
      Call.run_episode σ hl c, (by simp)⟩
  · refine ⟨some (.user cb), .only σ.store, rest, _, ht, rfl, rfl, map_plain_answerWith cb r rest, ?_,
      (by simp)⟩
    exact .aside (.refl c _) (Nat.zero_le _) rfl (by simp [Next.only]) (by simp)

/-- A registered channel is not closed. -/
theorem state_ne_closed_of_hasId {σ : Session} (hσ : σ.Reachable) {c : Nat}
    (h : ∃ id, σ.store.HasId c id) : (σ.store.channel c).state ≠ .closed := by
  obtain ⟨id, hid⟩ := h
  exact (hσ.tracks c).attached.1 ((hσ.tracks c).named hid).2.2.1

theorem chronicle_connect (o : Options) (c : Nat) :
    Chronicle c [] (connect o).store (connect o).tasks := by
  have hpass : (Store.new o).PassesBy c (connect o).store :=
    (offer_leavesAlone c (.new o) .greeting).toPassesBy
  have hn : NoneAbout c (connect o).tasks :=
    connect_tasks o (fun _ ht => Task.isAbout_of_isCommon ht c) rfl rfl
  have hf : ∀ active, .flowReply c active ∉ (connect o).tasks := fun active =>
    hn.not_mem (beq_self_eq_true c)
  refine .of_closed hpass.state (fun _ => rfl) (fun _ => ⟨rfl, fun hh => ?_, hn.errorsDue, hn.closesDue,
    hf⟩) ?_ ?_ fun _ => .of_not_mem hf
  · exact hpass.holder hh rfl
  · rw [hn.errorsDue]; decide
  · rw [hn.errorsDue, hn.closesDue]; decide

/-- What happened to a channel has its grammar, as long as no callback parses. -/
theorem Trail.chronicle {o : Options} {ms : List Moment} {σ : Session} (h : Trail (connect o) ms σ)
    (hp : ∀ m ∈ ms, m.ParsesAtRest) (c : Nat) :
    InTurn σ.tasks ∧ Chronicle c (life c ms) σ.store σ.tasks ∧ Life (life c ms) := by
  induction h with
  | nil =>
    exact ⟨inTurn_connect o, chronicle_connect o c, .nil⟩
  | @cons ms σ τ a h hs ih =>
    obtain ⟨hpa, hp⟩ := List.forall_mem_cons.1 hp
    obtain ⟨hturn, hc, hL⟩ := ih hp
    have hσ : σ.Reachable := h.reachable ⟨o, .refl⟩
    obtain ⟨t, n, rest, rest', htasks, hstore, htasks', hplain, he, hd⟩ := next?_episode hσ hs c
    have hopen : n.store.connection.isOpen → σ.store.connection.isOpen := by
      rw [← hstore]
      exact Step.isOpen (.next hs) hσ
    rw [htasks] at hc
    obtain ⟨hc', hL'⟩ := hc.episode hL he (state_ne_closed_of_hasId hσ) (htasks ▸ hturn)
      (htasks ▸ hσ.cutsInOrder) hopen hd
    have hlife : life c (⟨σ, a, τ⟩ :: ms) = Moment.eventsOf c ⟨σ, a, τ⟩ ++ life c ms := by
      rw [life, List.flatMap_cons, he.reverse_eq, life]
    refine ⟨InTurn.next? hturn hs hpa, ?_, hlife ▸ hL'⟩
    rw [hlife, hstore, htasks']
    refine hc'.of_map_plain ?_
    rw [List.map_append, List.map_append, hplain]

/-- The life of a channel in a run where no callback parses. Its state only goes forward. It asks to be
opened before anything else happens to it, and only once, or it could not be opened and nobody has it;
after that it asks to be closed at most once and confirms the peer's close at most once, and the only other
frames of its own are answers to a flow of the peer. What user code sends on it is taken only after it
asked to be opened and before it asked to be closed, and nothing is taken from it that is closed. Its
handler is told at most once that it is ready, of an error, and that it is closed: that it is ready not
after an error or the close, of frames only after it is ready, and of frames and flows not after the
close. -/
theorem channel_life_cycle {o : Options} {ms : List Moment} {σ : Session} (h : Trail (connect o) ms σ)
    (hp : ∀ m ∈ ms, m.ParsesAtRest) (c : Nat) :
    (∀ m ∈ ms, c < m.before.store.channels.length →
      (m.before.store.channel c).state.rank ≤ (m.after.store.channel c).state.rank) ∧
    ((life c ms = [] ∧ (σ.store.channel c).state = .closed ∧ ¬ (σ.store.channel c).HasHolder) ∨
      ∃ later, life c ms = later ++ [.own openBody] ∧ .own openBody ∉ later) ∧
    (∀ body, .own body ∈ life c ms → body = openBody ∨ body = closeBody ∨ body = closeOkBody ∨
      ∃ active, body = flowOkBody active) ∧
    (life c ms).count (.own closeBody) ≤ 1 ∧ (life c ms).count (.own closeOkBody) ≤ 1 ∧
    (∀ body later earlier, life c ms = later ++ .sent body :: earlier →
      .own openBody ∈ earlier ∧ .own closeBody ∉ earlier) ∧
    (∀ m ∈ ms, ∀ body, .own body ∈ m.eventsOf c ∨ .sent body ∈ m.eventsOf c →
      (m.after.store.channel c).state ≠ .closed) ∧
    (life c ms).count .ready ≤ 1 ∧ (life c ms).count .error ≤ 1 ∧ (life c ms).count .closed ≤ 1 ∧
    (∀ later earlier, life c ms = later ++ .ready :: earlier → .error ∉ earlier ∧ .closed ∉ earlier) ∧
    (∀ later earlier, life c ms = later ++ .frame :: earlier → .ready ∈ earlier ∧ .closed ∉ earlier) ∧
    ∀ later earlier, life c ms = later ++ .flow :: earlier → .closed ∉ earlier := by
  obtain ⟨-, hc, hL⟩ := h.chronicle hp c
  have hmoment : ∀ m ∈ ms, ∃ earlier t n rest, Trail (connect o) earlier m.before ∧
      (∀ m' ∈ earlier, m'.ParsesAtRest) ∧ m.before.tasks = t.toList ++ rest ∧
      m.after.store = n.store ∧ Episode c m.before.store t n (m.eventsOf c) := by
    intro m hm
    obtain ⟨later, earlier, rfl⟩ := List.append_of_mem hm
    have htrail := h.split.1
    obtain ⟨hσ, hs⟩ := h.moment ⟨o, .refl⟩ m hm
    obtain ⟨t, n, rest, -, htasks, hstore, -, -, he, -⟩ := next?_episode hσ hs c
    exact ⟨earlier, t, n, rest, htrail, fun m' hm' =>
      hp m' (List.mem_append_right _ (List.mem_cons_of_mem _ hm')), htasks, hstore, he⟩
  refine ⟨fun m hm hlt => ?_, ?_, fun body => hL.own_mem, ?_, ?_, ?_, ?_, ?_, ?_, ?_, ?_, ?_, ?_⟩
  · obtain ⟨-, t, n, rest, -, -, -, hstore, he⟩ := hmoment m hm
    rw [hstore]
    exact he.rank_le hlt
  · by_cases ha : .own openBody ∈ life c ms
    · exact .inr (hL.asks_first (List.ne_nil_of_mem ha))
    · obtain ⟨hnil, hs, hh, -⟩ := hc.early ha
      exact .inl ⟨hnil, hs, hh⟩
  · exact hL.count_le_one (by simp [closeBody, openBody]) fun _ hf => by cases hf; assumption
  · exact hL.count_le_one (by simp [closeOkBody, openBody]) fun _ hf => by cases hf; assumption
  · intro body later earlier heq
    obtain ⟨ha, hf⟩ := (heq ▸ hL).follows (by simp)
    cases hf with
    | sends _ hn => exact ⟨ha, hn⟩
  · intro m hm body hb
    obtain ⟨earlier, t, n, rest, htrail, hrest, htasks, hstore, he⟩ := hmoment m hm
    obtain ⟨-, hc', -⟩ := htrail.chronicle hrest c
    rw [hstore]
    exact he.state_ne_closed (htasks ▸ hc') (state_ne_closed_of_hasId (htrail.reachable ⟨o, .refl⟩)) hb
  · exact hL.count_le_one (by simp) fun _ hf => by cases hf; assumption
  · exact hL.count_le_one (by simp) fun _ hf => by cases hf; assumption
  · exact hL.count_le_one (by simp) fun _ hf => by cases hf; assumption
  · intro later earlier heq
    cases ((heq ▸ hL).follows (by simp)).2 with
    | ready _ he hc => exact ⟨he, hc⟩
  · intro later earlier heq
    cases ((heq ▸ hL).follows (by simp)).2 with
    | frame hr hc => exact ⟨hr, hc⟩
  · intro later earlier heq
    cases ((heq ▸ hL).follows (by simp)).2 with
    | flow hc => exact hc

/-- A channel is opened and used, and the peer closes it. -/
def openUntilClosed : List (Option Act) :=
  establish ++ [some (.call .openChannel)] ++ pass 0 ++ [none, none, none] ++
    [some (.call (.parse ((Frame.ofChannel 1 .openOk).toWire.octets ++
      (Frame.ofChannel 1 (.flow false)).toWire.octets ++ (⟨1, .content [7]⟩ : Frame).toWire.octets ++
      (Frame.ofChannel 1 (.close (.plain replySuccess ""))).toWire.octets)))] ++
    -- user code sends a frame where it learns that the channel is ready
    [none, some (.call (.sendOn 0 (.content [5])))] ++ pass 0 ++ [none, none, none] ++ pass 0 ++
    pass 4 ++ pass 1 ++ pass 4 ++ pass 4 ++ pass 1 ++ pass 1

theorem channel_life_cycle_closed_by_peer : ∃ (ms : List Moment) (σ : Session),
    Trail (connect .standard) ms σ ∧ (∀ m ∈ ms, m.ParsesAtRest) ∧
      life 0 ms = [.closed, .error, .own closeOkBody, .frame, .own (flowOkBody false), .flow,
        .sent (.content [5]), .ready, .own openBody] ∧
      (life 0 ms).count .ready ≤ 1 ∧
      ∃ later, life 0 ms = later ++ [.own openBody] ∧ .own openBody ∉ later := by
  obtain ⟨ms, σ, h, he⟩ := exists_trail_of_record openUntilClosed (connect .standard)
    (fun ms _ => (decide (∀ m ∈ ms, m.ParsesAtRest), life 0 ms))
    (a := (true, [.closed, .error, .own closeOkBody, .frame, .own (flowOkBody false), .flow,
      .sent (.content [5]), .ready, .own openBody])) (by decide +kernel)
  obtain ⟨hp, hlife⟩ := Prod.mk.inj he
  have hp := of_decide_eq_true hp
  obtain ⟨-, hasks, -, -, -, -, -, hready, -⟩ := channel_life_cycle h hp 0
  refine ⟨ms, σ, h, hp, hlife, hready, hasks.resolve_left fun hx => ?_⟩
  rw [hlife] at hx
  cases hx.1

end Session

end AmqpSession

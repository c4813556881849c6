/-
Where a channel stands between its two ends: its state as the client sees it, whether it is open as
the server sees it, what the server sent on it and the client did not get yet, and what the client
asked for and the server has not read yet. Both ends go on by themselves, so many combinations occur,
but not all (`Stage`).
-/
import AmqpSession.Proofs.Arrival

namespace AmqpSession

open Wire

/-- The bodies of the frames on one channel. -/
def bodiesOn (id : UInt16) (fs : List Frame) : List Body :=
  (fs.filter (·.channel == id)).map (·.body)

/-- What is asked for on one channel. -/
def requestsOn (id : UInt16) (fs : List Frame) : List Body :=
  bodiesOn id (fs.filter (·.body.isRequest))

section Bodies

variable {id : UInt16} {f : Frame} {fs fs' : List Frame}

theorem bodiesOn_append : bodiesOn id (fs ++ fs') = bodiesOn id fs ++ bodiesOn id fs' := by
  unfold bodiesOn
  rw [List.filter_append, List.map_append]

theorem bodiesOn_cons (h : f.channel = id) : bodiesOn id (f :: fs) = f.body :: bodiesOn id fs := by
  unfold bodiesOn
  rw [List.filter_cons, if_pos (beq_iff_eq.2 h)]
  rfl

theorem bodiesOn_cons_of_ne (h : f.channel ≠ id) : bodiesOn id (f :: fs) = bodiesOn id fs := by
  unfold bodiesOn
  rw [List.filter_cons, if_neg (by rwa [beq_iff_eq])]

theorem bodiesOn_eq_nil (h : ∀ f ∈ fs, f.channel ≠ id) : bodiesOn id fs = [] := by
  unfold bodiesOn
  rw [List.filter_eq_nil_iff.2 fun f hf => by rw [beq_iff_eq]; exact h f hf]
  rfl

theorem mem_bodiesOn (hf : f ∈ fs) : f.body ∈ bodiesOn f.channel fs :=
  List.mem_map_of_mem (List.mem_filter.2 ⟨hf, beq_self_eq_true _⟩)

theorem requestsOn_append : requestsOn id (fs ++ fs') = requestsOn id fs ++ requestsOn id fs' := by
  unfold requestsOn
  rw [List.filter_append, bodiesOn_append]

theorem requestsOn_cons (hr : f.body.isRequest = true) (h : f.channel = id) :
    requestsOn id (f :: fs) = f.body :: requestsOn id fs := by
  unfold requestsOn
  rw [List.filter_cons, if_pos hr, bodiesOn_cons h]

theorem requestsOn_cons_of_ne (h : f.channel ≠ id) : requestsOn id (f :: fs) = requestsOn id fs := by
  unfold requestsOn
  by_cases hr : f.body.isRequest = true
  · rw [List.filter_cons, if_pos hr, bodiesOn_cons_of_ne h]
  · rw [List.filter_cons, if_neg hr]

theorem requestsOn_cons_of_not (h : f.body.isRequest = false) :
    requestsOn id (f :: fs) = requestsOn id fs := by
  unfold requestsOn
  rw [List.filter_cons, if_neg (by rw [h]; exact Bool.false_ne_true)]

theorem requestsOn_eq_nil (h : ∀ f ∈ fs, f.body.isRequest = true → f.channel ≠ id) :
    requestsOn id fs = [] :=
  bodiesOn_eq_nil fun f hf => h f (List.mem_filter.1 hf).1 (List.mem_filter.1 hf).2

theorem ClientMove.request {s : Store} {call : Session.Call} {state : Option ChannelState}
    (h : ClientMove s call fs id state) (hf : f ∈ fs) (hr : f.body.isRequest = true) : f.channel = id := by
  cases h with
  | idle _ _ hfs =>
    rw [hfs f hf] at hr
    cases hr
  | opens | closes | leaves =>
    rw [List.mem_singleton.1 hf]
    rfl
  | forgets => cases hf

theorem ClientMove.ne_zero {s : Store} {call : Session.Call} {state : Option ChannelState}
    (hs : s.Rests) (h : ClientMove s call fs id state) (hf : f ∈ fs)
    (hr : f.body.isRequest = true) : f.channel ≠ 0 := by
  rw [h.request hf hr]
  cases h with
  | idle _ _ hfs =>
    rw [hfs f hf] at hr
    cases hr
  | opens hreg => exact (Registry.register_eq_ok hreg).1
  | closes hst | leaves hst =>
    obtain ⟨c, hg, -⟩ := Store.exists_of_stateOn hst
    exact (hs.isNamed hg).ne_zero
  | forgets => cases hf

end Bodies

/-! ## Stages -/

/-- The client asks for the channel to be opened. -/
def openBody : Body := .method (.channel .openRequest)

/-- The client asks for the channel to be closed. -/
def closeBody : Body := .method (.channel (.close (.plain replySuccess "")))

/-- The server has opened the channel. -/
def openOkBody : Body := .method (.channel .openOk)

/-- The server has closed the channel. -/
def closeOkBody : Body := .method (.channel .closeOk)

theorem requestsOn_openRequest (id : UInt16) : requestsOn id [openRequest id] = [openBody] :=
  requestsOn_cons rfl rfl

theorem requestsOn_closeRequest (id : UInt16) : requestsOn id [closeRequest id] = [closeBody] :=
  requestsOn_cons rfl rfl

/-- The confirmation of an opening may still be on its way. -/
def IsLate (late : List Body) : Prop := late = [] ∨ late = [openOkBody]

/-- What a server sends on its own, in any order. -/
def IsPushed (pushed : List Body) : Prop := ∀ b ∈ pushed, b.isPushable = true

/-- The state of the channel, whether the server has it open, what is on its way to the client and
what is on its way to the server. -/
inductive Stage : Option ChannelState → Prop → List Body → List Body → Prop where
  /-- The client has no channel under this id, whatever the server thinks. -/
  | nobody (isOpen : Prop) (arriving asked : List Body) : Stage none isOpen arriving asked
  | requested {isOpen : Prop} (ho : ¬ isOpen) : Stage (some .opening) isOpen [] [openBody]
  | granted {isOpen : Prop} (ho : isOpen) {pushed : List Body} (hp : IsPushed pushed) :
      Stage (some .opening) isOpen (openOkBody :: pushed) []
  | inUse {isOpen : Prop} (ho : isOpen) {pushed : List Body} (hp : IsPushed pushed) :
      Stage (some .open) isOpen pushed []
  /-- Closed before the server knew of it. -/
  | withdrawn {isOpen : Prop} (ho : ¬ isOpen) : Stage (some .closing) isOpen [] [openBody, closeBody]
  | leaving {isOpen : Prop} (ho : isOpen) (late : List Body) {pushed : List Body} (hl : IsLate late)
      (hp : IsPushed pushed) : Stage (some .closing) isOpen (late ++ pushed) [closeBody]
  | left {isOpen : Prop} (ho : ¬ isOpen) (late : List Body) {pushed : List Body} (hl : IsLate late)
      (hp : IsPushed pushed) : Stage (some .closing) isOpen (late ++ (pushed ++ [closeOkBody])) []

namespace Stage

variable {state : Option ChannelState} {isOpen : Prop} {arriving asked : List Body} {body : Body}

/-- Only what the server thinks of the channel counts. -/
theorem congr {isOpen' : Prop} (h : isOpen ↔ isOpen') (hs : Stage state isOpen arriving asked) :
    Stage state isOpen' arriving asked := by
  rw [propext h.symm]
  exact hs

/-- The server reads a request for a channel to be opened, and grants it. -/
theorem grant (h : Stage state isOpen arriving (openBody :: asked)) {isOpen' : Prop} (ho : isOpen') :
    Stage state isOpen' (arriving ++ [openOkBody]) asked := by
  cases h with
  | nobody => exact .nobody ..
  | requested => exact .granted ho nofun
  | withdrawn => exact .leaving ho [openOkBody] (.inr rfl) nofun

/-- The server reads a request for a channel to be closed, and confirms it. -/
theorem confirm (hb : body.isRequest = true) (hne : body ≠ openBody)
    (h : Stage state isOpen arriving (body :: asked)) {isOpen' : Prop} (ho : ¬ isOpen') :
    Stage state isOpen' (arriving ++ [closeOkBody]) asked := by
  cases h with
  | nobody => exact .nobody ..
  | requested => exact absurd rfl hne
  | withdrawn => exact absurd rfl hne
  | leaving _ late hl hp =>
    rw [List.append_assoc]
    exact .left ho late hl hp

/-- The server pushes something on a channel that it has open. -/
theorem push (h : Stage state isOpen arriving asked) (ho : isOpen) (hb : body.isPushable = true) :
    Stage state isOpen (arriving ++ [body]) asked := by
  have hpush : ∀ {pushed}, IsPushed pushed → IsPushed (pushed ++ [body]) := by
    intro pushed hp b hm
    rcases List.mem_append.1 hm with hm | hm
    · exact hp b hm
    · rw [List.mem_singleton.1 hm]
      exact hb
  cases h with
  | nobody => exact .nobody ..
  | requested hno => exact absurd ho hno
  | granted _ hp => exact .granted ho (hpush hp)
  | inUse _ hp => exact .inUse ho (hpush hp)
  | withdrawn hno => exact absurd ho hno
  | leaving _ late hl hp =>
    rw [List.append_assoc]
    exact .leaving ho late hl (hpush hp)
  | left hno => exact absurd ho hno

/-- The client moves. A new channel has an id with nothing left of its last use. -/
theorem move {s : Store} {call : Session.Call} {fs : List Frame} {id : UInt16}
    (hm : ClientMove s call fs id state)
    (h : Stage (s.stateOn id) isOpen arriving asked)
    (hnew : ∀ r, call = .openChannel →
      s.connection.registry.register (.channel s.channels.length) = .ok (id, r) →
        ¬ isOpen ∧ arriving = [] ∧ asked = []) :
    Stage state isOpen arriving (asked ++ requestsOn id fs) := by
  cases hm with
  | idle _ _ hfs =>
    rw [requestsOn_eq_nil fun f hf hr => absurd ((hfs f hf).symm.trans hr) Bool.false_ne_true,
      List.append_nil]
    exact h
  | opens hr =>
    obtain ⟨ho, rfl, rfl⟩ := hnew _ rfl hr
    rw [requestsOn_openRequest]
    exact .requested ho
  | closes hst hcase =>
    rw [requestsOn_closeRequest]
    rw [hst] at h
    -- while the channel is opening, the server may or may not have read the request to open it
    rcases hcase with rfl | rfl
    · cases h with
      | requested ho => exact .withdrawn ho
      | granted ho hp => exact .leaving ho [openOkBody] (.inr rfl) hp
    · cases h with
      | inUse ho hp => exact .leaving ho [] (.inl rfl) hp
  | leaves | forgets => exact .nobody ..

theorem IsPushed.of_cons {pushed : List Body} (h : IsPushed (body :: pushed)) :
    body.isPushable = true ∧ IsPushed pushed :=
  ⟨h body List.mem_cons_self, fun b hb => h b (List.mem_cons_of_mem _ hb)⟩

/-- A frame of the server has its place, unless it is the confirmation of an opening that nobody waits
for any more. -/
theorem arrive {s : Store} {f : Frame}
    (h : Stage (s.stateOn f.channel) isOpen (f.body :: arriving) asked) :
    (∃ state, ServerMove s f state ∧ Stage state isOpen arriving asked) ∨
      s.stateOn f.channel = some .closing ∧ f.body = openOkBody := by
  generalize hst : s.stateOn f.channel = st at h
  generalize hb : f.body = body at h
  generalize hall : body :: arriving = all at h
  cases h with
  | nobody => exact .inl ⟨none, .nobody hst, .nobody ..⟩
  | requested => cases hall
  | granted ho hp =>
    cases hall
    exact .inl ⟨_, .ready hst hb, .inUse ho hp⟩
  | inUse ho hp =>
    rw [← hall] at hp
    obtain ⟨hbody, hrest⟩ := IsPushed.of_cons hp
    exact .inl ⟨_, .passes hst (.inl rfl) (hb ▸ hbody), .inUse ho hrest⟩
  | withdrawn => cases hall
  | leaving ho late hl hp =>
    rcases hl with rfl | rfl
    · rw [List.nil_append] at hall
      rw [← hall] at hp
      obtain ⟨hbody, hrest⟩ := IsPushed.of_cons hp
      exact .inl ⟨_, .passes hst (.inr rfl) (hb ▸ hbody), .leaving ho [] (.inl rfl) hrest⟩
    · -- the opening is confirmed, and the channel has been closed since
      cases hall
      exact .inr ⟨rfl, rfl⟩
  | left ho late hl hp =>
    rename_i pushed
    rcases hl with rfl | rfl
    · -- the close is confirmed last, after all that was pushed
      cases pushed with
      | nil =>
        cases hall
        exact .inl ⟨none, .confirmed hst hb, .nobody ..⟩
      | cons b pushed =>
        cases hall
        obtain ⟨hbody, hrest⟩ := IsPushed.of_cons hp
        exact .inl ⟨_, .passes hst (.inr rfl) (hb ▸ hbody), .left ho [] (.inl rfl) hrest⟩
    · cases hall
      exact .inr ⟨rfl, rfl⟩

/-- The confirmation of an opening comes before everything else on its channel. -/
theorem first_of_mem (h : Stage (some .closing) isOpen (body :: arriving) asked)
    (hm : openOkBody ∈ arriving) : body = openOkBody := by
  have hno : ∀ {pushed}, IsPushed pushed → openOkBody ∉ pushed := fun hp hm => nomatch hp _ hm
  generalize hall : body :: arriving = all at h
  have hm' : openOkBody ∈ all := hall ▸ List.mem_cons_of_mem _ hm
  cases h with
  | withdrawn => cases hall
  | leaving _ late hl hp =>
    rcases hl with rfl | rfl
    · rw [List.nil_append] at hm'
      exact absurd hm' (hno hp)
    · cases hall
      rfl
  | left _ late hl hp =>
    rcases hl with rfl | rfl
    · rw [List.nil_append] at hm'
      rcases List.mem_append.1 hm' with hm' | hm'
      · exact absurd hm' (hno hp)
      · cases List.mem_singleton.1 hm'
    · cases hall
      rfl

end Stage

end AmqpSession

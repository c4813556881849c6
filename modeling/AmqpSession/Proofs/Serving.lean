/-
What a frame for a channel comes to if user code only returns (`parses_served`): the channel takes it,
its user is told, and what it asks for is answered at once, or held back if everything else is. What the
frame does, and to whom, is told without the steps of the call (`Session.served`).
-/
import AmqpSession.Proofs.Apart
import AmqpSession.Proofs.Containment

namespace AmqpSession

open Wire

/-! ## What a frame is to its channel -/

/-- The channel as the frame leaves it. -/
def Channel.after (ch : Channel) : Body → Channel
  | .method (.channel .openOk) => { ch with state := .open }
  | .method (.channel .closeOk) | .method (.channel (.close _)) => ch.cut
  | _ => ch

namespace Wire.Body

/-- The channel gives its id back. -/
def endsChannel : Body → Bool
  | .method (.channel .closeOk) | .method (.channel (.close _)) => true
  | _ => false

/-- Only the channel's user has to do with it. -/
def isContent : Body → Bool
  | .method (.channel _) | .method (.connection _) => false
  | _ => true

/-- What is answered on the channel's id. -/
def answer? (id : UInt16) : Body → Option Frame
  | .method (.channel (.close _)) => some (.ofChannel id .closeOk)
  | .method (.channel (.flow active)) => some (.ofChannel id (.flowOk active))
  | _ => none

/-- What the channel's user is told, the latest first. -/
def notices (c : Nat) (state : ChannelState) : Body → List Callback
  | .method (.channel .openOk) => [.channelReady c]
  | .method (.channel .closeOk) => [.channelClosed c]
  | .method (.channel (.close reason)) => [.channelClosed c, .channelError c reason.replyText]
  | .method (.channel (.flow active)) => [.channelFlow c active]
  | body => if state = .open then [.channelFrame c body] else []

end Wire.Body

theorem Channel.after_id (ch : Channel) (body : Body) : (ch.after body).id = ch.id := by
  unfold Channel.after
  split <;> rfl

theorem Channel.hasHolder_after (ch : Channel) (body : Body) :
    (ch.after body).HasHolder ↔ ch.HasHolder := by
  unfold Channel.after
  split <;> rfl

theorem Wire.Body.endpoint?_of_mem_notices {c : Nat} {state : ChannelState} {body : Body}
    {cb : Callback} (h : cb ∈ body.notices c state) : cb.endpoint? = some (.channel c) := by
  unfold notices at h
  split at h
  case h_5 =>
    split at h
    · rw [List.mem_singleton.1 h]
      rfl
    · cases h
  all_goals
    simp only [List.mem_cons, List.not_mem_nil, or_false] at h
    rcases h with rfl | rfl <;> rfl

theorem Wire.Body.eq_ofChannel_of_answer? {id : UInt16} {body : Body} {f : Frame}
    (h : body.answer? id = some f) : ∃ m, f = .ofChannel id m := by
  unfold answer? at h
  split at h <;> cases h <;> exact ⟨_, rfl⟩

/-- What the user of a channel was told, the latest first. -/
def toldOf (c : Nat) (log : List Event) : List Callback :=
  (callbacks log).filter (·.endpoint? == some (.channel c))

theorem callbacks_map_started (cbs : List Callback) : callbacks (cbs.map .started) = cbs := by
  induction cbs with
  | nil => rfl
  | cons cb cbs ih => exact congrArg (cb :: ·) ih

theorem toldOf_append (c : Nat) (es es' : List Event) : toldOf c (es ++ es') = toldOf c es ++ toldOf c es' := by
  rw [toldOf, callbacks_append, List.filter_append]
  rfl

namespace Store

/-! ## What it does to the store -/

/-- An answer goes out, or is held back. -/
def withAnswer (s : Store) (answer : Option Frame) : Store :=
  match answer with
  | some f => if s.sendsAtOnce f then s else s.enqueue f
  | none => s

/-- What happens then, the latest first. -/
def answering (s : Store) (answer : Option Frame) : List Event :=
  match answer with
  | some f =>
    if s.sendsAtOnce f then [.started (.data f.toWire.octets), .handed f, .accepted f] else [.accepted f]
  | none => []

/-- The store as a frame leaves it that the channel takes. -/
def serve (s : Store) (c : Nat) (body : Body) : Store :=
  let s := (s.withAnswer (body.answer? (s.channel c).id)).mapChannel c (·.after body)
  if body.endsChannel then s.unregister (.channel c) else s

/-- What happens then, the latest first. A close is answered before its user is told. -/
def serving (s : Store) (c : Nat) (body : Body) : List Event :=
  let told := (body.notices c (s.channel c).state).map .started
  let answered := s.answering (body.answer? (s.channel c).id)
  if body.endsChannel then told ++ answered else answered ++ told

/-- No endpoint of user code has an id. -/
def OnlyChannels (s : Store) : Prop :=
  ∀ id e, s.connection.registry.get? id = some e → ∃ c, e = .channel c

/-- The channel that takes a frame. While the connection closes there is none. -/
def recipient? (s : Store) (f : Frame) : Option Nat :=
  if f.body = .heartbeat ∨ s.connection.state = .closing then none
  else match s.addressee? f with
    | some (.channel c) => some c
    | _ => none

end Store

namespace Session

/-- The session as a frame leaves it that has its place. -/
def served (σ : Session) (f : Frame) : Session :=
  match σ.store.recipient? f with
  | some c =>
    { σ with
      store := σ.store.serve c f.body
      log := σ.store.serving c f.body ++ .received f :: σ.log }
  | none => { σ with log := .received f :: σ.log }

end Session

namespace Store

variable {s : Store} {c : Nat} {f : Frame}

theorem recipient?_eq_some (h : s.recipient? f = some c) :
    ¬ (f.body = .heartbeat ∨ s.connection.state = .closing) ∧ s.addressee? f = some (.channel c) := by
  unfold recipient? at h
  split at h
  · cases h
  · rename_i hn
    split at h
    · rename_i hc
      cases h
      exact ⟨hn, hc⟩
    · cases h

theorem get?_of_addressee? {e : EndpointRef} (h : s.addressee? f = some e) :
    s.connection.registry.get? f.channel = some e := by
  unfold addressee? at h
  split at h
  · rename_i hg
    split at h
    · cases h
      exact hg
    · cases h
  · cases h

theorem ignored_of_recipient? (hc : s.OnlyChannels) (h : s.recipient? f = none) :
    (f.body = .heartbeat ∨ s.connection.state = .closing) ∨ s.addressee? f = none := by
  unfold recipient? at h
  split at h
  · rename_i hn
    exact .inl hn
  · right
    cases ha : s.addressee? f with
    | none => rfl
    | some e =>
      obtain ⟨c, rfl⟩ := hc _ _ (get?_of_addressee? ha)
      rw [ha] at h
      cases h

theorem hasId_of_recipient? (h : s.recipient? f = some c) :
    s.HasId c f.channel ∧ (s.channel c).HasHolder :=
  have ha := (recipient?_eq_some h).2
  ⟨get?_of_addressee? ha, isLive_channel_iff.1 (isLive_of_addressee? ha)⟩

/-! ## The store afterwards -/

/-- What is held back of an answer. -/
def heldBack (s : Store) (answer : Option Frame) : List Frame :=
  answer.toList.filter (!s.sendsAtOnce ·)

theorem withAnswer_eq (s : Store) (answer : Option Frame) : s.withAnswer answer =
    s.mapConnection fun k => { k with queue := k.queue ++ s.heldBack answer } := by
  cases answer with
  | none =>
    show s = { s with connection := { s.connection with queue := s.connection.queue ++ [] } }
    rw [List.append_nil]
  | some f =>
    by_cases hnow : s.sendsAtOnce f = true
    · have hheld : s.heldBack (some f) = [] := by simp [heldBack, hnow]
      rw [withAnswer, if_pos hnow, hheld]
      show s = { s with connection := { s.connection with queue := s.connection.queue ++ [] } }
      rw [List.append_nil]
    · have hheld : s.heldBack (some f) = [f] := by simp [heldBack, hnow]
      rw [withAnswer, if_neg hnow, hheld]
      rfl

theorem channels_serve (s : Store) (c : Nat) (body : Body) :
    (s.serve c body).channels = s.channels.modify c (·.after body) := by
  unfold serve
  rw [withAnswer_eq]
  dsimp only
  split <;> rfl

theorem channel_serve_of_ne {d : Nat} (h : d ≠ c) (s : Store) (body : Body) :
    (s.serve c body).channel d = s.channel d := by
  unfold channel
  rw [channels_serve]
  exact s.channel_mapChannel_of_ne h _

theorem channel_serve (hlt : c < s.channels.length) (body : Body) :
    (s.serve c body).channel c = (s.channel c).after body := by
  show (s.serve c body).channels[c]?.getD .gone = _
  rw [channels_serve]
  exact s.channel_mapChannel hlt _

theorem connection_serve (hlt : c < s.channels.length) (body : Body) : (s.serve c body).connection =
    { s.connection with
      queue := s.connection.queue ++ s.heldBack (body.answer? (s.channel c).id),
      registry := if body.endsChannel then s.connection.registry.release (s.channel c).id (.channel c)
        else s.connection.registry } := by
  unfold serve
  rw [withAnswer_eq]
  generalize s.heldBack (body.answer? (s.channel c).id) = held
  have hid : ((s.mapConnection fun k => { k with queue := k.queue ++ held }).mapChannel c
      (·.after body)).idOf (.channel c) = (s.channel c).id :=
    (congrArg Channel.id (s.channel_mapChannel hlt (·.after body))).trans (Channel.after_id ..)
  dsimp only
  split
  · rw [connection_unregister, hid]
    rfl
  · rfl

/-- What goes out goes out at once, or is held back, as before. -/
theorem sendsAtOnce_serve (hlt : c < s.channels.length) (body : Body) (id : UInt16)
    (m : ChannelMethod) : (s.serve c body).sendsAtOnce (.ofChannel id m) = s.sendsAtOnce (.ofChannel id m) := by
  have hdirect : ∀ s : Store, s.sendsAtOnce (.ofChannel id m) =
      (decide (s.connection.state = .connected) && s.connection.queue.isEmpty) := fun s => Bool.or_false _
  rw [hdirect, hdirect, connection_serve hlt]
  dsimp only
  cases hq : s.connection.queue with
  | cons g queue => rfl
  | nil =>
    by_cases hs : s.connection.state = .connected
    · -- nothing is held back, so neither is the answer
      have hheld : s.heldBack (body.answer? (s.channel c).id) = [] := by
        refine List.filter_eq_nil_iff.2 fun g hg => ?_
        obtain ⟨m, rfl⟩ := Body.eq_ofChannel_of_answer? (Option.mem_toList.1 hg)
        simp [sendsAtOnce, hs, hq]
      rw [hheld]
      rfl
    · rw [decide_eq_false hs]
      rfl

/-! ## The log afterwards -/

/-- What goes out at once of an answer. -/
def sentNow (s : Store) (answer : Option Frame) : List Frame :=
  answer.toList.filter s.sendsAtOnce

theorem callbacks_answering (s : Store) (answer : Option Frame) :
    ∀ cb ∈ callbacks (s.answering answer), ∃ octets, cb = .data octets := by
  intro cb hcb
  unfold answering at hcb
  split at hcb
  · split at hcb
    · exact ⟨_, List.mem_singleton.1 hcb⟩
    · cases hcb
  · cases hcb

/-- Nobody is told but the user of the channel. -/
theorem toldOf_serving (s : Store) (c d : Nat) (body : Body) : toldOf d (s.serving c body) =
    if d = c then body.notices c (s.channel c).state else [] := by
  have hanswered : toldOf d (s.answering (body.answer? (s.channel c).id)) = [] := by
    refine List.filter_eq_nil_iff.2 fun cb hcb => ?_
    obtain ⟨octets, rfl⟩ := callbacks_answering s _ cb hcb
    exact Bool.false_ne_true
  have htold : toldOf d ((body.notices c (s.channel c).state).map .started) =
      if d = c then body.notices c (s.channel c).state else [] := by
    rw [toldOf, callbacks_map_started]
    split
    · rename_i hd
      refine List.filter_eq_self.2 fun cb hcb => ?_
      rw [Body.endpoint?_of_mem_notices hcb, hd]
      exact beq_self_eq_true _
    · rename_i hd
      refine List.filter_eq_nil_iff.2 fun cb hcb => ?_
      rw [Body.endpoint?_of_mem_notices hcb]
      simpa using Ne.symm hd
  unfold serving
  dsimp only
  split
  · rw [toldOf_append, htold, hanswered, List.append_nil]
  · rw [toldOf_append, htold, hanswered, List.nil_append]

/-- There is no error to tell of. -/
theorem reports_serving (s : Store) (c : Nat) (body : Body) : reports (s.serving c body) = [] := by
  have hanswered : reports (s.answering (body.answer? (s.channel c).id)) = [] := by
    unfold answering
    split
    · split <;> rfl
    · rfl
  have htold : reports ((body.notices c (s.channel c).state).map .started) = [] := by
    refine List.eq_nil_iff_forall_not_mem.2 fun text htext => ?_
    obtain ⟨cb, hcb, he⟩ := List.mem_map.1 (mem_reports_iff.1 htext)
    cases he
    cases Body.endpoint?_of_mem_notices hcb
  unfold serving
  dsimp only
  split
  · rw [reports_append, htold, hanswered]
    rfl
  · rw [reports_append, htold, hanswered]
    rfl

theorem handedOver_serving (s : Store) (c : Nat) (body : Body) (log : List Event) :
    handedOver (s.serving c body ++ log) = handedOver log ++ s.sentNow (body.answer? (s.channel c).id) := by
  have htold : ∀ cbs log, handedOver (List.map Event.started cbs ++ log) = handedOver log := by
    intro cbs log
    induction cbs with
    | nil => rfl
    | cons cb cbs ih => exact ih
  have hanswered : ∀ log, handedOver (s.answering (body.answer? (s.channel c).id) ++ log) =
      handedOver log ++ s.sentNow (body.answer? (s.channel c).id) := by
    intro log
    cases ha : body.answer? (s.channel c).id with
    | none => exact (List.append_nil _).symm
    | some f =>
      obtain ⟨m, rfl⟩ := Body.eq_ofChannel_of_answer? ha
      by_cases hnow : s.sendsAtOnce (.ofChannel (s.channel c).id m) = true
      · have hsent : s.sentNow (some (.ofChannel (s.channel c).id m)) = [.ofChannel (s.channel c).id m] := by
          simp [sentNow, hnow]
        rw [answering, if_pos hnow, hsent]
        rfl
      · have hsent : s.sentNow (some (.ofChannel (s.channel c).id m)) = [] := by
          simp [sentNow, hnow]
        rw [answering, if_neg hnow, hsent]
        exact (List.append_nil _).symm
  unfold serving
  dsimp only
  split
  · rw [List.append_assoc, htold, hanswered]
  · rw [List.append_assoc, hanswered, htold]

/-! ## While the frame is handled -/

theorem reply_eq (ho : s.connection.isOpen) {octets : Bytes} (hw : f.toWire.result = .ok octets)
    (tasks : List Task) : (s.reply f tasks).store = s.withAnswer (some f) ∧
      (s.reply f tasks).log.reverse = s.answering (some f) ∧ (s.reply f tasks).fault = none ∧
      ((s.reply f tasks).tasks = tasks ∨
        (s.reply f tasks).tasks = .user (.data f.toWire.octets) :: tasks) := by
  rw [reply, send, if_neg (not_or.2 ho), hw, Draft.octets_of_result hw, withAnswer, answering,
    Draft.octets_of_result hw]
  by_cases hnow : s.sendsAtOnce f = true
  · simp only [if_pos hnow]
    exact ⟨rfl, rfl, rfl, .inr rfl⟩
  · simp only [if_neg hnow]
    exact ⟨rfl, rfl, rfl, .inl rfl⟩

/-- A channel that nothing happens to is as it was. -/
theorem mapChannel_eq_self (s : Store) (c : Nat) {f : Channel → Channel} (hf : ∀ ch, f ch = ch) :
    s.mapChannel c f = s := by
  have hid : f = id := funext hf
  rw [mapChannel, hid, List.modify_id]

/-- A frame that only its channel's user has to do with leaves the store alone. -/
theorem serve_of_isContent (s : Store) (c : Nat) {body : Body} (hb : body.isContent = true) :
    s.serve c body = s := by
  cases body with
  | method m =>
    cases m with
    | channel | connection => cases hb
    | other => exact mapChannel_eq_self _ _ fun _ => rfl
  | _ => exact mapChannel_eq_self _ _ fun _ => rfl

theorem serving_of_isContent (s : Store) (c : Nat) {body : Body} (hb : body.isContent = true) :
    s.serving c body =
      if (s.channel c).state = .open then [.started (.channelFrame c body)] else [] := by
  have hmap : ((if (s.channel c).state = .open then [.channelFrame c body] else [] :
      List Callback).map .started : List Event) =
      if (s.channel c).state = .open then [.started (.channelFrame c body)] else [] := by
    split <;> rfl
  rw [← hmap]
  cases body with
  | method m =>
    cases m with
    | channel | connection => cases hb
    | other => rfl
  | _ => rfl

theorem receiveOnChannel_of_isContent (s : Store) (c : Nat) {body : Body} (hb : body.isContent = true) :
    s.receiveOnChannel c body =
      match (s.channel c).state with
      | .open => .start s (.channelFrame c body) []
      | .closing => .only s
      | .opening | .closed => s.channelFault c .beforeOpenOk := by
  cases body with
  | method m =>
    cases m with
    | channel | connection => cases hb
    | other => rfl
  | _ => rfl

/-- While the frame is handled, the call holds the connection and the channel. -/
def handling (s : Store) (c : Nat) : Store := s.holdHandle.hold (.channel c)

theorem channel_handling (hlt : c < s.channels.length) :
    (s.handling c).channel c = { s.channel c with held := (s.channel c).held + 1 } :=
  s.holdHandle.channel_hold hlt

theorem withAnswer_handling (s : Store) (c : Nat) (answer : Option Frame) :
    (s.handling c).withAnswer answer = (s.withAnswer answer).handling c := by
  cases answer with
  | none => rfl
  | some f =>
    show (if s.sendsAtOnce f then _ else _) = (if s.sendsAtOnce f then s else s.enqueue f).handling c
    split <;> rfl

theorem answering_handling (s : Store) (c : Nat) (answer : Option Frame) :
    (s.handling c).answering answer = s.answering answer := by
  cases answer with
  | none => rfl
  | some f => rfl

theorem setChannelState_handling (s : Store) (c : Nat) (state : ChannelState) :
    (s.handling c).setChannelState c state = (s.setChannelState c state).handling c :=
  s.holdHandle.setChannelState_hold c state

theorem retire_handling (hlt : c < s.channels.length) :
    (s.handling c).retire c = (s.retire c).handling c :=
  retire_hold (s := s.holdHandle) hlt

end Store

namespace Session

variable {u : Script} {s : Store} {c n : Nat} {υ : Session} {log : List Event} {rest : List Task}

/-! ## The call, task by task -/

/-- The frame was the last of the buffer. -/
theorem returns_handled {p : Parsing} (hb : p.buffer.length ≤ p.size) (ho : s.connection.owned ≠ 0) :
    Returns u [] ⟨s.holdHandle, [.handled none p none], log⟩ (p.processed + p.size) ⟨s, [], log⟩ := by
  have howned : s.holdHandle.connection.owned ≠ 0 := ho
  have hend : Returns u [] ⟨s.holdHandle, Store.endOfParse (p.processed + p.size) ++ [], log⟩
      (p.processed + p.size) ⟨s.holdHandle.loseHandle, [], log⟩ :=
    (returns_endOfParse howned (Nat.succ_ne_zero _)).2 ⟨rfl, rfl⟩
  rw [Store.loseHandle_holdHandle, List.append_nil] at hend
  refine .task (n := .follow s.holdHandle [.parse (p.buffer.drop p.size) (p.processed + p.size)]) rfl rfl ?_
  rw [List.drop_eq_nil_of_le hb]
  exact .task (n := .follow s.holdHandle (Store.endOfParse (p.processed + p.size))) rfl rfl hend

/-- The channel that took it is there still, or was cut off. -/
theorem returns_handled_channel {p : Parsing} (hb : p.buffer.length ≤ p.size)
    (ho : s.connection.owned ≠ 0) (hl : (s.channel c).HasHolder) :
    Returns u [] ⟨s.handling c, [.handled (some (.channel c)) p none], log⟩ (p.processed + p.size)
      ⟨s, [], log⟩ := by
  have hrelease : Task.run (.release (.channel c)) (s.handling c) = some (.only s.holdHandle) := by
    show some (((s.handling c).lose (.channel c)).whenLost (.channel c)) = _
    rw [Store.handling, Store.lose_hold, Store.whenLost_eq_only]
    rintro d ⟨⟩
    exact .inl (Store.isLive_channel_iff.2 hl)
  exact .task rfl rfl (.task hrelease rfl (returns_handled hb ho))

/-- The answer is given, and what follows it is done. -/
theorem returns_reply (hu : u.IsPassive) {f : Frame} {octets : Bytes} (ho : s.connection.isOpen)
    (hw : f.toWire.result = .ok octets) {tasks : List Task}
    (h : Returns u [] ⟨s.withAnswer (some f), tasks ++ rest, s.answering (some f) ++ log⟩ n υ) :
    Returns u [] ⟨(s.reply f tasks).store, (s.reply f tasks).tasks ++ rest,
      (s.reply f tasks).log.reverse ++ log⟩ n υ := by
  obtain ⟨hstore, hlog, -, htasks | htasks⟩ := Store.reply_eq ho hw tasks
  · rw [hstore, hlog, htasks]
    exact h
  · rw [hstore, hlog, htasks]
    exact hu.returns_user (fun _ _ => rfl) h

/-- What is no method of the channel or of the connection goes to the channel's user, or is dropped while
the channel closes. -/
theorem returns_content (hu : u.IsPassive) (hlt : c < s.channels.length) {body : Body}
    (hb : body.isContent = true) (hadmits : (s.channel c).state.admits body = true)
    (h : Returns u [] ⟨(s.serve c body).handling c, rest, s.serving c body ++ log⟩ n υ) :
    ((s.handling c).receiveOnChannel c body).fault = none ∧
      Returns u [] ⟨((s.handling c).receiveOnChannel c body).store,
        ((s.handling c).receiveOnChannel c body).tasks ++ rest,
        ((s.handling c).receiveOnChannel c body).log.reverse ++ log⟩ n υ := by
  have hstate : ((s.handling c).channel c).state = (s.channel c).state := by
    rw [Store.channel_handling hlt]
  rw [Store.receiveOnChannel_of_isContent _ _ hb, hstate]
  rw [Store.serve_of_isContent _ _ hb, Store.serving_of_isContent _ _ hb] at h
  cases hst : (s.channel c).state with
  | «open» =>
    rw [hst] at h
    exact ⟨rfl, hu.returns_user (fun _ _ => rfl) h⟩
  | closing =>
    rw [hst] at h
    exact ⟨rfl, h⟩
  | opening | closed =>
    rw [hst] at hadmits
    cases body with
    | method m =>
      cases m with
      | channel | connection => cases hb
      | other => cases hadmits
    | _ => cases hadmits

/-- What the channel makes of a frame that has its place. -/
theorem returns_receiveOnChannel (hu : u.IsPassive) (ho : s.connection.isOpen)
    (ha : s.connection.alive = true) (hlt : c < s.channels.length) {body : Body}
    (hb : body ≠ .heartbeat) (hadmits : (s.channel c).state.admits body = true)
    (h : Returns u [] ⟨(s.serve c body).handling c, rest, s.serving c body ++ log⟩ n υ) :
    ((s.handling c).receiveOnChannel c body).fault = none ∧
      Returns u [] ⟨((s.handling c).receiveOnChannel c body).store,
        ((s.handling c).receiveOnChannel c body).tasks ++ rest,
        ((s.handling c).receiveOnChannel c body).log.reverse ++ log⟩ n υ := by
  have hch := Store.channel_handling hlt
  have hid : ((s.handling c).channel c).id = (s.channel c).id := by rw [hch]
  by_cases hm : ∃ m, body = .method (.channel m)
  · obtain ⟨m, rfl⟩ := hm
    cases m with
    | openRequest | flowOk => cases hadmits
    | openOk =>
      have hst : ((s.handling c).channel c).state = .opening := by
        rw [hch]
        exact of_decide_eq_true hadmits
      have hrun : (s.handling c).receiveOnChannel c (.method (.channel .openOk)) =
          .start ((s.setChannelState c .open).handling c) (.channelReady c) [] := by
        rw [← Store.setChannelState_handling]
        exact if_pos hst
      rw [hrun]
      exact ⟨rfl, hu.returns_user (fun _ _ => rfl) h⟩
    | closeOk =>
      have hst : ((s.handling c).channel c).state = .closing := by
        rw [hch]
        exact of_decide_eq_true hadmits
      have hrun : (s.handling c).receiveOnChannel c (.method (.channel .closeOk)) =
          .start ((s.retire c).handling c) (.channelClosed c) [] := by
        rw [← Store.retire_handling hlt]
        exact if_pos hst
      rw [hrun]
      exact ⟨rfl, hu.returns_user (fun _ _ => rfl) h⟩
    | close reason =>
      let answer : Frame := .ofChannel (s.channel c).id .closeOk
      obtain ⟨octets, hw⟩ := Frame.exists_toWire_closeOk (s.channel c).id
      have hrun : (s.handling c).receiveOnChannel c (.method (.channel (.close reason))) =
          (s.handling c).reply answer [.channelClosedByPeer c reason.replyText] := by
        show (s.handling c).reply (.ofChannel ((s.handling c).channel c).id .closeOk) _ = _
        rw [hid]
      have hlt' : c < (s.withAnswer (some answer)).channels.length := by
        rw [Store.withAnswer_eq]
        exact hlt
      have halive : ((s.withAnswer (some answer)).retire c).connection.alive = true := by
        rw [Store.withAnswer_eq]
        exact ha
      have hclosed : Task.run (.channelClosedByPeer c reason.replyText)
          ((s.withAnswer (some answer)).handling c) =
          some (.start (((s.withAnswer (some answer)).retire c).handling c)
            (.channelError c reason.replyText) [.notifyAlive (.channelClosed c)]) := by
        rw [← Store.retire_handling hlt']
        rfl
      have hnotify : Task.run (.notifyAlive (.channelClosed c))
          (((s.withAnswer (some answer)).retire c).handling c) =
          some (.start (((s.withAnswer (some answer)).retire c).handling c) (.channelClosed c) []) :=
        congrArg some (if_pos halive)
      rw [hrun]
      refine ⟨(Store.reply_eq (s := s.handling c) ho hw _).2.2.1,
        returns_reply (s := s.handling c) hu ho hw ?_⟩
      rw [Store.withAnswer_handling, Store.answering_handling]
      refine .task hclosed rfl (hu.returns_user (fun _ _ => rfl) ?_)
      refine .task hnotify rfl (hu.returns_user (fun _ _ => rfl) ?_)
      exact h
    | flow active =>
      let answer : Frame := .ofChannel (s.channel c).id (.flowOk active)
      obtain ⟨octets, hw⟩ := Frame.exists_toWire_flowOk (s.channel c).id active
      have hst : ((s.handling c).channel c).state = .open ∨ ((s.handling c).channel c).state = .closing := by
        rw [hch]
        simpa [ChannelState.admits] using hadmits
      have hrun : (s.handling c).receiveOnChannel c (.method (.channel (.flow active))) =
          .start (s.handling c) (.channelFlow c active) [.flowReply c active] := if_pos hst
      have hreply : Task.run (.flowReply c active) (s.handling c) =
          some ((s.handling c).reply answer []) := by
        show some (if s.connection.alive = true then (s.handling c).reply
          (.ofChannel ((s.handling c).channel c).id (.flowOk active)) [] else _) = _
        rw [if_pos ha, hid]
      rw [hrun]
      refine ⟨rfl, hu.returns_user (fun _ _ => rfl) ?_⟩
      refine .task hreply (Store.reply_eq (s := s.handling c) ho hw _).2.2.1
        (returns_reply (s := s.handling c) hu ho hw ?_)
      rw [Store.withAnswer_handling, Store.answering_handling]
      have hserve : s.serve c (.method (.channel (.flow active))) = s.withAnswer (some answer) :=
        Store.mapChannel_eq_self _ _ fun _ => rfl
      have hserving : s.serving c (.method (.channel (.flow active))) =
          s.answering (some answer) ++ [.started (.channelFlow c active)] := rfl
      rw [hserve, hserving, List.append_assoc] at h
      exact h
  · refine returns_content hu hlt ?_ hadmits h
    cases body with
    | method m =>
      cases m with
      | channel m => exact absurd ⟨m, rfl⟩ hm
      | connection m => cases hadmits
      | other => rfl
    | _ => rfl

/-- A frame for a channel that has its place: the call is done with it, and has no fault to report. -/
theorem parses_served (hu : u.IsPassive) {σ : Session} (hk : σ.Kept) (ht : σ.tasks = [])
    (hs : σ.state ≠ .closed) (hc : σ.store.OnlyChannels) {octets : Bytes} {f : Frame}
    (hd : Frame.decode octets σ.store.connection.maxFrameSize = .ok (some ⟨f, octets.length⟩))
    (hf : f.channel ≠ 0) (ha : σ.store.admits f = true) :
    Parses u σ octets octets.length (σ.served f) := by
  obtain ⟨s, tasks, log⟩ := σ
  cases ht
  have halive : s.connection.alive = true := by
    cases halive : s.connection.alive with
    | true => rfl
    | false => exact absurd (hk.state_of_not_alive halive) hs
  let p : Parsing := ⟨octets, 0, octets.length⟩
  have hparse : Task.run (.parse octets 0) s.holdHandle = some (s.holdHandle.receive f p) := by
    show some (s.holdHandle.parse octets 0) = _
    rw [Store.parse_of_live (s := s.holdHandle) halive hs, show
      s.holdHandle.connection.maxFrameSize = s.connection.maxFrameSize from rfl, hd]
  have hlen : p.processed + p.size = octets.length := Nat.zero_add _
  rw [parses_iff rfl hk.owned, ← hlen]
  cases hr : s.recipient? f with
  | none =>
    have hserved : Session.served ⟨s, [], log⟩ f = ⟨s, [], .received f :: log⟩ := by
      unfold Session.served
      rw [hr]
    have hreceive : s.holdHandle.receive f p = (Next.only s.holdHandle).within f none p :=
      Store.receive_ignored (s := s.holdHandle) hf (Store.ignored_of_recipient? hc hr) p
    rw [hreceive] at hparse
    rw [hserved]
    exact .task hparse rfl (returns_handled (p := p) (Nat.le_refl _) hk.owned)
  | some c =>
    obtain ⟨hn, haddressee⟩ := Store.recipient?_eq_some hr
    obtain ⟨hid, hl⟩ := Store.hasId_of_recipient? hr
    have hserved : Session.served ⟨s, [], log⟩ f =
        ⟨s.serve c f.body, [], s.serving c f.body ++ .received f :: log⟩ := by
      unfold Session.served
      rw [hr]
    have hreceive : s.holdHandle.receive f p =
        ((s.handling c).receiveOnChannel c f.body).within f (some (.channel c)) p :=
      Store.receive_addressed (s := s.holdHandle) hf hn haddressee p
    have hadmits : (s.channel c).state.admits f.body = true := by
      rw [← Store.admits_of_addressee hf hn haddressee]
      exact ha
    rw [not_or] at hn
    have hlt := Store.lt_length_of_hasHolder hl
    have hend : Returns u [] ⟨(s.serve c f.body).handling c, [.handled (some (.channel c)) p none],
        s.serving c f.body ++ .received f :: log⟩ (p.processed + p.size)
        ⟨s.serve c f.body, [], s.serving c f.body ++ .received f :: log⟩ := by
      refine returns_handled_channel (p := p) (Nat.le_refl _) ?_ ?_
      · rw [Store.connection_serve hlt]
        exact hk.owned
      · rw [Store.channel_serve hlt]
        exact (Channel.hasHolder_after ..).2 hl
    obtain ⟨hfault, hrun⟩ := returns_receiveOnChannel hu ⟨hn.2, hs⟩ halive hlt hn.1 hadmits hend
    rw [hreceive] at hparse
    rw [hserved]
    refine .task hparse rfl ?_
    rw [Next.within, hfault]
    dsimp only
    rw [List.append_assoc, List.reverse_cons, List.append_assoc]
    exact hrun

end Session

end AmqpSession

import Heightt.Realtime.Gateway

/-!
# Who receives what

`Clear` says what clients and memberships must leave alone, and which sends and logins are
harmless. In a run of such steps every message stays with those it is addressed to.
-/

namespace Heightt.Realtime

open Store Machines

/-- The message went to sockets that it is addressed to. -/
def Sent.Reaches (e : Sent) (receiver : String × Option String) : Prop :=
  match e.address with
  | .user id => receiver.2 = some id
  | .organization id => ∃ userId ∈ receiver.2, (userId, id) ∈ e.members
  | .client id => receiver.1 = id

instance (e : Sent) (receiver : String × Option String) : Decidable (e.Reaches receiver) :=
  match h : e.address with
  | .user id => decidable_of_iff (receiver.2 = some id) (by simp [Sent.Reaches, h])
  | .organization id => decidable_of_iff (∃ userId ∈ receiver.2, e.members.contains (userId, id) = true)
      (by simp [Sent.Reaches, h])
  | .client id => decidable_of_iff (receiver.1 = id) (by simp [Sent.Reaches, h])

structure Sent.Isolated (e : Sent) : Prop where
  reaches : ∀ r ∈ e.receivers, e.Reaches r
  own : ∀ r ∈ e.receivers, ∀ n ∈ e.content.notifications, r.2 = some n.userId

instance (e : Sent) : Decidable e.Isolated :=
  decidable_of_iff ((∀ r ∈ e.receivers, e.Reaches r) ∧
      ∀ r ∈ e.receivers, ∀ n ∈ e.content.notifications, r.2 = some n.userId)
    ⟨fun ⟨reaches, own⟩ => ⟨reaches, own⟩, fun h => ⟨h.reaches, h.own⟩⟩

/-- The HTTP strategy accepted the token when the handler found its user. -/
def Login.Accepted (l : Login) : Prop := validate l.time l.payload (some l.user) = .ok l.user

instance (l : Login) : Decidable l.Accepted :=
  inferInstanceAs (Decidable (validate l.time l.payload (some l.user) = .ok l.user))

/-- What was sent stayed with its addressees, and nobody is logged in by a token that is not
accepted. -/
structure Isolated (s : Gateway) : Prop where
  sent : ∀ e ∈ s.log, e.Isolated
  logins : ∀ c ∈ s.sockets.rows, ∀ l ∈ c.login, l.Accepted

/-- A login that is due is accepted. -/
def Phase.Admissible (now : Nat) : Phase → Prop
  | foundUser payload (some user) => validate now payload (some user) = .ok user
  | _ => True

instance (now : Nat) : (phase : Phase) → Decidable (phase.Admissible now)
  | .foundUser payload (some user) => inferInstanceAs (Decidable (validate now payload (some user) = .ok user))
  | .foundUser _ none | .findingUser _ | .findingMemberships _ | .foundMemberships .. | .organizationsLoaded _
  | .findingUnread _ | .foundUnread .. | .counting _ | .counted .. | .handled => isTrue trivial

/-- The connection is about to join the organization's room. -/
def Phase.Joins (s : Gateway) (organizationId : String) : Phase → Prop
  | foundMemberships _ organizationIds => organizationId ∈ organizationIds
  | organizationsLoaded userId => organizationId ∈ s.userOrganizations userId
  | _ => False

instance (s : Gateway) (o : String) : (phase : Phase) → Decidable (phase.Joins s o)
  | .foundMemberships _ organizationIds => inferInstanceAs (Decidable (o ∈ organizationIds))
  | .organizationsLoaded userId => inferInstanceAs (Decidable (o ∈ s.userOrganizations userId))
  | .foundUser .. | .findingUser _ | .findingMemberships _ | .findingUnread _ | .foundUnread ..
  | .counting _ | .counted .. | .handled => isFalse id

/-- The organization that a room with the prefix is named after. -/
def namedOrganization (room : String) : String := String.ofList (room.toList.drop 13)

/-- The socket may join the room: it is no other socket's id, and if it is an organization's
then the user is an ACTIVE member. -/
structure MayJoin (s : Gateway) (c : Socket) (room : String) : Prop where
  socket : ∀ b ∈ s.sockets.rows, b.id = room → b.id = c.id
  organization : room = organizationRoom (namedOrganization room) →
    ∃ userId ∈ c.userId, (userId, namedOrganization room) ∈ s.members

instance (s : Gateway) (c : Socket) (room : String) : Decidable (MayJoin s c room) :=
  decidable_of_iff ((∀ b ∈ s.sockets.rows, b.id = room → b.id = c.id) ∧
      (room = organizationRoom (namedOrganization room) →
        ∃ userId ∈ c.userId, s.members.contains (userId, namedOrganization room) = true)) (by
    simp only [List.contains_iff_mem]
    exact ⟨fun ⟨socket, organization⟩ => ⟨socket, organization⟩, fun h => ⟨h.socket, h.organization⟩⟩)

/-- No socket of the user is in the organization's room or about to join it. -/
def Left (s : Gateway) (userId organizationId : String) : Prop :=
  ∀ c ∈ s.sockets.rows, c.userId = some userId →
    (c.connected → organizationRoom organizationId ∉ c.rooms) ∧ ¬c.phase.Joins s organizationId

/-- The next user of the job has no client, or every record in it is theirs. -/
def Job.Harmless (s : Gateway) (job : Job) : Prop :=
  ∀ userId ∈ job.remaining.head?, s.connectedClients userId ≠ [] →
    ∀ n ∈ job.content.notifications, n.userId = userId

def Clear (s : Gateway) : Action → Prop
  | .connect id _ => ∀ c ∈ s.sockets.rows, c.connected → id ∉ c.rooms
  | .resume id => ∀ c ∈ s.sockets.find id, c.phase.Admissible s.now
  | .subscribe id room => ∀ c ∈ s.client id, MayJoin s c room
  | .endMembership userId organizationId => Left s userId organizationId
  | .advance n => ∀ job ∈ s.jobs[n]?, job.Harmless s
  | _ => True

instance (s : Gateway) : (a : Action) → Decidable (Clear s a)
  | .connect id _ => inferInstanceAs (Decidable (∀ c ∈ s.sockets.rows, c.connected → id ∉ c.rooms))
  | .resume id => inferInstanceAs (Decidable (∀ c ∈ s.sockets.find id, c.phase.Admissible s.now))
  | .subscribe id room => inferInstanceAs (Decidable (∀ c ∈ s.client id, MayJoin s c room))
  | .endMembership userId organizationId =>
    inferInstanceAs (Decidable (∀ c ∈ s.sockets.rows, c.userId = some userId →
      (c.connected → organizationRoom organizationId ∉ c.rooms) ∧ ¬c.phase.Joins s organizationId))
  | .advance n => inferInstanceAs (Decidable (∀ job ∈ s.jobs[n]?, ∀ userId ∈ job.remaining.head?,
      s.connectedClients userId ≠ [] → ∀ n ∈ job.content.notifications, n.userId = userId))
  | .answer _ | .fail _ | .disconnect _ | .unsubscribe .. | .setUser _ | .startMembership .. | .tick _
  | .sendToUser .. | .sendToUsers .. | .sendToOrganization .. | .createNotification ..
  | .createBulkNotifications .. => isTrue trivial

/-- Nobody has connected and nothing was sent. -/
structure Quiet (s : Gateway) : Prop where
  sockets : s.sockets.rows = []
  clients : s.connectedClients = fun _ => []
  log : s.log = []

/-! ## What every step keeps -/

/-- What a phase has found fits the socket's user. -/
def Phase.Fits (s : Gateway) (user : Option String) : Phase → Prop
  | findingUser _ | foundUser .. => user = none
  | findingMemberships userId | findingUnread userId | counting userId | counted userId _ =>
    user = some userId
  | foundMemberships userId organizationIds =>
    user = some userId ∧ ∀ o ∈ organizationIds, (userId, o) ∈ s.members
  | organizationsLoaded userId =>
    user = some userId ∧ ∀ o ∈ s.userOrganizations userId, (userId, o) ∈ s.members
  | foundUnread userId notifications => user = some userId ∧ ∀ n ∈ notifications, n.userId = userId
  | handled => True

structure Socket.Kept (s : Gateway) (c : Socket) : Prop where
  id : ':' ∉ c.id.toList
  ids : c.connected → ∀ b ∈ s.sockets.rows, b.id ∈ c.rooms → b.id = c.id
  organizations : c.connected → ∀ o, organizationRoom o ∈ c.rooms →
    ∃ userId ∈ c.userId, (userId, o) ∈ s.members
  phase : c.phase.Fits s c.userId
  login : ∀ l ∈ c.login, l.Accepted

/-- The gateway's clients are sockets of their users. -/
def Registered (s : Gateway) (userId id : String) : Prop :=
  ∃ c, s.sockets.find id = some c ∧ c.userId = some userId

structure Kept (s : Gateway) : Prop where
  sockets : ∀ c ∈ s.sockets.rows, c.Kept s
  registered : ∀ userId, ∀ id ∈ s.connectedClients userId, Registered s userId id
  sent : ∀ e ∈ s.log, e.Isolated

theorem Kept.isolated {s : Gateway} (h : Kept s) : Isolated s :=
  ⟨h.sent, fun c hc => (h.sockets c hc).login⟩

theorem Quiet.kept {s : Gateway} (h : Quiet s) : Kept s where
  sockets c hc := by
    rw [h.sockets] at hc
    cases hc
  registered userId id hid := by
    rw [h.clients] at hid
    cases hid
  sent e he := by
    rw [h.log] at he
    cases he

/-! ### Names of rooms -/

theorem colon_mem_organizationRoom (o : String) : ':' ∈ (organizationRoom o).toList := by
  rw [organizationRoom, String.toList_append]
  exact List.mem_append_left _ (by decide)

theorem namedOrganization_organizationRoom (o : String) : namedOrganization (organizationRoom o) = o := by
  rw [namedOrganization, organizationRoom, String.toList_append]
  exact String.ofList_toList

/-! ### Sockets -/

section Sockets

variable {s s' : Gateway} {c : Socket}

/-- The ids of `s'` are ids of `s`. -/
def SameIds (s s' : Gateway) : Prop := ∀ b ∈ s'.sockets.rows, ∃ a ∈ s.sockets.rows, a.id = b.id

theorem SameIds.withSocket (s : Gateway) (c : Socket) (f : Socket → Socket) (hf : ∀ c, (f c).id = c.id) :
    SameIds s (s.withSocket c f hf) := by
  intro b hb
  obtain ⟨a, ha, rfl⟩ := List.mem_map.1 hb
  refine ⟨a, ha, ?_⟩
  split
  · exact (hf a).symm
  · rfl

/-- A socket is kept in a state with the same memberships and loaded organizations. -/
theorem Socket.Kept.of_same (h : c.Kept s) (ids : SameIds s s') (members : s'.members = s.members)
    (loaded : s'.userOrganizations = s.userOrganizations) : c.Kept s' where
  id := h.id
  ids connected b hb mem := by
    obtain ⟨a, ha, same⟩ := ids b hb
    rw [← same] at mem ⊢
    exact h.ids connected a ha mem
  organizations := by
    rw [members]
    exact h.organizations
  phase := by
    have fits := h.phase
    unfold Phase.Fits at fits ⊢
    rw [members, loaded]
    exact fits
  login := h.login

/-- Only the log, the jobs or rows of no concern here differ. -/
theorem Kept.of_same (h : Kept s) (sockets : s'.sockets = s.sockets)
    (clients : s'.connectedClients = s.connectedClients) (members : s'.members = s.members)
    (loaded : s'.userOrganizations = s.userOrganizations) (sent : ∀ e ∈ s'.log, e.Isolated) : Kept s' where
  sockets c hc := by
    rw [sockets] at hc
    refine (h.sockets c hc).of_same (fun b hb => ?_) members loaded
    rw [sockets] at hb
    exact ⟨b, hb, rfl⟩
  registered userId id hid := by
    rw [clients] at hid
    unfold Registered
    rw [sockets]
    exact h.registered userId id hid
  sent := sent

theorem Kept.withClients (h : Kept s) {clients : String → List String}
    (registered : ∀ userId, ∀ id ∈ clients userId, Registered s userId id) :
    Kept { s with connectedClients := clients } where
  sockets c hc := (h.sockets c hc).of_same (fun b hb => ⟨b, hb, rfl⟩) rfl rfl
  registered := registered
  sent := h.sent

theorem Kept.send (h : Kept s) {e : Sent} (he : e.Isolated) : Kept { s with log := s.log ++ [e] } := by
  refine h.of_same rfl rfl rfl rfl fun e' mem => ?_
  obtain mem | mem := List.mem_append.1 mem
  · exact h.sent e' mem
  · rw [List.mem_singleton.1 mem]
    exact he

theorem Registered.withSocket {userId id : String} (h : Registered s userId id) (c : Socket)
    (f : Socket → Socket) (hf : ∀ c, (f c).id = c.id)
    (user : ∀ u, c.userId = some u → (f c).userId = some u) (found : s.sockets.find c.id = some c) :
    Registered (s.withSocket c f hf) userId id := by
  obtain ⟨b, hb, own⟩ := h
  have modified := Table.find_modify s.sockets c.id f hf id
  by_cases same : id = c.id
  · subst same
    obtain rfl : c = b := Option.some.inj (found.symm.trans hb)
    exact ⟨f c, by rw [Gateway.withSocket, modified, if_pos rfl, found]; rfl, user userId own⟩
  · exact ⟨b, by rw [Gateway.withSocket, modified, if_neg same, hb], own⟩

/-- One socket changes to what is kept, and keeps its user. -/
theorem Kept.withSocket (h : Kept s) (found : s.sockets.find c.id = some c) {f : Socket → Socket}
    {hf : ∀ c, (f c).id = c.id} (user : ∀ u, c.userId = some u → (f c).userId = some u)
    (kept : (f c).Kept s) : Kept (s.withSocket c f hf) where
  sockets := by
    have same (b : Socket) (hb : b.Kept s) : b.Kept (s.withSocket c f hf) :=
      hb.of_same (.withSocket s c f hf) rfl rfl
    refine Table.forall_modify hf (fun b hb => same b (h.sockets b hb)) fun b hb => same _ ?_
    rw [Option.some.inj (hb.symm.trans found)]
    exact kept
  registered userId id hid := (h.registered userId id hid).withSocket c f hf user found
  sent := h.sent

/-- Socket `c` moves to a phase that fits. -/
theorem Kept.moveTo (h : Kept s) (found : s.sockets.find c.id = some c) {phase : Phase}
    (fits : phase.Fits s c.userId) : Kept (s.moveTo c phase) := by
  have kept := h.sockets c (Table.find_mem found)
  exact h.withSocket found (fun _ own => own) { kept with phase := fits }

/-! ### Sends -/

theorem mem_receivers {room : String} {r : String × Option String} (h : r ∈ s.receivers room) :
    ∃ b ∈ s.sockets.rows, b.connected ∧ room ∈ b.rooms ∧ r = (b.id, b.userId) := by
  obtain ⟨b, hb, rfl⟩ := List.mem_map.1 h
  obtain ⟨mem, joined⟩ := List.mem_filter.1 hb
  obtain ⟨connected, joined⟩ := of_decide_eq_true joined
  exact ⟨b, mem, connected, joined, rfl⟩

/-- Only the socket itself is in the room named by its id. -/
theorem Kept.receivers_user (h : Kept s) {userId id : String} (registered : Registered s userId id)
    {r : String × Option String} (hr : r ∈ s.receivers id) : r.2 = some userId := by
  obtain ⟨b, hb, connected, joined, rfl⟩ := mem_receivers hr
  obtain ⟨c, found, own⟩ := registered
  have key : c.id = id := Table.find_key found
  rw [← key] at joined
  have same := (h.sockets b hb).ids connected c (Table.find_mem found) joined
  rw [← Table.eq_of_key (Table.find_mem found) hb same]
  exact own

theorem Kept.emitTo_user (h : Kept s) {userId id : String} (registered : Registered s userId id)
    {content : Content} (own : ∀ n ∈ content.notifications, n.userId = userId) :
    Kept (s.emitTo id (.user userId) content) := by
  refine h.send ⟨fun r hr => h.receivers_user registered hr, fun r hr n hn => ?_⟩
  rw [own n hn]
  exact h.receivers_user registered hr

theorem Kept.sendToSockets {userId : String} {content : Content} {ids : List String} (h : Kept s)
    (registered : ∀ id ∈ ids, Registered s userId id)
    (own : ids ≠ [] → ∀ n ∈ content.notifications, n.userId = userId) :
    Kept (s.sendToSockets userId content ids) := by
  induction ids generalizing s with
  | nil => exact h
  | cons id ids ih =>
    have next := h.emitTo_user (registered id List.mem_cons_self) (own (List.cons_ne_nil _ _))
    exact ih next (fun i hi => registered i (List.mem_cons_of_mem _ hi)) fun _ => own (List.cons_ne_nil _ _)

theorem Kept.sendToUser (h : Kept s) {userId : String} {content : Content}
    (own : s.connectedClients userId ≠ [] → ∀ n ∈ content.notifications, n.userId = userId) :
    Kept (s.sendToUser userId content) :=
  h.sendToSockets (h.registered userId) own

theorem Kept.sendToOrganization (h : Kept s) (o : String) {content : Content}
    (none_ : content.notifications = []) : Kept (s.sendToOrganization o content) := by
  refine h.send ⟨fun r hr => ?_, fun r _ n hn => ?_⟩
  · obtain ⟨b, hb, connected, joined, rfl⟩ := mem_receivers hr
    exact (h.sockets b hb).organizations connected o joined
  · rw [none_] at hn
    cases hn

/-- A message to the client itself, with records of its user only. -/
theorem Kept.emit (h : Kept s) {content : Content}
    (own : ∀ n ∈ content.notifications, c.userId = some n.userId) : Kept (s.emit c content) := by
  have self : ∀ r ∈ (if c.connected then [(c.id, c.userId)] else []), r = (c.id, c.userId) := by
    intro r hr
    split at hr
    · exact List.mem_singleton.1 hr
    · cases hr
  refine h.send ⟨fun r hr => ?_, fun r hr n hn => ?_⟩
  · rw [self r hr]
    exact rfl
  · rw [self r hr]
    exact own n hn

/-! ### Connections -/

theorem Kept.handleDisconnect (h : Kept s) (c : Socket) : Kept (s.handleDisconnect c) := by
  rw [Gateway.handleDisconnect]
  split
  · exact h
  rename_i userId _
  refine h.withClients fun u id hid => ?_
  by_cases same : u = userId
  · subst same
    rw [Function.update_self] at hid
    exact h.registered u id (List.mem_of_mem_erase hid)
  · rw [Function.update_of_ne same] at hid
    exact h.registered u id hid

theorem Kept.close (h : Kept s) (found : s.sockets.find c.id = some c) : Kept (s.close c) := by
  have kept := h.sockets c (Table.find_mem found)
  refine h.withSocket found (fun _ own => own) { kept with
    ids := fun connected => ?_, organizations := fun connected => ?_ }
  · cases connected
  · cases connected

theorem Kept.disconnect (h : Kept s) (found : s.sockets.find c.id = some c) : Kept (s.disconnect c) := by
  rw [Gateway.disconnect]
  split
  · exact (h.close found).handleDisconnect c
  · exact h

theorem find_moveTo (found : s.sockets.find c.id = some c) (phase : Phase) :
    (s.moveTo c phase).sockets.find c.id = some { c with phase := phase } := by
  rw [Gateway.moveTo, Gateway.withSocket, Table.find_modify_self, found]
  rfl

/-- The handler gives up. -/
theorem Kept.abandon (h : Kept s) (found : s.sockets.find c.id = some c) :
    Kept ((s.moveTo c .handled).disconnect c) :=
  (h.moveTo found (show Phase.Fits s c.userId .handled from trivial)).disconnect
    (c := { c with phase := .handled }) (find_moveTo found _)

theorem Kept.answer (h : Kept s) (found : s.sockets.find c.id = some c)
    (hs : s.answer c c.phase = some s') : Kept s' := by
  have fits := (h.sockets c (Table.find_mem found)).phase
  cases at_ : c.phase with
  | findingUser payload =>
    rw [at_] at hs fits
    cases hs
    exact h.moveTo found fits
  | findingMemberships userId =>
    rw [at_] at hs fits
    cases hs
    refine h.moveTo found ⟨fits, fun o ho => ?_⟩
    obtain ⟨m, hm, rfl⟩ := List.mem_map.1 ho
    obtain ⟨mem, own⟩ := List.mem_filter.1 hm
    rw [← of_decide_eq_true own]
    exact mem
  | findingUnread userId =>
    rw [at_] at hs fits
    cases hs
    refine h.moveTo found ⟨fits, fun n hn => ?_⟩
    obtain ⟨-, own⟩ := List.mem_filter.1 (List.mem_reverse.1 (List.mem_of_mem_take hn))
    exact (of_decide_eq_true own).1
  | counting userId =>
    rw [at_] at hs fits
    cases hs
    exact h.moveTo found fits
  | _ =>
    rw [at_] at hs
    cases hs

theorem Kept.authenticate (h : Kept s) (found : s.sockets.find c.id = some c) (unknown : c.userId = none)
    {payload : Payload} {user : Account} (accepted : validate s.now payload (some user) = .ok user) :
    Kept (s.authenticate c payload user) := by
  have kept := h.sockets c (Table.find_mem found)
  have ids : ∀ c : Socket, ({ c with login := some ⟨payload, user, s.now⟩, phase := .findingMemberships user.id } :
      Socket).id = c.id := fun _ => rfl
  have next : Kept (s.withSocket c _ ids) := h.withSocket found (fun u own => by rw [unknown] at own; cases own)
    { id := kept.id, ids := kept.ids, phase := rfl
      organizations := fun connected o joined => by
        obtain ⟨u, own, -⟩ := kept.organizations connected o joined
        rw [unknown] at own
        cases own
      login := fun l hl => by cases hl; exact accepted }
  refine next.withClients fun u id hid => ?_
  by_cases same : u = user.id
  · subst same
    rw [Function.update_self] at hid
    obtain hid | hid := List.mem_append.1 hid
    · exact next.registered _ id hid
    · rw [List.mem_singleton.1 hid]
      refine ⟨{ c with login := some ⟨payload, user, s.now⟩, phase := .findingMemberships user.id }, ?_, rfl⟩
      rw [Gateway.withSocket, Table.find_modify_self, found]
      rfl
  · rw [Function.update_of_ne same] at hid
    exact next.registered u id hid

/-- Another connection of the user may read the organizations that this one has loaded. -/
theorem Kept.withOrganizations (h : Kept s) {userId : String} {organizationIds : List String}
    (active : ∀ o ∈ organizationIds, (userId, o) ∈ s.members) :
    Kept { s with userOrganizations := Function.update s.userOrganizations userId organizationIds } where
  sockets c hc := by
    have kept := h.sockets c hc
    refine { kept with phase := ?_ }
    have fits := kept.phase
    cases at_ : c.phase with
    | organizationsLoaded u =>
      rw [at_] at fits
      refine ⟨fits.1, fun o ho => ?_⟩
      replace ho : o ∈ Function.update s.userOrganizations userId organizationIds u := ho
      by_cases same : u = userId
      · subst same
        rw [Function.update_self] at ho
        exact active o ho
      · rw [Function.update_of_ne same] at ho
        exact fits.2 o ho
    | _ =>
      rw [at_] at fits
      exact fits
  registered := h.registered
  sent := h.sent

theorem Kept.joinOrganizations (h : Kept s) (found : s.sockets.find c.id = some c) {userId : String}
    (fits : (Phase.organizationsLoaded userId).Fits s c.userId) : Kept (s.joinOrganizations c userId) := by
  have kept := h.sockets c (Table.find_mem found)
  refine h.withSocket found (fun _ own => own) { kept with
    phase := fits.1, ids := fun connected b hb joined => ?_, organizations := fun connected o joined => ?_ }
  · obtain joined | joined := List.mem_append.1 joined
    · exact kept.ids connected b hb joined
    · obtain ⟨o, -, named⟩ := List.mem_map.1 joined
      refine absurd ?_ (h.sockets b hb).id
      rw [← named]
      exact colon_mem_organizationRoom o
  · obtain joined | joined := List.mem_append.1 joined
    · exact kept.organizations connected o joined
    · obtain ⟨o', active, named⟩ := List.mem_map.1 joined
      have same := congrArg namedOrganization named
      rw [namedOrganization_organizationRoom, namedOrganization_organizationRoom] at same
      subst same
      exact ⟨userId, fits.1, fits.2 o' active⟩

theorem Kept.resume (h : Kept s) (found : s.sockets.find c.id = some c) (clear : c.phase.Admissible s.now)
    (hs : s.resume c c.phase = some s') : Kept s' := by
  have fits := (h.sockets c (Table.find_mem found)).phase
  cases at_ : c.phase with
  | foundUser payload user =>
    rw [at_] at hs fits clear
    cases user with
    | none =>
      cases hs
      exact h.abandon found
    | some user =>
      cases hs
      exact h.authenticate found fits clear
  | foundMemberships userId organizationIds =>
    rw [at_] at hs fits
    cases hs
    have loaded := h.withOrganizations fits.2
    refine loaded.moveTo found ⟨fits.1, fun o ho => ?_⟩
    replace ho : o ∈ Function.update s.userOrganizations userId organizationIds userId := ho
    rw [Function.update_self] at ho
    exact fits.2 o ho
  | organizationsLoaded userId =>
    rw [at_] at hs fits
    cases hs
    exact (h.joinOrganizations found fits).emit fun n hn => by cases hn
  | foundUnread userId notifications =>
    rw [at_] at hs fits
    cases hs
    by_cases empty : notifications = []
    · rw [if_pos empty]
      exact h.moveTo found fits.1
    · rw [if_neg empty]
      have sent := show Kept (s.emit c (.records notifications)) from h.emit fun n hn => by
        rw [fits.2 n hn]
        exact fits.1
      exact sent.moveTo found fits.1
  | counted userId count =>
    rw [at_] at hs
    cases hs
    have moved := h.moveTo found (show Phase.Fits s c.userId .handled from trivial)
    exact moved.sendToUser fun _ n hn => by cases hn
  | _ =>
    rw [at_] at hs
    cases hs

theorem Kept.fail (h : Kept s) (found : s.sockets.find c.id = some c)
    (hs : s.fail c c.phase = some s') : Kept s' := by
  cases at_ : c.phase with
  | findingUser _ | findingMemberships _ | findingUnread _ | counting _ =>
    rw [at_] at hs
    cases hs
    exact h.abandon found
  | _ =>
    rw [at_] at hs
    cases hs

/-- A socket with a new id, which no one else has joined. -/
theorem Kept.insert (h : Kept s) (free : s.sockets.find c.id = none) (kept : c.Kept s)
    (unjoined : ∀ b ∈ s.sockets.rows, b.connected → c.id ∉ b.rooms)
    (own : ∀ room ∈ c.rooms, room = c.id) : Kept { s with sockets := s.sockets.insert c } := by
  have rows {b : Socket} (hb : b ∈ (s.sockets.insert c).rows) : b ∈ s.sockets.rows ∨ b = c := by
    rw [Table.insert_rows free] at hb
    exact (List.mem_append.1 hb).imp_right List.mem_singleton.1
  refine ⟨Table.forall_insert (fun b hb => ?_) ?_, fun userId id hid => ?_, h.sent⟩
  · have old := h.sockets b hb
    refine { old with ids := fun connected a ha joined => ?_ }
    obtain ha | rfl := rows ha
    · exact old.ids connected a ha joined
    · exact absurd joined (unjoined b hb connected)
  · exact { kept with ids := fun _ a _ joined => own a.id joined }
  · obtain ⟨b, hb, user⟩ := h.registered userId id hid
    refine ⟨b, ?_, user⟩
    rw [Table.find_insert free, if_neg, hb]
    intro same
    rw [same, hb] at free
    cases free

theorem Kept.connect (h : Kept s) {id : String} {payload : Option Payload}
    (clear : ∀ c ∈ s.sockets.rows, c.connected → id ∉ c.rooms)
    (hs : step (.connect id payload) s = some s') : Kept s' := by
  simp only [step] at hs
  split at hs
  · cases hs
  rename_i fresh
  obtain ⟨free, noColon⟩ := not_or.1 fresh
  rw [Option.not_isSome_iff_eq_none] at free
  have named : ∀ o, organizationRoom o ∉ [id] := by
    intro o mem
    rw [← List.mem_singleton.1 mem] at noColon
    exact noColon (colon_mem_organizationRoom o)
  split at hs
  · cases hs
    refine h.insert free ⟨noColon, ?_, ?_, trivial, fun l hl => ?_⟩ clear fun room hroom => ?_
    · intro connected
      cases connected
    · intro connected
      cases connected
    · cases hl
    · cases hroom
  · cases hs
    refine h.insert free ⟨noColon, fun _ b _ joined => List.mem_singleton.1 joined,
      fun _ o joined => absurd joined (named o), rfl, fun l hl => ?_⟩ clear fun room => List.mem_singleton.1
    cases hl

theorem mem_client {id : String} (h : s.client id = some c) : s.sockets.find c.id = some c := by
  obtain ⟨found, -⟩ := Option.filter_eq_some_iff.1 h
  rw [Table.find_key found]
  exact found

theorem Kept.subscribe (h : Kept s) (found : s.sockets.find c.id = some c) {room : String}
    (may : MayJoin s c room) :
    Kept (s.withSocket c (fun c => { c with rooms := c.rooms ++ [room] }) fun _ => rfl) := by
  have kept := h.sockets c (Table.find_mem found)
  refine h.withSocket found (fun _ own => own) { kept with
    ids := fun connected b hb joined => ?_, organizations := fun connected o joined => ?_ }
  · obtain joined | joined := List.mem_append.1 joined
    · exact kept.ids connected b hb joined
    · exact may.socket b hb (List.mem_singleton.1 joined)
  · obtain joined | joined := List.mem_append.1 joined
    · exact kept.organizations connected o joined
    · have named : namedOrganization room = o := by
        rw [← List.mem_singleton.1 joined]
        exact namedOrganization_organizationRoom o
      have member := may.organization
      rw [named] at member
      exact member (List.mem_singleton.1 joined).symm

theorem Kept.unsubscribe (h : Kept s) (found : s.sockets.find c.id = some c) (room : String) :
    Kept (s.withSocket c (fun c => { c with rooms := c.rooms.filter (· ≠ room) }) fun _ => rfl) := by
  have kept := h.sockets c (Table.find_mem found)
  exact h.withSocket found (fun _ own => own) { kept with
    ids := fun connected b hb joined => kept.ids connected b hb (List.mem_of_mem_filter joined)
    organizations := fun connected o joined => kept.organizations connected o (List.mem_of_mem_filter joined) }

theorem Phase.Fits.of_members {phase : Phase} {user : Option String} (fits : phase.Fits s user)
    (loaded : s'.userOrganizations = s.userOrganizations)
    (members : ∀ userId o, user = some userId → phase.Joins s o → (userId, o) ∈ s.members →
      (userId, o) ∈ s'.members) : phase.Fits s' user := by
  cases phase with
  | foundMemberships userId organizationIds =>
    exact ⟨fits.1, fun o ho => members userId o fits.1 ho (fits.2 o ho)⟩
  | organizationsLoaded userId =>
    refine ⟨fits.1, fun o ho => ?_⟩
    rw [loaded] at ho
    exact members userId o fits.1 ho (fits.2 o ho)
  | _ => exact fits

/-- Memberships change, and none ends that a socket relies on. -/
theorem Kept.withMembers (h : Kept s) {members : List (String × String)}
    (rooms : ∀ c ∈ s.sockets.rows, c.connected → ∀ userId o, c.userId = some userId →
      organizationRoom o ∈ c.rooms → (userId, o) ∈ s.members → (userId, o) ∈ members)
    (joins : ∀ c ∈ s.sockets.rows, ∀ userId o, c.userId = some userId → c.phase.Joins s o →
      (userId, o) ∈ s.members → (userId, o) ∈ members) : Kept { s with members := members } where
  sockets c hc := by
    have kept := h.sockets c hc
    refine { kept with organizations := fun connected o joined => ?_, phase := ?_ }
    · obtain ⟨userId, own, active⟩ := kept.organizations connected o joined
      exact ⟨userId, own, rooms c hc connected userId o own joined active⟩
    · exact kept.phase.of_members rfl (joins c hc)
  registered := h.registered
  sent := h.sent

theorem Kept.endMembership (h : Kept s) {userId organizationId : String} (left : Left s userId organizationId) :
    Kept { s with members := s.members.filter (· ≠ (userId, organizationId)) } := by
  have other {u o : String} (active : (u, o) ∈ s.members) (differs : ¬(u = userId ∧ o = organizationId)) :
      (u, o) ∈ s.members.filter (· ≠ (userId, organizationId)) := by
    refine List.mem_filter.2 ⟨active, decide_eq_true fun same => differs ?_⟩
    exact Prod.mk.inj same
  refine h.withMembers (fun c hc connected u o own joined active => other active ?_)
    fun c hc u o own joins active => other active ?_
  · rintro ⟨rfl, rfl⟩
    exact (left c hc own).1 connected joined
  · rintro ⟨rfl, rfl⟩
    exact (left c hc own).2 joins

/-! ### Steps -/

theorem Kept.advance (h : Kept s) {n : Nat} (clear : Clear s (.advance n))
    (hs : step (.advance n) s = some s') : Kept s' := by
  rw [step] at hs
  obtain ⟨job, hjob, hs⟩ := Option.bind_eq_some_iff.1 hs
  split at hs
  · cases hs
  rename_i userId rest remaining
  cases hs
  have same : Kept { s with jobs := s.jobs.set n { job with remaining := rest } } :=
    h.of_same rfl rfl rfl rfl h.sent
  refine same.sendToUser fun clients => ?_
  have harmless := clear job hjob
  unfold Job.Harmless at harmless
  rw [remaining] at harmless
  exact harmless userId rfl clients

/-- **The step lemma.** -/
theorem Kept.step {a : Action} (h : Kept s) (clear : Clear s a) (hs : step a s = some s') : Kept s' := by
  cases a with
  | connect id payload => exact h.connect clear hs
  | answer id =>
    obtain ⟨c, found, hs⟩ := Option.bind_eq_some_iff.1 hs
    exact h.answer (Table.find_key found ▸ found) hs
  | resume id =>
    obtain ⟨c, found, hs⟩ := Option.bind_eq_some_iff.1 hs
    exact h.resume (Table.find_key found ▸ found) (clear c found) hs
  | fail id =>
    obtain ⟨c, found, hs⟩ := Option.bind_eq_some_iff.1 hs
    exact h.fail (Table.find_key found ▸ found) hs
  | disconnect id =>
    obtain ⟨c, found, rfl⟩ := Option.map_eq_some_iff.1 hs
    obtain ⟨found, -⟩ := Option.filter_eq_some_iff.1 found
    exact h.disconnect (Table.find_key found ▸ found)
  | subscribe id room =>
    obtain ⟨c, found, rfl⟩ := Option.map_eq_some_iff.1 hs
    split
    · exact h
    · exact h.subscribe (mem_client found) (clear c found)
  | unsubscribe id room =>
    obtain ⟨c, found, rfl⟩ := Option.map_eq_some_iff.1 hs
    exact h.unsubscribe (mem_client found) room
  | setUser user =>
    cases hs
    unfold Gateway.withUser
    split
    · exact h.of_same rfl rfl rfl rfl h.sent
    · exact h.of_same rfl rfl rfl rfl h.sent
  | startMembership userId organizationId =>
    cases hs
    exact h.withMembers (fun _ _ _ _ _ _ _ => List.mem_append_left _) fun _ _ _ _ _ _ => List.mem_append_left _
  | endMembership userId organizationId =>
    cases hs
    exact h.endMembership clear
  | tick seconds =>
    cases hs
    exact h.of_same rfl rfl rfl rfl h.sent
  | sendToUser userId event body =>
    cases hs
    exact h.sendToUser fun _ n hn => by cases hn
  | sendToUsers userIds event body =>
    cases hs
    exact h.of_same rfl rfl rfl rfl h.sent
  | sendToOrganization organizationId event body =>
    cases hs
    exact h.sendToOrganization organizationId rfl
  | createNotification userId title id =>
    cases hs
    exact h.of_same rfl rfl rfl rfl h.sent
  | createBulkNotifications userIds title newId =>
    cases hs
    exact h.of_same rfl rfl rfl rfl h.sent
  | advance n => exact h.advance clear hs

end Sockets

/-- In a run of clear steps, messages and records stay with those they are for, and every
connected user's token is one that the HTTP strategy accepted. -/
theorem isolated_of_clear {s₀ s : Gateway} (quiet : Quiet s₀) (run : Reached step Clear s₀ s) : Isolated s :=
  (run.invariant quiet.kept fun h clear hs => h.step clear hs).isolated

/-! ### Two users and one organization -/

/-- Only `u` is a member of `o`, and `v` is suspended. -/
def twoUsers : Gateway where
  users := (Table.empty.insert { id := "u" }).insert { id := "v", status := .suspended }
  members := [("u", "o")]

theorem quiet_twoUsers : Quiet twoUsers := ⟨rfl, rfl, rfl⟩

/-- A client connects with a token for the user, and its connection is handled to the end. -/
def connects (id userId : String) : List Action :=
  [.connect id (some { sub := userId }), .answer id, .resume id, .answer id, .resume id, .resume id,
    .answer id, .resume id, .answer id, .resume id]

/-- A member connects and hears of the organization. -/
theorem member_hears : ∃ s, Reached step Clear twoUsers s ∧
    (∃ e ∈ s.log, e.address = .organization "o" ∧ e.receivers = [("a", some "u")]) ∧ Isolated s := by
  obtain ⟨s, run, heard⟩ := Reached.of_play_any step Clear twoUsers
    (connects "a" "u" ++ [.sendToOrganization "o" "news" "text"])
    (fun s => ∃ e ∈ s.log, e.address = .organization "o" ∧ e.receivers = [("a", some "u")])
    (by decide +kernel)
  exact ⟨s, run, heard, isolated_of_clear quiet_twoUsers run⟩

/-- The suspended user connects, listens to the organization and to the other client, and is
the other one of a bulk send. -/
def intrusion : List Action :=
  connects "a" "u" ++ connects "b" "v" ++ [.subscribe "b" "organization:o", .subscribe "b" "a",
    .sendToOrganization "o" "news" "text", .sendToUser "u" "payment-received" "text",
    .createBulkNotifications ["u", "v"] "Reminder" (fun i => toString i), .advance 0]

/-- The receiver got a message with this address. -/
def Hears (s : Gateway) (address : Address) (receiver : String × Option String) : Prop :=
  ∃ e ∈ s.log, e.address = address ∧ receiver ∈ e.receivers

instance (s : Gateway) (address : Address) (receiver : String × Option String) :
    Decidable (Hears s address receiver) :=
  inferInstanceAs (Decidable (∃ e ∈ s.log, e.address = address ∧ receiver ∈ e.receivers))

theorem intruder_hears : ∃ s, Reached step (fun _ _ => True) twoUsers s ∧ ¬Isolated s ∧
    Hears s (.organization "o") ("b", some "v") ∧ ("v", "o") ∉ s.members ∧
    Hears s (.user "u") ("b", some "v") ∧
    (∃ e ∈ s.log, ("a", some "u") ∈ e.receivers ∧ ∃ n ∈ e.content.notifications, n.userId = "v") ∧
    ∃ c ∈ s.sockets.rows, c.connected ∧ ∃ l ∈ c.login, ¬l.Accepted := by
  obtain ⟨s, run, heard⟩ := Reached.of_play_any step (fun _ _ => True) twoUsers intrusion
    (fun s => Hears s (.organization "o") ("b", some "v") ∧ ("v", "o") ∉ s.members ∧
      Hears s (.user "u") ("b", some "v") ∧
      (∃ e ∈ s.log, ("a", some "u") ∈ e.receivers ∧ ∃ n ∈ e.content.notifications, n.userId = "v") ∧
      ∃ c ∈ s.sockets.rows, c.connected ∧ ∃ l ∈ c.login, ¬l.Accepted) (by decide +kernel)
  refine ⟨s, run, fun isolated => ?_, heard⟩
  obtain ⟨-, -, -, -, c, hc, -, l, hl, rejected⟩ := heard
  exact rejected (isolated.logins c hc l hl)

end Heightt.Realtime

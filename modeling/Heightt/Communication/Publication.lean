import Heightt.Communication.Announcements
import Heightt.ReadCommitted.Executes
import Heightt.ReadCommitted.Invariant
import Heightt.ReadCommitted.SingleCommit

/-!
# Published announcements

The event carries the announcement and its organization, where the gateway looks for the ids
themselves: no room is ever told of an announcement. Besides, the check that it is unpublished
and the update are apart, so calls at the same time publish it and notify the members again.
-/

namespace Heightt.Communication

open Store ReadCommitted Prog Database AnnouncementService

/-- A call, with the identifiers of the notifications it may create. -/
structure PublishCall where
  id : String
  userId : String
  newId : Nat → String

def PublishCall.program (call : PublishCall) : CommunicationAction Unit :=
  publishAnnouncement call.id call.userId call.newId

def begins (db : CommunicationDb) (calls : List PublishCall) : CommunicationSystem :=
  Config.start db {} (calls.map PublishCall.program)

/-- Every call and its listeners have come to their end. -/
def Ended (c : CommunicationSystem) : Prop := ∀ t ∈ c.threads, t.returned ∨ t.threw

instance (c : CommunicationSystem) : Decidable (Ended c) :=
  inferInstanceAs (Decidable (∀ t ∈ c.threads, t.returned ∨ t.threw))

def CommunicationStmt.publishes (id : String) : CommunicationStmt → Bool
  | publish id' _ => id' = id
  | createNotifications _ => false

/-- How often the announcement was published. -/
def publications (c : CommunicationSystem) (id : String) : Nat :=
  (c.log.flatMap Commit.writes).countP (CommunicationStmt.publishes id)

/-- The user's notifications of the announcement. -/
def notificationsOf (c : CommunicationSystem) (id userId : String) : List Notification :=
  c.db.notifications.filter fun n => n.announcementId = id ∧ n.userId = userId

/-- The messages in the organization's room with the announcement's id and title. -/
def messagesOf (c : CommunicationSystem) (a : Announcement) : List (String × AnnouncementMessage) :=
  c.ext.rooms.filter fun e => e.1 = a.organizationId ∧ e.2.announcementId = some a.id ∧ e.2.title = some a.title

/-- In the end the announcement was published at most once, and if it was then every ACTIVE
member has one notification of it and the room was sent one message. -/
def PublishedOnce (c : CommunicationSystem) (a : Announcement) : Prop :=
  Ended c → publications c a.id ≤ 1 ∧ (publications c a.id ≠ 0 →
    (∀ m ∈ c.db.memberships, m.organizationId = a.organizationId → m.active →
      (notificationsOf c a.id m.userId).length = 1) ∧ (messagesOf c a).length = 1)

instance (c : CommunicationSystem) (a : Announcement) : Decidable (PublishedOnce c a) :=
  inferInstanceAs (Decidable (Ended c → publications c a.id ≤ 1 ∧ (publications c a.id ≠ 0 →
    (∀ m ∈ c.db.memberships, m.organizationId = a.organizationId → m.active →
      (notificationsOf c a.id m.userId).length = 1) ∧ (messagesOf c a).length = 1)))

/-! ## What a call does to rooms -/

def CommunicationCall.toRoom : CommunicationCall → Bool
  | sendToOrganization .. => true
  | invalidateAnnouncements _ | invalidateNotifications | sendToUsers .. => false

/-- The event sends nothing to a room. -/
def Silent : Event CommunicationStmt CommunicationCall CommunicationCall.Reply → Prop
  | .answered sent _ | .failed sent => sent.toRoom = false
  | .committed .. => True

section Silence

variable {α : Type}

theorem silent_outside (f : CommunicationDb → α) :
    Makes Silent (outside f : CommunicationAction α) fun _ => True :=
  .outside (fun _ => trivial) fun _ => trivial

theorem silent_query (f : CommunicationDb → α) : Makes Silent (query f : CommunicationAction α) fun _ => True :=
  .query fun _ => trivial

theorem silent_request {sent : CommunicationCall} (h : sent.toRoom = false) :
    Makes Silent (request sent : CommunicationAction (CommunicationCall.Reply sent)) fun _ => True :=
  .request (fun _ => h) h

theorem silent_statement (w : CommunicationStmt) :
    Makes Silent (statement w : CommunicationAction Unit) fun _ => True :=
  .statement fun _ => trivial

theorem silent_hasAnnouncementPermission (userId organizationId : String) :
    Makes Silent (hasAnnouncementPermission userId organizationId) fun _ => True := by
  unfold hasAnnouncementPermission
  refine (silent_outside _).bind fun isPlatformAdmin _ => ?_
  split
  · exact .ret trivial
  refine (silent_outside _).bind fun membership _ => ?_
  split
  · exact .ret trivial
  · exact silent_outside _

theorem silent_update (id : String) (publishedAt : Nat) :
    Makes Silent (update id publishedAt) fun _ => True := by
  refine .transaction (G := fun _ F => Each (fun _ => True) F) ?_ fun _ _ _ _ => ⟨trivial, trivial⟩
  refine (Adds.each_exec trivial).each_bind fun _ => (Adds.each_query _).each_bind fun _ => ?_
  exact .each_orThrow _ _

/-- The gateway finds no organization in the event that the service emits. -/
theorem handleAnnouncementPublished_emitted (published : Announcement) (organization : Organization) :
    NotificationGateway.handleAnnouncementPublished
      { announcement := some published, organization := some organization } = .ret () := rfl

theorem silent_createBulkNotifications (userIds : List String) (notifications : List Notification) :
    Makes Silent (NotificationService.createBulkNotifications userIds notifications) fun _ => True :=
  (silent_statement _).bind fun _ _ => (silent_request rfl).bind fun _ _ => silent_request rfl

theorem silent_notifications (data : PublishedEvent) (newId : Nat → String) :
    Makes Silent (NotificationService.handleAnnouncementPublished data newId) fun _ => True := by
  refine (Makes.orThrow (S := fun _ => True) fun _ _ => trivial).bind fun organization _ => ?_
  refine (silent_outside _).bind fun members _ => ?_
  refine (Makes.orThrow (S := fun _ => True) fun _ _ => trivial).bind fun announcement _ => ?_
  exact silent_createBulkNotifications _ _

theorem silent_publishAnnouncement (id userId : String) (newId : Nat → String) :
    Makes Silent (publishAnnouncement id userId newId) fun _ => True := by
  unfold publishAnnouncement
  refine (silent_outside _).bind fun found _ => ?_
  refine (Makes.orThrow (S := fun _ => True) fun _ _ => trivial).bind fun read _ => ?_
  refine (Makes.ensure _).bind fun _ _ => (silent_hasAnnouncementPermission _ _).bind fun _ _ => ?_
  refine (Makes.ensure _).bind fun _ _ => (silent_query _).bind fun _ _ => ?_
  refine (silent_update _ _).bind fun updated _ => ?_
  have invalidated : Makes Silent (invalidateAnnouncementCache id) fun _ => True := .attempt (silent_request rfl)
  refine invalidated.bind fun _ _ => ?_
  unfold emit
  rw [handleAnnouncementPublished_emitted]
  exact (Makes.attempt (.ret trivial)).bind fun _ _ => .attempt (silent_notifications _ _)

end Silence

/-- **No room is told.** -/
theorem rooms_eq_nil {P : CommunicationSystem → Effect CommunicationStmt CommunicationCall → Prop}
    {db : CommunicationDb} {calls : List PublishCall} {c : CommunicationSystem}
    (run : Reaches P (begins db calls) c) : c.ext.rooms = [] := by
  refine run.invariant_of_makes (P := fun _ => Silent) (fun i p hp => ?_) (fun c => c.ext.rooms = []) rfl
    fun {c c' eff} moves _ none_ => ?_
  · obtain ⟨call, -, rfl⟩ := List.mem_map.1 (List.mem_of_getElem? hp)
    exact silent_publishAnnouncement _ _ _
  cases moves with
  | internal silent db ext past log =>
    rw [ext.resolve_right fun ⟨m, _⟩ => m.elim]
    exact none_
  | commit i nested F admitted valid db ext past log =>
    rw [ext]
    exact none_
  | unsent i sent admitted db ext past log =>
    rw [ext]
    exact none_
  | called i sent answered admitted db ext past log =>
    have elsewhere : sent.toRoom = false := by cases answered <;> exact admitted
    rw [ext]
    cases sent with
    | sendToOrganization o message => cases elsewhere
    | _ => exact none_

/-- An announcement is published as it should be only if it is not published at all. -/
theorem publishedOnce_iff_unpublished {P : CommunicationSystem → Effect CommunicationStmt CommunicationCall → Prop}
    {db : CommunicationDb} {calls : List PublishCall} {c : CommunicationSystem} (a : Announcement)
    (run : Reaches P (begins db calls) c) :
    PublishedOnce c a ↔ (Ended c → publications c a.id = 0) := by
  have silent : messagesOf c a = [] := by
    rw [messagesOf, rooms_eq_nil run]
    rfl
  constructor
  · intro once ended
    by_contra published
    obtain ⟨-, told⟩ := (once ended).2 published
    rw [silent] at told
    cases told
  · intro unpublished ended
    rw [unpublished ended]
    exact ⟨Nat.zero_le 1, fun published => absurd rfl published⟩

/-! ## An announcement to one member -/

def news : Announcement := { id := "n", organizationId := "o", title := "News", content := "text" }

/-- An organization with a member and an admin, and its announcement. -/
def oneAnnouncement : CommunicationDb where
  announcements := Table.empty.insert news
  organizations := Table.empty.insert ⟨"o", "Union"⟩
  memberships := [{ userId := "u", organizationId := "o" }]
  platformAdmins := ["p"]

/-- A call of the user, whose notifications are named after it. -/
def byUser (userId name : String) : PublishCall := ⟨"n", userId, fun i => name ++ toString i⟩

/-- The member may not publish: nothing happens. -/
theorem refused_publishes_nothing : ∃ c, Reaches (fun _ _ => True) (begins oneAnnouncement [byUser "u" "a"]) c ∧
    Ended c ∧ PublishedOnce c news := by
  obtain ⟨c, run, ended, unpublished⟩ := Reaches.of_replay_any (fun _ _ => True)
    (begins oneAnnouncement [byUser "u" "a"]) (takeTurns Empty CommunicationError [(0, 12)])
    (fun c : CommunicationSystem => Ended c ∧ publications c news.id = 0) (by decide +kernel)
  exact ⟨c, run, ended, (publishedOnce_iff_unpublished news run).2 fun _ => unpublished⟩

/-- One call notifies the member and not the room; two calls at the same time publish the
announcement twice and notify the member twice. -/
theorem room_never_told :
    (∃ c, Reaches (fun _ _ => True) (begins oneAnnouncement [byUser "p" "a"]) c ∧ Ended c ∧
      publications c "n" = 1 ∧ (notificationsOf c "n" "u").length = 1 ∧ messagesOf c news = [] ∧
      ¬PublishedOnce c news) ∧
    ∃ c, Reaches (fun _ _ => True) (begins oneAnnouncement [byUser "p" "a", byUser "p" "b"]) c ∧ Ended c ∧
      publications c "n" = 2 ∧ (notificationsOf c "n" "u").length = 2 ∧ ¬PublishedOnce c news := by
  constructor
  · exact Reaches.of_replay_any (fun _ _ => True) (begins oneAnnouncement [byUser "p" "a"])
      (takeTurns Empty CommunicationError [(0, 20)])
      (fun c : CommunicationSystem => Ended c ∧ publications c "n" = 1 ∧
        (notificationsOf c "n" "u").length = 1 ∧ messagesOf c news = [] ∧ ¬PublishedOnce c news)
      (by decide +kernel)
  · exact Reaches.of_replay_any (fun _ _ => True) (begins oneAnnouncement [byUser "p" "a", byUser "p" "b"])
      (takeTurns Empty CommunicationError [(0, 6), (1, 20), (0, 14)])
      (fun c : CommunicationSystem => Ended c ∧ publications c "n" = 2 ∧
        (notificationsOf c "n" "u").length = 2 ∧ ¬PublishedOnce c news) (by decide +kernel)

end Heightt.Communication

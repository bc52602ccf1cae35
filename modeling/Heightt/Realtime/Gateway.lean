import Heightt.Auth.Database
import Heightt.Machines
import Heightt.Store.Table
import Mathlib.Logic.Function.Basic

/-!
# NotificationGateway

The socket server with its rooms, the two maps of the gateway and the rows it reads. A
connection is handled in phases: between the question to the database, its answer and the
handler going on, other steps can happen.
-/

namespace Heightt.Realtime

open Store
open Auth (UserStatus)

structure Account where
  id : String
  status : UserStatus := .active
  emailVerified : Bool := true
  deriving DecidableEq

structure Notification where
  id : String
  userId : String
  title : String
  read : Bool := false
  deriving DecidableEq

/-- The payload of a token whose signature is valid. -/
structure Payload where
  sub : String
  exp : Option Nat := none
  type : Option String := none
  authClient : Option String := none
  deriving DecidableEq

/-- `JwtStrategy.validate`, with the user it finds; `now` is in seconds. -/
def validate (now : Nat) (payload : Payload) (found : Option Account) : Except String Account :=
  if payload.exp.any fun exp => exp ≠ 0 ∧ exp < now then .error "Access token expired"
  else if payload.type.any fun type => type ≠ "" ∧ type ≠ "access" then .error "Invalid token type"
  else match found with
    | none => .error "User not found"
    | some user =>
      if user.status ≠ .active then .error "User account is inactive"
      else if ((payload.authClient.filter (· ≠ "")).getD "USER") = "USER" ∧ ¬user.emailVerified then
        .error "Email verification required"
      else .ok user

/-- Whose token it was, and what the handler found for it. -/
structure Login where
  payload : Payload
  user : Account
  time : Nat
  deriving DecidableEq

/-- Where `handleConnection` waits: for the database, or for its turn with the answer. -/
inductive Phase where
  | findingUser (payload : Payload)
  | foundUser (payload : Payload) (user : Option Account)
  | findingMemberships (userId : String)
  | foundMemberships (userId : String) (organizationIds : List String)
  /-- `userOrganizations` is set and not yet read. -/
  | organizationsLoaded (userId : String)
  | findingUnread (userId : String)
  | foundUnread (userId : String) (notifications : List Notification)
  | counting (userId : String)
  | counted (userId : String) (count : Nat)
  | handled
  deriving DecidableEq

structure Socket where
  id : String
  login : Option Login := none
  connected : Bool := true
  /-- Every socket is in the room of its own id at first. -/
  rooms : List String
  phase : Phase := .handled
  deriving DecidableEq

/-- `client.userId` -/
def Socket.userId (c : Socket) : Option String := c.login.map fun l => l.user.id

inductive Address where
  | user (id : String)
  | organization (id : String)
  | client (id : String)
  deriving DecidableEq

inductive Content where
  | greeting (userId : String)
  | data (event body : String)
  | records (notifications : List Notification)
  | unreadCount (count : Nat)
  deriving DecidableEq

/-- The notification records of a message. -/
def Content.notifications : Content → List Notification
  | records ns => ns
  | greeting _ | data .. | unreadCount _ => []

/-- A message, the sockets that got it with their users, and the ACTIVE memberships then. -/
structure Sent where
  address : Address
  content : Content
  receivers : List (String × Option String)
  members : List (String × String)
  deriving DecidableEq

/-- A send to several users of which some are still to come. -/
structure Job where
  remaining : List String
  content : Content
  deriving DecidableEq

structure Gateway where
  sockets : Table Socket String Socket.id := .empty
  connectedClients : String → List String := fun _ => []
  userOrganizations : String → List String := fun _ => []
  users : Table Account String Account.id := .empty
  /-- The users and organizations of the ACTIVE memberships. -/
  members : List (String × String) := []
  notifications : List Notification := []
  jobs : List Job := []
  /-- The time in seconds. -/
  now : Nat := 0
  log : List Sent := []

def organizationRoom (organizationId : String) : String := "organization:" ++ organizationId

namespace Gateway

variable (s : Gateway)

/-- `server.to(room)`: the sockets that have joined it. -/
def receivers (room : String) : List (String × Option String) :=
  (s.sockets.rows.filter fun c => c.connected ∧ room ∈ c.rooms).map fun c => (c.id, c.userId)

/-- `server.to(room).emit` -/
def emitTo (room : String) (address : Address) (content : Content) : Gateway :=
  { s with log := s.log ++ [⟨address, content, s.receivers room, s.members⟩] }

/-- `client.emit` -/
def emit (c : Socket) (content : Content) : Gateway :=
  { s with log := s.log ++
      [⟨.client c.id, content, if c.connected then [(c.id, c.userId)] else [], s.members⟩] }

def withSocket (c : Socket) (f : Socket → Socket) (hf : ∀ c, (f c).id = c.id) : Gateway :=
  { s with sockets := s.sockets.modify c.id f hf }

def moveTo (c : Socket) (phase : Phase) : Gateway :=
  s.withSocket c (fun c => { c with phase := phase }) fun _ => rfl

def close (c : Socket) : Gateway :=
  s.withSocket c (fun c => { c with connected := false, rooms := [] }) fun _ => rfl

/-- The first entry of the socket goes. -/
def handleDisconnect (c : Socket) : Gateway :=
  match c.userId with
  | none => s
  | some userId =>
    { s with
      connectedClients := Function.update s.connectedClients userId ((s.connectedClients userId).erase c.id) }

/-- `client.disconnect`, which does nothing to a client that has disconnected. -/
def disconnect (c : Socket) : Gateway := if c.connected then (s.close c).handleDisconnect c else s

def sendToSockets (userId : String) (content : Content) (socketIds : List String) : Gateway :=
  socketIds.foldl (fun s socketId => s.emitTo socketId (.user userId) content) s

def sendToUser (userId : String) (content : Content) : Gateway :=
  s.sendToSockets userId content (s.connectedClients userId)

def sendToOrganization (organizationId : String) (content : Content) : Gateway :=
  s.emitTo (organizationRoom organizationId) (.organization organizationId) content

def unread (userId : String) : List Notification :=
  s.notifications.filter fun n => n.userId = userId ∧ ¬n.read

/-- The database answers what the connection waits for. -/
def answer (c : Socket) : Phase → Option Gateway
  | .findingUser payload => some (s.moveTo c (.foundUser payload (s.users.find payload.sub)))
  | .findingMemberships userId => some (s.moveTo c (.foundMemberships userId
      ((s.members.filter fun m => m.1 = userId).map Prod.snd)))
  | .findingUnread userId => some (s.moveTo c (.foundUnread userId ((s.unread userId).reverse.take 10)))
  | .counting userId => some (s.moveTo c (.counted userId (s.unread userId).length))
  | .foundUser .. | .foundMemberships .. | .organizationsLoaded _ | .foundUnread .. | .counted ..
  | .handled => none

/-- `client.userId` is set, and the socket registered. -/
def authenticate (c : Socket) (payload : Payload) (user : Account) : Gateway :=
  { s.withSocket c (fun c => { c with login := some ⟨payload, user, s.now⟩
                                      phase := .findingMemberships user.id }) fun _ => rfl with
    connectedClients := Function.update s.connectedClients user.id (s.connectedClients user.id ++ [c.id]) }

def joinOrganizations (c : Socket) (userId : String) : Gateway :=
  s.withSocket c (fun c => { c with rooms := c.rooms ++ (s.userOrganizations userId).map organizationRoom
                                    phase := .findingUnread userId }) fun _ => rfl

/-- `handleConnection` goes on with the answer. -/
def resume (c : Socket) : Phase → Option Gateway
  | .foundUser _ none => some ((s.moveTo c .handled).disconnect c)
  | .foundUser payload (some user) => some (s.authenticate c payload user)
  | .foundMemberships userId organizationIds => some
      { s.moveTo c (.organizationsLoaded userId) with
        userOrganizations := Function.update s.userOrganizations userId organizationIds }
  | .organizationsLoaded userId => some ((s.joinOrganizations c userId).emit c (.greeting userId))
  | .foundUnread userId notifications =>
    let s := if notifications = [] then s else s.emit c (.records notifications)
    some (s.moveTo c (.counting userId))
  | .counted userId count => some ((s.moveTo c .handled).sendToUser userId (.unreadCount count))
  | .findingUser _ | .findingMemberships _ | .findingUnread _ | .counting _ | .handled => none

/-- A question failed: the handler disconnects the client. -/
def fail (c : Socket) : Phase → Option Gateway
  | .findingUser _ | .findingMemberships _ | .findingUnread _ | .counting _ =>
    some ((s.moveTo c .handled).disconnect c)
  | .foundUser .. | .foundMemberships .. | .organizationsLoaded _ | .foundUnread .. | .counted ..
  | .handled => none

end Gateway

/-- What clients, the database and the rest of the server do. -/
inductive Action where
  /-- A socket connects; the payload is missing if its token is missing or invalid. -/
  | connect (id : String) (payload : Option Payload)
  | answer (id : String)
  | resume (id : String)
  | fail (id : String)
  | disconnect (id : String)
  | subscribe (id room : String)
  | unsubscribe (id room : String)
  | setUser (user : Account)
  | startMembership (userId organizationId : String)
  | endMembership (userId organizationId : String)
  | tick (seconds : Nat)
  | sendToUser (userId event body : String)
  | sendToUsers (userIds : List String) (event body : String)
  | sendToOrganization (organizationId event body : String)
  | createNotification (userId title id : String)
  | createBulkNotifications (userIds : List String) (title : String) (newId : Nat → String)
  /-- The `n`-th job sends to its next user. -/
  | advance (n : Nat)

namespace Gateway

def withUser (s : Gateway) (user : Account) : Gateway :=
  if (s.users.find user.id).isSome then
    { s with
      users := s.users.modify user.id
        (fun u => { u with status := user.status, emailVerified := user.emailVerified }) fun _ => rfl }
  else { s with users := s.users.insert user }

/-- Save the notifications, and begin to send them to the users. -/
def createNotifications (s : Gateway) (userIds : List String) (notifications : List Notification) : Gateway :=
  { s with notifications := s.notifications ++ notifications
           jobs := s.jobs ++ [⟨userIds, .records notifications⟩] }

/-- A connected client whose user is known. -/
def client (s : Gateway) (id : String) : Option Socket :=
  (s.sockets.find id).filter fun c => c.connected ∧ c.login.isSome

end Gateway

open Gateway in
/-- One step. The ids of sockets are fresh and have no colon. -/
def step : Action → Gateway → Option Gateway
  | .connect id payload, s =>
    if (s.sockets.find id).isSome ∨ ':' ∈ id.toList then none
    else match payload with
      | none => some { s with sockets := s.sockets.insert { id := id, connected := false, rooms := [] } }
      | some payload =>
      some { s with sockets := s.sockets.insert { id := id, rooms := [id], phase := .findingUser payload } }
  | .answer id, s => (s.sockets.find id).bind fun c => s.answer c c.phase
  | .resume id, s => (s.sockets.find id).bind fun c => s.resume c c.phase
  | .fail id, s => (s.sockets.find id).bind fun c => s.fail c c.phase
  | .disconnect id, s => ((s.sockets.find id).filter Socket.connected).map fun c => s.disconnect c
  | .subscribe id room, s => (s.client id).map fun c =>
    if room = "" then s
    else s.withSocket c (fun c => { c with rooms := c.rooms ++ [room] }) fun _ => rfl
  | .unsubscribe id room, s => (s.client id).map fun c =>
    s.withSocket c (fun c => { c with rooms := c.rooms.filter (· ≠ room) }) fun _ => rfl
  | .setUser user, s => some (s.withUser user)
  | .startMembership userId organizationId, s =>
    some { s with members := s.members ++ [(userId, organizationId)] }
  | .endMembership userId organizationId, s =>
    some { s with members := s.members.filter (· ≠ (userId, organizationId)) }
  | .tick seconds, s => some { s with now := s.now + seconds }
  | .sendToUser userId event body, s => some (s.sendToUser userId (.data event body))
  | .sendToUsers userIds event body, s => some { s with jobs := s.jobs ++ [⟨userIds, .data event body⟩] }
  | .sendToOrganization organizationId event body, s =>
    some (s.sendToOrganization organizationId (.data event body))
  | .createNotification userId title id, s =>
    some (s.createNotifications [userId] [{ id := id, userId := userId, title := title }])
  | .createBulkNotifications userIds title newId, s => some (s.createNotifications userIds
      (userIds.mapIdx fun i userId => { id := newId i, userId := userId, title := title }))
  | .advance n, s => s.jobs[n]?.bind fun job => match job.remaining with
    | [] => none
    | userId :: rest => some
        ({ s with jobs := s.jobs.set n { job with remaining := rest } }.sendToUser userId job.content)

end Heightt.Realtime

import Heightt.Caching.Responses

/-!
# When a key stands for one response

A key that comes from a plain request is read back: what it says determines what the handler asks the
services for. So a response that the cache holds under the key of a plain request is the one its
handler would return.
-/

namespace Heightt.Caching

open Store Segments

/-- The printed value says which value it was. -/
def Part.Plain : Part → Prop
  | word _ | choice .. => True
  | number x _ => x ≠ some ""
  | filter x d => x ≠ some d
  | raw x => x ≠ some "undefined"

instance : (p : Part) → Decidable p.Plain
  | .word _ | .choice .. => isTrue trivial
  | .number x _ => inferInstanceAs (Decidable (x ≠ some ""))
  | .filter x d => inferInstanceAs (Decidable (x ≠ some d))
  | .raw x => inferInstanceAs (Decidable (x ≠ some "undefined"))

/-- Only the last part of the key may contain a colon. -/
structure Plain (parts : List Part) : Prop where
  values : ∀ p ∈ parts, p.Plain
  apart : ∀ p ∈ parts.dropLast, ':' ∉ p.print.toList

instance (parts : List Part) : Decidable (Plain parts) :=
  decidable_of_iff ((∀ p ∈ parts, p.Plain) ∧ ∀ p ∈ parts.dropLast, ':' ∉ p.print.toList)
    ⟨fun ⟨values, apart⟩ => ⟨values, apart⟩, fun h => ⟨h.values, h.apart⟩⟩

/-- The id reads like the rest of another endpoint's key. -/
def takenStudent : List String → Bool
  | w :: _ :: _ => ["user", "dashboard", "academic-records", "promotions", "verifications"].contains w
  | _ => false

def takenAnnouncement : List String → Bool
  | w :: _ :: _ => w == "stats"
  | _ => false

def takenOrganization : List String → Bool
  | w :: v :: u :: ws =>
    w == "slug" || v == "members" && 4 ≤ ws.length || v == "join-requests" && u == "pending" && 2 ≤ ws.length ||
      v == "join-requests" && u == "stats" && ws.isEmpty
  | _ => false

def takenFile : List String → Bool
  | w :: _ :: _ :: _ :: _ => w == "url"
  | _ => false

/-- The announcement, if there is one, has not expired. -/
def Current {R : Type} (d : Database R) (id : String) : Prop :=
  ∀ row ∈ d.announcements.find id, row.expired d.now = false

instance {R : Type} (d : Database R) (id : String) : Decidable (Current d id) :=
  inferInstanceAs (Decidable (∀ row ∈ d.announcements.find id, row.expired d.now = false))

section

variable {R : Type} (d : Database R)

/-- No other endpoint or service has the key for something else. -/
def Request.Free : Request → Prop
  | getAllStudents page .. => orElse page "1" ∉ ["admin-dashboard", "stats", "eligible"]
  | getStudentById id => takenStudent (segments ':' id) = false
  | getAnnouncementById id => takenAnnouncement (segments ':' id) = false ∧ Current d id
  | getAllOrganizations page .. => orElse page "1" ≠ "stats"
  | getOrganizationById id => takenOrganization (segments ':' id) = false
  | getMembers id .. | getPendingJoinRequests id .. | getOrganizationJoinRequestStats id => id ≠ "slug"
  | getFileById id => takenFile (segments ':' id) = false
  | getUserOrganizations userId => userId ∉ ["profile", "email", "sessions", "permissions"]
  -- The services store other values under these keys.
  | getPromotionHistory _ | getCurrentUser _ | findById _ => False
  | _ => True

instance : (r : Request) → Decidable (r.Free d) := by
  intro r
  cases r <;> unfold Request.Free <;> infer_instance

def ServiceRead.Free : ServiceRead → Prop
  | getStudentById id => takenStudent (segments ':' id) = false
  | getAnnouncementById id => takenAnnouncement (segments ':' id) = false
  | getOrganizationById id => takenOrganization (segments ':' id) = false
  | getFileById id => takenFile (segments ':' id) = false
  | _ => True

end

/-! ### Reading a key back -/

/-- The value whose printed form is `t`, if `d` stands for a missing one. -/
def without (d t : String) : Option String := if t = d then none else some t

def readStudent : List String → Option Reading
  | w :: v :: ws =>
    if w = "user" then some (.studentOfUser (joined ':' (v :: ws)))
    else if w = "dashboard" then some (.studentDashboard (joined ':' (v :: ws)))
    else if w = "academic-records" then some (.academicRecords (joined ':' (v :: ws)))
    else if w = "verifications" then some (.verifications (joined ':' (v :: ws)))
    else if w = "promotions" then none
    else some (.student (joined ':' (w :: v :: ws)))
  | ws => some (.student (joined ':' ws))

def readStudents : List String → Option Reading
  | p :: ws =>
    if p = "admin-dashboard" then some (.adminDashboard (without "all" (joined ':' ws)))
    else if p = "stats" then some (.studentStats (without "all" (joined ':' ws)))
    else if p = "eligible" then
      match ws with
      | l :: o :: p :: ws =>
        some (.eligibleStudents (without "undefined" l) (without "all" o) (parseInt p) (parseInt (joined ':' ws)))
      | _ => none
    else
      match ws with
      | l :: o :: i :: f :: g :: a :: s :: t :: v :: ws =>
        some (.students (parseInt p) (parseInt l) (without "all" o) (without "all" i) (without "all" f) (without "all" g)
          (without "all" a) (without "all" s) (without "all" t) (without "all" v) (without "all" (joined ':' ws)))
      | _ => none
  | _ => none

def readAnnouncement : List String → Option Reading
  | w :: v :: ws =>
    if w = "stats" then some (.announcementStats (without "all" (joined ':' (v :: ws))))
    else some (.announcement (joined ':' (w :: v :: ws)))
  | ws => some (.announcement (joined ':' ws))

def readAnnouncements : List String → Option Reading
  | _ :: o :: p :: l :: i :: t :: ws =>
    some (.announcements (without "all" o) (parseInt p) (parseInt l) (flag (some i)) (without "all" t)
      (without "all" (joined ':' ws)))
  | _ => none

def readNotifications : List String → Option Reading
  | w :: ws =>
    if w = "user" then
      match ws with
      | u :: p :: l :: r :: ws =>
        some (.notifications u (parseInt p) (parseInt l) (flag (some r)) (without "all" (joined ':' ws)))
      | _ => none
    else if w = "unread" then some (.unreadCount (joined ':' ws))
    else some (.preferences (joined ':' ws))
  | _ => none

def readOrganization : List String → Option Reading
  | w :: v :: u :: ws =>
    if w = "slug" then some (.organizationBySlug v (given (without "undefined" (joined ':' (u :: ws)))))
    else if v = "members" ∧ 4 ≤ ws.length then
      match ws with
      | l :: s :: t :: ws =>
        some (.members w (parseInt u) (parseInt l) (without "all" s) (without "all" t) (without "all" (joined ':' ws)))
      | _ => none
    else if v = "join-requests" ∧ u = "pending" ∧ 2 ≤ ws.length then
      match ws with
      | p :: ws => some (.pendingJoinRequests w (parseInt p) (parseInt (joined ':' ws)))
      | _ => none
    else if v = "join-requests" ∧ u = "stats" ∧ ws = [] then some (.joinRequestStats w)
    else some (.organization (joined ':' (w :: v :: u :: ws)))
  | ws => some (.organization (joined ':' ws))

def readOrganizations : List String → Option Reading
  | p :: l :: ws =>
    if p = "stats" then some (.organizationStats (without "all" l) (without "all" (joined ':' ws)))
    else
      match ws with
      | i :: _ :: t :: c :: s :: o :: ws =>
        some (.organizations (parseInt p) (parseInt l) (without "all" i) (without "all" t) (without "all" c)
          (without "all" s) (without "all" o) (without "all" (joined ':' ws)))
      | _ => none
  | _ => none

def readFile : List String → Option Reading
  | w :: i :: x :: y :: ws =>
    if w = "url" then some (.fileUrl i (dimension (some x)) (dimension (some (joined ':' (y :: ws)))))
    else some (.file (joined ':' (w :: i :: x :: y :: ws)))
  | ws => some (.file (joined ':' ws))

def readFiles : List String → Option Reading
  | w :: ws =>
    if w = "list" then
      match ws with
      | u :: o :: t :: p :: ws =>
        some (.files u (without "all" o) (without "all" t) (parseInt p) (parseInt (joined ':' ws)))
      | _ => none
    else if w = "purpose" then
      match ws with
      | t :: u :: p :: ws => some (.files u none (given (some t)) (parseInt p) (parseInt (joined ':' ws)))
      | _ => none
    else if w = "entity" then
      match ws with
      | t :: ws => some (.filesByEntity t (joined ':' ws))
      | _ => none
    else if w = "stats" then some (.fileStats (joined ':' ws))
    else
      match ws with
      | p :: l :: u :: o :: ws =>
        some (.allFiles (without "all" u) (without "all" o) (without "all" (joined ':' ws)) (parseInt p) (parseInt l))
      | _ => none
  | _ => none

def readUser : List String → Option Reading
  | w :: ws =>
    if w = "profile" then none
    else if w = "email" then some (.userByEmail (joined ':' ws).toLower)
    else if w = "sessions" then some (.sessions (joined ':' ws))
    else if w = "permissions" then some (.permissions (joined ':' ws))
    else some (.userOrganizations w)
  | _ => none

def readUsers : List String → Option Reading
  | p :: l :: e :: u :: s :: a :: ws =>
    some (.users (parseInt p) (parseInt l) (without "all" e) (without "all" u) (without "all" s) (without "all" a)
      (without "all" (joined ':' ws)))
  | _ => some .userStats

/-- What the segments of a key ask for, or `none` where several services store different values
under it. -/
def reading : List String → Option Reading
  | w :: ws =>
    if w = "student" then readStudent ws
    else if w = "students" then readStudents ws
    else if w = "promotions" then some (.promotionStats (without "all" (joined ':' ws.tail)))
    else if w = "announcement" then readAnnouncement ws
    else if w = "announcements" then readAnnouncements ws
    else if w = "notifications" then readNotifications ws
    else if w = "organization" then readOrganization ws
    else if w = "organizations" then readOrganizations ws
    else if w = "file" then readFile ws
    else if w = "files" then readFiles ws
    else if w = "email" then
      match ws with
      | _ :: e :: ws => some (.emailAvailability (without "undefined" e) (without "none" (joined ':' ws)))
      | _ => none
    else if w = "user" then readUser ws
    else if w = "users" then readUsers ws
    else some (.usernameAvailability (without "undefined" (joined ':' ws.tail)))
  | [] => none

theorem given_some {t : String} (h : t ≠ "") : given (some t) = some t := by simp [given, Option.filter_some, h]

theorem given_eq_some {x : Option String} {t : String} (h : given x = some t) : x = some t ∧ t ≠ "" := by
  simpa using Option.filter_eq_some_iff.1 h

theorem without_orElse {x : Option String} {d : String} (h : x ≠ some d) : without d (orElse x d) = given x := by
  unfold without orElse
  cases eq : given x with
  | none => simp
  | some t =>
    rw [Option.getD_some, if_neg]
    rintro rfl
    exact h (given_eq_some eq).1

theorem without_printed {x : Option String} (h : x ≠ some "undefined") : without "undefined" (printed x) = x := by
  cases x with
  | none => rfl
  | some t =>
    rw [without, printed, Option.getD_some, if_neg]
    rintro rfl
    exact h rfl

theorem parseInt_orElse {x : Option String} {d : String} (h : x ≠ some "") : parseInt (orElse x d) = paging x d := by
  cases x with
  | none => rfl
  | some t =>
    have : t ≠ "" := fun eq => h (congrArg some eq)
    rw [orElse, given_some this, paging]

theorem flag_orElse (x : Option String) : flag (some (orElse x "all")) = flag x := by
  cases x with
  | none => rfl
  | some t =>
    by_cases empty : t = ""
    · subst empty
      rfl
    · rw [orElse, given_some empty, Option.getD_some]

theorem dimension_orElse (x : Option String) : dimension (some (orElse x "original")) = dimension x := by
  unfold dimension orElse
  cases eq : given x with
  | none => rfl
  | some t => rw [Option.getD_some, given_some (given_eq_some eq).2]

/-- The segments of a key are its parts, but for the last. -/
theorem Plain.segments_template {parts : List Part} (h : Plain parts) (ne : parts ≠ []) :
    segments ':' (template parts) = parts.dropLast.map Part.print ++ segments ':' (parts.getLast ne).print := by
  conv_lhs => rw [← List.dropLast_concat_getLast ne]
  rw [template, List.map_append]
  apply segments_joined
  intro w mem
  obtain ⟨p, dropped, rfl⟩ := List.mem_map.1 mem
  exact h.apart p dropped

section

attribute [local simp] readStudent readAnnouncement readOrganization readFile

theorem readStudent_segments (w t : String) :
    readStudent (w :: segments ':' t) =
      if w = "user" then some (.studentOfUser t)
      else if w = "dashboard" then some (.studentDashboard t)
      else if w = "academic-records" then some (.academicRecords t)
      else if w = "verifications" then some (.verifications t)
      else if w = "promotions" then none
      else some (.student (joined ':' (w :: segments ':' t))) := by
  obtain ⟨v, vs, eq, rejoined⟩ := segments_eq_cons ':' t
  rw [eq, readStudent, rejoined]

/-- An id that no other endpoint uses is read as an id. -/
theorem readStudent_id {id : String} (h : takenStudent (segments ':' id) = false) :
    readStudent (segments ':' id) = some (.student id) := by
  have whole : joined ':' (segments ':' id) = id := joined_segments id
  generalize segments ':' id = ws at *
  fun_cases takenStudent ws with
  | case1 w v vs =>
    simp [takenStudent] at h
    simp [readStudent, h, whole]
  | case2 ws short =>
    unfold readStudent
    split
    · exact absurd rfl (short _ _ _)
    · rw [whole]

theorem readAnnouncement_segments (t : String) :
    readAnnouncement ("stats" :: segments ':' t) = some (.announcementStats (without "all" t)) := by
  obtain ⟨v, vs, eq, rejoined⟩ := segments_eq_cons ':' t
  rw [eq, readAnnouncement, rejoined, if_pos rfl]

theorem readAnnouncement_id {id : String} (h : takenAnnouncement (segments ':' id) = false) :
    readAnnouncement (segments ':' id) = some (.announcement id) := by
  have whole : joined ':' (segments ':' id) = id := joined_segments id
  generalize segments ':' id = ws at *
  fun_cases takenAnnouncement ws with
  | case1 w v vs =>
    simp [takenAnnouncement] at h
    simp [readAnnouncement, h, whole]
  | case2 ws short =>
    unfold readAnnouncement
    split
    · exact absurd rfl (short _ _ _)
    · rw [whole]

theorem readOrganization_slug (slug t : String) :
    readOrganization ("slug" :: slug :: segments ':' t) =
      some (.organizationBySlug slug (given (without "undefined" t))) := by
  obtain ⟨v, vs, eq, rejoined⟩ := segments_eq_cons ':' t
  simp [eq, readOrganization, rejoined]

theorem readOrganization_members {id : String} (h : id ≠ "slug") (page limit status type t : String) :
    readOrganization (id :: "members" :: page :: limit :: status :: type :: segments ':' t) =
      some (.members id (parseInt page) (parseInt limit) (without "all" status) (without "all" type)
        (without "all" t)) := by
  have : 4 ≤ (limit :: status :: type :: segments ':' t).length := by
    have : segments ':' t ≠ [] := segments_ne_nil t
    rw [← List.length_pos_iff] at this
    simp only [List.length_cons]
    omega
  rw [readOrganization, if_neg h, if_pos ⟨rfl, this⟩]
  simp

theorem readOrganization_pending {id : String} (h : id ≠ "slug") (page t : String) :
    readOrganization (id :: "join-requests" :: "pending" :: page :: segments ':' t) =
      some (.pendingJoinRequests id (parseInt page) (parseInt t)) := by
  simp [readOrganization, h, segments_ne_nil]

theorem readOrganization_stats {id : String} (h : id ≠ "slug") :
    readOrganization [id, "join-requests", "stats"] = some (.joinRequestStats id) := by
  simp [readOrganization, h]

theorem readOrganization_id {id : String} (h : takenOrganization (segments ':' id) = false) :
    readOrganization (segments ':' id) = some (.organization id) := by
  have whole : joined ':' (segments ':' id) = id := joined_segments id
  generalize segments ':' id = ws at *
  fun_cases takenOrganization ws with
  | case1 w v u vs =>
    simp [takenOrganization] at h
    simp [readOrganization, whole]
    grind
  | case2 ws short =>
    unfold readOrganization
    split
    · exact absurd rfl (short _ _ _ _)
    · rw [whole]

theorem readFile_url (id width t : String) :
    readFile ("url" :: id :: width :: segments ':' t) =
      some (.fileUrl id (dimension (some width)) (dimension (some t))) := by
  obtain ⟨v, vs, eq, rejoined⟩ := segments_eq_cons ':' t
  rw [eq, readFile, rejoined, if_pos rfl]

theorem readFile_id {id : String} (h : takenFile (segments ':' id) = false) :
    readFile (segments ':' id) = some (.file id) := by
  have whole : joined ':' (segments ':' id) = id := joined_segments id
  generalize segments ':' id = ws at *
  fun_cases takenFile ws with
  | case1 w v u x vs =>
    simp [takenFile] at h
    simp [readFile, h, whole]
  | case2 ws short =>
    unfold readFile
    split
    · exact absurd rfl (short _ _ _ _ _)
    · rw [whole]

end

theorem segments_stats : segments ':' "stats" = ["stats"] := segments_of_notMem (by decide)

/-- **The key of a plain request says what its handler reads.** -/
theorem reading_key {R : Type} {d : Database R} {r : Request} (h : Plain r.parts) (free : r.Free d) :
    reading (segments ':' r.key) = some r.reading := by
  have ne : r.parts ≠ [] := by cases r <;> exact List.cons_ne_nil _ _
  have values := h.values
  rw [Request.key, h.segments_template ne]
  clear h
  -- The values that the key prints are read back one by one.
  cases r <;> simp only [Request.parts, List.forall_mem_cons] at values <;>
    simp only [Request.parts, Part.Plain, List.dropLast, List.map_cons, List.getLast_cons_cons, List.getLast_singleton,
      Part.print, List.cons_append, List.nil_append, List.map_nil, true_and, and_true, Request.Free, List.not_mem_nil,
      false_implies, implies_true, List.mem_cons, not_or, or_false] at values free ⊢ <;>
    simp [reading, Request.reading, readStudents, readAnnouncements, readNotifications, readOrganizations, readFiles,
      readUser, readUsers, without_orElse, parseInt_orElse, without_printed, flag_orElse, dimension_orElse,
      readStudent_segments, readStudent_id, readAnnouncement_id, readOrganization_slug, readOrganization_members,
      readOrganization_pending, readOrganization_stats, segments_stats, readOrganization_id, readFile_url, readFile_id,
      *]

theorem toLower_toLower (t : String) : t.toLower.toLower = t.toLower := by
  have same (c : Char) : c.toLower.toLower = c.toLower := by
    by_cases upper : c.val ≥ 'A'.val ∧ c.val ≤ 'Z'.val
    · have value : c.toLower.val = c.val + 32 := by
        rw [show c.toLower = _ from dif_pos upper]
        rfl
      refine dif_neg fun again => ?_
      rw [value] at again
      grind
    · have : c.toLower = c := dif_neg upper
      rw [this, this]
  apply String.toList_injective
  show ((t.map Char.toLower).map Char.toLower).toList = (t.map Char.toLower).toList
  rw [String.toList_map, String.toList_map, List.map_map]
  exact List.map_congr_left fun c _ => same c

/-- Under the key of the read the services store values of different shapes. -/
def ServiceRead.Mixed : ServiceRead → Prop
  | getPromotionHistory _ | getPromotionPage _ | findById _ | getCurrentUser _ | adminLogin _ => True
  | _ => False

theorem readStudent_promotions (studentId t : String) (ws : List String) :
    readStudent ("promotions" :: studentId :: t :: ws) = none := rfl

theorem reading_service {s : ServiceRead} (h : Plain s.parts) (free : s.Free) :
    s.Mixed ∧ reading (segments ':' s.key) = none ∨ reading (segments ':' s.key) = some s.reading := by
  have ne : s.parts ≠ [] := by cases s <;> exact List.cons_ne_nil _ _
  have values := h.values
  rw [ServiceRead.key, h.segments_template ne]
  clear h
  cases s <;> simp only [ServiceRead.parts, List.forall_mem_cons] at values <;>
    simp only [ServiceRead.parts, Part.Plain, List.dropLast, List.map_cons, List.getLast_cons_cons,
      List.getLast_singleton, Part.print, List.cons_append, List.nil_append, List.map_nil, true_and, and_true,
      ServiceRead.Free, List.not_mem_nil, false_implies, implies_true] at values free ⊢ <;>
    simp [reading, ServiceRead.reading, ServiceRead.Mixed, readStudents, readNotifications, readUser, readUsers,
      without_orElse, readStudent_segments, readStudent_promotions, readStudent_id, readAnnouncement_segments,
      readAnnouncement_id, readOrganization_id, readFile_id, segments_stats, toLower_toLower, *]

/-! ### Hits of the cache -/

/-- Whoever stores a value in the cache. -/
inductive Access where
  | request (r : Request)
  | service (s : ServiceRead)

def Access.key : Access → String
  | request r => r.key
  | service s => s.key

/-- What is stored, if there was no error. -/
def Access.result {R V : Type} (read : Database R → Reading → Except HttpError V) (d : Database R) :
    Access → Except HttpError (Body V)
  | request r => response read d r
  | service s => answer read d s.reading

def Request.Clear {R : Type} (d : Database R) (r : Request) : Prop := Plain r.parts ∧ r.Free d

def Access.Clear {R : Type} (d : Database R) : Access → Prop
  | request r => r.Clear d
  | service s => Plain s.parts ∧ s.Free

instance {R : Type} (d : Database R) (r : Request) : Decidable (r.Clear d) :=
  inferInstanceAs (Decidable (Plain r.parts ∧ r.Free d))

section

variable {R V : Type} (read : Database R → Reading → Except HttpError V) (d : Database R)

theorem response_eq_answer {r : Request} (free : r.Free d) : response read d r = answer read d r.reading := by
  cases r with
  | getAnnouncementById id =>
    rw [response, Request.reading, answer]
    cases found : d.announcements.find id with
    | none => rfl
    | some row =>
      have current : row.expired d.now = false := free.2 row found
      simp only [Except.map, Body.dated, current]
  | _ => rfl

/-- An announcement's id that says `stats:` shares its key with an organization's statistics. -/
theorem key_announcement_stats {organizationId : String} (h : organizationId ≠ "") :
    (Request.getAnnouncementById ("stats:" ++ organizationId)).key =
      (ServiceRead.getAnnouncementStats (some organizationId)).key := by
  have printed : orElse (some organizationId) "all" = organizationId := by rw [orElse, given_some h, Option.getD_some]
  simp [Request.key, ServiceRead.key, Request.parts, ServiceRead.parts, template, Part.print, joined, printed]

/-- A student's id that says `user:` shares its key with the profile of the user. -/
theorem key_student_user (userId : String) :
    (Request.getStudentById ("user:" ++ userId)).key = (Request.getCurrentStudent userId).key := by
  simp [Request.key, Request.parts, template, Part.print, joined]

end

/-- A search for a colon on the first page, asked for or not. -/
def searched (page : Option String) : Request :=
  .getAllStudents page none none none none none none none none none (some "a:b")

/-- One draft and a service that has counted it. -/
def drafted : Database Unit where
  announcements := Table.empty.insert
    { id := "a1", organizationId := "o1", title := "Notice", content := "Soon" }
  rest := ()

end Heightt.Caching

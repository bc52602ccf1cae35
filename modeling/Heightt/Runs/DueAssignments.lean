import Heightt.Finance.Dues
import Heightt.ReadCommitted.Inside
import Heightt.ReadCommitted.ServedInTurn

/-!
# The assignments of dues

A request assigns a due to the students of its audience among those it names, and passes over the students
who have an assignment. So requests that are served in turn only add rows, one for each student and due, and a
request that is repeated adds none.
-/

namespace Heightt

open ReadCommitted Prog Store Database FinanceService

/-! ## One request -/

structure AssignRequest where
  dueId : Id
  dto : AssignDueDto
  newIds : Id → Id

def AssignRequest.program (q : AssignRequest) : Action Nat := assignDueToStudents q.dueId q.dto q.newIds

/-- Two requests to assign the same due to the same students. -/
def AssignRequest.Same (q q' : AssignRequest) : Prop := q.dueId = q'.dueId ∧ q.dto = q'.dto

def AssignRequest.due (q : AssignRequest) (d : Db) : Option Due :=
  d.dues.findFirst fun due => due.id = q.dueId ∧ due.deletedAt = none

/-- The student is named by identifier, department or level. -/
def AssignRequest.Names (q : AssignRequest) (s : StudentProfile) : Prop :=
  s.id ∈ q.dto.studentIds ∨ q.dto.departmentId = some s.departmentId ∨
    ∃ level, q.dto.levelId = some level ∧ s.currentAcademicLevelId = some level

/-- The student gets an assignment of the due. -/
def AssignRequest.Chooses (q : AssignRequest) (d : Db) (due : Due) (id : Id) : Prop :=
  ∃ s ∈ d.studentProfiles.rows, s.id = id ∧ q.Names s ∧ studentAudience due s = true

def Unassigned (d : Db) (dueId studentId : Id) : Prop :=
  ∀ a ∈ d.dueAssignments.rows, a.dueId = dueId → a.studentId ≠ studentId

/-- The row of a new assignment. -/
def AssignRequest.assignment (q : AssignRequest) (due : Due) (studentId : Id) : DueAssignment where
  id := q.newIds studentId
  dueId := q.dueId
  studentId := studentId
  amount := due.amount

/-- The request has assigned the due to `ids` since the state `d`. -/
structure AssignRequest.Assigned (q : AssignRequest) (due : Due) (ids : List Id) (d d' : Db) : Prop where
  rows : d'.dueAssignments.rows = d.dueAssignments.rows ++ ids.map (q.assignment due)
  rest : { d' with dueAssignments := d.dueAssignments } = d

section

variable {q : AssignRequest} {due : Due} {ids : List Id} {d d' : Db} {x : Services}

theorem AssignRequest.Assigned.add (h : q.Assigned due ids d d') (id : Id)
    (valid : check (Stmt.createDueAssignment (q.assignment due id)) d' = none) :
    q.Assigned due (ids ++ [id]) d (apply (Stmt.createDueAssignment (q.assignment due id)) d') := by
  have free : d'.dueAssignments.find (q.assignment due id).id = none := by
    have unused := Stmt.unique_eq_none.1 (Option.or_eq_none_iff.1 valid).1
    exact Option.isNone_iff_eq_none.1 (Option.isSome_eq_false_iff.1 unused)
  constructor
  · show (d'.dueAssignments.insert (q.assignment due id)).rows = _
    rw [Table.insert_rows free, h.rows, List.map_append, List.append_assoc]
    rfl
  · exact h.rest

theorem inside_assigns (ids : List Id) :
    Inside Services (forEach ids fun id => exec (.createDueAssignment (q.assignment due id)) : Action Unit) d
      fun _ d' => q.Assigned due ids d d' := by
  refine (Inside.forEach (I := fun left d' => ∃ done, done ++ left = ids ∧ q.Assigned due done d d')
    ⟨[], rfl, ⟨(List.append_nil _).symm, rfl⟩⟩ ?_).mono ?_
  · rintro id left d' ⟨done, rfl, assigned⟩
    exact .exec fun valid => ⟨done ++ [id], by simp, assigned.add id valid⟩
  · rintro _ d' ⟨done, rfl, assigned⟩
    rw [List.append_nil]
    exact assigned

/-- What a request that is served does: the students `ids` are those it chooses who have no assignment. -/
structure AssignRequest.Serves (q : AssignRequest) (due : Due) (ids : List Id) (d d' : Db) : Prop where
  found : q.due d = some due
  mem : ∀ id, id ∈ ids ↔ q.Chooses d due id ∧ Unassigned d q.dueId id
  nodup : ids.Nodup
  assigned : q.Assigned due ids d d'

theorem turns_studentsWith {α : Type} {given : Option Id} {column : StudentProfile → Option Id}
    {f : List Id → Action α} {S : α → Db → Services → Prop} {T : Db → Services → Prop} (he : T d x)
    (hf : ∀ found, (∀ s ∈ d.studentProfiles.rows, s.id ∈ found ↔ ∃ id, given = some id ∧ column s = some id) →
      Turns (f found) d x S T) :
    Turns ((studentsWith given column).bind f) d x S T := by
  unfold studentsWith
  cases given with
  | none => exact hf [] fun s _ => ⟨fun h => absurd h List.not_mem_nil, fun ⟨_, h, _⟩ => by cases h⟩
  | some id =>
    refine .outside_bind he (hf _ fun s hs => ?_)
    constructor
    · intro h
      obtain ⟨r, hr, same⟩ := List.mem_map.1 h
      obtain ⟨hr, here⟩ := List.mem_filter.1 hr
      rw [← Table.eq_of_key hr hs same]
      exact ⟨id, rfl, of_decide_eq_true here⟩
    · rintro ⟨_, same, here⟩
      obtain rfl := Option.some.inj same
      exact List.mem_map_of_mem (List.mem_filter.2 ⟨hs, decide_eq_true here⟩)

theorem assigns (q : AssignRequest) (d : Db) (x : Services) :
    Turns q.program d x (fun n d' _ => ∃ due ids, q.Serves due ids d d' ∧ n = ids.length)
      fun d' _ => d' = d ∨ ∃ due ids, q.Serves due ids d d' := by
  unfold AssignRequest.program assignDueToStudents
  refine .outside_bind (.inl rfl) (.orThrow_bind (.inl rfl) fun due found => ?_)
  refine turns_studentsWith (.inl rfl) fun ofDepartment department => ?_
  refine turns_studentsWith (.inl rfl) fun ofLevel level => ?_
  refine .outside_bind (.inl rfl) (.ensure_bind (.inl rfl) fun _ => ?_)
  have chosen (id : Id) : id ∈ (d.studentProfiles.rows.filter fun s =>
      s.id ∈ q.dto.studentIds ++ ofDepartment ++ ofLevel ∧ studentAudience due s).map StudentProfile.id ↔
      q.Chooses d due id := by
    simp only [List.mem_map, List.mem_filter, decide_eq_true_eq, List.mem_append, AssignRequest.Chooses]
    constructor
    · rintro ⟨s, ⟨hs, named, audience⟩, rfl⟩
      rw [department s hs, level s hs] at named
      refine ⟨s, hs, rfl, ?_, audience⟩
      obtain (h | ⟨_, given, here⟩) | h := named
      · exact .inl h
      · exact .inr (.inl (given.trans here.symm))
      · exact .inr (.inr h)
    · rintro ⟨s, hs, rfl, named, audience⟩
      refine ⟨s, ⟨hs, ?_, audience⟩, rfl⟩
      rw [department s hs, level s hs]
      obtain h | h | h := named
      · exact .inl (.inl h)
      · exact .inl (.inr ⟨_, h, rfl⟩)
      · exact .inr h
  have body : Inside Services (do
      let studentIds ← query fun d' : Db => ((d.studentProfiles.rows.filter fun s =>
        s.id ∈ q.dto.studentIds ++ ofDepartment ++ ofLevel ∧ studentAudience due s).map StudentProfile.id).filter fun id =>
          !d'.dueAssignments.rows.any fun a => a.dueId = q.dueId ∧ a.studentId = id
      forEach studentIds fun id => exec (.createDueAssignment
        { id := q.newIds id, dueId := q.dueId, studentId := id, amount := due.amount })
      pure studentIds.length : Action Nat) d fun n d' => ∃ ids, q.Serves due ids d d' ∧ n = ids.length := by
    refine .query_bind ((inside_assigns _).bind fun _ d' assigned => .ret ⟨_, ⟨found, fun id => ?_, ?_, assigned⟩, rfl⟩)
    · rw [List.mem_filter, chosen, Bool.not_eq_true', List.any_eq_false]
      refine and_congr_right fun _ => forall₂_congr fun a _ => ?_
      rw [decide_eq_true_eq, not_and]
    · exact (d.studentProfiles.nodup.sublist (List.filter_sublist.map _)).filter _
  refine (Inside.turns (S := fun n d' _ => ∃ ids, q.Serves due ids d d' ∧ n = ids.length) body (fun _ _ h => h)
    (.inl rfl)).bind ?_
  · rintro n d' x' ⟨ids, serves, rfl⟩
    refine (Turns.statement (S := fun _ d'' _ => d'' = d') (fun _ => rfl) (.inr ⟨due, ids, serves⟩)).bind ?_
    rintro _ _ _ rfl
    exact .ret ⟨due, ids, serves, rfl⟩

end

/-! ## Requests in turn -/

/-- The number that a request answered. -/
def counted : Except Failure Nat → Nat
  | .ok n => n
  | .error _ => 0

def totalCounted (log : List (AssignRequest × Except Failure Nat)) : Nat := (log.map fun e => counted e.2).sum

theorem totalCounted_append (log : List (AssignRequest × Except Failure Nat)) (q : AssignRequest)
    (r : Except Failure Nat) : totalCounted (log ++ [(q, r)]) = totalCounted log + counted r := by
  simp [totalCounted]

/-- What the requests served since the state `d` have left. -/
structure DueAssignments (d : Db) (log : List (AssignRequest × Except Failure Nat)) (d' : Db) : Prop where
  rest : { d' with dueAssignments := d.dueAssignments } = d
  /-- What was added is of students that a request chose. -/
  rows : ∃ added, d'.dueAssignments.rows = d.dueAssignments.rows ++ added ∧ ∀ a ∈ added,
    ∃ e ∈ log, ∃ due, e.1.due d = some due ∧ e.1.Chooses d due a.studentId ∧ a = e.1.assignment due a.studentId
  /-- The students of a request that returned have an assignment. -/
  served : ∀ e ∈ log, ∀ n due, e.2 = .ok n → e.1.due d = some due → ∀ id, e.1.Chooses d due id →
    ¬Unassigned d' e.1.dueId id
  /-- No student has two assignments of a due. -/
  one : (d.dueAssignments.rows.map fun a => (a.dueId, a.studentId)).Nodup →
    (d'.dueAssignments.rows.map fun a => (a.dueId, a.studentId)).Nodup
  /-- The answers count what was added, but for requests that failed after their assignments. -/
  counts : d.dueAssignments.rows.length + totalCounted log ≤ d'.dueAssignments.rows.length ∧
    ((∀ e ∈ log, ∃ n, e.2 = .ok n) →
      d.dueAssignments.rows.length + totalCounted log = d'.dueAssignments.rows.length)
  /-- A request that is repeated adds nothing. -/
  repeated : log.Pairwise fun e e' => e.1.Same e'.1 → ∀ n n', e.2 = .ok n → e'.2 = .ok n' → n' = 0

section

variable {d d' d'' : Db} {log : List (AssignRequest × Except Failure Nat)} {q : AssignRequest} {due : Due} {ids : List Id}

theorem DueAssignments.start (d : Db) : DueAssignments d [] d where
  rest := rfl
  rows := ⟨[], (List.append_nil _).symm, fun _ ha => absurd ha List.not_mem_nil⟩
  served := fun _ he => absurd he List.not_mem_nil
  one := id
  counts := ⟨le_rfl, fun _ => rfl⟩
  repeated := List.Pairwise.nil

theorem due_of_rest (rest : { d' with dueAssignments := d.dueAssignments } = d) : q.due d' = q.due d := by
  have same := congrArg Db.dues rest
  unfold AssignRequest.due
  rw [show d'.dues = d.dues from same]

theorem chooses_of_rest (rest : { d' with dueAssignments := d.dueAssignments } = d) {id : Id} :
    q.Chooses d' due id ↔ q.Chooses d due id := by
  have same := congrArg Db.studentProfiles rest
  unfold AssignRequest.Chooses
  rw [show d'.studentProfiles = d.studentProfiles from same]

theorem AssignRequest.Same.chooses {q' : AssignRequest} (same : q.Same q') {id : Id} :
    q.Chooses d due id ↔ q'.Chooses d due id := by
  unfold AssignRequest.Chooses AssignRequest.Names
  rw [same.2]

/-- The assignments of a request are of students who had none. -/
theorem AssignRequest.Serves.one (h : q.Serves due ids d d')
    (nodup : (d.dueAssignments.rows.map fun a => (a.dueId, a.studentId)).Nodup) :
    (d'.dueAssignments.rows.map fun a => (a.dueId, a.studentId)).Nodup := by
  rw [h.assigned.rows, List.map_append, List.nodup_append]
  refine ⟨nodup, ?_, fun p hp p' hp' same => ?_⟩
  · rw [List.map_map]
    exact h.nodup.map fun _ _ same => (Prod.mk.inj same).2
  · obtain ⟨a, ha, rfl⟩ := List.mem_map.1 hp
    rw [List.map_map] at hp'
    obtain ⟨id, hid, rfl⟩ := List.mem_map.1 hp'
    obtain ⟨hdue, hstudent⟩ := Prod.mk.inj same
    exact ((h.mem id).1 hid).2 a ha hdue hstudent

/-- All that a request chooses have an assignment afterwards. -/
theorem AssignRequest.Serves.assigns_chosen (h : q.Serves due ids d d') {id : Id} (chosen : q.Chooses d due id) :
    ¬Unassigned d' q.dueId id := by
  intro unassigned
  have new : id ∈ ids := (h.mem id).2 ⟨chosen, fun a ha =>
    unassigned a (h.assigned.rows ▸ List.mem_append_left _ ha)⟩
  exact unassigned (q.assignment due id)
    (h.assigned.rows ▸ List.mem_append_right _ (List.mem_map_of_mem new)) rfl rfl

/-- A request, which may fail before it has assigned anything or after it has assigned all. -/
theorem DueAssignments.serve (h : DueAssignments d log d') (serves : q.Serves due ids d' d'')
    {r : Except Failure Nat} (answer : ∀ n, r = .ok n → n = ids.length) : DueAssignments d (log ++ [(q, r)]) d'' := by
  have rest : { d'' with dueAssignments := d'.dueAssignments } = d' := serves.assigned.rest
  have found : q.due d = some due := by
    rw [← due_of_rest h.rest]
    exact serves.found
  have kept {dueId id : Id} (assigned : ¬Unassigned d' dueId id) : ¬Unassigned d'' dueId id :=
    fun none => assigned fun a ha => none a (serves.assigned.rows ▸ List.mem_append_left _ ha)
  have length : d''.dueAssignments.rows.length = d'.dueAssignments.rows.length + ids.length := by
    rw [serves.assigned.rows, List.length_append, List.length_map]
  have own : ∀ n due', r = .ok n → q.due d = some due' → ∀ id, q.Chooses d due' id → ¬Unassigned d'' q.dueId id := by
    intro _ due' _ hdue id chosen
    obtain rfl := Option.some.inj (found.symm.trans hdue)
    exact serves.assigns_chosen ((chooses_of_rest h.rest).2 chosen)
  constructor
  · rw [← h.rest]
    exact congrArg (fun s : Db => { s with dueAssignments := d.dueAssignments }) rest
  · obtain ⟨added, rows, before⟩ := h.rows
    refine ⟨added ++ ids.map (q.assignment due), ?_, fun a ha => ?_⟩
    · rw [serves.assigned.rows, rows, List.append_assoc]
    · obtain ha | ha := List.mem_append.1 ha
      · obtain ⟨e, he, chosen⟩ := before a ha
        exact ⟨e, List.mem_append_left _ he, chosen⟩
      · obtain ⟨id, hid, rfl⟩ := List.mem_map.1 ha
        exact ⟨(q, r), List.mem_append_right _ (List.mem_singleton.2 rfl), due, found,
          (chooses_of_rest h.rest).1 ((serves.mem id).1 hid).1, rfl⟩
  · intro e he n due' ok hdue id chosen
    obtain he | he := List.mem_append.1 he
    · exact kept (h.served e he n due' ok hdue id chosen)
    · obtain rfl := List.mem_singleton.1 he
      exact own n due' ok hdue id chosen
  · exact fun nodup => serves.one (h.one nodup)
  · obtain ⟨below, all⟩ := h.counts
    rw [totalCounted_append, length]
    constructor
    · have : counted r ≤ ids.length := by
        cases r with
        | ok n => exact (answer n rfl).le
        | error e => exact Nat.zero_le _
      omega
    · intro ok
      have before := all fun e he => ok e (List.mem_append_left _ he)
      obtain ⟨n, rfl⟩ := ok (q, r) (List.mem_append_right _ (List.mem_singleton.2 rfl))
      have : counted (.ok n) = ids.length := answer n rfl
      omega
  · refine List.pairwise_append.2 ⟨h.repeated, List.pairwise_singleton _ _, fun e he e' he' same n n' ok ok' => ?_⟩
    obtain rfl := List.mem_singleton.1 he'
    rw [answer n' ok', List.length_eq_zero_iff, List.eq_nil_iff_forall_not_mem]
    intro id hid
    obtain ⟨chosen, unassigned⟩ := (serves.mem id).1 hid
    refine h.served e he n due ok ?_ id (same.chooses.2 ((chooses_of_rest h.rest).1 chosen)) ?_
    · unfold AssignRequest.due at found ⊢
      rw [same.1]
      exact found
    · rw [same.1]
      exact unassigned

theorem DueAssignments.fail (h : DueAssignments d log d') (q : AssignRequest) (e : Failure) :
    DueAssignments d (log ++ [(q, .error e)]) d' where
  rest := h.rest
  rows := by
    obtain ⟨added, rows, before⟩ := h.rows
    refine ⟨added, rows, fun a ha => ?_⟩
    obtain ⟨entry, mem, chosen⟩ := before a ha
    exact ⟨entry, List.mem_append_left _ mem, chosen⟩
  served := by
    intro entry mem n due ok
    obtain mem | mem := List.mem_append.1 mem
    · exact h.served entry mem n due ok
    · rw [List.mem_singleton.1 mem] at ok
      cases ok
  one := h.one
  counts := by
    rw [totalCounted_append]
    refine ⟨h.counts.1, fun ok => ?_⟩
    obtain ⟨n, ok⟩ := ok (q, .error e) (List.mem_append_right _ (List.mem_singleton.2 rfl))
    cases ok
  repeated := by
    refine List.pairwise_append.2 ⟨h.repeated, List.pairwise_singleton _ _, fun _ _ e' he' _ _ _ _ ok => ?_⟩
    rw [List.mem_singleton.1 he'] at ok
    cases ok

end

/-- **Dues are assigned once** by requests that are served in turn, each of which may fail. -/
theorem dues_assigned_once {d d' : Db} {x x' : Services} {log : List (AssignRequest × Except Failure Nat)}
    (served : ServedInTurn AssignRequest.program d x log d' x') : DueAssignments d log d' := by
  refine served.induct (I := fun log d' _ => DueAssignments d log d') (.start d) fun log d' x' q before => ?_
  refine (assigns q d' x').mono ?_ ?_
  · rintro n d'' _ ⟨due, ids, serves, rfl⟩
    exact before.serve serves fun _ ok => (Except.ok.inj ok).symm
  · rintro d'' _ (rfl | ⟨due, ids, serves⟩) e
    · exact before.fail q e
    · exact before.serve serves fun _ ok => by cases ok

/-- A due for students of level 200, one of whom is named and both of whom are of the department. -/
def twoStudents : Db where
  dues := ⟨[{ id := .ofNat 1, organizationId := .ofNat 2, amount := 500 }], by decide⟩
  studentProfiles := ⟨[⟨.ofNat 3, .ofNat 4, .ofNat 5, .ofNat 6, none, some 200, false⟩,
    ⟨.ofNat 7, .ofNat 8, .ofNat 5, .ofNat 6, none, some 300, false⟩], by decide⟩

def departmentDue : AssignRequest where
  dueId := .ofNat 1
  dto := { studentIds := [.ofNat 3], departmentId := some (.ofNat 6) }
  newIds := id

theorem departmentDue_assigned_once : ∃ log d' x', ServedInTurn AssignRequest.program twoStudents ({} : Services) log d' x' ∧
    log.map (fun e => counted e.2) = [2, 0] ∧
    d'.dueAssignments.rows.map DueAssignment.studentId = [.ofNat 3, .ofNat 7] ∧ DueAssignments twoStudents log d' := by
  have run : ∃ o ∈ departmentDue.program.alone [] twoStudents ({} : Services),
      ∃ o' ∈ departmentDue.program.alone [] o.db o.ext, counted o.result = 2 ∧ counted o'.result = 0 ∧
        o'.db.dueAssignments.rows.map DueAssignment.studentId = [.ofNat 3, .ofNat 7] := by decide +kernel
  obtain ⟨o, ho, o', ho', first, second, students⟩ := run
  have served := ((ServedInTurn.start (D := Db)).next departmentDue o (Prog.ends_of_alone ho)).next
    departmentDue o' (Prog.ends_of_alone ho')
  exact ⟨_, _, _, served, by simp [first, second], students, dues_assigned_once served⟩

end Heightt

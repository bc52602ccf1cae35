import Heightt.Finance.Dues
import Heightt.ReadCommitted.Guarantee
import Heightt.ReadCommitted.InTurn

/-!
# Payments of dues

An in-app payment looks its due up itself, an external payment through
`resolveDueAssignment`, and a student is shown dues by a third set of rules.
`Finds` tells what the due handling of an in-app payment accepts, and the checks
that `resolveDueAssignment` makes besides are what the two differ in.
-/

namespace Heightt

open ReadCommitted Prog Store Database LedgerService FinanceService

/-! ## The due handling of an in-app payment -/

/-- The due handling of an in-app payment. -/
def dueHandling (userId : Id) (dto : CreatePaymentDto) (newId : Id) : Action (Option DueAssignment) := do
  let dueAssignment ← findDueAssignment userId newId dto.dueAssignmentId dto.dueId
  assertDueAmount dto.amount dueAssignment
  pure dueAssignment

/-- An in-app payment from an ACTIVE wallet that covers it goes on with the due handling. -/
theorem internalPaymentTransaction_eq (config : FeeConfig) (userId : Id) (dto : CreatePaymentDto)
    (wallet orgWallet platformWallet : Wallet) (new : NewPayment) (isActive : wallet.status = .active)
    (covers : (calculatePaymentCharges config dto.amount).totalAmount ≤ wallet.balance) :
    ∃ rest, internalPaymentTransaction config userId dto wallet orgWallet platformWallet new =
      (dueHandling userId dto new.dueAssignmentId).bind rest := by
  have handled (k : Option DueAssignment → Action Unit) :
      ((findDueAssignment userId new.dueAssignmentId dto.dueAssignmentId dto.dueId).bind fun a =>
        (assertDueAmount dto.amount a).bind fun _ => k a) =
      (dueHandling userId dto new.dueAssignmentId).bind k := by
    simp only [dueHandling, bind_eq, pure_eq, Prog.bind_assoc, Prog.bind]
  have passes {p : Prop} [Decidable p] (h : p) (e : Failure) : (ensure p e : Action Unit) = ret () := if_pos h
  unfold internalPaymentTransaction
  rw [passes isActive, passes (show (internalPaymentTransaction.charges config dto).totalAmount ≤
    wallet.balance from covers)]
  exact ⟨_, handled _⟩

/-- The due that a payment names by the due's identifier, for the student that the user is. -/
structure NamesDue (d : Db) (userId dueId : Id) (due : Due) (student : StudentProfile) : Prop where
  hdue : d.dues.findFirst (fun due => due.id = dueId ∧ due.deletedAt = none) = some due
  hstudent : d.studentProfiles.findFirst (fun s => s.userId = userId) = some student
  eligible : isEligible due student = true

/-- What `findDueAssignment` returned, and the statements it executed. -/
inductive Finds (d : Db) (userId newId : Id) : Option Id → Option Id → DueAssignment → List Stmt → Prop where
  | assigned {id : Id} {dueId : Option Id} (a : DueAssignment) (due : Due) (student : StudentProfile)
      (found : d.dueAssignments.find id = some a) (hdue : d.dues.find a.dueId = some due)
      (unpaid : a.isPaid = false)
      (hstudent : d.studentProfiles.findFirst (fun s => s.userId = userId) = some student)
      (own : a.studentId = student.id) (eligible : isEligible due student = true) :
    Finds d userId newId (some id) dueId a []
  | existing {dueId : Id} (a : DueAssignment) (due : Due) (student : StudentProfile)
      (named : NamesDue d userId dueId due student)
      (found : d.dueAssignments.findFirst (fun a => a.dueId = due.id ∧ a.studentId = student.id) = some a)
      (unpaid : a.isPaid = false) :
    Finds d userId newId none (some dueId) a []
  | created {dueId : Id} (due : Due) (student : StudentProfile) (m : Membership)
      (named : NamesDue d userId dueId due student)
      (member : d.memberships.find? (fun m => m.userId = userId ∧ m.organizationId = due.organizationId)
        = some m)
      (absent : d.dueAssignments.findFirst (fun a => a.dueId = due.id ∧ a.studentId = student.id) = none)
      (free : d.dueAssignments.find newId = none) :
    Finds d userId newId none (some dueId)
      { id := newId, dueId := due.id, studentId := student.id, amount := due.amount }
      [.createDueAssignment
        { id := newId, dueId := due.id, studentId := student.id, amount := due.amount }]

section

variable {d : Db} {x : Services} {userId newId : Id}

theorem within_assignedDue (id : Id) (dueId : Option Id) :
    Within (assignedDue userId id) d x [] fun o F =>
      ∃ a, o = some a ∧ Finds d userId newId (some id) dueId a F := by
  refine .query_bind <| .orThrow_bind fun a found => .query_bind <| .orThrow_bind fun due hdue =>
    .ensure_bind fun unpaid => .query_bind <| .orThrow_bind fun student hstudent =>
    .ensure_bind fun own => .ensure_bind fun eligible => .ret ⟨a, rfl, ?_⟩
  exact .assigned a due student found hdue (by simpa using unpaid) hstudent own eligible

theorem within_autoAssignedDue (dueId : Id) :
    Within (autoAssignedDue userId dueId newId) d x [] fun o F =>
      ∃ a, o = some a ∧ Finds d userId newId none (some dueId) a F := by
  refine .query_bind <| .orThrow_bind fun due hdue => .query_bind <| .orThrow_bind fun student hstudent =>
    .ensure_bind fun eligible => .query_bind <| .orThrow_bind fun m member => .query_bind ?_
  have named : NamesDue d userId dueId due student := ⟨hdue, hstudent, eligible⟩
  rw [applyAll_nil]
  cases found : d.dueAssignments.findFirst fun a => a.dueId = due.id ∧ a.studentId = student.id with
  | some a =>
    refine .ensure_bind fun unpaid => .ret ⟨a, rfl, ?_⟩
    exact .existing a due student named found (by simpa using unpaid)
  | none =>
    refine .exec_bind fun valid => .ret ⟨_, rfl, .created due student m named member found ?_⟩
    have free := (Option.or_eq_none_iff.1 valid).1
    simpa [Stmt.unique_eq_none] using free

theorem within_findDueAssignment (dueAssignmentId dueId : Option Id) :
    Within (findDueAssignment userId newId dueAssignmentId dueId) d x [] fun o F =>
      ∀ a, o = some a → Finds d userId newId dueAssignmentId dueId a F := by
  have only {o : Option DueAssignment} {F : List Stmt} {dueAssignmentId dueId : Option Id}
      (h : ∃ a, o = some a ∧ Finds d userId newId dueAssignmentId dueId a F) (a : DueAssignment)
      (ha : o = some a) : Finds d userId newId dueAssignmentId dueId a F := by
    obtain ⟨b, rfl, finds⟩ := h
    cases ha
    exact finds
  cases dueAssignmentId with
  | some id => exact (within_assignedDue id dueId).mono fun _ _ => only
  | none =>
    cases dueId with
    | some id => exact (within_autoAssignedDue id).mono fun _ _ => only
    | none => exact .ret fun a ha => by cases ha

/-- The due handling, run alone in a transaction, accepts the payment for the assignment `a`. -/
def AcceptsDue (d : Db) (x : Services) (userId : Id) (dto : CreatePaymentDto) (newId : Id)
    (a : DueAssignment) : Prop :=
  (transaction (dueHandling userId dto newId)).Returns d x (some a)

theorem finds_of_acceptsDue {dto : CreatePaymentDto} {a : DueAssignment} (h : AcceptsDue d x userId dto newId a) :
    (∃ F, Finds d userId newId dto.dueAssignmentId dto.dueId a F) ∧ dto.amount = a.amount := by
  have within : Within (dueHandling userId dto newId) d x [] fun o F =>
      ∀ a, o = some a → Finds d userId newId dto.dueAssignmentId dto.dueId a F ∧ dto.amount = a.amount := by
    refine (within_findDueAssignment dto.dueAssignmentId dto.dueId).bind fun o F finds => ?_
    cases o with
    | none => exact .ret fun a ha => by cases ha
    | some b =>
      refine .ensure_bind fun amount => .ret fun a ha => ?_
      cases ha
      exact ⟨finds b rfl, amount⟩
  have turns : Turns (transaction (dueHandling userId dto newId)) d x
      (fun o _ _ => ∀ a, o = some a → (∃ F, Finds d userId newId dto.dueAssignmentId dto.dueId a F) ∧
        dto.amount = a.amount) fun _ _ => True :=
    .transaction within (fun o F finds _ a ha => ⟨⟨F, (finds a ha).1⟩, (finds a ha).2⟩) trivial
  obtain ⟨o, ho, returned⟩ := h
  obtain ⟨-, post⟩ := turns o (Prog.ends_of_alone ho)
  rw [returned] at post
  exact post a rfl

end

/-! ## What an external payment checks -/

/-- `resolveDueAssignment`, run alone, accepts the payment for the assignment `r`. -/
def Resolves (d : Db) (x : Services) (userId : Id) (dueId dueAssignmentId : Option Id) (amount : Int)
    (newId r : Id) : Prop :=
  (resolveDueAssignment userId dueId dueAssignmentId (some amount) newId).Returns d x (some r)

/-- The session of a due is open for new assignments. -/
def SessionOpen (d : Db) (due : Due) : Prop :=
  ∀ sessionId ∈ due.sessionId, ∃ s, d.academicSessions.find sessionId = some s ∧ s.isCurrent = true ∧
    s.status = .active

section

variable {d : Db} {x : Services} {userId newId r : Id} {amount : Int}

theorem resolves_assigned {id : Id} {dueId : Option Id} :
    Resolves d x userId dueId (some id) amount newId r ↔ r = id ∧ ∃ a student due,
      d.dueAssignments.find id = some a ∧ d.studentProfiles.find a.studentId = some student ∧
      d.dues.find a.dueId = some due ∧ student.userId = userId ∧ isEligible due student = true ∧
      ¬(a.isPaid = true ∨ isPaidFor d a.id = true) ∧ due.status = .active ∧ amount = a.amount := by
  simp only [Resolves, resolveDueAssignment, resolveAssigned, assertDueLevel, assertPaymentAmount, bind_eq,
    pure_eq, returns_outside_bind, returns_orThrow_bind, returns_ensure_bind, returns_ret]
  constructor
  · rintro ⟨a, found, student, hstudent, due, hdue, own, eligible, unpaid, active, exact, returned⟩
    cases returned
    exact ⟨rfl, a, student, due, found, hstudent, hdue, own, eligible, unpaid, active, exact amount rfl⟩
  · rintro ⟨rfl, a, student, due, found, hstudent, hdue, own, eligible, unpaid, active, rfl⟩
    exact ⟨a, found, student, hstudent, due, hdue, own, eligible, unpaid, active,
      fun b hb => (Option.some.inj hb).symm, rfl⟩

theorem returns_assertSessionOpen_bind {α : Type} {due : Due} {f : Unit → Action α} {a : α} :
    ((assertSessionOpen due).bind f).Returns d x a ↔ SessionOpen d due ∧ (f ()).Returns d x a := by
  unfold assertSessionOpen SessionOpen
  cases due.sessionId with
  | none => simp [whenSome, Prog.bind]
  | some sessionId =>
    have isOpen : (d.academicSessions.find sessionId).any (fun s => s.isCurrent ∧ s.status = .active) = true ↔
        ∃ s, d.academicSessions.find sessionId = some s ∧ s.isCurrent = true ∧ s.status = .active := by
      cases d.academicSessions.find sessionId <;> simp
    simp only [whenSome, bind_eq, Prog.bind_assoc, returns_outside_bind, returns_ensure_bind, isOpen,
      Option.mem_def, Option.some.injEq, forall_eq']

theorem resolves_due {dueId : Id} :
    Resolves d x userId (some dueId) none amount newId r ↔ ∃ due student,
      NamesDue d userId dueId due student ∧ due.status = .active ∧ amount = due.amount ∧
      match d.dueAssignments.findFirst fun a => a.dueId = due.id ∧ a.studentId = student.id with
      | some a => r = a.id ∧ ¬(a.isPaid = true ∨ isPaidFor d a.id = true)
      | none => r = newId ∧ SessionOpen d due ∧ (∃ m, d.memberships.find? (fun m =>
          m.userId = userId ∧ m.organizationId = due.organizationId) = some m) ∧
          d.dueAssignments.find newId = none := by
  simp only [Resolves, resolveDueAssignment, resolveDue, assertDueLevel, assertPaymentAmount, bind_eq,
    pure_eq, returns_outside_bind, returns_orThrow_bind, returns_ensure_bind]
  constructor
  · rintro ⟨due, hdue, active, exact, student, hstudent, eligible, returned⟩
    refine ⟨due, student, ⟨hdue, hstudent, eligible⟩, active, exact amount rfl, ?_⟩
    cases found : d.dueAssignments.findFirst fun a => a.dueId = due.id ∧ a.studentId = student.id with
    | some a =>
      rw [found] at returned
      simp only [returns_outside_bind, returns_ensure_bind, returns_ret, Option.some.injEq] at returned
      exact ⟨returned.2, returned.1⟩
    | none =>
      rw [found] at returned
      simp only [returns_assertSessionOpen_bind, returns_outside_bind, returns_orThrow_bind,
        returns_statement_bind, returns_ret, Option.some.injEq] at returned
      obtain ⟨isOpen, m, member, valid, rfl⟩ := returned
      have free := (Option.or_eq_none_iff.1 valid).1
      exact ⟨rfl, isOpen, ⟨m, member⟩, by simpa [Stmt.unique_eq_none] using free⟩
  · rintro ⟨due, student, ⟨hdue, hstudent, eligible⟩, active, rfl, h⟩
    refine ⟨due, hdue, active, fun b hb => (Option.some.inj hb).symm, student, hstudent, eligible, ?_⟩
    cases found : d.dueAssignments.findFirst fun a => a.dueId = due.id ∧ a.studentId = student.id with
    | some a =>
      rw [found] at h
      simp only [returns_outside_bind, returns_ensure_bind, returns_ret, Option.some.injEq]
      exact ⟨h.2, h.1⟩
    | none =>
      rw [found] at h
      obtain ⟨rfl, isOpen, ⟨m, member⟩, free⟩ := h
      simp only [returns_assertSessionOpen_bind, returns_outside_bind, returns_orThrow_bind,
        returns_statement_bind, returns_ret]
      refine ⟨isOpen, m, member, Option.or_eq_none_iff.2 ⟨?_, Stmt.unique_eq_none.2 ?_⟩, trivial⟩
      · simp [Stmt.unique_eq_none, free]
      · exact List.any_eq_false.2 (List.find?_eq_none.1 found)

/-- The checks that an external payment makes and an in-app payment does not: the due
is ACTIVE, and the assignment has no payment; a due that the payment names has the
amount of the student's assignment, or an open session if there is no assignment. -/
def OpenForPayment (d : Db) (userId : Id) (dto : CreatePaymentDto) : Prop :=
  match dto.dueAssignmentId, dto.dueId with
  | some id, _ => isPaidFor d id = false ∧
    ∀ a due, d.dueAssignments.find id = some a → d.dues.find a.dueId = some due → due.status = .active
  | none, some dueId => ∀ due student, NamesDue d userId dueId due student → due.status = .active ∧
    match d.dueAssignments.findFirst fun a => a.dueId = due.id ∧ a.studentId = student.id with
    | some a => a.amount = due.amount ∧ isPaidFor d a.id = false
    | none => SessionOpen d due
  | none, none => True

theorem NamesDue.unique {dueId : Id} {due due' : Due} {student student' : StudentProfile}
    (h : NamesDue d userId dueId due student) (h' : NamesDue d userId dueId due' student') :
    due' = due ∧ student' = student :=
  ⟨Option.some.inj (h'.hdue.symm.trans h.hdue), Option.some.inj (h'.hstudent.symm.trans h.hstudent)⟩

/-- **An in-app payment and an external payment of a due**: what the due handling of
an in-app payment accepts, `resolveDueAssignment` accepts in the same state, for the
same assignment, exactly if the due is open for payment. -/
theorem internal_payment_resolves {dto : CreatePaymentDto} {a : DueAssignment}
    (accepts : AcceptsDue d x userId dto newId a) :
    Resolves d x userId dto.dueId dto.dueAssignmentId dto.amount newId r ↔
      r = a.id ∧ OpenForPayment d userId dto := by
  obtain ⟨⟨F, finds⟩, exact⟩ := finds_of_acceptsDue accepts
  clear accepts
  obtain ⟨organizationId, amount, description, dueAssignmentId, dueId, positive⟩ := dto
  obtain rfl : amount = a.amount := exact
  dsimp only at finds
  unfold OpenForPayment
  cases finds with
  | assigned _ due student found hdue unpaid hstudent own eligible =>
    have key := Table.find_key found
    have profile : d.studentProfiles.find a.studentId = some student :=
      own ▸ Table.find_of_mem (List.mem_of_find?_eq_some hstudent)
    have user : student.userId = userId := by simpa using List.find?_some hstudent
    rw [resolves_assigned]
    constructor
    · rintro ⟨rfl, a', student', due', found', -, hdue', -, -, unpaid', active, -⟩
      cases found.symm.trans found'
      cases hdue.symm.trans hdue'
      refine ⟨key.symm, by simpa [unpaid, key] using unpaid', fun b due'' hb hdue'' => ?_⟩
      cases found.symm.trans hb
      cases hdue.symm.trans hdue''
      exact active
    · rintro ⟨rfl, unpaidFor, active⟩
      exact ⟨key, a, student, due, found, profile, hdue, user, eligible, by simp [unpaid, key, unpaidFor],
        active a due found hdue, rfl⟩
  | existing _ due student named found unpaid =>
    rw [resolves_due]
    constructor
    · rintro ⟨due', student', named', active, amount, h⟩
      obtain ⟨rfl, rfl⟩ := named.unique named'
      rw [found] at h
      refine ⟨h.1, fun due'' student'' named'' => ?_⟩
      obtain ⟨rfl, rfl⟩ := named'.unique named''
      rw [found]
      exact ⟨active, amount, by simpa [unpaid] using h.2⟩
    · rintro ⟨rfl, isOpen⟩
      obtain ⟨active, rest⟩ := isOpen due student named
      rw [found] at rest
      refine ⟨due, student, named, active, rest.1, ?_⟩
      rw [found]
      exact ⟨rfl, by simp [unpaid, rest.2]⟩
  | created due student m named member absent free =>
    rw [resolves_due]
    constructor
    · rintro ⟨due', student', named', active, -, h⟩
      obtain ⟨rfl, rfl⟩ := named.unique named'
      rw [absent] at h
      refine ⟨h.1, fun due'' student'' named'' => ?_⟩
      obtain ⟨rfl, rfl⟩ := named'.unique named''
      rw [absent]
      exact ⟨active, h.2.1⟩
    · rintro ⟨rfl, isOpen⟩
      obtain ⟨active, session⟩ := isOpen due student named
      rw [absent] at session
      refine ⟨due, student, named, active, rfl, ?_⟩
      rw [absent]
      exact ⟨rfl, session, ⟨m, member⟩, free⟩

end

/-! ## The dues that a student is shown -/

section

variable {d : Db} {x : Services} {userId newId : Id} {student : StudentProfile}

/-- A due that the audience of `getMyDues` has is refused by `assertDueLevel` only to a
direct entry student of level 100. -/
theorem isEligible_of_audience {due : Due} (level : hasDues student.numericLevel = true)
    (audience : dueAudience student due = true) :
    isEligible due student = true ↔ ¬(student.isDirectEntry = true ∧ student.numericLevel = some 100) := by
  obtain ⟨_, _, _, _, _, numericLevel, isDirectEntry⟩ := student
  cases numericLevel with
  | none => cases level
  | some l =>
    simp only [hasDues, Option.any_some, decide_eq_true_eq] at level
    cases isDirectEntry with
    | true =>
      simp only [dueAudience, if_true, Bool.and_eq_true] at audience
      simp only [isEligible, if_true, Option.any_some, audience, Bool.and_true, decide_eq_true_eq, true_and,
        Option.some.injEq]
      omega
    | false =>
      simp only [dueAudience, Bool.false_eq_true, if_false, decide_eq_true_eq] at audience
      by_cases h : l = 100
      · simp [isEligible, audience, h]
      · have above : 200 ≤ l := level.resolve_left h
        simp [isEligible, audience, h, above]

theorem mem_setDue {dues : List Due} {due due' : Due} (h : due' ∈ setDue dues due) :
    due' ∈ dues ∨ due' = due := by
  unfold setDue at h
  split at h
  · obtain ⟨other, hother, rfl⟩ := List.mem_map.1 h
    split
    · exact .inr rfl
    · exact .inl hother
  · simpa using h

theorem mem_foldl_setDue {α : Type} {f : α → Due} {as : List α} {dues : List Due} {due : Due}
    (h : due ∈ as.foldl (fun dues a => setDue dues (f a)) dues) : due ∈ dues ∨ ∃ a ∈ as, due = f a := by
  induction as generalizing dues with
  | nil => exact .inl h
  | cons a as ih =>
    rcases ih h with h | ⟨b, hb, rfl⟩
    · exact (mem_setDue h).imp_right fun h => ⟨a, List.mem_cons_self, h⟩
    · exact .inr ⟨b, List.mem_cons_of_mem a hb, rfl⟩

/-- What `getMyDues` read for the student. -/
structure Shown (d : Db) (userId : Id) (student : StudentProfile) (session : Option AcademicSession)
    (available : List Due) (assignments : List (DueAssignment × Due)) : Prop where
  hstudent : d.studentProfiles.findFirst (fun s => s.userId = userId) = some student
  level : hasDues student.numericLevel = true
  hsession : session = d.academicSessions.findFirst fun s =>
    s.institutionId = student.institutionId ∧ s.scope = .institution ∧ s.isCurrent
  havailable : available = availableDues d student
    ((d.memberships.filter fun m => m.userId = userId).map Membership.organizationId) session
  hassignments : assignments = assignedDues d student (available.map Due.id)

/-- An entry is about an available due or the due of an assignment. -/
theorem shown_of_mem {entries : List MyDue} {e : MyDue} (listed : (getMyDues userId).Returns d x entries)
    (mem : e ∈ entries) : ∃ student session available assignments due,
      Shown d userId student session available assignments ∧ e = myDue student session assignments due ∧
        (due ∈ available ∨ ∃ a ∈ assignments, due = a.2) := by
  simp only [getMyDues, bind_eq, pure_eq, returns_outside_bind] at listed
  split at listed
  · cases returns_ret.1 listed
    cases mem
  · rename_i student hstudent
    split at listed
    · rename_i level
      simp only [returns_outside_bind, returns_ret] at listed
      rw [listed, List.mem_mergeSort] at mem
      obtain ⟨due, hdue, rfl⟩ := List.mem_map.1 mem
      refine ⟨student, _, _, _, due, ⟨hstudent, level, rfl, rfl, rfl⟩, rfl, ?_⟩
      rcases mem_foldl_setDue hdue with hdue | hdue
      · refine .inl ?_
        have := mem_foldl_setDue (f := id) hdue
        simpa using this
      · exact .inr hdue
    · cases returns_ret.1 listed
      cases mem

variable {session : Option AcademicSession} {available : List Due}
  {assignments : List (DueAssignment × Due)}

theorem Shown.mem_available {due : Due} (h : Shown d userId student session available assignments) :
    due ∈ available ↔ due ∈ d.dues.rows ∧
      (∃ m ∈ d.memberships, m.userId = userId ∧ m.organizationId = due.organizationId) ∧
      due.deletedAt = none ∧ dueAudience student due = true ∧ due.status = .active ∧
      (due.sessionId = none ∨ ∃ s ∈ session, due.sessionId = some s.id) := by
  rw [h.havailable, availableDues, List.mem_mergeSort, List.mem_filter]
  simp [and_assoc]

theorem Shown.mem_assignments {a : DueAssignment} {due : Due}
    (h : Shown d userId student session available assignments) :
    (a, due) ∈ assignments ↔ a ∈ d.dueAssignments.rows ∧ d.dues.find a.dueId = some due ∧
      a.studentId = student.id ∧ dueAudience student due = true ∧
      (a.isPaid = false ∨ a.dueId ∈ available.map Due.id) := by
  rw [h.hassignments, assignedDues, List.mem_mergeSort, List.mem_filterMap]
  simp only [Option.map_eq_some_iff, Option.filter_eq_some_iff, Prod.mk.injEq, decide_eq_true_eq]
  constructor
  · rintro ⟨b, hb, due', ⟨found, own, audience, shown⟩, rfl, rfl⟩
    exact ⟨hb, found, own, audience, shown⟩
  · rintro ⟨ha, found, own, audience, shown⟩
    exact ⟨a, ha, due, ⟨found, own, audience, shown⟩, rfl, rfl⟩

/-- A due that can still be assigned is the due that its identifier names. -/
theorem namesDue_of_mem {due : Due} (hstudent : d.studentProfiles.findFirst (fun s => s.userId = userId) =
    some student) (mem : due ∈ d.dues.rows) (present : due.deletedAt = none)
    (eligible : isEligible due student = true) : NamesDue d userId due.id due student := by
  refine ⟨?_, hstudent, eligible⟩
  cases found : d.dues.findFirst fun other => other.id = due.id ∧ other.deletedAt = none with
  | none => simpa [present] using List.find?_eq_none.1 found due mem
  | some other =>
    have named : other.id = due.id ∧ other.deletedAt = none := by simpa using List.find?_some found
    rw [Table.eq_of_key (List.mem_of_find?_eq_some found) mem named.1]

/-- When an entry that can be paid is paid. -/
def PayableEntry (d : Db) (userId : Id) (e : MyDue) : Prop :=
  (∀ student, d.studentProfiles.findFirst (fun s => s.userId = userId) = some student →
    ¬(student.isDirectEntry = true ∧ student.numericLevel = some 100)) ∧
  match e.dueAssignmentId with
  | some id => isPaidFor d id = false
  | none => ∀ sessionId ∈ e.due.sessionId, ∀ s, d.academicSessions.find sessionId = some s → s.status = .active

/-- The due of an entry is a row of the table, in the audience of the student. -/
theorem Shown.due {due : Due} (h : Shown d userId student session available assignments)
    (hdue : due ∈ available ∨ ∃ a ∈ assignments, due = a.2) :
    due ∈ d.dues.rows ∧ dueAudience student due = true := by
  rcases hdue with hdue | ⟨⟨a, due⟩, ha, rfl⟩
  · obtain ⟨mem, -, -, audience, -⟩ := h.mem_available.1 hdue
    exact ⟨mem, audience⟩
  · obtain ⟨-, found, -, audience, -⟩ := h.mem_assignments.1 ha
    exact ⟨Table.find_mem found, audience⟩

/-- An entry with an assignment is paid by the assignment's identifier. -/
theorem Shown.resolves_assigned_iff {a : DueAssignment} {due due' : Due}
    (h : Shown d userId student session available assignments) (mem : due ∈ d.dues.rows)
    (ha : (a, due') ∈ assignments) (same : a.dueId = due.id) (audience : dueAudience student due = true)
    (unpaid : a.isPaid = false) (active : due.status = .active) :
    (∃ r, Resolves d x userId (some due.id) (some a.id) a.amount newId r) ↔
      ¬(student.isDirectEntry = true ∧ student.numericLevel = some 100) ∧ isPaidFor d a.id = false := by
  obtain ⟨ha, found, own, -, -⟩ := h.mem_assignments.1 ha
  have hdue : d.dues.find a.dueId = some due := same ▸ Table.find_of_mem mem
  have hstudent : d.studentProfiles.find a.studentId = some student :=
    own ▸ Table.find_of_mem (List.mem_of_find?_eq_some h.hstudent)
  have user : student.userId = userId := by simpa using List.find?_some h.hstudent
  simp only [resolves_assigned, ← isEligible_of_audience h.level audience]
  constructor
  · rintro ⟨-, -, a', student', due'', found', hstudent', hdue', -, eligible, unpaid', -⟩
    cases (Table.find_of_mem ha).symm.trans found'
    cases hstudent.symm.trans hstudent'
    cases hdue.symm.trans hdue'
    exact ⟨eligible, by simpa [unpaid] using unpaid'⟩
  · rintro ⟨eligible, unpaidFor⟩
    exact ⟨a.id, rfl, a, student, due, Table.find_of_mem ha, hstudent, hdue, user, eligible,
      by simp [unpaid, unpaidFor], active, rfl⟩

/-- An entry without an assignment is paid by the due's identifier. -/
theorem Shown.resolves_due_iff {due : Due} (h : Shown d userId student session available assignments)
    (hdue : due ∈ available) (unassigned : ∀ a ∈ assignments, a.1.dueId ≠ due.id)
    (fresh : d.dueAssignments.find newId = none) :
    (∃ r, Resolves d x userId (some due.id) none due.amount newId r) ↔
      ¬(student.isDirectEntry = true ∧ student.numericLevel = some 100) ∧
        ∀ sessionId ∈ due.sessionId, ∀ s, d.academicSessions.find sessionId = some s → s.status = .active := by
  obtain ⟨mem, ⟨m, hm, member⟩, present, audience, active, current⟩ := h.mem_available.1 hdue
  have absent : d.dueAssignments.findFirst (fun a => a.dueId = due.id ∧ a.studentId = student.id) = none := by
    refine List.find?_eq_none.2 fun a ha => ?_
    simp only [decide_eq_true_eq]
    rintro ⟨same, own⟩
    refine unassigned (a, due) (h.mem_assignments.2 ⟨ha, same ▸ Table.find_of_mem mem, own, audience, .inr ?_⟩) same
    exact same ▸ List.mem_map_of_mem hdue
  have membership : ∃ m, d.memberships.find? (fun m =>
      m.userId = userId ∧ m.organizationId = due.organizationId) = some m := by
    refine Option.isSome_iff_exists.1 (List.find?_isSome.2 ⟨m, hm, ?_⟩)
    simpa using member
  have isOpen : SessionOpen d due ↔
      ∀ sessionId ∈ due.sessionId, ∀ s, d.academicSessions.find sessionId = some s → s.status = .active := by
    constructor
    · intro isOpen sessionId hid s found
      obtain ⟨s', found', -, status⟩ := isOpen sessionId hid
      cases found.symm.trans found'
      exact status
    · intro status sessionId hid
      obtain none' | ⟨s, hs, hid'⟩ := current
      · rw [none'] at hid
        cases hid
      · cases hid.symm.trans hid'
        have first := h.hsession.symm.trans hs
        have isCurrent : s.isCurrent = true := by
          have := List.find?_some first
          simp only [Bool.decide_and, Bool.decide_eq_true, Bool.and_eq_true] at this
          exact this.2.2
        have found := Table.find_of_mem (List.mem_of_find?_eq_some first)
        exact ⟨s, found, isCurrent, status s.id hid s found⟩
  rw [← isEligible_of_audience h.level audience, ← isOpen]
  simp only [resolves_due]
  constructor
  · rintro ⟨_, due', student', named, -, -, rest⟩
    have found := List.find?_some named.hdue
    have same : due'.id = due.id := (of_decide_eq_true found).1
    obtain rfl : due' = due := Table.eq_of_key (List.mem_of_find?_eq_some named.hdue) mem same
    obtain rfl : student' = student := Option.some.inj (named.hstudent.symm.trans h.hstudent)
    rw [absent] at rest
    exact ⟨named.eligible, rest.2.1⟩
  · rintro ⟨eligible, session⟩
    refine ⟨newId, due, student, namesDue_of_mem h.hstudent mem present eligible, active, rfl, ?_⟩
    rw [absent]
    exact ⟨rfl, session, membership, fresh⟩

/-- The audience of `getMyDues` is that of `assertDueLevel`, but for direct entry students
of level 100; the audience of `assignDueToStudents` is. -/
theorem audiences_agree_iff (student : StudentProfile) (due : Due) :
    (hasDues student.numericLevel && dueAudience student due) = isEligible due student ∧
      studentAudience due student = isEligible due student ↔
    ¬(student.isDirectEntry = true ∧ student.numericLevel = some 100 ∧ due.isFresher = true ∧
      due.isDirectEntryEligible = true) := by
  obtain ⟨_, _, _, _, _, numericLevel, isDirectEntry⟩ := student
  obtain ⟨_, _, _, _, isFresher, isDirectEntryEligible, _, _, _⟩ := due
  cases numericLevel with
  | none => cases isDirectEntry <;> cases isFresher <;> simp [hasDues, isEligible, studentAudience]
  | some l =>
    by_cases fresher : l = 100
    · subst fresher
      cases isDirectEntry <;> cases isFresher <;> cases isDirectEntryEligible <;>
        simp [hasDues, dueAudience, isEligible, studentAudience]
    · by_cases above : 200 ≤ l
      · cases isDirectEntry <;> cases isFresher <;>
          simp [hasDues, dueAudience, isEligible, studentAudience, fresher, above]
      · cases isDirectEntry <;> cases isFresher <;>
          simp [hasDues, dueAudience, isEligible, studentAudience, fresher, above]

/-- **Listed dues and audiences**: an entry that can be paid is accepted by
`resolveDueAssignment` exactly if it is payable, and the three audiences agree exactly
if the student is no direct entry student of level 100 or the due is not for such. -/
theorem listed_dues_payable {entries : List MyDue} (listed : (getMyDues userId).Returns d x entries)
    (fresh : d.dueAssignments.find newId = none) :
    (∀ e ∈ entries, e.canPay = true →
      ((∃ r, Resolves d x userId (some e.dueId) e.dueAssignmentId e.amount newId r) ↔
        PayableEntry d userId e)) ∧
    ∀ student due, (hasDues student.numericLevel && dueAudience student due) = isEligible due student ∧
        studentAudience due student = isEligible due student ↔
      ¬(student.isDirectEntry = true ∧ student.numericLevel = some 100 ∧ due.isFresher = true ∧
        due.isDirectEntryEligible = true) := by
  refine ⟨fun e mem canPay => ?_, audiences_agree_iff⟩
  obtain ⟨student, session, available, assignments, due, shown, rfl, hdue⟩ := shown_of_mem listed mem
  have profile : (∀ s, d.studentProfiles.findFirst (fun s => s.userId = userId) = some s →
      ¬(s.isDirectEntry = true ∧ s.numericLevel = some 100)) ↔
      ¬(student.isDirectEntry = true ∧ student.numericLevel = some 100) := by
    rw [shown.hstudent]
    simp
  obtain ⟨row, audience⟩ := shown.due hdue
  unfold PayableEntry
  rw [profile]
  cases lookup : assignments.reverse.find? fun a => a.1.dueId = due.id with
  | some p =>
    obtain ⟨a, due'⟩ := p
    have ha : (a, due') ∈ assignments := List.mem_reverse.1 (List.mem_of_find?_eq_some lookup)
    have same : a.dueId = due.id := by simpa using List.find?_some lookup
    simp only [myDue, lookup, MyDue.dueAssignmentId, Option.map_some, Option.any_some, Option.elim_some,
      Bool.and_eq_true, Bool.not_eq_true', decide_eq_true_eq] at canPay ⊢
    exact shown.resolves_assigned_iff row ha same audience canPay.1 canPay.2
  | none =>
    have unassigned : ∀ a ∈ assignments, a.1.dueId ≠ due.id := fun a ha => by
      simpa using List.find?_eq_none.1 lookup a (List.mem_reverse.2 ha)
    have isAvailable : due ∈ available := by
      refine hdue.resolve_right ?_
      rintro ⟨⟨a, due⟩, ha, rfl⟩
      exact unassigned _ ha (Table.find_key (shown.mem_assignments.1 ha).2.1).symm
    simp only [myDue, lookup, MyDue.dueAssignmentId, Option.map_none, Option.elim_none]
    exact shown.resolves_due_iff isAvailable unassigned fresh

end

/-! ## One student and one due -/

/-- A student of the given level. -/
def studentOf (numericLevel : Nat) (isDirectEntry : Bool) : StudentProfile where
  id := .ofNat 3
  userId := .ofNat 1
  institutionId := .ofNat 4
  departmentId := .ofNat 5
  numericLevel := some numericLevel
  isDirectEntry := isDirectEntry

/-- A due of 500 Naira. -/
def dueOf500 (isFresher : Bool) (status : DueStatus) : Due where
  id := .ofNat 6
  organizationId := .ofNat 10
  amount := 50000
  isFresher := isFresher
  isDirectEntryEligible := isFresher
  status := status

/-- The student is a member of the organization that the due is for. -/
def oneDue (student : StudentProfile) (due : Due) : Db where
  studentProfiles := Table.empty.insert student
  memberships := [{ userId := .ofNat 1, organizationId := .ofNat 10 }]
  dues := Table.empty.insert due

/-- The payment of the due from the student's wallet. -/
def duePaymentDto : CreatePaymentDto where
  organizationId := .ofNat 10
  amount := 50000
  dueId := some (.ofNat 6)

def newAssignment : DueAssignment where
  id := .ofNat 25
  dueId := .ofNat 6
  studentId := .ofNat 3
  amount := 50000

theorem acceptsDue_oneDue (status : DueStatus) :
    AcceptsDue (oneDue (studentOf 200 false) (dueOf500 false status)) {} (.ofNat 1) duePaymentDto (.ofNat 25)
      newAssignment := by
  obtain ⟨o, ho, returned⟩ : ∃ o ∈ (transaction (dueHandling (.ofNat 1) duePaymentDto (.ofNat 25))).alone []
      (oneDue (studentOf 200 false) (dueOf500 false status)) ({} : Services),
      o.result.toOption = some (some newAssignment) := by
    cases status <;> decide +kernel
  refine ⟨o, ho, ?_⟩
  obtain ⟨result, frames, e, x⟩ := o
  cases result with
  | error e => cases returned
  | ok a => exact congrArg Except.ok (Option.some.inj returned)

/-- An ACTIVE due of no session is assigned, and resolves to the new assignment. -/
theorem internal_payment_resolves_active :
    Resolves (oneDue (studentOf 200 false) (dueOf500 false .active)) {} (.ofNat 1) duePaymentDto.dueId none
        50000 (.ofNat 25) (.ofNat 25) ↔
      (.ofNat 25 : Id) = newAssignment.id ∧
        OpenForPayment (oneDue (studentOf 200 false) (dueOf500 false .active)) (.ofNat 1) duePaymentDto :=
  internal_payment_resolves (acceptsDue_oneDue .active)

/-- A due that is INACTIVE passes the due handling of an in-app payment, and is refused
to an external payment. -/
theorem inactive_due_handled :
    AcceptsDue (oneDue (studentOf 200 false) (dueOf500 false .inactive)) {} (.ofNat 1) duePaymentDto
      (.ofNat 25) newAssignment ∧
    ¬∃ r, Resolves (oneDue (studentOf 200 false) (dueOf500 false .inactive)) {} (.ofNat 1)
      duePaymentDto.dueId none 50000 (.ofNat 25) r := by
  refine ⟨acceptsDue_oneDue .inactive, ?_⟩
  rintro ⟨r, h⟩
  obtain ⟨due, student, named, active, -⟩ := resolves_due.1 h
  have same : some due = some (dueOf500 false .inactive) := named.hdue.symm.trans (by decide +kernel)
  rw [Option.some.inj same] at active
  cases active

/-- The due is shown to the student. -/
theorem returns_getMyDues_oneDue {level : Nat} {isDirectEntry isFresher : Bool}
    (hasDues : hasDues (some level) = true)
    (audience : dueAudience (studentOf level isDirectEntry) (dueOf500 isFresher .active) = true) :
    (getMyDues (.ofNat 1)).Returns (oneDue (studentOf level isDirectEntry) (dueOf500 isFresher .active))
      ({} : Services) [myDue (studentOf level isDirectEntry) none [] (dueOf500 isFresher .active)] := by
  have available : availableDues (oneDue (studentOf level isDirectEntry) (dueOf500 isFresher .active))
      (studentOf level isDirectEntry) [.ofNat 10] none = [dueOf500 isFresher .active] := by
    have rows : (oneDue (studentOf level isDirectEntry) (dueOf500 isFresher .active)).dues.rows =
        [dueOf500 isFresher .active] := rfl
    rw [availableDues, rows, List.filter_cons_of_pos]
    · exact List.mergeSort_singleton _
    · rw [audience]
      rfl
  have profile : (oneDue (studentOf level isDirectEntry) (dueOf500 isFresher .active)).studentProfiles.findFirst
      (fun s => s.userId = .ofNat 1) = some (studentOf level isDirectEntry) := rfl
  simp only [getMyDues, bind_eq, pure_eq, returns_outside_bind, profile]
  rw [if_pos (show FinanceService.hasDues (studentOf level isDirectEntry).numericLevel = true from hasDues)]
  have memberOf : ((oneDue (studentOf level isDirectEntry) (dueOf500 isFresher .active)).memberships.filter
      fun m => m.userId = .ofNat 1).map Membership.organizationId = [.ofNat 10] := rfl
  have session : (oneDue (studentOf level isDirectEntry) (dueOf500 isFresher
      .active)).academicSessions.findFirst (fun s => s.institutionId = (studentOf level
      isDirectEntry).institutionId ∧ s.scope = .institution ∧ s.isCurrent) = none := rfl
  have assigned (ids : List Id) : assignedDues (oneDue (studentOf level isDirectEntry)
      (dueOf500 isFresher .active)) (studentOf level isDirectEntry) ids = [] := List.mergeSort_nil
  simp only [returns_outside_bind, returns_ret, memberOf, session, available, assigned]
  exact (List.mergeSort_singleton _).symm

/-- A fresher is shown the due, and can pay it. -/
theorem listed_due_payable_fresher : ∃ entries e, (getMyDues (.ofNat 1)).Returns
      (oneDue (studentOf 100 false) (dueOf500 true .active)) ({} : Services) entries ∧ e ∈ entries ∧
    e.canPay = true ∧
    ((∀ e ∈ entries, e.canPay = true →
      ((∃ r, Resolves (oneDue (studentOf 100 false) (dueOf500 true .active)) {} (.ofNat 1) (some e.dueId)
          e.dueAssignmentId e.amount (.ofNat 25) r) ↔
        PayableEntry (oneDue (studentOf 100 false) (dueOf500 true .active)) (.ofNat 1) e)) ∧
      ∀ student due, (hasDues student.numericLevel && dueAudience student due) = isEligible due student ∧
          studentAudience due student = isEligible due student ↔
        ¬(student.isDirectEntry = true ∧ student.numericLevel = some 100 ∧ due.isFresher = true ∧
          due.isDirectEntryEligible = true)) := by
  have listed := returns_getMyDues_oneDue (by decide : hasDues (some 100) = true)
    (by decide : dueAudience (studentOf 100 false) (dueOf500 true .active) = true)
  exact ⟨_, _, listed, List.mem_cons_self, by decide, listed_dues_payable listed rfl⟩

/-- A direct entry student of level 100 is shown a due as one that can be paid, which
`resolveDueAssignment` refuses; the audiences differ on it. -/
theorem direct_entry_fresher_refused : (∃ entries e, (getMyDues (.ofNat 1)).Returns
      (oneDue (studentOf 100 true) (dueOf500 true .active)) ({} : Services) entries ∧ e ∈ entries ∧
      e.canPay = true ∧ ¬∃ r, Resolves (oneDue (studentOf 100 true) (dueOf500 true .active)) {} (.ofNat 1)
        (some e.dueId) e.dueAssignmentId e.amount (.ofNat 25) r) ∧
    dueAudience (studentOf 100 true) (dueOf500 true .active) = true ∧
    isEligible (dueOf500 true .active) (studentOf 100 true) = false := by
  have listed := returns_getMyDues_oneDue (by decide : hasDues (some 100) = true)
    (by decide : dueAudience (studentOf 100 true) (dueOf500 true .active) = true)
  refine ⟨⟨_, _, listed, List.mem_cons_self, by decide, ?_⟩, by decide, by decide⟩
  rintro ⟨r, h⟩
  obtain ⟨due, student, named, -⟩ := resolves_due.1 h
  have hdue : some due = some (dueOf500 true .active) := named.hdue.symm.trans (by decide +kernel)
  have hstudent : some student = some (studentOf 100 true) := named.hstudent.symm.trans (by decide +kernel)
  have eligible := named.eligible
  rw [Option.some.inj hdue, Option.some.inj hstudent] at eligible
  cases eligible

end Heightt

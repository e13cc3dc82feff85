import KmtLegal.Relational.Run
import KmtLegal.Office

/-!
# No lawyer is double booked

The services that write appointments choose the scope of the conflict check and the excluded id
each in its own way, and some do not check at all.  Read through the calendar of the lawyers they
all do one of two things: let bookings go, or write one booking that fits.  Exclusiveness survives
both, so it survives every run.
-/

namespace KmtLegal

open Relational Scheduling

/-! ## The statement -/

/-- Distinct active appointments of one lawyer share no moment. -/
def NoDoubleBooking (db : Database) : Prop :=
  ∀ ⦃id id' p p'⦄, id ≠ id' → db.appointments.lookup id = some p →
    db.appointments.lookup id' = some p' → p.status.isActive → p'.status.isActive →
    ∀ lawyerId, p.lawyerId = some lawyerId → p'.lawyerId = some lawyerId →
      Disjoint (Set.Ico p.startsAt p.endsAt) (Set.Ico p'.startsAt p'.endsAt)

/-- It says that the calendar of the lawyers is exclusive. -/
theorem noDoubleBooking_iff {db : Database} :
    NoDoubleBooking db ↔ (lawyerCalendar db).Exclusive := by
  constructor
  · intro h i j a b hij ha hb
    obtain ⟨p, hp, hpa⟩ := lawyerCalendar_eq_some.mp ha
    obtain ⟨q, hq, hqb⟩ := lawyerCalendar_eq_some.mp hb
    obtain ⟨hactive, rfl⟩ := Appointment.booking_eq_some.mp hpa
    obtain ⟨hactive', rfl⟩ := Appointment.booking_eq_some.mp hqb
    exact h hij hp hq hactive hactive'
  · intro h id id' p p' hne hp hp' hactive hactive'
    exact h hne
      (lawyerCalendar_eq_some.mpr ⟨p, hp, Appointment.booking_eq_some.mpr ⟨hactive, rfl⟩⟩)
      (lawyerCalendar_eq_some.mpr ⟨p', hp', Appointment.booking_eq_some.mpr ⟨hactive', rfl⟩⟩)

/-! ## Closed appointments -/

theorem booking_eq_none {p : Appointment} (h : p.status.isActive = false) : p.booking = none := by
  rw [Appointment.booking, h]
  rfl

section

variable {P : Platform} {A : Availability} {db db' : Database} {consultationId : Uuid}

/-- A write of the primary appointment. -/
theorem revision_of_primary {f : Appointment → Appointment}
    (h : db'.appointments =
      db.appointments.updateFound (getPrimaryConsultationAppointment db consultationId) f)
    (hfits : ∀ id p b, getPrimaryConsultationAppointment db consultationId = some (id, p) →
      (f p).booking = some b → (lawyerCalendar db).Fits id b) :
    (lawyerCalendar db).Revision (lawyerCalendar db') := by
  cases hprimary : getPrimaryConsultationAppointment db consultationId with
  | none =>
    rw [hprimary] at h
    exact revision_of_appointments_eq h
  | some e =>
    obtain ⟨id, p⟩ := e
    rw [hprimary] at h
    refine revision_of_update h fun q b hq hb ↦ hfits id p b hprimary ?_
    obtain rfl : p = q := Option.some.inj ((getPrimary_eq_some hprimary).1.symm.trans hq)
    exact hb

/-- The primary appointment is closed. -/
theorem revision_of_closed {s : AppointmentStatus} (hclosed : s.isActive = false)
    (h : db'.appointments = db.appointments.updateFound
      (getPrimaryConsultationAppointment db consultationId) fun p ↦ { p with status := s }) :
    (lawyerCalendar db).Revision (lawyerCalendar db') := by
  refine revision_of_primary h fun id p b _ hb ↦ ?_
  rw [booking_eq_none hclosed] at hb
  cases hb

/-! ## The services -/

theorem scheduleConsultation_revision {call : ScheduleConsultation}
    (h : scheduleConsultation P A db call = .ok db') :
    (lawyerCalendar db).Revision (lawyerCalendar db') := by
  obtain ⟨c, clientId, -, -, -, -, hfits, hdb⟩ := scheduleConsultation_ok h
  exact revision_of_insert (congrArg Database.appointments hdb) hfits

/-- The lawyer changes and the time does not, which was compared with the calendar of the new one. -/
theorem assignConsultation_revision {call : AssignConsultation}
    (h : assignConsultation P db call = .ok db') :
    (lawyerCalendar db).Revision (lawyerCalendar db') := by
  obtain ⟨c, -, -, -, hfits, hdb⟩ := assignConsultation_ok h
  refine revision_of_primary (congrArg Database.appointments hdb) fun id p b hprimary hb ↦ ?_
  obtain ⟨hactive, rfl⟩ := Appointment.booking_eq_some.mp hb
  exact hfits id p hprimary hactive

theorem reviewConsultation_revision {call : ReviewConsultation}
    (h : reviewConsultation P db call = .ok db') :
    (lawyerCalendar db).Revision (lawyerCalendar db') := by
  obtain ⟨c, -, -, rfl⟩ := reviewConsultation_ok h
  exact revision_of_appointments_eq rfl

theorem rejectConsultation_revision {call : RejectConsultation}
    (h : rejectConsultation P db call = .ok db') :
    (lawyerCalendar db).Revision (lawyerCalendar db') := by
  obtain ⟨c, -, -, hdb⟩ := rejectConsultation_ok h
  exact revision_of_closed rfl (congrArg Database.appointments hdb)

theorem convertConsultationToCase_revision {call : ConvertConsultation}
    (h : convertConsultationToCase P db call = .ok db') :
    (lawyerCalendar db).Revision (lawyerCalendar db') := by
  obtain ⟨c, clientId, lawyerId, -, -, happointments, -⟩ := convertConsultationToCase_ok h
  rcases happointments with hsame | ⟨startsAt, -, hfits, hinsert⟩
  · exact revision_of_appointments_eq hsame
  · exact revision_of_insert hinsert hfits

theorem setConsultationOutcome_revision {call : SetConsultationOutcome}
    (h : setConsultationOutcome P db call = .ok db') :
    (lawyerCalendar db).Revision (lawyerCalendar db') := by
  obtain ⟨c, status, -, -, hstatus, hdb⟩ := setConsultationOutcome_ok h
  exact revision_of_closed (ConsultationOutcomeStatus.isActive_of_appointmentStatus hstatus)
    (congrArg Database.appointments hdb)

/-- A closed appointment takes time again, at a time that was compared. -/
theorem reopenMissedConsultation_revision {call : ReopenMissedConsultation}
    (h : reopenMissedConsultation P db call = .ok db') :
    (lawyerCalendar db).Revision (lawyerCalendar db') := by
  obtain ⟨c, id, p, -, -, -, hfits, hdb⟩ := reopenMissedConsultation_ok h
  refine revision_of_update (congrArg Database.appointments hdb) fun q b _ hb ↦ ?_
  obtain ⟨-, rfl⟩ := Appointment.booking_eq_some.mp hb
  exact hfits

theorem createAdminCalendarAppointment_revision {call : CreateCalendarAppointment}
    (h : createAdminCalendarAppointment P db call = .ok db') :
    (lawyerCalendar db).Revision (lawyerCalendar db') := by
  obtain ⟨legalCase, startsAt, -, hfits, hdb⟩ := createAdminCalendarAppointment_ok h
  exact revision_of_insert (congrArg Database.appointments hdb) hfits

theorem rescheduleAdminCalendarAppointment_revision {call : RescheduleCalendarAppointment}
    (h : rescheduleAdminCalendarAppointment P db call = .ok db') :
    (lawyerCalendar db).Revision (lawyerCalendar db') := by
  obtain ⟨p, startsAt, hp, -, -, hfits, hdb⟩ := rescheduleAdminCalendarAppointment_ok h
  refine revision_of_update (congrArg Database.appointments hdb) fun q b hq hb ↦ ?_
  obtain rfl : p = q := Option.some.inj (hp.symm.trans hq)
  obtain ⟨-, rfl⟩ := Appointment.booking_eq_some.mp hb
  exact hfits

theorem mutateDirectBooking_revision {call : MutateDirectBooking}
    (h : mutateDirectBooking A db call = .ok db') :
    (lawyerCalendar db).Revision (lawyerCalendar db') := by
  cases mutateDirectBooking_ok h with
  | replayed happointments => exact revision_of_appointments_eq happointments
  | cancelled id c appointmentId p _ _ _ _ happointments =>
    refine revision_of_update happointments fun q b _ hb ↦ ?_
    rw [booking_eq_none rfl] at hb
    cases hb
  | moved id c appointmentId p slot _ _ _ _ hfits happointments =>
    refine revision_of_update happointments fun q b _ hb ↦ ?_
    obtain ⟨-, rfl⟩ := Appointment.booking_eq_some.mp hb
    exact hfits
  | created c _ happointments =>
    rcases happointments with hsame | ⟨p, -, -, hfits, hinsert⟩
    · exact revision_of_appointments_eq hsame
    · exact revision_of_insert hinsert hfits

/-- A reservation has no lawyer yet. -/
theorem createPublicConsultationCheckout_revision {call : CreateCheckout}
    (h : createPublicConsultationCheckout P db call = .ok db') :
    (lawyerCalendar db).Revision (lawyerCalendar db') := by
  obtain ⟨clientId, -, -, hdb⟩ := createPublicConsultationCheckout_ok h
  exact revision_of_insert (congrArg Database.appointments hdb)
    (Calendar.fits_of_resource_eq_none rfl)

/-- A payment confirms a reservation at its time, or lets it go. -/
theorem PaymentFrame.revision (h : PaymentFrame db db') :
    (lawyerCalendar db).Revision (lawyerCalendar db') := by
  refine revision_of_rows fun i p' hp' ↦ ?_
  obtain ⟨p, hp, hstep⟩ := h.appointments.lookup' hp'
  cases hstep with
  | unchanged => exact .inr ⟨_, hp, rfl⟩
  | confirmed notes hreserved =>
    refine .inr ⟨p, hp, ?_⟩
    rw [Appointment.booking, Appointment.booking, hreserved]
    rfl
  | released => exact .inl (booking_eq_none rfl)

theorem reconcileOneConsultation_revision (db : Database) (consultationId : Uuid) (now : Time)
    (source : MaintenanceSource) :
    (lawyerCalendar db).Revision
      (lawyerCalendar (reconcileOneConsultation db consultationId now source).1) := by
  rcases reconcileOneConsultation_cases db consultationId now source with
    hsame | ⟨c, decision, -, hdecided, hdb⟩
  · rw [hsame]
    exact .refl _
  rw [hdb, followPrimary]
  cases hstatus : decision.appointmentStatus with
  | none => exact revision_of_appointments_eq rfl
  | some status =>
    simp only
    split_ifs
    · obtain ⟨-, hnone | houtcome, -⟩ := determineHistoricalOutcome_decided hdecided
      · rw [hstatus] at hnone
        cases hnone
      · exact revision_of_closed (ConsultationOutcomeStatus.isActive_of_appointmentStatus
          (houtcome.symm.trans hstatus)) rfl
    · exact revision_of_appointments_eq rfl

/-! ## Runs -/

/-- Whatever is asked of the office, the calendar of the lawyers is revised. -/
theorem officeStep_revision (P : Platform) (A : Availability) (db : Database)
    (request : OfficeRequest) :
    (lawyerCalendar db).Revision (lawyerCalendar (officeStep P A db request)) := by
  refine commit_of (P := fun db' ↦ (lawyerCalendar db).Revision (lawyerCalendar db'))
    (.refl _) fun db' h ↦ ?_
  cases request with
  | schedule call => exact scheduleConsultation_revision h
  | assign call => exact assignConsultation_revision h
  | review call => exact reviewConsultation_revision h
  | reject call => exact rejectConsultation_revision h
  | convert call => exact convertConsultationToCase_revision h
  | setOutcome call => exact setConsultationOutcome_revision h
  | reopen call => exact reopenMissedConsultation_revision h
  | createAppointment call => exact createAdminCalendarAppointment_revision h
  | reschedule call => exact rescheduleAdminCalendarAppointment_revision h
  | directBooking call => exact mutateDirectBooking_revision h
  | checkout call => exact createPublicConsultationCheckout_revision h
  | payment request =>
    cases h
    exact (paymentStep_frame P db request).revision
  | workerExpire now batchSize maxBatches =>
    cases h
    exact (expireOpenPaymentAttempts_frame now batchSize maxBatches db).revision
  | reconcile consultationId now source =>
    cases h
    exact reconcileOneConsultation_revision db consultationId now source

/-- Along every run of the office from a database in which no lawyer is double booked, none is. -/
theorem no_double_booking (P : Platform) (A : Availability) (h : NoDoubleBooking db)
    (l : List OfficeRequest) : NoDoubleBooking (run (officeStep P A) db l) := by
  rw [noDoubleBooking_iff] at h ⊢
  exact run_invariant (I := fun db ↦ (lawyerCalendar db).Exclusive)
    (fun db request h ↦ h.revision (officeStep_revision P A db request)) h l

end

/-- The lawyer gets the reserved appointment although her meeting begins when it ends. -/
theorem no_double_booking_sampleOffice :
    NoDoubleBooking (run (officeStep plainPlatform noTimes) sampleOffice [.assign sampleAssign]) ∧
      ((run (officeStep plainPlatform noTimes) sampleOffice [.assign sampleAssign]
        ).appointments.lookup sampleReservation).bind Appointment.lawyerId = some sampleLawyer := by
  refine ⟨no_double_booking plainPlatform noTimes ?_ _, by decide +kernel⟩
  intro id id' p p' hne hp hp' _ _ lawyerId hlawyer hlawyer'
  -- only the meeting has a lawyer
  rcases sampleOffice_appointments hp with ⟨-, hnone⟩ | ⟨rfl, -⟩
  · rw [hnone] at hlawyer
    cases hlawyer
  · rcases sampleOffice_appointments hp' with ⟨-, hnone⟩ | ⟨rfl, -⟩
    · rw [hnone] at hlawyer'
      cases hlawyer'
    · exact absurd rfl hne

end KmtLegal

import KmtLegal.Database

/-!
# Clients

How a request is matched with a client: by the canonical form of a phone number, the number as it
was written, or the address.  The staff services then bring the client up to date and assign the
lawyer.
-/

namespace KmtLegal

open Relational Js

/-! ## Phone numbers -/

/-- The ASCII form of a digit, Arabic-Indic and Persian ones included. -/
def asciiDigit (c : Char) : Option Char :=
  if 0x660 ≤ c.toNat ∧ c.toNat ≤ 0x669 then some (Char.ofNat (c.toNat - 0x660 + '0'.toNat))
  else if 0x6f0 ≤ c.toNat ∧ c.toNat ≤ 0x6f9 then some (Char.ofNat (c.toNat - 0x6f0 + '0'.toNat))
  else if isDigit c then some c
  else none

/-- `canonicalPhone(value)`: the digits without the international prefix; local mobile numbers get
the country code. -/
def canonicalPhone (value : String) : Option String :=
  let digits := value.toList.filterMap asciiDigit
  if digits = [] then none
  else
    let number := if ['0', '0'].isPrefixOf digits then digits.drop 2 else digits
    if ['0', '1'].isPrefixOf number ∧ number.length = 11 then
      some (String.ofList ('2' :: '0' :: number.drop 1))
    else some (String.ofList number)

example : ["٠١٠ ٠٠٠٠ ٠٠٠١", "+20 100 000 0001", "0020-1000000001", "-"].map canonicalPhone =
    [some "201000000001", some "201000000001", some "201000000001", none] := by decide

/-! ## Writes -/

/-- `tx.client.update`. -/
def Database.updateClient (db : Database) (id : Uuid) (f : Client → Client) :
    Except Failure Database := do
  let _ ← orThrow (db.clients.lookup id) .recordNotFound
  return { db with clients := db.clients.update id f }

/-- `tx.client.create`. -/
def Database.createClient (db : Database) (id : Uuid) (client : Client) :
    Except Failure Database := do
  let clients ← orThrow (db.clients.create id client) .uniqueConstraint
  return { db with clients }

theorem Database.updateClient_eq_ok {db db' : Database} {id : Uuid} {f : Client → Client} :
    db.updateClient id f = .ok db' ↔
      (∃ client, db.clients.lookup id = some client) ∧
        db' = { db with clients := db.clients.update id f } := by
  simp only [updateClient, bind_eq_ok, orThrow_eq_ok, pure_eq_ok]
  constructor
  · rintro ⟨client, hclient, rfl⟩
    exact ⟨⟨client, hclient⟩, rfl⟩
  · rintro ⟨⟨client, hclient⟩, rfl⟩
    exact ⟨client, hclient, rfl⟩

theorem Database.createClient_eq_ok {db db' : Database} {id : Uuid} {client : Client} :
    db.createClient id client = .ok db' ↔
      db.clients.lookup id = none ∧ db' = { db with clients := db.clients.insert id client } := by
  simp only [createClient, bind_eq_ok, orThrow_eq_ok, Table.create_eq_some, pure_eq_ok]
  constructor
  · rintro ⟨_, ⟨hnone, rfl⟩, rfl⟩
    exact ⟨hnone, rfl⟩
  · rintro ⟨hnone, rfl⟩
    exact ⟨_, ⟨hnone, rfl⟩, rfl⟩

/-! ## The client of a consultation -/

/-- The columns a consultation brings, with the lawyer it is assigned to. -/
def ConsultationRequest.writeClient (c : ConsultationRequest) (assignedLawyerId : Uuid)
    (now : Time) (client : Client) : Client :=
  { client with
    fullName := c.fullName
    phone := c.phone
    phoneCanonical := canonicalPhone c.phone
    email := c.email
    city := c.city
    status := .active
    assignedLawyerId := some assignedLawyerId
    updatedAt := now }

/-- `upsertClientFromConsultation(tx, consultation, assignedLawyerId)`, with the client's id. -/
def upsertClientFromConsultation (db : Database) (c : ConsultationRequest) (assignedLawyerId : Uuid)
    (newId : Uuid) (now : Time) : Except Failure (Database × Uuid) :=
  let phoneCanonical := (canonicalPhone c.phone).filter (· ≠ "")
  let email := c.email.filter (· ≠ "")
  match db.clients.findFirst fun _ client ↦
    (phoneCanonical.isSome ∧ client.phoneCanonical = phoneCanonical) ∨ client.phone = c.phone ∨
      (email.isSome ∧ client.email = email) with
  | some (id, _) => do
    let db ← db.updateClient id (c.writeClient assignedLawyerId now)
    return (db, id)
  | none => do
    let db ← db.createClient newId (c.writeClient assignedLawyerId now
      { fullName := c.fullName, phone := c.phone, source := some "consultation" })
    return (db, newId)

/-- The client a consultation has, or else the one it is matched with. -/
def clientOfConsultation (db : Database) (c : ConsultationRequest) (assignedLawyerId : Uuid)
    (newId : Uuid) (now : Time) : Except Failure (Database × Uuid) :=
  match c.clientId with
  | some id => do
    let db ← db.updateClient id (c.writeClient assignedLawyerId now)
    return (db, id)
  | none => upsertClientFromConsultation db c assignedLawyerId newId now

/-- Only clients are written. -/
theorem clientOfConsultation_frame {db db' : Database} {c : ConsultationRequest}
    {assignedLawyerId newId id : Uuid} {now : Time}
    (h : clientOfConsultation db c assignedLawyerId newId now = .ok (db', id)) :
    db' = { db with clients := db'.clients } := by
  have hupdate : ∀ i f, (db.updateClient i f >>= fun d ↦ pure (d, i)) = .ok (db', id) →
      db' = { db with clients := db'.clients } := by
    intro i f h
    obtain ⟨d, hd, hpair⟩ := bind_eq_ok.mp h
    cases hpair
    obtain ⟨-, rfl⟩ := Database.updateClient_eq_ok.mp hd
    rfl
  unfold clientOfConsultation at h
  cases hclient : c.clientId with
  | some i =>
    rw [hclient] at h
    exact hupdate i _ h
  | none =>
    rw [hclient] at h
    simp only [upsertClientFromConsultation] at h
    split at h
    · exact hupdate _ _ h
    · obtain ⟨d, hd, hpair⟩ := bind_eq_ok.mp h
      cases hpair
      obtain ⟨-, rfl⟩ := Database.createClient_eq_ok.mp hd
      rfl

/-! ## Lawyers -/

/-- The role and the account are active, and the role is that of a lawyer. -/
def User.isAssignableLawyer (u : User) : Bool :=
  u.status = .active ∧ u.deletedAt = none ∧ u.roleName = "Lawyer" ∧ u.roleStatus = .active

/-- `assertAssignableLawyer(userId, client)` and `assertActiveConsultationLawyer(userId, client)`. -/
def assertAssignableLawyer (db : Database) (userId : Uuid) : Except Failure Unit :=
  throwIf (¬(db.users.lookup userId).any User.isAssignableLawyer)
    (.of 400 .validationError "Assigned lawyer is invalid.")

end KmtLegal

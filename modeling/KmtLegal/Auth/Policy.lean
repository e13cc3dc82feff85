import Mathlib

/-!
# Roles and permissions

`policy.ts` over the tables of `policy-data.json`.  A principal carries the permissions stored
with the account; only a principal without any falls back to those of its role.
-/

namespace KmtLegal

/-- `policy.permissions`. -/
def allPermissions : List String :=
  ["audit.read.any", "appointment.create.self", "appointment.manage.any",
   "appointment.read.assigned", "appointment.read.own", "case.create.any",
   "case.read.any", "case.read.assigned", "case.read.own", "case.update.any",
   "case.update.assigned", "caseStudy.approve.any", "caseStudy.create.any",
   "caseStudy.read.public", "client.read.any", "client.read.assigned",
   "client.read.self", "client.account.manage", "client.update.any",
   "contact.manage.any", "contact.read.any", "conversation.assign.any",
   "conversation.create.own", "conversation.manage.any", "conversation.read.any",
   "conversation.read.own", "conversation.reply.any", "conversation.reply.own",
   "consultation.create.public", "consultation.review.any",
   "consultation.review.assigned", "content.approve.any", "content.create.any",
   "content.read.public", "document.manage.any", "document.read.assigned",
   "document.read.own", "document.upload.self", "email.read.audit", "finance.manage.any",
   "finance.read.any", "lawyer.manage.any", "lawyer.read.public", "note.create.assigned",
   "note.read.any", "note.read.assigned", "notification.read.self", "payment.read.own",
   "permission.manage.any", "report.read.any", "role.manage.any", "service.manage.any",
   "service.read.public", "session.manage.any", "session.manage.assigned",
   "settings.manage.any", "socialDraft.approve.any", "socialDraft.create.any",
   "task.manage.any", "task.manage.assigned", "task.read.assigned",
   "twoFactor.manage.self", "twoFactor.reset.staff", "user.manage.any", "user.read.self"]

/-- `permissionsForRole(roleName)`; the star of the super admin stands for all of them. -/
def permissionsForRole : String → List String
  | "Guest" =>
    ["caseStudy.read.public", "consultation.create.public", "content.read.public",
     "lawyer.read.public", "service.read.public"]
  | "Client" =>
    ["appointment.create.self", "appointment.read.own", "case.read.own",
     "client.read.self", "conversation.create.own", "conversation.read.own",
     "conversation.reply.own", "document.read.own", "document.upload.self",
     "notification.read.self", "payment.read.own", "user.read.self"]
  | "Lawyer" =>
    ["appointment.read.assigned", "case.read.assigned", "case.update.assigned",
     "client.read.assigned", "consultation.review.assigned", "document.read.assigned",
     "note.create.assigned", "note.read.assigned", "notification.read.self",
     "session.manage.assigned", "task.manage.assigned", "task.read.assigned",
     "twoFactor.manage.self", "user.read.self"]
  | "Office Admin" =>
    ["appointment.manage.any", "case.create.any", "case.read.any", "case.update.any",
     "client.read.any", "client.account.manage", "client.update.any",
     "contact.manage.any", "contact.read.any", "conversation.assign.any",
     "conversation.manage.any", "conversation.read.any", "conversation.reply.any",
     "consultation.review.any", "document.manage.any", "finance.manage.any",
     "finance.read.any", "notification.read.self", "report.read.any",
     "session.manage.any", "task.manage.any", "twoFactor.manage.self", "user.read.self"]
  | "Secretary" =>
    ["appointment.manage.any", "case.create.any", "case.read.any", "case.update.any",
     "client.read.any", "client.account.manage", "client.update.any",
     "contact.manage.any", "contact.read.any", "conversation.assign.any",
     "conversation.manage.any", "conversation.read.any", "conversation.reply.any",
     "consultation.review.any", "document.manage.any", "finance.manage.any",
     "finance.read.any", "notification.read.self", "report.read.any",
     "session.manage.any", "task.manage.any", "twoFactor.manage.self", "user.read.self"]
  | "Marketing Staff" =>
    ["caseStudy.create.any", "content.create.any", "notification.read.self",
     "socialDraft.create.any", "twoFactor.manage.self", "user.read.self"]
  | "Super Admin" => allPermissions
  | _ => []

structure Principal where
  id : String
  roleName : String
  permissions : Option (List String) := none
  clientId : Option String := none
  deriving DecidableEq

/-- `isStaffRole(roleName)`. -/
def isStaffRole (roleName : String) : Bool :=
  roleName ∈ ["Lawyer", "Secretary", "Office Admin", "Marketing Staff", "Super Admin"]

/-- `hasPermission(principal, permission)`. -/
def hasPermission (principal : Principal) (permission : String) : Bool :=
  if principal.roleName = "Super Admin" then true
  else
    let effective := principal.permissions.getD (permissionsForRole principal.roleName)
    "*" ∈ effective ∨ permission ∈ effective

end KmtLegal

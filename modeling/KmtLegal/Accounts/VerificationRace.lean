import KmtLegal.Accounts.Verification
import KmtLegal.Relational.Run

/-!
# Account links side by side

What a call of the two services relies on while it holds its locks, and that the statements of the
other calls leave it alone.
-/

namespace KmtLegal

open Relational Js

/-! ## Where a call is -/

def VerificationPhase.completed : VerificationPhase → Option (Challenge × Uuid × Uuid)
  | start _ => none
  | complete phase => phase.completed

/-- The user of a call that has committed and not made its session. -/
def VerificationPhase.awaitsSession : VerificationPhase → Option Uuid
  | complete (.committed _ userId _) => some userId
  | _ => none

/-- The user whose sessions the next statement reads to revoke them. -/
def VerificationPhase.revokes : VerificationPhase → Option Uuid
  | complete (.found _ userId _) => some userId
  | _ => none

/-! ## What a call knows -/

section

variable {ω : Type} (hashtext : String → ℤ) (L : Locks VerificationLock ω)
  (rows : VerificationRows) (w : ω)

/-- As long as the link is not used, the conversation has the client that was read. -/
def Challenge.Stands (c : Challenge) : Prop :=
  ∃ t, rows.tokens.lookup c.id = some t ∧ t.sessionId = c.token.sessionId ∧
    (t.consumedAt = none → ∃ conversation,
      rows.conversations.lookup c.token.sessionId = some conversation ∧
        conversation.clientId = c.conversation.clientId)

/-- The link is the call's to use. -/
structure Challenge.Held (c : Challenge) : Prop where
  lock : L (.token c.id) = some w
  token : ∃ t, rows.tokens.lookup c.id = some t ∧ t.sessionId = c.token.sessionId ∧
    t.consumedAt = none
  conversation : ∃ conversation,
    rows.conversations.lookup c.token.sessionId = some conversation ∧
      conversation.clientId = c.conversation.clientId

/-- So is the e-mail. -/
structure Challenge.Queued (c : Challenge) : Prop extends c.Held L rows w where
  email : L (.email (hashtext (toLowerCase c.token.email))) = some w

/-- The link is used. -/
def Challenge.IsUsed (c : Challenge) : Prop :=
  ∃ t, rows.tokens.lookup c.id = some t ∧ t.consumedAt.isSome

/-- The account may be recovered. -/
structure Recoverable (c : Challenge) (userId clientId : Uuid) : Prop where
  purpose : c.token.purpose = .recover
  user : ∃ u, rows.accounts.users.lookup userId = some u ∧
    toLowerCase u.email = toLowerCase c.token.email ∧ rows.accounts.hasActiveRole "Client" u
  client : ∃ client, rows.accounts.clients.lookup clientId = some client ∧
    client.userId = some userId ∧ client.deletedAt = none
  linked : ∀ linkedId, c.conversation.clientId = some linkedId → clientId = linkedId

/-- Nobody has the e-mail, and the conversation has no client. -/
structure Vacant (c : Challenge) : Prop where
  purpose : c.token.purpose = .activate
  unlinked : c.conversation.clientId = none
  email : ∀ id u, rows.accounts.users.lookup id = some u →
    toLowerCase u.email ≠ toLowerCase c.token.email

def CompletePhase.Knows : CompletePhase → Prop
  | begin | failed _ => True
  | challenged c => c.Stands rows
  | consumed c => c.Held L rows w
  | queued c | rotated c => c.Queued hashtext L rows w
  | found c userId clientId => c.Queued hashtext L rows w ∧ Recoverable rows c userId clientId
  | revoked c userId clientId sessions =>
    c.Queued hashtext L rows w ∧ Recoverable rows c userId clientId ∧
      ∀ id session, rows.accounts.sessions.lookup id = some session → session.userId = userId →
        session.revokedAt = none → id ∈ sessions
  | vacant c => c.Queued hashtext L rows w ∧ Vacant rows c
  | committed c userId _ =>
    c.IsUsed rows ∧ (∃ u, rows.accounts.users.lookup userId = some u ∧
      rows.accounts.hasActiveRole "Client" u) ∧
      (c.token.purpose = .recover → ∀ id session, rows.accounts.sessions.lookup id = some session →
        session.userId = userId → session.revokedAt.isSome)
  | answered c _ _ => c.IsUsed rows

def StartPhase.Knows : StartPhase → Prop
  | locked a | unrepeated a => L (.conversation a.conversationId) = some w
  | cleared a earlier _ => L (.conversation a.conversationId) = some w ∧
      (∀ id ∈ earlier, L (.token id) = some w) ∧
      ∀ id t, rows.tokens.lookup id = some t → t.sessionId = a.conversationId →
        t.consumedAt = none → id ∈ earlier
  | _ => True

def VerificationPhase.Knows : VerificationPhase → Prop
  | start phase => phase.Knows L rows w
  | complete phase => phase.Knows hashtext L rows w

/-- A conversation has one link that is not used. -/
def SingleLink : Prop :=
  ∀ id id' t t', rows.tokens.lookup id = some t → rows.tokens.lookup id' = some t' →
    t.sessionId = t'.sessionId → t.consumedAt = none → t'.consumedAt = none → id = id'

end

/-! ## What the other calls see -/

/-- What a statement of the call `w` may do to the rows, as the others see it.  It may make a session
of the user `opens`. -/
structure Evolves {ω : Type} (hashtext : String → ℤ) (L : Locks VerificationLock ω) (w : ω)
    (opens : Option Uuid) (rows rows' : VerificationRows) : Prop where
  roles : rows'.accounts.roles = rows.accounts.roles
  token : ∀ id t, rows.tokens.lookup id = some t → ∃ t', rows'.tokens.lookup id = some t' ∧
    t'.sessionId = t.sessionId ∧ (t' = t ∨ t'.consumedAt.isSome)
  heldToken : ∀ id t w', w' ≠ w → L (.token id) = some w' → rows.tokens.lookup id = some t →
    rows'.tokens.lookup id = some t
  newToken : ∀ id t, rows.tokens.lookup id = none → rows'.tokens.lookup id = some t →
    L (.conversation t.sessionId) = some w ∧ ∀ id' t', rows'.tokens.lookup id' = some t' →
      t'.sessionId = t.sessionId → id' ≠ id → t'.consumedAt.isSome
  conversation : ∀ id c, rows.conversations.lookup id = some c →
    ∃ c', rows'.conversations.lookup id = some c' ∧ (c'.clientId = c.clientId ∨
      ∃ tokenId t t', rows.tokens.lookup tokenId = some t ∧ t.sessionId = id ∧
        t.consumedAt = none ∧ L (.token tokenId) = some w ∧
          rows'.tokens.lookup tokenId = some t' ∧ t'.consumedAt.isSome)
  user : ∀ id u, rows.accounts.users.lookup id = some u →
    ∃ u', rows'.accounts.users.lookup id = some u' ∧ u'.email = u.email ∧
      u'.status = u.status ∧ u'.deletedAt = u.deletedAt ∧ u'.roleId = u.roleId
  newUser : ∀ id u, rows.accounts.users.lookup id = none → rows'.accounts.users.lookup id = some u →
    L (.email (hashtext (toLowerCase u.email))) = some w ∧ ∀ id' u',
      rows'.accounts.users.lookup id' = some u' → toLowerCase u'.email = toLowerCase u.email →
        id' = id
  client : ∀ id c, rows.accounts.clients.lookup id = some c →
    rows'.accounts.clients.lookup id = some c
  session : ∀ id session, rows'.accounts.sessions.lookup id = some session →
    session.revokedAt = none →
      rows.accounts.sessions.lookup id = some session ∨ opens = some session.userId

section

variable {ω : Type} {hashtext : String → ℤ} {L L' : Locks VerificationLock ω} {w w' : ω}
  {opens : Option Uuid} {rows rows' : VerificationRows}

theorem Evolves.refl : Evolves hashtext L w opens rows rows where
  roles := rfl
  token _ t h := ⟨t, h, rfl, .inl rfl⟩
  heldToken _ _ _ _ _ h := h
  newToken _ _ hnone h := by rw [hnone] at h; cases h
  conversation _ c h := ⟨c, h, .inl rfl⟩
  user _ u h := ⟨u, h, rfl, rfl, rfl, rfl⟩
  newUser _ _ hnone h := by rw [hnone] at h; cases h
  client _ _ h := h
  session _ _ h _ := .inl h

theorem hasActiveRole_congr {acc acc' : Accounts} {u u' : UserRecord} (hroles : acc'.roles = acc.roles)
    (hstatus : u'.status = u.status) (hdeleted : u'.deletedAt = u.deletedAt)
    (hrole : u'.roleId = u.roleId) (h : acc.hasActiveRole "Client" u) :
    acc'.hasActiveRole "Client" u' := by
  rw [Accounts.hasActiveRole_iff] at h ⊢
  rw [hstatus, hdeleted, hrole, hroles]
  exact h

namespace Evolves

variable (h : Evolves hashtext L w opens rows rows')

include h

theorem singleLink (hsingle : SingleLink rows) : SingleLink rows' := by
  intro id id' t t' ht ht' hsession hopen hopen'
  by_contra hne
  cases hid : rows.tokens.lookup id with
  | none =>
    have hused := (h.newToken id t hid ht).2 id' t' ht' hsession.symm (Ne.symm hne)
    rw [hopen'] at hused
    cases hused
  | some old =>
    cases hid' : rows.tokens.lookup id' with
    | none =>
      have hused := (h.newToken id' t' hid' ht').2 id t ht hsession hne
      rw [hopen] at hused
      cases hused
    | some old' =>
      -- an unused link was there before as it is
      have hold : ∀ id t old, rows'.tokens.lookup id = some t → rows.tokens.lookup id = some old →
          t.consumedAt = none → old = t := by
        intro id t old ht hold hopen
        obtain ⟨t₁, ht₁, -, heq | hused⟩ := h.token id old hold
        · rw [← heq]
          exact Option.some.inj (ht₁.symm.trans ht)
        · obtain rfl := Option.some.inj (ht₁.symm.trans ht)
          rw [hopen] at hused
          cases hused
      obtain rfl := hold id t old ht hid hopen
      obtain rfl := hold id' t' old' ht' hid' hopen'
      exact hne (hsingle id id' old old' hid hid' hsession hopen hopen')

theorem isUsed {c : Challenge} (hused : c.IsUsed rows) : c.IsUsed rows' := by
  obtain ⟨t, ht, hsome⟩ := hused
  obtain ⟨t', ht', -, rfl | hsome'⟩ := h.token _ t ht
  · exact ⟨t', ht', hsome⟩
  · exact ⟨t', ht', hsome'⟩

theorem activeUser {userId : Uuid} {p : String → Prop}
    (huser : ∃ u, rows.accounts.users.lookup userId = some u ∧ p u.email ∧
      rows.accounts.hasActiveRole "Client" u) :
    ∃ u, rows'.accounts.users.lookup userId = some u ∧ p u.email ∧
      rows'.accounts.hasActiveRole "Client" u := by
  obtain ⟨u, hu, hp, hactive⟩ := huser
  obtain ⟨u', hu', hemail, hstatus, hdeleted, hrole⟩ := h.user userId u hu
  exact ⟨u', hu', hemail ▸ hp, hasActiveRole_congr h.roles hstatus hdeleted hrole hactive⟩

theorem recoverable {c : Challenge} {userId clientId : Uuid}
    (hrec : Recoverable rows c userId clientId) : Recoverable rows' c userId clientId where
  purpose := hrec.purpose
  user := h.activeUser (p := fun email ↦ toLowerCase email = toLowerCase c.token.email) hrec.user
  client := by
    obtain ⟨client, hclient, hrest⟩ := hrec.client
    exact ⟨client, h.client _ _ hclient, hrest⟩
  linked := hrec.linked

/-- What was read with a link stands until the link is used. -/
theorem stands (hsingle : SingleLink rows) {c : Challenge} (hstands : c.Stands rows) :
    c.Stands rows' := by
  obtain ⟨t, ht, hsession, hconversation⟩ := hstands
  obtain ⟨t', ht', hsession', heq⟩ := h.token _ t ht
  refine ⟨t', ht', hsession'.trans hsession, fun hopen ↦ ?_⟩
  rcases heq with rfl | hused
  · obtain ⟨conversation, hlookup, hclient⟩ := hconversation hopen
    obtain ⟨conversation', hlookup', hsame | ⟨id, t₁, t₁', ht₁, hs₁, hopen₁, -, ht₁', hused₁⟩⟩ :=
      h.conversation _ _ hlookup
    · exact ⟨conversation', hlookup', hsame.trans hclient⟩
    · -- another link of the conversation would be unused
      obtain rfl := hsingle _ _ _ _ ht₁ ht (hs₁.trans hsession.symm) hopen₁ hopen
      obtain rfl := Option.some.inj (ht₁'.symm.trans ht')
      rw [hopen] at hused₁
      cases hused₁
  · rw [hopen] at hused
    cases hused

variable (hL : Locks.Respects w L L') (hne : w' ≠ w)

include hL hne

theorem held (hsingle : SingleLink rows) {c : Challenge} (hheld : c.Held L rows w') :
    c.Held L' rows' w' := by
  obtain ⟨t, ht, hsession, hopen⟩ := hheld.token
  have ht' := h.heldToken _ t w' hne hheld.lock ht
  have hstands : c.Stands rows' :=
    h.stands hsingle ⟨t, ht, hsession, fun _ ↦ hheld.conversation⟩
  obtain ⟨t₁, ht₁, -, hconversation⟩ := hstands
  obtain rfl := Option.some.inj (ht₁.symm.trans ht')
  exact ⟨hL _ _ hne hheld.lock, ⟨t₁, ht', hsession, hopen⟩, hconversation hopen⟩

theorem queued (hsingle : SingleLink rows) {c : Challenge}
    (hqueued : c.Queued hashtext L rows w') : c.Queued hashtext L' rows' w' :=
  ⟨h.held hL hne hsingle hqueued.toHeld, hL _ _ hne hqueued.email⟩

omit hL in
theorem vacant {c : Challenge} (hqueued : c.Queued hashtext L rows w')
    (hvacant : Vacant rows c) : Vacant rows' c := by
  refine ⟨hvacant.purpose, hvacant.unlinked, fun id u hu hemail ↦ ?_⟩
  cases hold : rows.accounts.users.lookup id with
  | none =>
    -- whoever makes the user holds the lock of its e-mail
    have hlock := (h.newUser id u hold hu).1
    rw [hemail, hqueued.email] at hlock
    exact hne (Option.some.inj hlock)
  | some old =>
    obtain ⟨u', hu', hsame, -⟩ := h.user id old hold
    obtain rfl := Option.some.inj (hu'.symm.trans hu)
    exact hvacant.email id old hold (hsame ▸ hemail)

end Evolves

/-- The user whose sessions a recovery has revoked, or is about to. -/
def VerificationPhase.cleared : VerificationPhase → Option Uuid
  | complete (.revoked _ userId _ _) => some userId
  | complete (.committed c userId _) => if c.token.purpose = .recover then some userId else none
  | _ => none

/-- What a call knows survives the statements of the others. -/
theorem VerificationPhase.Knows.mono {phase : VerificationPhase}
    (hknows : phase.Knows hashtext L rows w') (h : Evolves hashtext L w opens rows rows')
    (hL : Locks.Respects w L L') (hne : w' ≠ w) (hsingle : SingleLink rows)
    (hopens : ∀ userId, opens = some userId → phase.cleared ≠ some userId) :
    phase.Knows hashtext L' rows' w' := by
  cases phase with
  | start phase =>
    cases phase with
    | locked a => exact hL _ _ hne hknows
    | unrepeated a => exact hL _ _ hne hknows
    | cleared a earlier consumedAt =>
      obtain ⟨hlock, hlocks, hall⟩ := hknows
      refine ⟨hL _ _ hne hlock, fun id hid ↦ hL _ _ hne (hlocks id hid), ?_⟩
      intro id t ht hsession hopen
      cases hold : rows.tokens.lookup id with
      | none =>
        -- only the holder of the conversation makes a link for it
        have hlock' := (h.newToken id t hold ht).1
        rw [hsession, hlock] at hlock'
        exact absurd (Option.some.inj hlock') hne
      | some old =>
        obtain ⟨t', ht', hsession', heq⟩ := h.token id old hold
        obtain rfl := Option.some.inj (ht'.symm.trans ht)
        rcases heq with rfl | hused
        · exact hall id _ hold hsession hopen
        · rw [hopen] at hused
          cases hused
    | _ => trivial
  | complete phase =>
    cases phase with
    | challenged c => exact h.stands hsingle hknows
    | consumed c => exact h.held hL hne hsingle hknows
    | queued c => exact h.queued hL hne hsingle hknows
    | rotated c => exact h.queued hL hne hsingle hknows
    | found c userId clientId =>
      exact ⟨h.queued hL hne hsingle hknows.1, h.recoverable hknows.2⟩
    | revoked c userId clientId sessions =>
      obtain ⟨hqueued, hrec, hsessions⟩ := hknows
      refine ⟨h.queued hL hne hsingle hqueued, h.recoverable hrec, ?_⟩
      intro id session hlookup huser hopen
      rcases h.session id session hlookup hopen with hold | hopened
      · exact hsessions id session hold huser hopen
      · exact absurd (congrArg some huser.symm) (hopens _ hopened)
    | vacant c =>
      exact ⟨h.queued hL hne hsingle hknows.1, h.vacant hne hknows.1 hknows.2⟩
    | committed c userId clientId =>
      obtain ⟨hused, ⟨u, hu, hactive⟩, hsessions⟩ := hknows
      obtain ⟨u', hu', -, hactive'⟩ :=
        h.activeUser (p := fun _ ↦ True) ⟨u, hu, trivial, hactive⟩
      refine ⟨h.isUsed hused, ⟨u', hu', hactive'⟩, fun hpurpose id session hlookup huser ↦ ?_⟩
      by_contra hopen
      have hopen := Option.not_isSome_iff_eq_none.mp hopen
      rcases h.session id session hlookup hopen with hold | hopened
      · have hrevoked := hsessions hpurpose id session hold huser
        rw [hopen] at hrevoked
        cases hrevoked
      · refine hopens _ hopened ?_
        rw [VerificationPhase.cleared, if_pos hpurpose, huser]
    | answered c userId clientId => exact h.isUsed hknows
    | begin => trivial
    | failed e => trivial

end

/-! ## What the writes do -/

section

variable {P : Platform} {capabilityHash : String → String} {hashtext : String → ℤ}
  {rows rows' : VerificationRows}

theorem issue_eq_ok {call : StartVerification} {a : Addressee} {earlier : List Uuid}
    {consumedAt now : Time} (h : call.issue capabilityHash rows a earlier consumedAt now = .ok rows') :
    rows.tokens.lookup call.newTokenId = none ∧
      rows' = { rows with
        tokens := (rows.tokens.updateMany (fun id _ ↦ id ∈ earlier)
          (VerificationToken.consume consumedAt)).insert call.newTokenId
            (call.newToken capabilityHash a now) } := by
  simp only [StartVerification.issue, bind_eq_ok, throwIf_eq_ok, orThrow_eq_ok, pure_eq_ok,
    Table.create_eq_some] at h
  obtain ⟨_, -, _, ⟨hnew, rfl⟩, rfl⟩ := h
  rw [Table.lookup_updateMany, Option.map_eq_none_iff] at hnew
  exact ⟨hnew, rfl⟩

/-- Only requests, appointments and threads are attached. -/
theorem bindAssistantThreadIdentity_eq_ok {sessionId clientId : Uuid}
    (h : rows.bindAssistantThreadIdentity sessionId clientId = .ok rows') :
    rows'.accounts = rows.accounts ∧ rows'.tokens = rows.tokens ∧
      rows'.conversations = rows.conversations := by
  obtain ⟨session, -, h⟩ := bind_eq_ok.mp h
  obtain ⟨rows₁, hrequest, hthread⟩ := bind_eq_ok.mp h
  have h₁ : rows₁.accounts = rows.accounts ∧ rows₁.tokens = rows.tokens ∧
      rows₁.conversations = rows.conversations := by
    cases hid : session.consultationRequestId with
    | none =>
      rw [hid] at hrequest
      cases hrequest
      exact ⟨rfl, rfl, rfl⟩
    | some id =>
      rw [hid] at hrequest
      obtain ⟨request, -, hrequest⟩ := bind_eq_ok.mp hrequest
      simp only at hrequest
      split_ifs at hrequest
      · cases hrequest
        exact ⟨rfl, rfl, rfl⟩
      · cases hrequest
        exact ⟨rfl, rfl, rfl⟩
  cases hid : session.conversationThreadId with
  | none =>
    rw [hid] at hthread
    cases hthread
    exact h₁
  | some id =>
    rw [hid] at hthread
    obtain ⟨thread, -, hthread⟩ := bind_eq_ok.mp hthread
    cases hthread
    exact h₁

theorem recoverAccount_eq_ok {call : CompleteVerification} {c : Challenge} {userId clientId : Uuid}
    {sessions : List Uuid} {now : Time}
    (h : call.recoverAccount capabilityHash rows c userId clientId sessions now = .ok rows') :
    rows'.accounts = { rows.accounts with
        users := rows.accounts.users.update userId (call.setPassword now)
        sessions := rows.accounts.sessions.updateMany (fun id _ ↦ id ∈ sessions)
          fun s ↦ { s with status := .revoked, revokedAt := some now } } ∧
      rows'.tokens = rows.tokens.update c.id (.consume c.consumedAt) ∧
      rows'.conversations = rows.conversations.update c.token.sessionId
        (call.rotate capabilityHash clientId) :=
  bindAssistantThreadIdentity_eq_ok h

theorem activateAccount_eq_ok {call : CompleteVerification} {c : Challenge} {now : Time}
    (h : call.activateAccount capabilityHash rows c now = .ok rows') :
    ∃ roleId role, rows.accounts.roles.lookup roleId = some role ∧ role.name = "Client" ∧
      role.status = .active ∧ rows.accounts.users.lookup call.newUserId = none ∧
      rows.accounts.clients.lookup call.newClientId = none ∧
      rows'.accounts = { rows.accounts with
        users := rows.accounts.users.insert call.newUserId (call.newUser c roleId now)
        clients := rows.accounts.clients.insert call.newClientId (call.newClient c now) } ∧
      rows'.tokens = rows.tokens.update c.id (.consume c.consumedAt) ∧
      rows'.conversations = rows.conversations.update c.token.sessionId
        (call.link capabilityHash c) := by
  obtain ⟨roleId, hrole, h⟩ := bind_eq_ok.mp h
  obtain ⟨acc, hacc, h⟩ := bind_eq_ok.mp h
  obtain ⟨-, -, h⟩ := bind_eq_ok.mp h
  obtain ⟨clients, hclients, h⟩ := bind_eq_ok.mp h
  simp only [CompleteVerification.clientRole, bind_eq_ok, orThrow_eq_ok, throwIf_eq_ok, pure_eq_ok]
    at hrole
  obtain ⟨⟨_, role⟩, hfound, -, hstatus, rfl⟩ := hrole
  obtain ⟨hlookup, hname⟩ := Table.findFirst_eq_some hfound
  obtain ⟨-, huser, rfl⟩ := Accounts.createUser_eq_ok.mp hacc
  obtain ⟨hclient, rfl⟩ := Table.create_eq_some.mp (orThrow_eq_ok.mp hclients)
  obtain ⟨haccounts, htokens, hconversations⟩ := bindAssistantThreadIdentity_eq_ok h
  exact ⟨_, role, hlookup, of_decide_eq_true hname, not_not.mp hstatus, huser, hclient, haccounts,
    htokens, hconversations⟩

/-- What a recovery or an activation has checked. -/
theorem matchAccount_eq_ok {c : Challenge} {found : Option (Uuid × Uuid)}
    (h : rows.matchAccount c = .ok found) :
    (∃ userId clientId, found = some (userId, clientId) ∧ Recoverable rows c userId clientId) ∨
      found = none ∧ Vacant rows c := by
  unfold VerificationRows.matchAccount at h
  cases hfound : rows.accounts.users.findFirst
      fun _ u ↦ toLowerCase u.email = toLowerCase c.token.email with
  | some found' =>
    obtain ⟨userId, u⟩ := found'
    obtain ⟨hu, hemail⟩ := Table.findFirst_eq_some hfound
    simp only [hfound, bind_eq_ok, throwIf_eq_ok, orThrow_eq_ok, pure_eq_ok,
      Option.filter_eq_some_iff, not_or, not_not, Bool.not_eq_true', Bool.not_eq_false] at h
    obtain ⟨_, ⟨hpurpose, hactive⟩, ⟨clientId, client⟩, ⟨hprofile, hdeleted⟩, _, hlinked, rfl⟩ := h
    obtain ⟨hclient, hown⟩ := Table.findFirst_eq_some hprofile
    refine .inl ⟨userId, clientId, rfl, hpurpose, ⟨u, hu, of_decide_eq_true hemail, hactive⟩,
      ⟨client, hclient, of_decide_eq_true hown, of_decide_eq_true hdeleted⟩, ?_⟩
    intro linkedId hid
    rw [hid] at hlinked
    by_contra hne
    exact hlinked ⟨rfl, fun heq ↦ hne (Option.some.inj heq).symm⟩
  | none =>
    simp only [hfound, bind_eq_ok, throwIf_eq_ok, pure_eq_ok, not_or, not_not,
      Option.not_isSome_iff_eq_none] at h
    obtain ⟨_, ⟨hpurpose, hclient⟩, -, -, -, -, rfl⟩ := h
    refine .inr ⟨rfl, hpurpose, hclient, fun id u hu hemail ↦ ?_⟩
    exact Table.findFirst_eq_none.mp hfound id u hu (decide_eq_true hemail)

theorem mem_openSessions {userId id : Uuid} {session : UserSession}
    (h : rows.accounts.sessions.lookup id = some session) (huser : session.userId = userId)
    (hopen : session.revokedAt = none) : id ∈ rows.openSessions userId :=
  List.mem_map.mpr ⟨(id, session), Table.mem_select.mpr ⟨h, decide_eq_true ⟨huser, hopen⟩⟩, rfl⟩

end

/-! ## One statement -/

/-- A statement of the call `w` leaves to the others what they know, and the call knows what its next
statement needs. -/
structure SoundStep {ω : Type} (hashtext : String → ℤ) (w : ω) (opens : Option Uuid)
    (s : VerificationDatabase ω) (r : VerificationDatabase ω × VerificationPhase) : Prop where
  evolves : Evolves hashtext s.locks w opens s.rows r.1.rows
  respects : Locks.Respects w s.locks r.1.locks
  knows : r.2.Knows hashtext r.1.locks r.1.rows w

section

variable {ω : Type} {P : Platform} {capabilityHash : String → String} {hashtext : String → ℤ}
  {w : ω} {opens : Option Uuid} {s : VerificationDatabase ω} {p : VerificationPhase}

theorem SoundStep.stay (h : p.Knows hashtext s.locks s.rows w) :
    SoundStep hashtext w opens s (s, p) :=
  ⟨.refl, .refl w s.locks, h⟩

theorem permit_knows (call : StartVerification) (id : Uuid) (c : ClientConversation)
    (L : Locks VerificationLock ω) (rows : VerificationRows) : (call.permit id c).Knows L rows w := by
  unfold StartVerification.permit
  split_ifs
  · trivial
  · trivial
  · trivial

theorem own_knows (call : StartVerification) (now : Time) (L : Locks VerificationLock ω)
    (rows : VerificationRows) : (call.own capabilityHash rows now).Knows L rows w := by
  unfold StartVerification.own
  split
  · trivial
  · split_ifs
    · trivial
    · trivial
    · exact permit_knows call _ _ L rows

theorem ownAgain_knows (call : StartVerification) (now : Time) (id : Uuid)
    (L : Locks VerificationLock ω) (rows : VerificationRows) :
    (call.ownAgain rows now id).Knows L rows w := by
  unfold StartVerification.ownAgain
  split
  · trivial
  · exact permit_knows call _ _ L rows

theorem rest_knows (now : Time) (id : Uuid) (L : Locks VerificationLock ω)
    (rows : VerificationRows) : (StartVerification.rest rows now id).Knows L rows w := by
  unfold StartVerification.rest
  simp only
  split_ifs
  · trivial
  · trivial

theorem address_knows (call : StartVerification) (id : Uuid) (L : Locks VerificationLock ω)
    (rows : VerificationRows) : (call.address P rows id).Knows L rows w := by
  unfold StartVerification.address
  split
  · trivial
  · trivial

/-- A released lease is no concern of the others. -/
theorem evolves_releaseLease (L : Locks VerificationLock ω) (rows : VerificationRows) (id : Uuid)
    (seen : ClientConversation) (now : Time) :
    Evolves hashtext L w opens rows { rows with
      conversations := rows.conversations.update id (StartVerification.releaseLease seen now) } where
  __ := Evolves.refl
  conversation id' c hc := by
    have hlookup := Table.lookup_update rows.conversations id id'
      (StartVerification.releaseLease seen now)
    rw [hc] at hlookup
    split_ifs at hlookup
    · refine ⟨_, hlookup, .inl ?_⟩
      unfold StartVerification.releaseLease
      split_ifs
      · rfl
      · rfl
    · exact ⟨c, hlookup, .inl rfl⟩

/-- A link whose mail has failed is used. -/
theorem evolves_undelivered [DecidableEq ω] {L : Locks VerificationLock ω} {rows : VerificationRows}
    {id : Uuid} {now : Time} (hfree : L.isFree w [.token id]) :
    Evolves hashtext L w opens rows { rows with tokens := rows.tokens.update id (.consume now) } where
  __ := Evolves.refl
  token id' t ht := by
    have hlookup := Table.lookup_update rows.tokens id id' (.consume now)
    rw [ht] at hlookup
    split_ifs at hlookup
    · exact ⟨_, hlookup, rfl, .inr rfl⟩
    · exact ⟨t, hlookup, rfl, .inl rfl⟩
  heldToken id' t w' hne hlock ht := by
    have hid : id' ≠ id := by
      rintro rfl
      exact hne (Locks.holder_of_isFree hfree List.mem_cons_self hlock)
    exact (Table.lookup_update_of_ne _ _ hid).trans ht
  newToken id' t hnone ht := by
    rw [Table.lookup_update, hnone] at ht
    split_ifs at ht
    cases ht
  conversation _ c hc := ⟨c, hc, .inl rfl⟩

/-- A new link takes the place of the earlier ones. -/
theorem evolves_issue [DecidableEq ω] {L : Locks VerificationLock ω} {rows : VerificationRows} {a : Addressee}
    {earlier : List Uuid} {consumedAt : Time} {id : Uuid} {token : VerificationToken}
    (hknows : (StartPhase.cleared a earlier consumedAt).Knows L rows w)
    (hnew : rows.tokens.lookup id = none) (htoken : token.sessionId = a.conversationId) :
    Evolves hashtext L w opens rows { rows with
      tokens := (rows.tokens.updateMany (fun id _ ↦ id ∈ earlier)
        (VerificationToken.consume consumedAt)).insert id token } where
  __ := Evolves.refl
  token id' t ht := by
    have hid : id' ≠ id := by
      rintro rfl
      rw [hnew] at ht
      cases ht
    simp only [Table.lookup_insert, Table.lookup_updateMany, if_neg hid, ht, Option.map_some]
    split_ifs
    · exact ⟨_, rfl, rfl, .inr rfl⟩
    · exact ⟨t, rfl, rfl, .inl rfl⟩
  heldToken id' t w' hne hlock ht := by
    have hid : id' ≠ id := by
      rintro rfl
      rw [hnew] at ht
      cases ht
    have hearlier : id' ∉ earlier := by
      intro hmem
      rw [hknows.2.1 id' hmem] at hlock
      exact hne (Option.some.inj hlock).symm
    simp only [Table.lookup_insert, Table.lookup_updateMany, if_neg hid, ht, Option.map_some]
    rw [if_neg (by simpa using hearlier)]
  newToken id' t hnone ht := by
    simp only [Table.lookup_insert, Table.lookup_updateMany, hnone, Option.map_none] at ht
    split_ifs at ht with hid
    obtain rfl := Option.some.inj ht
    refine ⟨htoken ▸ hknows.1, fun id₁ t₁ ht₁ hsession hne ↦ ?_⟩
    rw [hid] at hne
    simp only [Table.lookup_insert, Table.lookup_updateMany, if_neg hne,
      Option.map_eq_some_iff] at ht₁
    obtain ⟨old, hold, rfl⟩ := ht₁
    split_ifs at hsession ⊢ with hmem
    · rfl
    · -- it was used before
      by_contra hopen
      exact hmem (decide_eq_true (hknows.2.2 id₁ old hold (hsession.trans htoken)
        (Option.not_isSome_iff_eq_none.mp hopen)))
  conversation _ c hc := ⟨c, hc, .inl rfl⟩

variable [DecidableEq ω]

theorem SoundStep.rollback
    (h : ∀ L : Locks VerificationLock ω, p.Knows hashtext L s.rows w) :
    SoundStep hashtext w opens s (s.rollback w, p) :=
  ⟨.refl, Locks.respects_release, h _⟩

theorem SoundStep.acquire {locks : List VerificationLock} (hfree : s.locks.isFree w locks)
    (h : p.Knows hashtext (s.locks.acquire w locks) s.rows w) :
    SoundStep hashtext w opens s (s.acquire w locks, p) :=
  ⟨.refl, Locks.respects_acquire hfree, h⟩

theorem startStep_sound (call : StartVerification) (now : Time) (delivered : Bool)
    {phase : StartPhase} (hknows : phase.Knows s.locks s.rows w) :
    SoundStep hashtext w none s
      ((startStep P capabilityHash call w now delivered s phase).map id .start) := by
  cases phase with
  | begin => exact .stay (p := .start _) (own_knows call now s.locks s.rows)
  | recover id seen =>
    simp only [startStep]
    split_ifs with hfree
    · exact ⟨evolves_releaseLease _ _ _ _ _, .refl w s.locks, trivial⟩
    · exact .stay (p := .start _) hknows
  | reread id => exact .stay (p := .start _) (ownAgain_knows call now id s.locks s.rows)
  | owned id => exact .stay (p := .start _) (rest_knows now id s.locks s.rows)
  | rested id => exact .stay (p := .start _) (address_knows call id s.locks s.rows)
  | addressed a =>
    simp only [startStep]
    split_ifs with hfree
    · split
      · exact .rollback (p := .start _) fun _ ↦ trivial
      · split_ifs
        · exact .acquire (p := .start _) hfree (Locks.acquire_of_mem List.mem_cons_self)
        · exact .rollback (p := .start _) fun _ ↦ trivial
    · exact .stay (p := .start _) hknows
  | locked a =>
    simp only [startStep]
    split_ifs
    · exact .rollback (p := .start _) fun _ ↦ trivial
    · exact .stay (p := .start _) hknows
  | unrepeated a =>
    simp only [startStep]
    split_ifs with hfree
    · refine .acquire (p := .start _) hfree ⟨Locks.acquire_of_held hknows, ?_, ?_⟩
      · exact fun id hid ↦ Locks.acquire_of_mem (List.mem_map_of_mem hid)
      · intro id t ht hsession hopen
        exact List.mem_map.mpr ⟨(id, t), Table.mem_select.mpr
          ⟨ht, decide_eq_true ⟨hsession, hopen⟩⟩, rfl⟩
    · exact .stay (p := .start _) hknows
  | cleared a earlier consumedAt =>
    simp only [startStep]
    split
    · rename_i rows hissue
      obtain ⟨hnew, rfl⟩ := issue_eq_ok hissue
      refine ⟨evolves_issue hknows hnew rfl, Locks.respects_release, ?_⟩
      simp only [Prod.map_snd]
      split_ifs
      · trivial
      · trivial
    · exact .rollback (p := .start _) fun _ ↦ trivial
  | issued a =>
    refine .stay (p := .start _) ?_
    split_ifs
    · trivial
    · trivial
  | undelivered =>
    simp only [startStep]
    split_ifs with hfree
    · exact ⟨evolves_undelivered hfree, .refl w s.locks, trivial⟩
    · exact .stay (p := .start _) hknows
  | accepted => exact .stay (p := .start _) hknows
  | failed e => exact .stay (p := .start _) hknows

omit [DecidableEq ω] in
/-- The writes of a transaction that uses a link, and may write accounts. -/
theorem Evolves.spend {L : Locks VerificationLock ω} {rows rows' : VerificationRows} {c : Challenge}
    {f : ClientConversation → ClientConversation}
    (h : Evolves hashtext L w opens rows { rows with accounts := rows'.accounts })
    (hheld : c.Held L rows w)
    (htokens : rows'.tokens = rows.tokens.update c.id (.consume c.consumedAt))
    (hconversations : rows'.conversations = rows.conversations.update c.token.sessionId f) :
    Evolves hashtext L w opens rows rows' where
  roles := h.roles
  token id t ht := by
    rw [htokens, Table.lookup_update, ht]
    split_ifs
    · exact ⟨_, rfl, rfl, .inr rfl⟩
    · exact ⟨t, rfl, rfl, .inl rfl⟩
  heldToken id t w' hne hlock ht := by
    have hid : id ≠ c.id := by
      rintro rfl
      rw [hheld.lock] at hlock
      exact hne (Option.some.inj hlock).symm
    rw [htokens, Table.lookup_update_of_ne _ _ hid, ht]
  newToken id t hnone ht := by
    rw [htokens, Table.lookup_update, hnone] at ht
    split_ifs at ht
    cases ht
  conversation id conversation hlookup := by
    rw [hconversations, Table.lookup_update, hlookup]
    split_ifs with hid
    · obtain ⟨t, ht, hsession, hopen⟩ := hheld.token
      refine ⟨_, rfl, .inr ⟨c.id, t, t.consume c.consumedAt, ht, hsession.trans hid.symm, hopen,
        hheld.lock, ?_, rfl⟩⟩
      rw [htokens, Table.lookup_update_self, ht, Option.map_some]
    · exact ⟨conversation, rfl, .inl rfl⟩
  user := h.user
  newUser := h.newUser
  client := h.client
  session := h.session

omit [DecidableEq ω] in
theorem isUsed_of_spend {rows rows' : VerificationRows} {c : Challenge} {L : Locks VerificationLock ω}
    (hheld : c.Held L rows w)
    (htokens : rows'.tokens = rows.tokens.update c.id (.consume c.consumedAt)) : c.IsUsed rows' := by
  obtain ⟨t, ht, -⟩ := hheld.token
  refine ⟨t.consume c.consumedAt, ?_, rfl⟩
  rw [htokens, Table.lookup_update_self, ht, Option.map_some]

omit [DecidableEq ω] in
/-- A recovery writes a password and revokes sessions. -/
theorem evolves_recovered {L : Locks VerificationLock ω} {rows rows' : VerificationRows}
    {call : CompleteVerification} {c : Challenge} {userId clientId : Uuid} {sessions : List Uuid}
    {now : Time} (hheld : c.Held L rows w)
    (h : call.recoverAccount capabilityHash rows c userId clientId sessions now = .ok rows') :
    Evolves hashtext L w opens rows rows' := by
  obtain ⟨haccounts, htokens, hconversations⟩ := recoverAccount_eq_ok h
  refine Evolves.spend ?_ hheld htokens hconversations
  rw [haccounts]
  have hrefl : Evolves hashtext L w opens rows rows := .refl
  refine { hrefl with user := ?_, newUser := ?_, session := ?_ }
  · intro id u hu
    simp only [Table.lookup_update, hu]
    split_ifs
    · exact ⟨_, rfl, rfl, rfl, rfl, rfl⟩
    · exact ⟨u, rfl, rfl, rfl, rfl, rfl⟩
  · intro id u hnone hu
    simp only [Table.lookup_update, hnone] at hu
    split_ifs at hu
    cases hu
  · intro id session hsession hopen
    simp only [Table.lookup_updateMany, Option.map_eq_some_iff] at hsession
    obtain ⟨old, hold, rfl⟩ := hsession
    split_ifs at hopen ⊢
    exact .inl hold

omit [DecidableEq ω] in
/-- An activation makes a user, whose e-mail is locked, and a client. -/
theorem evolves_activated {L : Locks VerificationLock ω} {rows rows' : VerificationRows}
    {call : CompleteVerification} {c : Challenge} {now : Time}
    (hqueued : c.Queued hashtext L rows w) (hvacant : Vacant rows c)
    (h : call.activateAccount capabilityHash rows c now = .ok rows') :
    Evolves hashtext L w opens rows rows' := by
  obtain ⟨roleId, role, -, -, -, huser, hclient, haccounts, htokens, hconversations⟩ :=
    activateAccount_eq_ok h
  refine Evolves.spend ?_ hqueued.toHeld htokens hconversations
  rw [haccounts]
  have hrefl : Evolves hashtext L w opens rows rows := .refl
  refine { hrefl with user := ?_, newUser := ?_, client := ?_ }
  · intro id u hu
    have hid : id ≠ call.newUserId := by
      rintro rfl
      rw [huser] at hu
      cases hu
    exact ⟨u, by rw [Table.lookup_insert, if_neg hid, hu], rfl, rfl, rfl, rfl⟩
  · intro id u hnone hu
    rw [Table.lookup_insert, hnone] at hu
    split_ifs at hu with hid
    obtain rfl := Option.some.inj hu
    refine ⟨hqueued.email, fun id' u' hu' hemail ↦ ?_⟩
    rw [Table.lookup_insert] at hu'
    split_ifs at hu' with hid'
    · rw [hid', hid]
    · exact absurd hemail (hvacant.email id' u' hu')
  · intro id client hlookup
    have hid : id ≠ call.newClientId := by
      rintro rfl
      rw [hclient] at hlookup
      cases hlookup
    rw [Table.lookup_insert, if_neg hid, hlookup]

omit [DecidableEq ω] in
/-- A recovery leaves no session of the account. -/
theorem committed_of_recovered {L : Locks VerificationLock ω} {rows rows' : VerificationRows}
    {call : CompleteVerification} {c : Challenge} {userId clientId : Uuid} {sessions : List Uuid}
    {now : Time}
    (hknows : (CompletePhase.revoked c userId clientId sessions).Knows hashtext L rows w)
    (h : call.recoverAccount capabilityHash rows c userId clientId sessions now = .ok rows')
    (L' : Locks VerificationLock ω) :
    (CompletePhase.committed c userId clientId).Knows hashtext L' rows' w := by
  obtain ⟨hqueued, hrec, hsessions⟩ := hknows
  obtain ⟨haccounts, htokens, -⟩ := recoverAccount_eq_ok h
  obtain ⟨u, hu, -, hactive⟩ := hrec.user
  refine ⟨isUsed_of_spend hqueued.toHeld htokens, ⟨call.setPassword now u, ?_, ?_⟩, ?_⟩
  · simp only [haccounts, Table.lookup_update_self, hu, Option.map_some]
  · exact hasActiveRole_congr (by rw [haccounts]) rfl rfl rfl hactive
  · intro _ id session hlookup huser
    simp only [haccounts, Table.lookup_updateMany, Option.map_eq_some_iff] at hlookup
    obtain ⟨old, hold, rfl⟩ := hlookup
    split_ifs at huser ⊢ with hmem
    · rfl
    · by_contra hopen
      exact hmem (decide_eq_true (hsessions id old hold huser
        (Option.not_isSome_iff_eq_none.mp hopen)))

omit [DecidableEq ω] in
theorem committed_of_activated {L : Locks VerificationLock ω} {rows rows' : VerificationRows}
    {call : CompleteVerification} {c : Challenge} {now : Time}
    (hqueued : c.Queued hashtext L rows w) (hvacant : Vacant rows c)
    (h : call.activateAccount capabilityHash rows c now = .ok rows')
    (L' : Locks VerificationLock ω) :
    (CompletePhase.committed c call.newUserId call.newClientId).Knows hashtext L' rows' w := by
  obtain ⟨roleId, role, hrole, hname, hstatus, -, -, haccounts, htokens, -⟩ :=
    activateAccount_eq_ok h
  refine ⟨isUsed_of_spend hqueued.toHeld htokens, ⟨call.newUser c roleId now, ?_, ?_⟩, ?_⟩
  · simp only [haccounts, Table.lookup_insert, if_true]
  · rw [Accounts.hasActiveRole_iff]
    exact ⟨rfl, rfl, role, by rw [haccounts]; exact hrole, hname, hstatus⟩
  · intro hrecover
    rw [hvacant.purpose] at hrecover
    cases hrecover

theorem completeStep_sound (call : CompleteVerification) (now : Time) {phase : CompletePhase}
    (hknows : phase.Knows hashtext s.locks s.rows w) :
    SoundStep hashtext w (VerificationPhase.complete phase).awaitsSession s
      ((completeStep P capabilityHash hashtext call w now s phase).map id .complete) := by
  cases phase with
  | begin =>
    simp only [completeStep]
    split
    · rename_i c hread
      simp only [VerificationRows.readChallenge, bind_eq_ok, orThrow_eq_ok, throwIf_eq_ok,
        pure_eq_ok] at hread
      obtain ⟨⟨id, token⟩, htoken, conversation, hconversation, -, -, rfl⟩ := hread
      exact .stay (p := .complete _) ⟨token, (Table.findFirst_eq_some htoken).1, rfl,
        fun _ ↦ ⟨conversation, hconversation, rfl⟩⟩
    · exact .rollback (p := .complete _) fun _ ↦ trivial
  | challenged c =>
    simp only [completeStep]
    split_ifs with hfree hopen
    · obtain ⟨t, ht, hsession, hconversation⟩ := hknows
      rw [ht, Option.any_some, decide_eq_true_eq] at hopen
      exact .acquire (p := .complete _) hfree ⟨Locks.acquire_of_mem List.mem_cons_self,
        ⟨t, ht, hsession, hopen.1⟩, hconversation hopen.1⟩
    · exact .rollback (p := .complete _) fun _ ↦ trivial
    · exact .stay (p := .complete _) hknows
  | consumed c =>
    simp only [completeStep]
    split_ifs with hfree
    · exact .acquire (p := .complete _) hfree
        ⟨⟨Locks.acquire_of_held hknows.lock, hknows.token, hknows.conversation⟩,
          Locks.acquire_of_mem List.mem_cons_self⟩
    · exact .stay (p := .complete _) hknows
  | queued c =>
    simp only [completeStep]
    split_ifs with hfree
    · exact .rollback (p := .complete _) fun _ ↦ trivial
    · exact .acquire (p := .complete _) hfree
        ⟨⟨Locks.acquire_of_held hknows.lock, hknows.token, hknows.conversation⟩,
          Locks.acquire_of_held hknows.email⟩
    · exact .stay (p := .complete _) hknows
  | rotated c =>
    simp only [completeStep]
    cases hmatch : s.rows.matchAccount c with
    | error e => exact .rollback (p := .complete _) fun _ ↦ trivial
    | ok found =>
      obtain ⟨userId, clientId, rfl, hrec⟩ | ⟨rfl, hvacant⟩ := matchAccount_eq_ok hmatch
      · exact .stay (p := .complete _) ⟨hknows, hrec⟩
      · exact .stay (p := .complete _) ⟨hknows, hvacant⟩
  | found c userId clientId =>
    exact .stay (p := .complete _) ⟨hknows.1, hknows.2, fun _ _ ↦ mem_openSessions⟩
  | revoked c userId clientId sessions =>
    simp only [completeStep]
    split
    · rename_i rows hrecover
      exact ⟨evolves_recovered hknows.1.toHeld hrecover, Locks.respects_release,
        committed_of_recovered hknows hrecover (s.locks.release w)⟩
    · exact .rollback (p := .complete _) fun _ ↦ trivial
  | vacant c =>
    simp only [completeStep]
    split
    · rename_i rows hactivate
      exact ⟨evolves_activated hknows.1 hknows.2 hactivate, Locks.respects_release,
        committed_of_activated hknows.1 hknows.2 hactivate (s.locks.release w)⟩
    · exact .rollback (p := .complete _) fun _ ↦ trivial
  | committed c userId clientId =>
    simp only [completeStep]
    split
    · rename_i accounts hsession
      obtain ⟨session, -, -, huser, rfl⟩ := createSessionForUser_eq_ok hsession
      have hrefl : Evolves hashtext s.locks w (some userId) s.rows s.rows := .refl
      refine ⟨{ hrefl with session := ?_ }, .refl w s.locks, hknows.1⟩
      intro id session' hlookup _
      simp only [Prod.map_fst, id_eq, Table.lookup_insert] at hlookup
      split_ifs at hlookup
      · obtain rfl := Option.some.inj hlookup
        exact .inr (by rw [huser]; rfl)
      · exact .inl hlookup
    · exact .stay (p := .complete _) trivial
  | answered c userId clientId => exact .stay (p := .complete _) hknows
  | failed e => exact .stay (p := .complete _) hknows

omit [DecidableEq ω] in
theorem abandon_knows {failure : Failure} (hknows : p.Knows hashtext s.locks s.rows w)
    (L : Locks VerificationLock ω) : (p.abandon failure).Knows hashtext L s.rows w := by
  cases p with
  | start phase =>
    cases phase with
    | _ => trivial
  | complete phase =>
    cases phase with
    | answered c userId clientId => exact hknows
    | _ => trivial

variable (P capabilityHash) in
/-- The step lemma. -/
theorem verificationStep_sound (call : ω → VerificationCall) (move : VerificationMove)
    (hknows : p.Knows hashtext s.locks s.rows w) : SoundStep hashtext w p.awaitsSession s
      (verificationStep P capabilityHash hashtext call w move s p) := by
  cases move with
  | fails failure => exact .rollback (abandon_knows hknows)
  | proceed now delivered =>
    unfold verificationStep
    cases call w with
    | start call =>
      cases p with
      | start phase => exact startStep_sound call now delivered hknows
      | complete phase => exact .stay hknows
    | complete call =>
      cases p with
      | start phase => exact .stay hknows
      | complete phase => exact completeStep_sound call now hknows

end

/-! ## Which statements matter -/

/-- A statement of a call, by what it makes of a completion. -/
inductive StatementCase {ω : Type} (P : Platform) (capabilityHash : String → String)
    (call : VerificationCall) (move : VerificationMove) (s s' : VerificationDatabase ω) :
    VerificationPhase → VerificationPhase → Prop
  | start (call' : StartVerification) (phase phase' : StartPhase) (made : call = .start call') :
      StatementCase P capabilityHash call move s s' (.start phase) (.start phase')
  | quiet (p p' : VerificationPhase) (rows : s'.rows = s.rows)
      (completed : p'.completed = p.completed) (awaits : p'.awaitsSession = p.awaitsSession)
      (cleared : p'.cleared = p.cleared) : StatementCase P capabilityHash call move s s' p p'
  | fails (p : VerificationPhase) (e : Failure) (rows : s'.rows = s.rows)
      (cause : ∀ done, p.completed = some done → ∃ c userId clientId,
        p = .complete (.committed c userId clientId) ∧ ((∃ e, move = .fails e) ∨
          ∃ call' now e, call = .complete call' ∧
            createSessionForUser P s.rows.accounts userId call'.newSessionId now = .error e)) :
      StatementCase P capabilityHash call move s s' p (.complete (.failed e))
  | revokes (c : Challenge) (userId clientId : Uuid) (sessions : List Uuid)
      (rows : s'.rows = s.rows) : StatementCase P capabilityHash call move s s'
        (.complete (.found c userId clientId)) (.complete (.revoked c userId clientId sessions))
  | recovers (call' : CompleteVerification) (now : Time) (c : Challenge) (userId clientId : Uuid)
      (sessions : List Uuid)
      (written : call'.recoverAccount capabilityHash s.rows c userId clientId sessions now =
        .ok s'.rows) : StatementCase P capabilityHash call move s s'
        (.complete (.revoked c userId clientId sessions)) (.complete (.committed c userId clientId))
  | activates (call' : CompleteVerification) (now : Time) (c : Challenge)
      (written : call'.activateAccount capabilityHash s.rows c now = .ok s'.rows) :
      StatementCase P capabilityHash call move s s' (.complete (.vacant c))
        (.complete (.committed c call'.newUserId call'.newClientId))
  | answers (call' : CompleteVerification) (now : Time) (c : Challenge) (userId clientId : Uuid)
      (accounts : Accounts) (made : call = .complete call')
      (written : createSessionForUser P s.rows.accounts userId call'.newSessionId now = .ok accounts)
      (rows : s'.rows = { s.rows with accounts }) : StatementCase P capabilityHash call move s s'
        (.complete (.committed c userId clientId)) (.complete (.answered c userId clientId))

section

variable {ω : Type} [DecidableEq ω] {P : Platform} {capabilityHash : String → String}
  {hashtext : String → ℤ} {w : ω} {s : VerificationDatabase ω}

theorem completeStep_cases (call : CompleteVerification) (move : VerificationMove) (now : Time)
    (phase : CompletePhase) : StatementCase P capabilityHash (.complete call) move s
      (completeStep P capabilityHash hashtext call w now s phase).1 (.complete phase)
      (.complete (completeStep P capabilityHash hashtext call w now s phase).2) := by
  cases phase with
  | begin =>
    simp only [completeStep]
    split
    · exact .quiet _ _ rfl rfl rfl rfl
    · exact .fails _ _ rfl fun _ h ↦ by cases h
  | challenged c =>
    simp only [completeStep]
    split_ifs
    · exact .quiet _ _ rfl rfl rfl rfl
    · exact .fails _ _ rfl fun _ h ↦ by cases h
    · exact .quiet _ _ rfl rfl rfl rfl
  | consumed c =>
    simp only [completeStep]
    split_ifs
    · exact .quiet _ _ rfl rfl rfl rfl
    · exact .quiet _ _ rfl rfl rfl rfl
  | queued c =>
    simp only [completeStep]
    split_ifs
    · exact .fails _ _ rfl fun _ h ↦ by cases h
    · exact .quiet _ _ rfl rfl rfl rfl
    · exact .quiet _ _ rfl rfl rfl rfl
  | rotated c =>
    simp only [completeStep]
    split
    · exact .quiet _ _ rfl rfl rfl rfl
    · exact .quiet _ _ rfl rfl rfl rfl
    · exact .fails _ _ rfl fun _ h ↦ by cases h
  | found c userId clientId => exact .revokes c userId clientId _ rfl
  | revoked c userId clientId sessions =>
    simp only [completeStep]
    split
    · rename_i rows hrecover
      exact .recovers call now c userId clientId sessions hrecover
    · exact .fails _ _ rfl fun _ h ↦ by cases h
  | vacant c =>
    simp only [completeStep]
    split
    · rename_i rows hactivate
      exact .activates call now c hactivate
    · exact .fails _ _ rfl fun _ h ↦ by cases h
  | committed c userId clientId =>
    simp only [completeStep]
    split
    · rename_i accounts hsession
      exact .answers call now c userId clientId accounts rfl hsession rfl
    · rename_i e hsession
      exact .fails _ _ rfl fun _ _ ↦ ⟨c, userId, clientId, rfl, .inr ⟨call, now, e, rfl, hsession⟩⟩
  | answered c userId clientId => exact .quiet _ _ rfl rfl rfl rfl
  | failed e => exact .quiet _ _ rfl rfl rfl rfl

theorem abandon_cases (call : VerificationCall) (failure : Failure) (p : VerificationPhase) :
    StatementCase P capabilityHash call (.fails failure) s (s.rollback w) p (p.abandon failure) := by
  cases p with
  | start phase =>
    cases phase with
    | _ => exact .quiet _ _ rfl rfl rfl rfl
  | complete phase =>
    cases phase with
    | committed c userId clientId =>
      exact .fails _ _ rfl fun _ _ ↦ ⟨c, userId, clientId, rfl, .inl ⟨failure, rfl⟩⟩
    | answered c userId clientId => exact .quiet _ _ rfl rfl rfl rfl
    | failed e => exact .quiet _ _ rfl rfl rfl rfl
    | _ => exact .fails _ _ rfl fun _ h ↦ by cases h

variable (P capabilityHash hashtext) in
theorem verificationStep_cases (call : ω → VerificationCall) (move : VerificationMove)
    (p : VerificationPhase) : StatementCase P capabilityHash (call w) move s
      (verificationStep P capabilityHash hashtext call w move s p).1 p
      (verificationStep P capabilityHash hashtext call w move s p).2 := by
  cases move with
  | fails failure => exact abandon_cases (call w) failure p
  | proceed now delivered =>
    unfold verificationStep
    cases call w with
    | start call =>
      cases p with
      | start phase => exact .start call _ _ rfl
      | complete phase => exact .quiet _ _ rfl rfl rfl rfl
    | complete call =>
      cases p with
      | start phase => exact .quiet _ _ rfl rfl rfl rfl
      | complete phase => exact completeStep_cases call _ now phase

end

end KmtLegal

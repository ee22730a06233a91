import OrderPipeline.Proofs.Settings.Rules
import OrderPipeline.Proofs.Validity.Value

/-!
# Who may sign in

`Accounts.Matches` says when a typed name and password are those of an account, `Accounts.Grants`
when they sign in with a role. Settings that break no rule grant the role of the administrator to
the administrator's account alone (`Accounts.grants_admin_iff`).

Blanks around a typed name do not count, but those around the name of an account do, and no rule
forbids them. So an account is open to its own name and password just if that name has no blanks at
its ends (`Accounts.matches_own_iff`), and there are valid settings with which nobody may sign in
(`locked_out_padded`).
-/

namespace OrderPipeline

namespace Accounts

/-- The name of the account of a role. -/
def name (accounts : Accounts) : Role → String
  | .admin => accounts.adminUsername
  | .user => accounts.userUsername

/-- The password of the account of a role. -/
def password (accounts : Accounts) : Role → String
  | .admin => accounts.adminPassword
  | .user => accounts.userPassword

/-- Whether a typed name and password are those of the account of a role. -/
structure Matches (accounts : Accounts) (role : Role) (username password : String) : Prop where
  /-- The name is that of the account; blanks around it do not count. -/
  named : Text.trim username = accounts.name role
  /-- The password is that of the account. -/
  known : password = accounts.password role
  /-- The account has a password. -/
  secured : accounts.password role ≠ ""

/-- Whether a typed name and password sign in with a role. -/
def Grants (accounts : Accounts) (username password : String) (role : Role) : Prop :=
  ∃ session, accounts.login username password = .ok session ∧ session.role = role

variable {accounts : Accounts} {username password : String} {role : Role}

instance : Decidable (accounts.Matches role username password) :=
  decidable_of_iff (Text.trim username = accounts.name role ∧ password = accounts.password role ∧
    accounts.password role ≠ "") ⟨fun ⟨a, b, c⟩ => ⟨a, b, c⟩, fun ⟨a, b, c⟩ => ⟨a, b, c⟩⟩

/-- An account opens to the name and the password that are its own. -/
theorem opens_iff :
    opens (Text.trim username) password (accounts.name role) (accounts.password role) = true ↔
      accounts.Matches role username password := by
  rw [opens, Bool.and_eq_true, Bool.and_eq_true, beq_iff_eq, beq_iff_eq, Bool.not_eq_true',
    String.isEmpty_eq_false_iff]
  exact ⟨fun ⟨⟨c, a⟩, b⟩ => ⟨a, b, c⟩, fun ⟨a, b, c⟩ => ⟨⟨c, a⟩, b⟩⟩

/-- Who types a name and a password gets the role of the administrator with those of the
administrator, and the role of a user with those of the user account or where anyone may sign in. -/
theorem login_of_given (given : Text.blank username = false) (filled : password ≠ "") :
    accounts.login username password =
      if accounts.Matches .admin username password then .ok ⟨Text.trim username, .admin⟩
      else if accounts.Matches .user username password ∨ accounts.allowAny = true then
        .ok ⟨Text.trim username, .user⟩
      else .error .invalidCredentials := by
  have typed : ((Text.trim username).isEmpty || password.isEmpty) = false := by
    simp [(Text.neat_trim given).nonempty, filled]
  have admin := @opens_iff accounts username password .admin
  have user := @opens_iff accounts username password .user
  simp only [name, Accounts.password] at admin user
  simp only [login, typed, Bool.false_eq_true, if_false, admin, user]
  by_cases own : accounts.Matches .user username password <;> simp [own]

/-- Without a name or without a password nobody is signed in. -/
theorem login_of_missing (missing : Text.blank username = true ∨ password = "") :
    accounts.login username password = .error .missingCredentials := by
  have untyped : ((Text.trim username).isEmpty || password.isEmpty) = true := by
    rw [Bool.or_eq_true, String.isEmpty_iff, String.isEmpty_iff]
    refine missing.imp_left fun blank => ?_
    rw [Text.trim, (Text.trimEnds_eq_nil_iff _).2 blank]
  simp only [login, untyped, if_true]

/-- Whoever is signed in has typed a name and a password. -/
theorem Grants.typed (granted : accounts.Grants username password role) :
    Text.blank username = false ∧ password ≠ "" := by
  by_contra untyped
  have missing : Text.blank username = true ∨ password = "" := by
    by_contra typed
    rw [not_or, Bool.not_eq_true] at typed
    exact untyped typed
  obtain ⟨session, signedIn, -⟩ := granted
  rw [login_of_missing missing] at signedIn
  cases signedIn

/-- A name that is the one of an account is not blank where the account has a name. -/
theorem Matches.typed (named : Text.blank (accounts.name role) = false)
    (own : accounts.Matches role username password) :
    Text.blank username = false ∧ password ≠ "" := by
  refine ⟨?_, own.known ▸ own.secured⟩
  rw [← Bool.not_eq_true]
  intro blank
  have nothing : accounts.name role = "" := by
    rw [← own.named, Text.trim, (Text.trimEnds_eq_nil_iff _).2 blank]
  rw [nothing] at named
  cases named

/-- The name and the password of an account are its own just if it has a password and its name has
no blanks at its ends. -/
theorem matches_own_iff :
    accounts.Matches role (accounts.name role) (accounts.password role) ↔
      accounts.password role ≠ "" ∧ Text.trim (accounts.name role) = accounts.name role :=
  ⟨fun own => ⟨own.secured, own.named⟩, fun ⟨secured, trimmed⟩ => ⟨trimmed, rfl, secured⟩⟩

/-- The role of the administrator goes to the name and password of the administrator alone. -/
theorem grants_admin_iff (named : Text.blank accounts.adminUsername = false) :
    accounts.Grants username password .admin ↔ accounts.Matches .admin username password := by
  constructor
  · intro granted
    obtain ⟨given, filled⟩ := granted.typed
    obtain ⟨session, signedIn, role⟩ := granted
    rw [login_of_given given filled] at signedIn
    split at signedIn
    · assumption
    · split at signedIn <;> cases signedIn
      cases role
  · intro own
    obtain ⟨given, filled⟩ := own.typed (show Text.blank (accounts.name .admin) = false from named)
    exact ⟨_, (login_of_given given filled).trans (if_pos own), rfl⟩

/-- The role of a user goes to everyone but the administrator who types the name and the password
of the user account, or any name and password where anyone may sign in. -/
theorem grants_user_iff (named : Text.blank accounts.userUsername = false) :
    accounts.Grants username password .user ↔
      ¬ accounts.Matches .admin username password ∧
        (accounts.Matches .user username password ∨
          accounts.allowAny = true ∧ Text.blank username = false ∧ password ≠ "") := by
  constructor
  · intro granted
    obtain ⟨given, filled⟩ := granted.typed
    obtain ⟨session, signedIn, role⟩ := granted
    rw [login_of_given given filled] at signedIn
    split at signedIn
    · cases signedIn
      cases role
    · next other =>
      split at signedIn
      · next allowed => exact ⟨other, allowed.imp_right fun anyone => ⟨anyone, given, filled⟩⟩
      · cases signedIn
  · rintro ⟨other, allowed⟩
    have notBlank : Text.blank (accounts.name .user) = false := named
    obtain ⟨given, filled⟩ : Text.blank username = false ∧ password ≠ "" :=
      allowed.elim (Matches.typed notBlank) And.right
    refine ⟨⟨Text.trim username, .user⟩, (login_of_given given filled).trans ?_, rfl⟩
    rw [if_neg other, if_pos (allowed.imp_right And.left)]

/-- The name and the password of an account sign in with its role if the name has no blanks at its
ends; those of the user account also where anyone may sign in, unless they are those of the
administrator once the blanks are trimmed off. -/
theorem grants_own_iff (adminNamed : Text.blank accounts.adminUsername = false)
    (userNamed : Text.blank accounts.userUsername = false)
    (distinct : accounts.adminUsername ≠ accounts.userUsername)
    (secured : accounts.password role ≠ "") :
    accounts.Grants (accounts.name role) (accounts.password role) role ↔
      Text.trim (accounts.name role) = accounts.name role ∨
        role = .user ∧ accounts.allowAny = true ∧
          ¬ accounts.Matches .admin accounts.userUsername accounts.userPassword := by
  cases role with
  | admin =>
    rw [grants_admin_iff adminNamed, matches_own_iff]
    simp [secured]
  | user =>
    rw [grants_user_iff userNamed, matches_own_iff]
    constructor
    · rintro ⟨other, ⟨-, trimmed⟩ | ⟨anyone, -⟩⟩
      · exact .inl trimmed
      · exact .inr ⟨rfl, anyone, other⟩
    · rintro (trimmed | ⟨-, anyone, other⟩)
      · exact ⟨fun own => distinct (own.named.symm.trans trimmed), .inl ⟨secured, trimmed⟩⟩
      · exact ⟨other, .inr ⟨anyone, userNamed, secured⟩⟩

/-- Where not everyone may sign in, someone may just if an account with a password has a name
without blanks at its ends. -/
theorem exists_grants_iff (adminNamed : Text.blank accounts.adminUsername = false)
    (userNamed : Text.blank accounts.userUsername = false)
    (distinct : accounts.adminUsername ≠ accounts.userUsername)
    (closed : accounts.allowAny = false) :
    (∃ username password role, accounts.Grants username password role) ↔
      ∃ role, accounts.password role ≠ "" ∧
        Text.trim (accounts.name role) = accounts.name role := by
  constructor
  · rintro ⟨username, password, role, granted⟩
    have own : accounts.Matches role username password := by
      cases role with
      | admin => exact (grants_admin_iff adminNamed).1 granted
      | user =>
        obtain ⟨-, own | ⟨anyone, -⟩⟩ := (grants_user_iff userNamed).1 granted
        · exact own
        · rw [closed] at anyone
          cases anyone
    refine ⟨role, own.secured, ?_⟩
    rw [← own.named, Text.trim, Text.toList_trim, Text.trimEnds_trimEnds, Text.trim]
  · rintro ⟨role, secured, trimmed⟩
    exact ⟨_, _, role, (grants_own_iff adminNamed userNamed distinct secured).2 (.inl trimmed)⟩

end Accounts

/-- With settings that break no rule about accounts, the administrator's role goes to the name and
password of the administrator's account and to nothing else; whoever else types a name and a
password gets a user's role with those of the user account or where anyone may sign in, and is
turned away otherwise. The name and the password of an account sign in with its role just if the
name has no blanks at its ends (a user also where anyone may sign in), so where not everyone may
sign in, somebody can just if an account with a password has such a name. -/
theorem login_grants_accounts (settings : Settings)
    (unbroken : ∀ violation ∈ [Violation.blankUsername, .sameUsername, .lockedOut],
      violation.isIn settings = false) :
    let accounts := settings.accounts
    (∀ username password,
      (accounts.Grants username password .admin ↔ accounts.Matches .admin username password) ∧
      (¬ accounts.Matches .admin username password → Text.blank username = false → password ≠ "" →
        if accounts.Matches .user username password ∨ accounts.allowAny = true then
          accounts.Grants username password .user
        else accounts.login username password = .error .invalidCredentials)) ∧
    (∀ role, accounts.password role ≠ "" →
      (accounts.Grants (accounts.name role) (accounts.password role) role ↔
        Text.trim (accounts.name role) = accounts.name role ∨
          role = .user ∧ accounts.allowAny = true ∧
            ¬ accounts.Matches .admin accounts.userUsername accounts.userPassword)) ∧
    (accounts.allowAny = false →
      ((∃ username password role, accounts.Grants username password role) ↔
        ∃ role, accounts.password role ≠ "" ∧
          Text.trim (accounts.name role) = accounts.name role)) := by
  intro accounts
  have kept (violation : Violation)
      (isListed : violation ∈ [Violation.blankUsername, .sameUsername, .lockedOut]) :
      violation.Kept settings :=
    (violation.isIn_eq_false_iff settings).1 (unbroken violation isListed)
  obtain ⟨adminNamed, userNamed⟩ := kept .blankUsername (by decide)
  have distinct := kept .sameUsername (by decide)
  refine ⟨fun username password => ⟨Accounts.grants_admin_iff adminNamed, ?_⟩, fun role secured =>
    Accounts.grants_own_iff adminNamed userNamed distinct secured, fun closed =>
    Accounts.exists_grants_iff adminNamed userNamed distinct closed⟩
  intro other given filled
  have signedIn := @Accounts.login_of_given accounts username password given filled
  rw [if_neg other] at signedIn
  split
  · next allowed => exact ⟨_, signedIn.trans (if_pos allowed), rfl⟩
  · next closed => exact signedIn.trans (if_neg closed)

/-- An environment in which not everyone may sign in, the name of the administrator begins with a
blank, and the user account may have a password. -/
def padded (userPassword : String) : Environment := fun name =>
  [("Q2D_AUTH_ADMIN_USERNAME", " owner"), ("Q2D_AUTH_ADMIN_PASSWORD", "s3cret"),
    ("Q2D_AUTH_USER_PASSWORD", userPassword), ("Q2D_AUTH_ALLOW_ANY_CREDENTIALS", "false")].lookup
    name

/-- What is known of a result holds of the value that it gives. -/
theorem exists_of_map_toOption {ε α β : Type} {result : Except ε α} {f : α → β} {b : β}
    (known : result.toOption.map f = some b) : ∃ a, result = .ok a ∧ f a = b := by
  cases result with
  | error => cases known
  | ok a => exact ⟨a, rfl, Option.some.inj known⟩

/-- There the settings load, the user may sign in, and the administrator may not. -/
theorem login_grants_accounts_padded :
    ∃ settings, Settings.load {} (padded "pass") {} = .ok settings ∧
      (∀ violation ∈ [Violation.blankUsername, .sameUsername, .lockedOut],
        violation.isIn settings = false) ∧
      settings.accounts.Grants "user" "pass" .user ∧
      ¬ settings.accounts.Grants " owner" "s3cret" .admin := by
  obtain ⟨settings, loaded, accounts⟩ : ∃ settings,
      Settings.load {} (padded "pass") {} = .ok settings ∧
        settings.accounts = ⟨" owner", "s3cret", "user", "pass", false⟩ :=
    exists_of_map_toOption (by decide +kernel)
  have unbroken : ∀ violation ∈ [Violation.blankUsername, .sameUsername, .lockedOut],
      violation.isIn settings = false := fun violation _ =>
    (violation.isIn_eq_false_iff settings).2
      (Settings.violation?_eq_none_iff.1 (Settings.violation?_of_load loaded) violation)
  obtain ⟨-, own, -⟩ := login_grants_accounts settings unbroken
  refine ⟨settings, loaded, unbroken, ?_⟩
  simp only [accounts] at own ⊢
  have user := own .user (by decide)
  have admin := own .admin (by decide)
  exact ⟨user.2 (.inl (by decide +kernel)),
    fun granted => absurd (admin.1 granted) (by decide +kernel)⟩

/-- With a blank in front of the name of the only account that has a password, the settings load and
nobody may sign in. -/
theorem locked_out_padded :
    ∃ settings, Settings.load {} (padded "") {} = .ok settings ∧
      settings.accounts = ⟨" owner", "s3cret", "user", "", false⟩ ∧
      settings.accounts.login " owner" "s3cret" = .error .invalidCredentials ∧
      ¬ ∃ username password role, settings.accounts.Grants username password role := by
  obtain ⟨settings, loaded, accounts⟩ : ∃ settings,
      Settings.load {} (padded "") {} = .ok settings ∧
        settings.accounts = ⟨" owner", "s3cret", "user", "", false⟩ :=
    exists_of_map_toOption (by decide +kernel)
  refine ⟨settings, loaded, accounts, ?_⟩
  rw [accounts]
  refine ⟨by decide +kernel, ?_⟩
  rw [Accounts.exists_grants_iff (by decide) (by decide) (by decide) rfl]
  rintro ⟨role, secured, trimmed⟩
  cases role with
  | admin => exact absurd trimmed (by decide +kernel)
  | user => exact secured rfl

end OrderPipeline

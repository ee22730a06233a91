import OrderPipeline.Stage

/-!
# Access

There are two accounts, one for each role. `Accounts.login` signs a person in with the role of the
account that the name and password belong to; where every login is allowed, anyone else gets the
user role. The role decides which stages are offered and nothing more.
-/

namespace OrderPipeline

/-- What a signed-in person may do. -/
inductive Role where
  /-- The administrator. -/
  | admin
  /-- Any other user. -/
  | user
  deriving DecidableEq

namespace Role

/-- The name of a role. -/
def name : Role → String
  | admin => "admin"
  | user => "user"

/-- The roles by their names. -/
def byName : List (String × Role) := [("admin", admin), ("user", user)]

/-- The stages that are offered to a role, in the order of the sequence. -/
def visibleStages : Role → List Stage
  | admin => Stage.working
  | user =>
    [.followup, .stock, .receiving, .confirmation, .installation, .installMaterial,
      .customerReview]

/-- Whether a stage is offered to a role. -/
def canView (role : Role) (stage : Stage) : Bool := role.visibleStages.contains stage

end Role

/-- The accounts that may sign in. -/
structure Accounts where
  /-- The name of the administrator. -/
  adminUsername : String
  /-- The password of the administrator; an empty one opens nothing. -/
  adminPassword : String
  /-- The name of the user account. -/
  userUsername : String
  /-- The password of the user account; an empty one opens nothing. -/
  userPassword : String
  /-- Whether anyone may sign in as a user. -/
  allowAny : Bool
  deriving DecidableEq

/-- Someone who is signed in. -/
structure Session where
  /-- The name that was given. -/
  username : String
  /-- The role that goes with it. -/
  role : Role
  deriving DecidableEq

/-- Why someone is not signed in. -/
inductive LoginError where
  /-- The name or the password is not given. -/
  | missingCredentials
  /-- The name and the password belong to no account. -/
  | invalidCredentials
  deriving DecidableEq

/-- What is said to someone who is not signed in. -/
def LoginError.message : LoginError → String
  | missingCredentials => "username and password are both required"
  | invalidCredentials => "invalid username or password"

namespace Accounts

/-- Whether a name and a password are those of an account, which needs a password. -/
def opens (username password accountName accountPassword : String) : Bool :=
  !accountPassword.isEmpty && username == accountName && password == accountPassword

/-- Signs someone in; blanks around the name do not count. -/
def login (accounts : Accounts) (username password : String) : Except LoginError Session :=
  let username := Text.trim username
  if username.isEmpty || password.isEmpty then .error .missingCredentials
  else if opens username password accounts.adminUsername accounts.adminPassword then
    .ok ⟨username, .admin⟩
  else if opens username password accounts.userUsername accounts.userPassword then
    .ok ⟨username, .user⟩
  else if accounts.allowAny then .ok ⟨username, .user⟩
  else .error .invalidCredentials

end Accounts

end OrderPipeline

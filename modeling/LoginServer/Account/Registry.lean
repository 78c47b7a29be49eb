import LoginServer.Account.Basic
import LoginServer.Notice

/-!
# The account registry

The registry holds the accounts in the order of their first records, each name
once.  Logging in and out changes the flag of one account and nothing else, so
an account is never in two sessions at once.
-/

namespace LoginServer

/-- What became of an attempt to log in. -/
inductive LoginResult where
  | success
  | notFound
  | banned
  /-- The account is in session already. -/
  | alreadyActive
  deriving DecidableEq, Repr

/-- Accounts with distinct names, in order. -/
structure Registry where
  accounts : List Account
  distinct : (accounts.map Account.username).Nodup

namespace Registry

/-- The registry without accounts. -/
def empty : Registry :=
  { accounts := [], distinct := List.nodup_nil }

instance : Inhabited Registry := ⟨empty⟩

/-- The account of a name. -/
def find? (registry : Registry) (username : String) : Option Account :=
  registry.accounts.find? fun account => account.username = username

/-- Replaces the account that has the name of the given one. -/
def replaceIn (replacement : Account) (accounts : List Account) :
    List Account :=
  accounts.map fun account =>
    if account.username = replacement.username then replacement else account

theorem usernames_replaceIn (replacement : Account) (accounts : List Account) :
    (replaceIn replacement accounts).map Account.username =
      accounts.map Account.username := by
  unfold replaceIn
  rw [List.map_map]
  apply List.map_congr_left
  intro account _
  by_cases same : account.username = replacement.username
  · simp [same]
  · simp [same]

/-- Replaces the account that has the name of the given one. -/
def replace (registry : Registry) (replacement : Account) : Registry :=
  { accounts := replaceIn replacement registry.accounts
    distinct := by
      rw [usernames_replaceIn]
      exact registry.distinct }

/-- Adds an account behind the others unless its name is taken; then the later
record takes the place of the earlier one. -/
def insert (registry : Registry) (account : Account) : Registry :=
  if taken : account.username ∈ registry.accounts.map Account.username then
    registry.replace account
  else
    { accounts := registry.accounts ++ [account]
      distinct := by
        rw [List.map_append, List.map_singleton]
        exact List.nodup_append.mpr
          ⟨registry.distinct, by simp,
            fun name member other isOther same => taken
              (by simpa [← List.mem_singleton.mp isOther, ← same] using member)⟩ }

/-- The notice of a record whose name is taken. -/
def insertNotices (registry : Registry) (account : Account) : List Notice :=
  if account.username ∈ registry.accounts.map Account.username then
    [.duplicateAccount account.username]
  else []

/-- Enters records one after the other. -/
def insertAll (registry : Registry) : List Account → Registry × List Notice
  | [] => (registry, [])
  | account :: rest =>
      let (result, notices) := (registry.insert account).insertAll rest
      (result, registry.insertNotices account ++ notices)

/-- The registry of a list of records, and a notice for each repeated name. -/
def ofAccounts (accounts : List Account) : Registry × List Notice :=
  empty.insertAll accounts

/-- Marks an account as in session or not. -/
def mark (registry : Registry) (account : Account) (inSession : Bool) :
    Registry :=
  registry.replace { account with inSession }

/-- Attempts to log in.  An unknown name is noticed first, then an account in
session, then a banned one.  Only a success changes the registry. -/
def login (registry : Registry) (username : String) :
    LoginResult × Registry × List Notice :=
  match registry.find? username with
  | none => (.notFound, registry, [])
  | some account =>
      if account.inSession then
        (.alreadyActive, registry, [.accountBusy username])
      else if account.status = .banned then (.banned, registry, [])
      else (.success, registry.mark account true, [])

/-- Ends the session of an account.  Nothing happens to a name that is unknown
or not in session. -/
def logout (registry : Registry) (username : String) :
    Registry × List Notice :=
  match registry.find? username with
  | none => (registry, [])
  | some account =>
      if account.inSession then
        (registry.mark account false, [.accountReleased username])
      else (registry, [])

/-- Whether the account of a name is in session. -/
def inSession? (registry : Registry) (username : String) : Option Bool :=
  (registry.find? username).map Account.inSession

/-- The accounts in session, in order. -/
def active (registry : Registry) : List Account :=
  registry.accounts.filter Account.inSession

/-- The number of accounts in session. -/
def activeCount (registry : Registry) : Nat :=
  registry.active.length

/-- The number of accounts. -/
def size (registry : Registry) : Nat :=
  registry.accounts.length

end Registry
end LoginServer

import GaeaProxy.Server.Namespace

/-! # The user manager

`UserManager` holds two maps: the passwords of each user name, and the namespace
of each `user:password` key. `ClearNamespaceUsers` ranges over the key map and
splits each key back on `:`; its inner loop shifts a slice inside its own backing
array while ranging over it, which the model follows cell by cell.
-/

namespace Gaea.Server

/-- Go's `strings.Split(s, ":")` on the characters of `s`: the first field and the
fields after it. -/
def splitFields : List Char → List Char × List (List Char)
  | [] => ([], [])
  | c :: cs =>
      let fields := splitFields cs
      if c = ':' then ([], fields.1 :: fields.2) else (c :: fields.1, fields.2)

def getUserKey (username password : String) : String :=
  username ++ ":" ++ password

/-- `getUserAndPasswordFromKey` returns `strs[0], strs[1]`; the second field exists for
every key the manager stores, each built by `getUserKey`. -/
def getUserAndPasswordFromKey (key : String) : String × String :=
  let strs := splitFields key.data
  (⟨strs.1⟩, ⟨strs.2.headD []⟩)

theorem splitFields_of_colon_not_mem {a : List Char} (ha : ':' ∉ a) :
    splitFields a = (a, []) := by
  induction a with
  | nil => rfl
  | cons c a ih =>
      simp only [List.mem_cons, not_or] at ha
      simp [splitFields, ih ha.2, Ne.symm ha.1]

/-- A first field with no `:` splits off whole. -/
theorem splitFields_append_colon {a : List Char} (ha : ':' ∉ a) (b : List Char) :
    splitFields (a ++ ':' :: b) = (a, (splitFields b).1 :: (splitFields b).2) := by
  induction a with
  | nil => simp [splitFields]
  | cons c a ih =>
      simp only [List.mem_cons, not_or] at ha
      simp [splitFields, ih ha.2, Ne.symm ha.1]

theorem getUserKey_data (username password : String) :
    (getUserKey username password).data = username.data ++ ':' :: password.data := by
  simp [getUserKey]

/-- Names and passwords with no `:` come back from their key. -/
theorem getUserAndPasswordFromKey_getUserKey {username password : String}
    (husername : ':' ∉ username.data) (hpassword : ':' ∉ password.data) :
    getUserAndPasswordFromKey (getUserKey username password) = (username, password) := by
  simp [getUserAndPasswordFromKey, getUserKey_data, splitFields_append_colon husername,
    splitFields_of_colon_not_mem hpassword]

/-- A key built from a name and a password with no `:` is the key of no other pair. -/
theorem getUserKey_inj {username password username' password' : String}
    (husername : ':' ∉ username.data) (hpassword : ':' ∉ password.data)
    (h : getUserKey username' password' = getUserKey username password) :
    username' = username ∧ password' = password := by
  have hcount := congrArg (fun key : String => key.data.count ':') h
  simp only [getUserKey_data, List.count_append, List.count_cons_self,
    List.count_eq_zero.mpr husername, List.count_eq_zero.mpr hpassword] at hcount
  have husername' : ':' ∉ username'.data := List.count_eq_zero.mp (by omega)
  have hpassword' : ':' ∉ password'.data := List.count_eq_zero.mp (by omega)
  have hsplit := congrArg getUserAndPasswordFromKey h
  rw [getUserAndPasswordFromKey_getUserKey husername' hpassword',
    getUserAndPasswordFromKey_getUserKey husername hpassword] at hsplit
  exact Prod.mk.inj hsplit

/-- A password holding `:` does not come back from its key: `strings.Split` cuts the key at
every `:` and the password at its first, where `strings.SplitN(key, ":", 2)` would keep it
whole. -/
theorem getUserAndPasswordFromKey_cuts_password_at_colon :
    getUserAndPasswordFromKey (getUserKey "a" "b:c") = ("a", "b") := by
  decide

/-! A Go `map[string]string` is kept as its entries, in the order a range visits them. -/

def mapGet (m : List (String × String)) (key : String) : Option String :=
  (m.find? fun e => e.1 = key).map Prod.snd

def mapSet (m : List (String × String)) (key value : String) : List (String × String) :=
  if m.any (fun e => e.1 = key) then m.map fun e => if e.1 = key then (key, value) else e
  else m ++ [(key, value)]

def mapDelete (m : List (String × String)) (key : String) : List (String × String) :=
  m.filter fun e => e.1 ≠ key

/-- `UserManager`. A user name may be present with no password (a nil slice). -/
structure UserManager where
  users : String → Option (List String)
  userNamespaces : List (String × String)

namespace UserManager

def newUserManager : UserManager := ⟨fun _ => none, []⟩

/-- The inner loop of `ClearNamespaceUsers` over `u.users[username]`, at index `i` with
`k` indices left. `append(arr[:i], arr[i+1:]...)` shifts the tail left inside the
slice's backing array, whose last cell keeps its value, and the range goes on reading
that array; `s` is the last slice so built, `none` (nil) when no cell matched. -/
def clearPasswordLoop (password : String) :
    List String → Nat → Nat → Option (List String) → Option (List String)
  | _, _, 0, s => s
  | arr, i, k + 1, s =>
      if arr[i]? = some password then
        clearPasswordLoop password (arr.eraseIdx i ++ arr.drop (arr.length - 1)) (i + 1) k
          (some (arr.eraseIdx i))
      else clearPasswordLoop password arr (i + 1) k s

/-- `u.users[username] = s` after the inner loop. -/
def clearPassword (password : String) (arr : List String) : List String :=
  (clearPasswordLoop password arr 0 arr.length none).getD []

/-- The body of `ClearNamespaceUsers` for one key that maps to the cleared namespace. -/
def clearUserKey (u : UserManager) (key : String) : UserManager :=
  let fields := getUserAndPasswordFromKey key
  { users := Function.update u.users fields.1
      (some (clearPassword fields.2 ((u.users fields.1).getD [])))
    userNamespaces := mapDelete u.userNamespaces key }

/-- `ClearNamespaceUsers` when the range visits the key map's entries in the order
`entries`. Only the visited key is deleted, so each entry is visited once. -/
def clearNamespaceUsersIn (entries : List (String × String)) (name : String)
    (u : UserManager) : UserManager :=
  entries.foldl (fun acc e => if e.2 = name then acc.clearUserKey e.1 else acc) u

/-- `ClearNamespaceUsers`, ranging over the key map in the order its entries are kept. -/
def clearNamespaceUsers (u : UserManager) (name : String) : UserManager :=
  clearNamespaceUsersIn u.userNamespaces name u

/-- One iteration of `addNamespaceUsers`. -/
def addUser (name : String) (u : UserManager) (user : User) : UserManager :=
  { users := Function.update u.users user.userName
      (some ((u.users user.userName).getD [] ++ [user.password]))
    userNamespaces := mapSet u.userNamespaces (getUserKey user.userName user.password) name }

def addNamespaceUsers (u : UserManager) (config : NamespaceConfig) : UserManager :=
  config.users.foldl (addUser config.name) u

def rebuildNamespaceUsers (u : UserManager) (config : NamespaceConfig) : UserManager :=
  (u.clearNamespaceUsers config.name).addNamespaceUsers config

def createUserManager (configs : List NamespaceConfig) : UserManager :=
  configs.foldl addNamespaceUsers newUserManager

/-- `CloneUserManager` copies both maps and every password slice: as a value, the same
manager. -/
def cloneUserManager (u : UserManager) : UserManager :=
  ⟨u.users, u.userNamespaces⟩

def checkUser (u : UserManager) (user : String) : Bool :=
  (u.users user).isSome

/-- The loop the three password checks share: the first stored password of `user`
that the comparison accepts. -/
def findPassword (u : UserManager) (user : String) (accepts : String → Bool) :
    Bool × String :=
  match ((u.users user).getD []).find? accepts with
  | some password => (true, password)
  | none => (false, "")

/-- `CheckPassword`; `calcPassword p` stands for
`bytes.Equal(auth, mysql.CalcPassword(salt, p))`. -/
def checkPassword (u : UserManager) (user : String) (calcPassword : String → Bool) :
    Bool × String :=
  u.findPassword user calcPassword

/-- `CheckHashPassword` compares only stored passwords of the form `*` and 40 bytes;
`checkHash p` stands for `mysql.CheckHashPassword(auth, salt, p[1:])`. -/
def checkHashPassword (u : UserManager) (user : String) (checkHash : String → Bool) :
    Bool × String :=
  u.findPassword user fun password =>
    password.startsWith "*" && password.utf8ByteSize == 41 && checkHash password

/-- `CheckSha2Password`; `calcSha2 p` stands for
`bytes.Equal(auth, mysql.CalcCachingSha2Password(salt, p))`. -/
def checkSha2Password (u : UserManager) (user : String) (calcSha2 : String → Bool) :
    Bool × String :=
  u.findPassword user calcSha2

def getNamespaceByUser (u : UserManager) (userName password : String) : String :=
  (mapGet u.userNamespaces (getUserKey userName password)).getD ""

/-- A password a check accepts is one of the user's stored passwords. -/
theorem mem_of_findPassword {u : UserManager} {user password : String}
    {accepts : String → Bool} (h : u.findPassword user accepts = (true, password)) :
    password ∈ (u.users user).getD [] := by
  unfold findPassword at h
  split at h
  next found hfind =>
    cases h
    exact List.mem_of_find?_eq_some hfind
  next => cases h

end UserManager

end Gaea.Server

import GaeaProxy.Server.UserManager

/-! # The dual-slot manager

`Manager` keeps two namespace managers and two user managers and a switch index
selecting the readable pair. A reload prepares the other pair and a commit flips
the index; a delete writes the other pair and flips at once. Two ghost fields
record what the code leaves implicit: the next pointer a build allocates, and the
namespaces handed to `Close`.
-/

namespace Gaea.Server

/-- The errors the registry calls return: the error of a failed `NewNamespace`, and
`errors.ErrNamespaceNotPrepared`. -/
inductive ManagerError where
  | newNamespace
  | namespaceNotPrepared
  deriving DecidableEq, Repr

/-- `Manager`. Modelled from the spec: `util.BoolIndex` is not in the repository's
files; `switchIndex` is its flag, the current slot is the flag and the other slot its
negation. The statistics manager is left out. -/
structure Manager where
  reloadPrepared : Bool
  switchIndex : Bool
  namespaces : Bool → NamespaceManager
  users : Bool → UserManager
  nextRef : Nat
  closed : List Nat

/-- The calls of the admin surface on the registry. `built` is the outcome of
`NewNamespace` for the prepared configuration. -/
inductive Call where
  | reloadNamespacePrepare (config : NamespaceConfig) (built : Bool)
  | reloadNamespaceCommit (name : String)
  | deleteNamespace (name : String)
  deriving DecidableEq, Repr

namespace Manager

open NamespaceManager UserManager

/-- `CreateManager` after a successful statistics set-up. The other slot is a nil
pointer in Go and is written before it is read; it is empty here. -/
def createManager (built : NamespaceConfig → Bool) (configs : List NamespaceConfig) :
    Manager :=
  let created := createNamespaceManager built configs 0
  { reloadPrepared := false
    switchIndex := false
    namespaces := Function.update (fun _ => newNamespaceManager) false created.1
    users := Function.update (fun _ => newUserManager) false (createUserManager configs)
    nextRef := created.2
    closed := [] }

def getNamespace (m : Manager) (name : String) : Option Namespace :=
  (m.namespaces m.switchIndex).getNamespace name

def getNamespaceByUser (m : Manager) (userName password : String) : String :=
  (m.users m.switchIndex).getNamespaceByUser userName password

def checkUser (m : Manager) (user : String) : Bool :=
  (m.users m.switchIndex).checkUser user

def checkPassword (m : Manager) (user : String) (calcPassword : String → Bool) :
    Bool × String :=
  (m.users m.switchIndex).checkPassword user calcPassword

def checkHashPassword (m : Manager) (user : String) (checkHash : String → Bool) :
    Bool × String :=
  (m.users m.switchIndex).checkHashPassword user checkHash

def checkSha2Password (m : Manager) (user : String) (calcSha2 : String → Bool) :
    Bool × String :=
  (m.users m.switchIndex).checkSha2Password user calcSha2

/-- `CreateNamespaceManager` skips a configuration whose build fails while
`CreateUserManager` registers its users: such a user authenticates, and the namespace
it is bound to does not exist. -/
theorem createManager_failed_build_user_without_namespace :
    (createManager (fun _ => false) [⟨"ns1", [⟨"u", "p"⟩]⟩]).checkPassword "u"
        (fun password => password == "p") = (true, "p") ∧
      (createManager (fun _ => false) [⟨"ns1", [⟨"u", "p"⟩]⟩]).getNamespaceByUser "u" "p" =
        "ns1" ∧
      (createManager (fun _ => false) [⟨"ns1", [⟨"u", "p"⟩]⟩]).getNamespace "ns1" = none := by
  decide

/-- The change index `ReloadNamespacePrepare` gives the rebuilt namespace. -/
def nextChangeIndex (old : Option Namespace) : UInt32 :=
  (match old with
    | some nsOld => nsOld.namespaceChangeIndex
    | none => 0) + 1

def reloadNamespacePrepare (m : Manager) (config : NamespaceConfig) (built : Bool) :
    Except ManagerError Manager :=
  let currentNamespaceManager := m.namespaces m.switchIndex
  let nsChangeIndex := nextChangeIndex (currentNamespaceManager.getNamespace config.name)
  match currentNamespaceManager.shallowCopyNamespaceManager.rebuildNamespace m.nextRef
      config built with
  | none => .error .newNamespace
  | some newNamespaceManager =>
      .ok { m with
        namespaces := Function.update m.namespaces (!m.switchIndex)
          (newNamespaceManager.setChangeIndex config.name nsChangeIndex)
        users := Function.update m.users (!m.switchIndex)
          ((m.users m.switchIndex).cloneUserManager.rebuildNamespaceUsers config)
        reloadPrepared := true
        nextRef := m.nextRef + 1 }

/-- `ReloadNamespaceCommit`: the `CompareAndSwap` on `reloadPrepared`, then the current
namespace called `name` goes to `Close` and the index flips. -/
def reloadNamespaceCommit (m : Manager) (name : String) : Except ManagerError Manager :=
  if m.reloadPrepared then
    .ok { m with
      reloadPrepared := false
      switchIndex := !m.switchIndex
      closed := match m.getNamespace name with
        | some currentNamespace => currentNamespace.ref :: m.closed
        | none => m.closed }
  else .error .namespaceNotPrepared

/-- `DeleteNamespace`, idempotent when `name` is absent. -/
def deleteNamespace (m : Manager) (name : String) : Manager :=
  match m.getNamespace name with
  | none => m
  | some currentNamespace =>
      { m with
        namespaces := Function.update m.namespaces (!m.switchIndex)
          ((m.namespaces m.switchIndex).shallowCopyNamespaceManager.deleteNamespace name)
        users := Function.update m.users (!m.switchIndex)
          ((m.users m.switchIndex).cloneUserManager.clearNamespaceUsers name)
        switchIndex := !m.switchIndex
        closed := currentNamespace.ref :: m.closed }

def call (m : Manager) : Call → Except ManagerError Manager
  | .reloadNamespacePrepare config built => m.reloadNamespacePrepare config built
  | .reloadNamespaceCommit name => m.reloadNamespaceCommit name
  | .deleteNamespace name => .ok (m.deleteNamespace name)

/-- One call executed to completion; a call that returns an error changes nothing. -/
def step (m : Manager) (c : Call) : Manager :=
  match m.call c with
  | .ok m' => m'
  | .error _ => m

def run (m : Manager) (calls : List Call) : Manager :=
  calls.foldl step m

@[simp] theorem run_nil (m : Manager) : m.run [] = m := rfl

@[simp] theorem run_cons (m : Manager) (c : Call) (calls : List Call) :
    m.run (c :: calls) = (m.step c).run calls := rfl

theorem run_append (m : Manager) (calls calls' : List Call) :
    m.run (calls ++ calls') = (m.run calls).run calls' :=
  List.foldl_append _ _ _ _

/-! ### What each call does

A failed build leaves the manager as it was; a successful prepare writes only the
other slot; a commit flips; a delete of a present name writes the other slot and
flips. -/

@[simp] theorem step_prepare_false (m : Manager) (config : NamespaceConfig) :
    m.step (.reloadNamespacePrepare config false) = m := rfl

section Prepare

variable (m : Manager) (config : NamespaceConfig)

@[simp] theorem step_prepare_switchIndex :
    (m.step (.reloadNamespacePrepare config true)).switchIndex = m.switchIndex := rfl

@[simp] theorem step_prepare_reloadPrepared :
    (m.step (.reloadNamespacePrepare config true)).reloadPrepared = true := rfl

@[simp] theorem step_prepare_nextRef :
    (m.step (.reloadNamespacePrepare config true)).nextRef = m.nextRef + 1 := rfl

@[simp] theorem step_prepare_closed :
    (m.step (.reloadNamespacePrepare config true)).closed = m.closed := rfl

theorem step_prepare_namespaces :
    (m.step (.reloadNamespacePrepare config true)).namespaces =
      Function.update m.namespaces (!m.switchIndex)
        (NamespaceManager.setChangeIndex
          ⟨Function.update (m.namespaces m.switchIndex).namespaces config.name
            (some (newNamespace m.nextRef config))⟩
          config.name (nextChangeIndex (m.getNamespace config.name))) := rfl

theorem step_prepare_users :
    (m.step (.reloadNamespacePrepare config true)).users =
      Function.update m.users (!m.switchIndex)
        ((m.users m.switchIndex).cloneUserManager.rebuildNamespaceUsers config) := rfl

/-- A prepare leaves every `GetNamespace` result as it was. -/
@[simp] theorem getNamespace_step_prepare (built : Bool) (name : String) :
    (m.step (.reloadNamespacePrepare config built)).getNamespace name = m.getNamespace name := by
  cases built
  · rfl
  · simp [getNamespace, step_prepare_namespaces]

/-- The slot a successful prepare writes: the current map with the rebuilt namespace. -/
theorem getNamespace_other_step_prepare (name : String) :
    ((m.step (.reloadNamespacePrepare config true)).namespaces (!m.switchIndex)).getNamespace name =
      Function.update m.getNamespace config.name
        (some { newNamespace m.nextRef config with
          namespaceChangeIndex := nextChangeIndex (m.getNamespace config.name) }) name := by
  by_cases hname : name = config.name
  · subst hname
    simp [step_prepare_namespaces, getNamespace, NamespaceManager.getNamespace]
  · simp [step_prepare_namespaces, hname, getNamespace, NamespaceManager.getNamespace]

end Prepare

theorem step_commit (m : Manager) (name : String) :
    m.step (.reloadNamespaceCommit name) =
      if m.reloadPrepared then
        { m with
          reloadPrepared := false
          switchIndex := !m.switchIndex
          closed := match m.getNamespace name with
            | some currentNamespace => currentNamespace.ref :: m.closed
            | none => m.closed }
      else m := by
  cases h : m.reloadPrepared <;> simp [step, call, reloadNamespaceCommit, h]

section Commit

variable {m : Manager} (name : String)

theorem step_commit_of_not_prepared (h : m.reloadPrepared = false) :
    m.step (.reloadNamespaceCommit name) = m := by
  simp [step_commit, h]

/-- After a commit the readable slot is the one the prepare wrote. -/
theorem getNamespace_step_commit (h : m.reloadPrepared = true) (name' : String) :
    (m.step (.reloadNamespaceCommit name)).getNamespace name' =
      (m.namespaces (!m.switchIndex)).getNamespace name' := by
  simp [step_commit, h, getNamespace]

theorem closed_step_commit (h : m.reloadPrepared = true) :
    (m.step (.reloadNamespaceCommit name)).closed = match m.getNamespace name with
      | some currentNamespace => currentNamespace.ref :: m.closed
      | none => m.closed := by
  simp [step_commit, h]

theorem reloadPrepared_step_commit :
    (m.step (.reloadNamespaceCommit name)).reloadPrepared = false := by
  cases h : m.reloadPrepared <;> simp [step_commit, h]

@[simp] theorem nextRef_step_commit : (m.step (.reloadNamespaceCommit name)).nextRef = m.nextRef := by
  rw [step_commit]; split <;> rfl

end Commit

section Delete

variable (m : Manager) (name : String)

@[simp] theorem step_delete : m.step (.deleteNamespace name) = m.deleteNamespace name := rfl

theorem deleteNamespace_of_none {m : Manager} {name : String} (h : m.getNamespace name = none) :
    m.deleteNamespace name = m := by
  simp [deleteNamespace, h]

/-- A delete removes `name` from the readable map and nothing else, present or not. -/
theorem getNamespace_deleteNamespace (name' : String) :
    (m.deleteNamespace name).getNamespace name' = Function.update m.getNamespace name none name' := by
  unfold deleteNamespace
  split
  next hnone =>
    by_cases hname : name' = name
    · subst hname; simpa using hnone
    · simp [hname]
  next =>
    by_cases hname : name' = name
    · subst hname; simp [getNamespace, NamespaceManager.getNamespace]
    · simp [getNamespace, hname, NamespaceManager.getNamespace]

theorem closed_deleteNamespace :
    (m.deleteNamespace name).closed = match m.getNamespace name with
      | some currentNamespace => currentNamespace.ref :: m.closed
      | none => m.closed := by
  cases h : m.getNamespace name <;> simp [deleteNamespace, h]

@[simp] theorem nextRef_deleteNamespace : (m.deleteNamespace name).nextRef = m.nextRef := by
  cases h : m.getNamespace name <;> simp [deleteNamespace, h]

@[simp] theorem reloadPrepared_deleteNamespace :
    (m.deleteNamespace name).reloadPrepared = m.reloadPrepared := by
  cases h : m.getNamespace name <;> simp [deleteNamespace, h]

end Delete

end Manager

end Gaea.Server

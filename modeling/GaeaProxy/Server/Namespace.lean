import Mathlib

/-! # Namespaces and the namespace manager

A `NamespaceManager` maps names to built namespaces. Building a namespace
(`NewNamespace`) is outside the repository's files: the model keeps the name,
the change index the registry writes, and the identity of the Go pointer, and
takes whether the build succeeded as an input of the call.
-/

namespace Gaea.Server

/-- A user entry of a namespace configuration (`models.User`): the two fields the
user manager reads. -/
structure User where
  userName : String
  password : String
  deriving DecidableEq, Repr

/-- A namespace configuration (`models.Namespace`): the fields the registry reads. -/
structure NamespaceConfig where
  name : String
  users : List User
  deriving DecidableEq, Repr

/-- A built namespace (`*Namespace`). `ref` stands for the pointer: every build
allocates a new one. -/
structure Namespace where
  ref : Nat
  name : String
  namespaceChangeIndex : UInt32
  deriving DecidableEq, Repr

/-- Modelled from the spec: `NewNamespace` is not in the repository's files. A
successful build allocates the pointer `ref`, takes the configuration's name and
leaves the change index at Go's zero value. -/
def newNamespace (ref : Nat) (config : NamespaceConfig) : Namespace :=
  { ref, name := config.name, namespaceChangeIndex := 0 }

@[simp] theorem newNamespace_ref (ref : Nat) (config : NamespaceConfig) :
    (newNamespace ref config).ref = ref := rfl

@[simp] theorem newNamespace_name (ref : Nat) (config : NamespaceConfig) :
    (newNamespace ref config).name = config.name := rfl

/-- `NamespaceManager`: the map `namespaces map[string]*Namespace`. -/
structure NamespaceManager where
  namespaces : String → Option Namespace

namespace NamespaceManager

def newNamespaceManager : NamespaceManager := ⟨fun _ => none⟩

def getNamespace (n : NamespaceManager) (name : String) : Option Namespace :=
  n.namespaces name

/-- `ShallowCopyNamespaceManager` copies the map and shares the namespaces, so as a
value the copy is the same map. -/
def shallowCopyNamespaceManager (n : NamespaceManager) : NamespaceManager :=
  ⟨n.namespaces⟩

/-- `RebuildNamespace`: store the newly built namespace under the configuration's
name; `none` is the error returned when the build fails. -/
def rebuildNamespace (n : NamespaceManager) (ref : Nat) (config : NamespaceConfig)
    (built : Bool) : Option NamespaceManager :=
  if built then some ⟨Function.update n.namespaces config.name (some (newNamespace ref config))⟩
  else none

def deleteNamespace (n : NamespaceManager) (name : String) : NamespaceManager :=
  ⟨Function.update n.namespaces name none⟩

/-- `GetNamespace(name).namespaceChangeIndex = index` in `ReloadNamespacePrepare`. -/
def setChangeIndex (n : NamespaceManager) (name : String) (index : UInt32) :
    NamespaceManager :=
  ⟨Function.update n.namespaces name
    ((n.namespaces name).map fun ns => { ns with namespaceChangeIndex := index })⟩

/-- One iteration of `CreateNamespaceManager`'s loop: a configuration whose build fails
is skipped. The second component is the next pointer to allocate. -/
def createStep (built : NamespaceConfig → Bool) (acc : NamespaceManager × Nat)
    (config : NamespaceConfig) : NamespaceManager × Nat :=
  if built config then
    (⟨Function.update acc.1.namespaces config.name (some (newNamespace acc.2 config))⟩, acc.2 + 1)
  else acc

def createNamespaceManager (built : NamespaceConfig → Bool) (configs : List NamespaceConfig)
    (ref : Nat) : NamespaceManager × Nat :=
  configs.foldl (createStep built) (newNamespaceManager, ref)

@[simp] theorem namespaces_newNamespaceManager :
    newNamespaceManager.namespaces = fun _ => none := rfl

@[simp] theorem namespaces_shallowCopy (n : NamespaceManager) :
    n.shallowCopyNamespaceManager.namespaces = n.namespaces := rfl

@[simp] theorem namespaces_deleteNamespace (n : NamespaceManager) (name : String) :
    (n.deleteNamespace name).namespaces = Function.update n.namespaces name none := rfl

@[simp] theorem namespaces_setChangeIndex (n : NamespaceManager) (name : String)
    (index : UInt32) : (n.setChangeIndex name index).namespaces =
      Function.update n.namespaces name
        ((n.namespaces name).map fun ns => { ns with namespaceChangeIndex := index }) := rfl

/-- The pointers a namespace manager holds: each below the allocation counter `next`,
and each under one name only. -/
def RefsFresh (n : NamespaceManager) (next : Nat) : Prop :=
  (∀ name ns, n.namespaces name = some ns → ns.ref < next) ∧
    ∀ a b na nb, n.namespaces a = some na → n.namespaces b = some nb → na.ref = nb.ref → a = b

/-- Storing a namespace built with the pointer `next` keeps the pointers fresh. -/
theorem RefsFresh.update {n : NamespaceManager} {next : Nat} (h : RefsFresh n next)
    (config : NamespaceConfig) :
    RefsFresh ⟨Function.update n.namespaces config.name (some (newNamespace next config))⟩
      (next + 1) := by
  obtain ⟨hbounded, hunique⟩ := h
  constructor
  · intro name ns hns
    by_cases hname : name = config.name
    · subst hname; simp at hns; subst hns; simp
    · simp only [Function.update_noteq hname] at hns; have := hbounded _ _ hns; omega
  · intro a b na nb ha hb hab
    by_cases hA : a = config.name <;> by_cases hB : b = config.name
    · rw [hA, hB]
    · subst hA; simp at ha; subst ha
      simp only [Function.update_noteq hB] at hb
      have := hbounded _ _ hb; simp at hab; omega
    · subst hB; simp at hb; subst hb
      simp only [Function.update_noteq hA] at ha
      have := hbounded _ _ ha; simp at hab; omega
    · simp only [Function.update_noteq hA, Function.update_noteq hB] at ha hb
      exact hunique a b na nb ha hb hab

theorem foldl_createStep_refsFresh (built : NamespaceConfig → Bool)
    (configs : List NamespaceConfig) (acc : NamespaceManager × Nat) (h : RefsFresh acc.1 acc.2) :
    RefsFresh (configs.foldl (createStep built) acc).1 (configs.foldl (createStep built) acc).2 := by
  induction configs generalizing acc with
  | nil => exact h
  | cons config configs ih =>
      apply ih
      by_cases hbuilt : built config
      · simpa [createStep, hbuilt] using h.update config
      · simpa [createStep, hbuilt] using h

theorem createNamespaceManager_refsFresh (built : NamespaceConfig → Bool)
    (configs : List NamespaceConfig) (ref : Nat) :
    RefsFresh (createNamespaceManager built configs ref).1
      (createNamespaceManager built configs ref).2 :=
  foldl_createStep_refsFresh built configs _
    ⟨fun _ _ h => (nomatch h), fun _ _ _ _ h => (nomatch h)⟩

end NamespaceManager

end Gaea.Server

import GaeaProxy.Server.UserManager

/-! # What the user manager represents

The user manager is meant to hold exactly the (user, password, namespace)
declarations of the current configurations. It does when no user name or password
holds `:` and no pair is declared twice: then keys split back into their pair, each
password sits once in its user's slice, and the in-place removal of
`ClearNamespaceUsers` takes out exactly the cell it matches, whatever order the
range visits the keys in.
-/

namespace Gaea.Server

namespace UserManager

theorem clearPasswordLoop_of_ne {password : String} {arr : List String} {i k : Nat}
    {s : Option (List String)} (hne : ∀ j, i ≤ j → j < i + k → arr[j]? ≠ some password) :
    clearPasswordLoop password arr i k s = s := by
  induction k generalizing i with
  | zero => rfl
  | succ k ih =>
      rw [clearPasswordLoop, if_neg (hne i le_rfl (by omega))]
      exact ih fun j hj hjk => hne j (by omega) (by omega)

/-- With the password in cell `j` of a duplicate-free slice, the loop removes that cell:
the cells the range reads after the shift hold other passwords. -/
theorem clearPasswordLoop_of_nodup {password : String} {arr : List String}
    (hnodup : arr.Nodup) {j : Nat} (hj : arr[j]? = some password) {i k : Nat} (hij : i ≤ j)
    (hlen : i + k = arr.length) (s : Option (List String)) :
    clearPasswordLoop password arr i k s = some (arr.eraseIdx j) := by
  have hjlen := (List.getElem?_eq_some_iff.mp hj).1
  induction k generalizing i s with
  | zero => omega
  | succ k ih =>
      rw [clearPasswordLoop]
      by_cases hi : i = j
      · subst hi
        rw [if_pos hj]
        apply clearPasswordLoop_of_ne
        intro m hm hmk hshift
        rw [List.getElem?_append, List.length_eraseIdx_of_lt hjlen] at hshift
        split at hshift
        · rw [List.getElem?_eraseIdx_of_ge _ _ _ (by omega)] at hshift
          have := List.getElem?_inj (List.getElem?_eq_some_iff.mp hshift).1 hnodup
            (hshift.trans hj.symm)
          omega
        · rw [List.getElem?_drop] at hshift
          have := List.getElem?_inj (List.getElem?_eq_some_iff.mp hshift).1 hnodup
            (hshift.trans hj.symm)
          omega
      · rw [if_neg fun hi' => hi (List.getElem?_inj (List.getElem?_eq_some_iff.mp hi').1 hnodup
          (hi'.trans hj.symm))]
        exact ih (by omega) (by omega) _

/-- On a duplicate-free slice that holds the password, the inner loop of
`ClearNamespaceUsers` removes it and keeps the order of the rest. -/
theorem clearPassword_of_nodup {password : String} {arr : List String} (hnodup : arr.Nodup)
    (hmem : password ∈ arr) : clearPassword password arr = arr.erase password := by
  obtain ⟨j, hj⟩ := List.mem_iff_getElem?.mp hmem
  obtain ⟨hjlen, hget⟩ := List.getElem?_eq_some_iff.mp hj
  unfold clearPassword
  rw [clearPasswordLoop_of_nodup hnodup hj (Nat.zero_le j) (Nat.zero_add _) none,
    ← List.eraseIdx_indexOf_eq_erase, ← hget, List.indexOf_getElem hnodup]
  rfl

theorem mapGet_eq_some_iff {m : List (String × String)} (hkeys : (m.map Prod.fst).Nodup)
    {key value : String} : mapGet m key = some value ↔ (key, value) ∈ m := by
  constructor
  · intro h
    obtain ⟨e, he, rfl⟩ := Option.map_eq_some'.mp h
    have hkey : e.1 = key := by simpa using List.find?_some he
    exact hkey ▸ List.mem_of_find?_eq_some he
  · intro hmem
    have hsome : (m.find? fun e => e.1 = key).isSome :=
      List.find?_isSome.mpr ⟨(key, value), hmem, by simp⟩
    obtain ⟨e, he⟩ := Option.isSome_iff_exists.mp hsome
    have hkey : e.1 = key := by simpa using List.find?_some he
    have heq : e = (key, value) := List.inj_on_of_nodup_map hkeys
      (List.mem_of_find?_eq_some he) hmem hkey
    simp [mapGet, he, heq]

/-- Two orders of a key map with distinct keys answer every lookup alike. -/
theorem mapGet_perm {m m' : List (String × String)} (hperm : m.Perm m')
    (hkeys : (m'.map Prod.fst).Nodup) (key : String) : mapGet m key = mapGet m' key := by
  have hkeys' : (m.map Prod.fst).Nodup := ((hperm.map Prod.fst).nodup_iff).mpr hkeys
  apply Option.ext
  intro value
  rw [Option.mem_def, Option.mem_def, mapGet_eq_some_iff hkeys', mapGet_eq_some_iff hkeys,
    hperm.mem_iff]

end UserManager

/-! ### Declarations -/

/-- The (user, namespace) declarations of a list of configurations, in order. -/
def declarations (configs : List NamespaceConfig) : List (User × String) :=
  configs.flatMap fun config => config.users.map fun user => (user, config.name)

/-- The passwords the declarations `ds` give the user name `user`, in order. -/
def passwordsOf (ds : List (User × String)) (user : String) : List String :=
  ((ds.map Prod.fst).filter fun x => x.userName = user).map User.password

/-- The key-map entry of a declaration. -/
def entryOf (d : User × String) : String × String :=
  (getUserKey d.1.userName d.1.password, d.2)

/-- The manager holds exactly the declarations `ds`: each user's slice is a permutation
of the passwords declared for it, and the key map a permutation of their entries. -/
structure Represents (u : UserManager) (ds : List (User × String)) : Prop where
  users : ∀ user, ((u.users user).getD []).Perm (passwordsOf ds user)
  userNamespaces : u.userNamespaces.Perm (ds.map entryOf)

/-- No pair is declared twice, and no user name or password holds `:`. -/
structure WellFormed (ds : List (User × String)) : Prop where
  nodup : (ds.map Prod.fst).Nodup
  colonFree : ∀ d ∈ ds, ':' ∉ d.1.userName.data ∧ ':' ∉ d.1.password.data

theorem User.ext_iff' {x y : User} :
    x = y ↔ x.userName = y.userName ∧ x.password = y.password := by
  cases x; cases y; simp

@[simp] theorem passwordsOf_nil (user : String) : passwordsOf [] user = [] := rfl

theorem passwordsOf_cons (d : User × String) (ds : List (User × String)) (user : String) :
    passwordsOf (d :: ds) user =
      if d.1.userName = user then d.1.password :: passwordsOf ds user else passwordsOf ds user := by
  by_cases h : d.1.userName = user <;> simp [passwordsOf, List.filter_cons, h]

theorem passwordsOf_append (ds ds' : List (User × String)) (user : String) :
    passwordsOf (ds ++ ds') user = passwordsOf ds user ++ passwordsOf ds' user := by
  simp [passwordsOf]

theorem passwordsOf_perm {ds ds' : List (User × String)} (h : ds.Perm ds') (user : String) :
    (passwordsOf ds user).Perm (passwordsOf ds' user) :=
  ((h.map Prod.fst).filter _).map _

theorem mem_passwordsOf {ds : List (User × String)} {user password : String} :
    password ∈ passwordsOf ds user ↔ (⟨user, password⟩ : User) ∈ ds.map Prod.fst := by
  simp only [passwordsOf, List.mem_map, List.mem_filter, decide_eq_true_eq]
  constructor
  · rintro ⟨x, ⟨hx, rfl⟩, rfl⟩
    exact hx
  · intro hmem
    exact ⟨_, ⟨hmem, rfl⟩, rfl⟩

namespace WellFormed

variable {ds ds' : List (User × String)}

theorem sublist (h : WellFormed ds) (hsub : ds'.Sublist ds) : WellFormed ds' :=
  ⟨(hsub.map Prod.fst).nodup h.nodup, fun d hd => h.colonFree d (hsub.subset hd)⟩

theorem perm (h : WellFormed ds) (hperm : ds.Perm ds') : WellFormed ds' :=
  ⟨((hperm.map Prod.fst).nodup_iff).mp h.nodup, fun d hd => h.colonFree d (hperm.mem_iff.mpr hd)⟩

theorem passwordsOf_nodup (h : WellFormed ds) (user : String) : (passwordsOf ds user).Nodup := by
  refine List.Nodup.map_on ?_ (h.nodup.filter _)
  intro x hx y hy hxy
  simp only [List.mem_filter, decide_eq_true_eq] at hx hy
  exact User.ext_iff'.mpr ⟨hx.2.trans hy.2.symm, hxy⟩

/-- Two declarations with the same key are the same declaration. -/
theorem entryOf_key_inj (h : WellFormed ds) {d d' : User × String} (hd : d ∈ ds)
    (hd' : d' ∈ ds) (hkey : (entryOf d).1 = (entryOf d').1) : d = d' := by
  obtain ⟨husername, hpassword⟩ := h.colonFree d' hd'
  obtain ⟨h1, h2⟩ := getUserKey_inj husername hpassword hkey
  exact List.inj_on_of_nodup_map h.nodup hd hd' (User.ext_iff'.mpr ⟨h1, h2⟩)

theorem keys_nodup (h : WellFormed ds) : ((ds.map entryOf).map Prod.fst).Nodup := by
  rw [List.map_map]
  exact (List.Nodup.of_map Prod.fst h.nodup).map_on fun d hd d' hd' => h.entryOf_key_inj hd hd'

end WellFormed

/-! ### The operations keep the representation -/

namespace Represents

open UserManager

variable {u : UserManager} {ds : List (User × String)}

theorem newUserManager : Represents UserManager.newUserManager [] :=
  ⟨fun _ => List.Perm.refl _, List.Perm.refl _⟩

theorem perm (h : Represents u ds) {ds' : List (User × String)} (hperm : ds.Perm ds') :
    Represents u ds' :=
  ⟨fun user => (h.users user).trans (passwordsOf_perm hperm user),
    h.userNamespaces.trans (hperm.map entryOf)⟩

/-- Adding a user whose pair is new appends its password and a new key. -/
theorem addUser (h : Represents u ds) {user : User} {name : String}
    (hwf : WellFormed (ds ++ [(user, name)])) :
    Represents (u.addUser name user) (ds ++ [(user, name)]) := by
  constructor
  · intro user'
    by_cases huser : user' = user.userName
    · subst huser
      simpa [UserManager.addUser, passwordsOf_append, passwordsOf_cons] using
        (h.users user.userName).append_right [user.password]
    · simpa [UserManager.addUser, Function.update_noteq huser, passwordsOf_append,
        passwordsOf_cons, Ne.symm huser] using h.users user'
  · -- the key is not in the map yet: its pair is declared nowhere else
    have hnew : (u.userNamespaces.any fun e => e.1 = (entryOf (user, name)).1) = false := by
      rw [Bool.eq_false_iff]
      intro hany
      obtain ⟨e, he, hkey⟩ := List.any_eq_true.mp hany
      obtain ⟨d, hd, rfl⟩ := List.mem_map.mp (h.userNamespaces.mem_iff.mp he)
      have heq := hwf.entryOf_key_inj (List.mem_append_left _ hd)
        (List.mem_append_right _ (List.mem_singleton_self _)) (by simpa using hkey)
      subst heq
      have := hwf.nodup
      simp only [List.map_append, List.map_cons, List.map_nil, List.nodup_append,
        List.nodup_cons, List.disjoint_singleton] at this
      exact this.2.2 (List.mem_map_of_mem Prod.fst hd)
    simp only [UserManager.addUser, mapSet]
    rw [show getUserKey user.userName user.password = (entryOf (user, name)).1 from rfl, hnew]
    simpa [entryOf] using h.userNamespaces.append_right [entryOf (user, name)]

theorem foldl_addUser (name : String) (users : List User) :
    ∀ u ds, Represents u ds → WellFormed (ds ++ users.map fun user => (user, name)) →
      Represents (users.foldl (UserManager.addUser name) u) (ds ++ users.map fun user => (user, name)) := by
  induction users with
  | nil => intro u ds h _; simpa using h
  | cons user users ih =>
      intro u ds h hwf
      have hsub : (ds ++ [(user, name)]).Sublist
          (ds ++ (user :: users).map fun user => (user, name)) :=
        List.Sublist.append_left (by simp [List.singleton_sublist]) ds
      have hadd := h.addUser (hwf.sublist hsub)
      simpa using ih _ _ hadd (by simpa using hwf)

theorem addNamespaceUsers (h : Represents u ds) (config : NamespaceConfig)
    (hwf : WellFormed (ds ++ declarations [config])) :
    Represents (u.addNamespaceUsers config) (ds ++ declarations [config]) := by
  simpa [declarations] using
    foldl_addUser config.name config.users u ds h (by simpa [declarations] using hwf)

/-- Clearing the key of a declaration removes its password from its user's slice and its
entry from the key map. -/
theorem clearUserKey {d : User × String} {rest : List (User × String)}
    (h : Represents u (d :: rest)) (hwf : WellFormed (d :: rest)) :
    Represents (u.clearUserKey (entryOf d).1) rest := by
  obtain ⟨husername, hpassword⟩ := hwf.colonFree d (List.mem_cons_self _ _)
  have hsplit : getUserAndPasswordFromKey (entryOf d).1 = (d.1.userName, d.1.password) :=
    getUserAndPasswordFromKey_getUserKey husername hpassword
  constructor
  · intro user
    simp only [UserManager.clearUserKey, hsplit]
    by_cases huser : user = d.1.userName
    · subst huser
      have hslice := h.users d.1.userName
      have hnodup := (hslice.nodup_iff).mpr (hwf.passwordsOf_nodup d.1.userName)
      rw [passwordsOf_cons, if_pos rfl] at hslice
      rw [Function.update_same, Option.getD_some,
        clearPassword_of_nodup hnodup (hslice.mem_iff.mpr (List.mem_cons_self _ _))]
      simpa using hslice.erase d.1.password
    · rw [Function.update_noteq huser]
      simpa [passwordsOf_cons, Ne.symm huser] using h.users user
  · simp only [UserManager.clearUserKey, mapDelete]
    refine (h.userNamespaces.filter _).trans ?_
    rw [List.map_cons, List.filter_cons_of_neg (by simp), List.filter_eq_self.mpr]
    intro e he
    obtain ⟨d', hd', rfl⟩ := List.mem_map.mp he
    have hnot : d ∉ rest := (List.nodup_cons.mp (List.Nodup.of_map Prod.fst hwf.nodup)).1
    have hne : d' ≠ d := fun heq => hnot (heq ▸ hd')
    simpa using fun hkey =>
      hne (hwf.entryOf_key_inj (List.mem_cons_of_mem _ hd') (List.mem_cons_self _ _) hkey)

/-- The range of `ClearNamespaceUsers` over the entries `entries` of the declarations
`todo`, in any order: the declarations of namespace `name` among them go, the rest and
`keep` stay. -/
theorem clearNamespaceUsersIn (name : String) :
    ∀ (entries : List (String × String)) (keep todo : List (User × String)) (u : UserManager),
      Represents u (keep ++ todo) → WellFormed (keep ++ todo) → entries.Perm (todo.map entryOf) →
      Represents (UserManager.clearNamespaceUsersIn entries name u)
        (keep ++ todo.filter fun d => d.2 ≠ name) := by
  intro entries
  induction entries with
  | nil =>
      intro keep todo u h _ hperm
      have : todo = [] := List.map_eq_nil_iff.mp (List.perm_nil.mp hperm.symm)
      subst this
      simpa using h
  | cons e entries ih =>
      intro keep todo u h hwf hperm
      obtain ⟨d, hd, rfl⟩ := List.mem_map.mp (hperm.mem_iff.mp (List.mem_cons_self _ _))
      obtain ⟨rest, hrest⟩ : ∃ rest, todo.Perm (d :: rest) := ⟨_, List.perm_cons_erase hd⟩
      have hentries : entries.Perm (rest.map entryOf) :=
        List.Perm.cons_inv (hperm.trans (hrest.map entryOf))
      have hsplit : (keep ++ todo).Perm (d :: (keep ++ rest)) :=
        (hrest.append_left keep).trans List.perm_middle
      simp only [UserManager.clearNamespaceUsersIn, List.foldl_cons]
      by_cases hname : d.2 = name
      · rw [if_pos (by simpa [entryOf] using hname)]
        have hcleared := (h.perm hsplit).clearUserKey (hwf.perm hsplit)
        refine (ih keep rest _ hcleared ((hwf.perm hsplit).sublist (List.sublist_cons_self _ _))
          hentries).perm (List.Perm.append_left keep ?_)
        simpa [hname] using (hrest.filter fun d => d.2 ≠ name).symm
      · rw [if_neg (by simpa [entryOf] using hname)]
        have hmove : (keep ++ todo).Perm ((keep ++ [d]) ++ rest) := by
          simpa using hsplit.trans (List.perm_middle).symm
        refine (ih (keep ++ [d]) rest u (h.perm hmove) (hwf.perm hmove) hentries).perm ?_
        rw [List.append_assoc]
        refine List.Perm.append_left keep ?_
        simpa [hname] using (hrest.filter fun d => d.2 ≠ name).symm

theorem foldl_addNamespaceUsers (configs : List NamespaceConfig) :
    ∀ u ds, Represents u ds → WellFormed (ds ++ declarations configs) →
      Represents (configs.foldl UserManager.addNamespaceUsers u) (ds ++ declarations configs) := by
  induction configs with
  | nil => intro u ds h _; simpa [declarations] using h
  | cons config configs ih =>
      intro u ds h hwf
      have hsplit : declarations (config :: configs) = declarations [config] ++ declarations configs :=
        by simp [declarations]
      rw [hsplit, ← List.append_assoc] at hwf ⊢
      exact ih _ _ (h.addNamespaceUsers config (hwf.sublist (List.sublist_append_left _ _))) hwf

theorem createUserManager (configs : List NamespaceConfig)
    (hwf : WellFormed (declarations configs)) :
    Represents (UserManager.createUserManager configs) (declarations configs) := by
  simpa using foldl_addNamespaceUsers configs _ [] newUserManager (by simpa using hwf)

end Represents

theorem find?_congr {α : Type} {l : List α} {p q : α → Bool} (h : ∀ x ∈ l, p x = q x) :
    l.find? p = l.find? q := by
  induction l with
  | nil => rfl
  | cons x xs ih =>
      simp only [List.find?_cons, h x (List.mem_cons_self _ _),
        ih fun y hy => h y (List.mem_cons_of_mem _ hy)]

theorem declarations_filter (configs : List NamespaceConfig) (name : String) :
    declarations (configs.filter fun config => config.name ≠ name) =
      (declarations configs).filter fun d => d.2 ≠ name := by
  induction configs with
  | nil => rfl
  | cons config configs ih =>
      by_cases hname : config.name = name
      · simp_all [declarations, List.filter_cons, List.filter_map, Function.comp_def]
      · simp_all [declarations, List.filter_cons, List.filter_map, Function.comp_def]

/-- User managers as `ReloadNamespacePrepare` and `DeleteNamespace` build them, each on a
clone, with the configurations they stand for. The range of each clear visits the keys in
any order, and every configuration set reached satisfies the assumptions. -/
inductive UserReachable : UserManager → List NamespaceConfig → Prop
  | create (configs : List NamespaceConfig) :
      WellFormed (declarations configs) →
      UserReachable (UserManager.createUserManager configs) configs
  | rebuild {u : UserManager} {configs : List NamespaceConfig} (config : NamespaceConfig)
      (order : List (String × String)) :
      UserReachable u configs → order.Perm u.userNamespaces →
      WellFormed (declarations ((configs.filter fun c => c.name ≠ config.name) ++ [config])) →
      UserReachable ((UserManager.clearNamespaceUsersIn order config.name
          u.cloneUserManager).addNamespaceUsers config)
        ((configs.filter fun c => c.name ≠ config.name) ++ [config])
  | clear {u : UserManager} {configs : List NamespaceConfig} (name : String)
      (order : List (String × String)) :
      UserReachable u configs → order.Perm u.userNamespaces →
      UserReachable (UserManager.clearNamespaceUsersIn order name u.cloneUserManager)
        (configs.filter fun c => c.name ≠ name)

theorem UserReachable.represents {u : UserManager} {configs : List NamespaceConfig}
    (h : UserReachable u configs) :
    Represents u (declarations configs) ∧ WellFormed (declarations configs) := by
  induction h with
  | create configs hwf => exact ⟨Represents.createUserManager configs hwf, hwf⟩
  | rebuild config order _ horder hwf ih =>
      have hcleared := Represents.clearNamespaceUsersIn config.name order [] _ _
        (by simpa using ih.1) (by simpa using ih.2) (horder.trans ih.1.userNamespaces)
      rw [List.nil_append, ← declarations_filter] at hcleared
      have hadd := hcleared.addNamespaceUsers config (by simpa [declarations] using hwf)
      exact ⟨by simpa [declarations] using hadd, hwf⟩
  | clear name order _ horder ih =>
      have hcleared := Represents.clearNamespaceUsersIn name order [] _ _
        (by simpa using ih.1) (by simpa using ih.2) (horder.trans ih.1.userNamespaces)
      rw [List.nil_append, ← declarations_filter] at hcleared
      exact ⟨hcleared, by rw [declarations_filter]; exact ih.2.sublist (List.filter_sublist _)⟩

/-- A user's slice lists each password declared for it once, and no other. -/
theorem UserReachable.count_password {u : UserManager} {configs : List NamespaceConfig}
    (h : UserReachable u configs) (user password : String) :
    ((u.users user).getD []).count password =
      if (⟨user, password⟩ : User) ∈ (declarations configs).map Prod.fst then 1 else 0 := by
  obtain ⟨hrepresents, hwf⟩ := h.represents
  rw [(hrepresents.users user).count_eq]
  split
  · exact List.count_eq_one_of_mem (hwf.passwordsOf_nodup user) (mem_passwordsOf.mpr ‹_›)
  · exact List.count_eq_zero.mpr (mt mem_passwordsOf.mp ‹_›)

/-- `GetNamespaceByUser` answers the namespace that declares the pair, or `""`. -/
theorem UserReachable.getNamespaceByUser_eq {u : UserManager} {configs : List NamespaceConfig}
    (h : UserReachable u configs) (user password : String) :
    u.getNamespaceByUser user password =
      (((declarations configs).find? fun d => d.1 = ⟨user, password⟩).map Prod.snd).getD "" := by
  obtain ⟨hrepresents, hwf⟩ := h.represents
  unfold UserManager.getNamespaceByUser
  rw [UserManager.mapGet_perm hrepresents.userNamespaces hwf.keys_nodup]
  simp only [mapGet, List.find?_map, Option.map_map]
  congr 2
  apply find?_congr
  intro d hd
  obtain ⟨husername, hpassword⟩ := hwf.colonFree d hd
  simp only [Function.comp_apply, entryOf, decide_eq_decide]
  constructor
  · intro hkey
    obtain ⟨h1, h2⟩ := getUserKey_inj husername hpassword hkey.symm
    exact User.ext_iff'.mpr ⟨h1.symm, h2.symm⟩
  · intro hd1
    rw [hd1]

/-- Along every sequence of rebuilds and clears, each on a clone and each ranging over the
key map in any order, the user manager holds the current configurations exactly, as long as
no pair is declared twice and no user name or password holds `:`: a user's slice lists each
declared password once and no other, and `GetNamespaceByUser` answers the declaring
namespace, or `""` for a pair no configuration declares. -/
theorem userManager_represents_configs {u : UserManager} {configs : List NamespaceConfig}
    (h : UserReachable u configs) (user password : String) :
    ((u.users user).getD []).count password =
        (if (⟨user, password⟩ : User) ∈ (declarations configs).map Prod.fst then 1 else 0) ∧
      u.getNamespaceByUser user password =
        (((declarations configs).find? fun d => d.1 = ⟨user, password⟩).map Prod.snd).getD "" :=
  ⟨h.count_password user password, h.getNamespaceByUser_eq user password⟩

/-- Two namespaces; `ns1` is rebuilt with a new password for `u`, and `ns2` is cleared. -/
theorem userManager_represents_after_rebuild_and_clear :
    ∃ u configs, UserReachable u configs ∧
      configs = [⟨"ns1", [⟨"u", "p2"⟩]⟩] ∧
      (((u.users "u").getD []).count "p2" =
          (if (⟨"u", "p2"⟩ : User) ∈ (declarations configs).map Prod.fst then 1 else 0) ∧
        u.getNamespaceByUser "u" "p2" =
          (((declarations configs).find? fun d => d.1 = ⟨"u", "p2"⟩).map Prod.snd).getD "") :=
  have hreach := UserReachable.clear "ns2" _
    (UserReachable.rebuild ⟨"ns1", [⟨"u", "p2"⟩]⟩ _
      (UserReachable.create [⟨"ns1", [⟨"u", "p"⟩]⟩, ⟨"ns2", [⟨"v", "q"⟩]⟩] ⟨by decide, by decide⟩)
      List.Perm.rfl ⟨by decide, by decide⟩)
    List.Perm.rfl
  ⟨_, _, hreach, by decide, userManager_represents_configs hreach "u" "p2"⟩

/-- An unchanged reload of `ns1`, which declares the password `b:c` for `a`, locks out the
password `d` that `ns2` declares for `a`: the cleared key splits back to `(a, b)`, matches no
password and resets `a`'s slice to nil, and the rebuild puts back only `b:c`. -/
theorem reload_of_colon_password_drops_other_password :
    ((UserManager.createUserManager [⟨"ns1", [⟨"a", "b:c"⟩]⟩, ⟨"ns2", [⟨"a", "d"⟩]⟩]).users
        "a").getD [] = ["b:c", "d"] ∧
      (((UserManager.createUserManager [⟨"ns1", [⟨"a", "b:c"⟩]⟩, ⟨"ns2", [⟨"a", "d"⟩]⟩]).cloneUserManager.rebuildNamespaceUsers
        ⟨"ns1", [⟨"a", "b:c"⟩]⟩).users "a").getD [] = ["b:c"] ∧
      ((UserManager.createUserManager [⟨"ns1", [⟨"a", "b:c"⟩]⟩, ⟨"ns2", [⟨"a", "d"⟩]⟩]).cloneUserManager.rebuildNamespaceUsers
        ⟨"ns1", [⟨"a", "b:c"⟩]⟩).checkPassword "a" (· == "d") = (false, "") := by
  decide

end Gaea.Server
